import FlatRecord.Proofs.Generation.SoundPlan
import FlatRecord.Rendering
import Mathlib.Data.List.Induction

/-!
# Reading a document by its descriptor

A descriptor says what a document means without any code being generated: every field has the value
that the last entry for it gives, or else its default, and the record is one element around an element
for each field.
-/

namespace FlatRecord

/-- The value that an entry of a document gives a field. Its key is a text that leads to the setter of
the field; its value is null, if the field may be null, or one that coerces to the kind of the field. -/
def FieldSpec.given? (f : FieldSpec) (entry : Datum × Datum) : Option Datum :=
  match entry.1 with
  | .text key =>
    if !key.isEmpty && Naming.setterName key = f.setterName then
      match entry.2, f.required with
      | .null, false => some .null
      | v, _ => (f.kind.coerce v).toOption
    else none
  | _ => none

/-- The value of a field: what the last entry of the document that gives it a value does, or else its
default. -/
def FieldSpec.value (f : FieldSpec) (document : Document) : Datum :=
  (document.filterMap f.given?).getLast?.getD f.initial

/-- The text of the value of a field; null has none. -/
def Datum.canonicalText : Datum → List Char
  | .bool b => if b then "true".toList else "false".toList
  | .int n => Number.integerText n
  | .float x => Xml.floatForm x
  | .decimal d => d.plainText
  | .date d => d.isoText
  | .dateTime t => t.isoText
  | .text s => s.toList
  | _ => []

/-- Whether a value can stand in an XML document: a text must hold legal characters only. -/
def Datum.isRepresentable : Datum → Bool
  | .text s => s.toList.all Xml.isLegal
  | _ => true

/-- An element with a text. -/
def Xml.element (name : String) (text : List Char) : List Char :=
  if text.isEmpty then '<' :: (name.toList ++ " />".toList)
  else
    '<' :: (name.toList ++ '>' :: (text.flatMap escape ++ '<' :: '/' :: (name.toList ++ ['>'])))

/-- The element of a field. -/
def FieldSpec.element (f : FieldSpec) (document : Document) : List Char :=
  Xml.element f.name (f.value document).canonicalText

/-- The document of a record as an XML document. It has none if the value of some field cannot stand in
one; then the first such field is at fault. -/
def Descriptor.interpret (d : Descriptor) (document : Document) : Except MarshalFault String :=
  match d.fields.find? fun f => !(f.value document).isRepresentable with
  | some f => .error (.illegalCharacters f.name)
  | none => .ok (String.ofList ("<".toList ++ d.typeName.toList ++ ">".toList ++
      d.fields.flatMap (fun f => f.element document) ++ "</".toList ++ d.typeName.toList ++
      ">".toList))

/-- Whether an entry of a document gives some field a value. -/
def Descriptor.takes (d : Descriptor) (entry : Datum × Datum) : Bool :=
  d.fields.any fun f => (f.given? entry).isSome

namespace FieldSpec

variable {f : FieldSpec}

theorem IsValid.isEmpty_name (valid : f.IsValid) : f.name.isEmpty = false := by
  rw [Bool.eq_false_iff]
  intro empty
  have word := valid.named.identifier
  rw [String.isEmpty_iff.1 empty] at word
  exact absurd word (by decide)

@[simp]
theorem value_nil (f : FieldSpec) : f.value [] = f.initial := rfl

/-- A further entry gives the field its value or leaves it alone. -/
@[simp]
theorem value_concat (f : FieldSpec) (document : Document) (entry : Datum × Datum) :
    f.value (document ++ [entry]) = (f.given? entry).getD (f.value document) := by
  unfold value
  rw [List.filterMap_append]
  cases given : f.given? entry with
  | none => simp [given]
  | some v => simp [given]

/-- An entry that gives a field a value has a text for a key, which leads to the setter of the
field. -/
theorem setterName_of_given? {entry : Datum × Datum} {v : Datum} (given : f.given? entry = some v) :
    ∃ key, entry.1 = .text key ∧ key.isEmpty = false ∧ Naming.setterName key = f.setterName := by
  obtain ⟨key, value⟩ := entry
  cases key with
  | text key =>
    unfold given? at given
    dsimp only at given
    split at given
    · rename_i leads
      simp only [Bool.and_eq_true, Bool.not_eq_true', decide_eq_true_eq] at leads
      exact ⟨key, rfl, leads⟩
    · cases given
  | _ => cases given

section Leading

variable {key : String} (filled : key.isEmpty = false) (leads : Naming.setterName key = f.setterName)
include filled leads

/-- Null is given to a field unless the field is required. -/
theorem given?_null : f.given? (.text key, .null) = if f.required then none else some .null := by
  unfold given?
  cases f.required <;> simp [filled, leads, Kind.toOption_coerce_null]

/-- Any other value is given to a field if it coerces to the kind of the field. -/
theorem given?_of_ne_null {v : Datum} (other : v ≠ .null) :
    f.given? (.text key, v) = (f.kind.coerce v).toOption := by
  unfold given?
  cases v with
  | null => exact absurd rfl other
  | _ => simp [filled, leads]

/-- A value that converts gives the field what it converts to. -/
theorem given?_of_coerce {w v : Datum} (converts : f.kind.coerce w = .ok v) :
    f.given? (.text key, w) = some v := by
  have other : w ≠ .null := by
    rintro rfl
    have refused := f.kind.toOption_coerce_null
    rw [converts] at refused
    cases refused
  rw [given?_of_ne_null filled leads other, converts]
  rfl

end Leading

/-- What an entry gives a field is null, if the field may be null, or what the entry converts to. -/
theorem given?_gives {entry : Datum × Datum} {v : Datum} (given : f.given? entry = some v) :
    v = .null ∧ f.required = false ∨ f.kind.Gives v := by
  unfold given? at given
  split at given
  · split at given
    · split at given
      · rename_i null optional
        exact .inl ⟨(Option.some.inj given).symm, optional⟩
      · cases coerced : f.kind.coerce entry.2 with
        | ok w =>
          rw [coerced] at given
          obtain rfl := Option.some.inj given
          exact .inr ⟨_, coerced⟩
        | error fault => simp [coerced, Except.toOption] at given
    · cases given
  · cases given

/-- The value of a field is null, if the field may be or start as null, or some value converts to it. -/
theorem IsValid.value_gives (valid : f.IsValid) (document : Document) :
    f.value document = .null ∧ (f.required = false ∨ f.initial = .null) ∨
      f.kind.Gives (f.value document) := by
  induction document using List.reverseRecOn with
  | nil => exact valid.initial_gives.imp_left fun null => ⟨null, .inr null⟩
  | append_singleton document entry ih =>
    rw [value_concat]
    cases given : f.given? entry with
    | none => exact ih
    | some v => exact (given?_gives given).imp_left fun null => ⟨null.1, .inl null.2⟩

/-- The value of a field is null or one of its kind. -/
theorem IsValid.value_holds (valid : f.IsValid) (document : Document) :
    f.value document = .null ∨ f.kind.Holds (f.value document) :=
  (valid.value_gives document).imp And.left Kind.Gives.holds

end FieldSpec

end FlatRecord
