import FlatRecord.Proofs.Record.ComparedValues
import FlatRecord.Proofs.Rendering.Populated

/-!
# Names that special methods look up

The constructor, the text form, equality and the hash code of a generated class look up a few names when
they are called: `super`, `str`, `isinstance`, `hash` and the name of the class. A class that has taken one
of these names, or the name of a parameter, or a name that means something else inside of a class body,
does not get the method that its author wrote.
-/

namespace FlatRecord

open FlatRecord.Execution FlatRecord.Generation

/-- Whether the name of the class means the class in the method for equality: it stays as it is inside of
the class body and hides neither a parameter nor the function that the method calls. -/
def Descriptor.IsKnownToEquality (d : Descriptor) : Prop :=
  ownName d.typeName d.typeName = d.typeName ∧ d.typeName ∉ ["self", "other", "isinstance"]

/-- Attributes that hold scalars are compared without a fault, and are equal if each two hold the same object
or have equal values. -/
theorem Instance.sameValues_map (shared : Sharing) {fields : List FieldSpec}
    {values values' : FieldSpec → Datum} (scalars : ∀ f ∈ fields, (values f).IsQuietScalar)
    (scalars' : ∀ f ∈ fields, (values' f).IsQuietScalar) :
    sameValues shared (fields.map fun f => (f.attributeName, values f))
      (fields.map fun f => (f.attributeName, values' f)) =
        .ok (fields.all fun f =>
          shared f.attributeName f.attributeName || (values f).same (values' f)) := by
  induction fields with
  | nil => rfl
  | cons f fields ih =>
    obtain ⟨first, others⟩ := List.forall_mem_cons.1 scalars
    obtain ⟨first', others'⟩ := List.forall_mem_cons.1 scalars'
    have here : sameValue (values f) (values' f) = .ok ((values f).same (values' f)) := by
      unfold sameValue
      simp [first.isSignalling_eq, first'.isSignalling_eq]
    rw [List.map_cons, List.map_cons, sameValues, here, List.all_cons, ih others others']
    cases shared f.attributeName f.attributeName with
    | true => rfl
    | false => cases (values f).same (values' f) <;> rfl

/-- The parts of a text form that are values are those of the fields. -/
theorem Generation.exists_attribute_mem_textParts {fields : List FieldPlan} (beginning : String)
    {part : TextPart} : part ∈ textParts beginning fields →
      (∃ s, part = .text s) ∨ ∃ f ∈ fields, part = .attribute f.attributeName := by
  induction fields generalizing beginning with
  | nil => simp [textParts]
  | cons f fields ih =>
    intro mem
    obtain rfl | mem := List.mem_cons.1 mem
    · exact .inl ⟨_, rfl⟩
    obtain rfl | mem := List.mem_cons.1 mem
    · exact .inr ⟨f, .head _, rfl⟩
    obtain text | ⟨g, among, same⟩ := ih ", " mem
    · exact .inl text
    · exact .inr ⟨g, .tail _ among, same⟩

/-- The parts of a descriptor's text form. -/
def Descriptor.textFormParts (d : Descriptor) : List TextPart :=
  textParts (d.typeName ++ "\x7b") d.planned.fields ++ [.text "\x7d"]

theorem Descriptor.exists_of_mem_textFormParts {d : Descriptor} {part : TextPart}
    (mem : part ∈ d.textFormParts) :
    (∃ s, part = .text s) ∨ ∃ f ∈ d.fields, part = .attribute f.attributeName := by
  obtain mem | mem := List.mem_append.1 mem
  · obtain text | ⟨plan, among, same⟩ := exists_attribute_mem_textParts _ mem
    · exact .inl text
    · obtain ⟨f, declared, rfl⟩ := List.mem_map.1 among
      exact .inr ⟨f, declared, same⟩
  · exact .inl ⟨_, List.mem_singleton.1 mem⟩

/-- The text form is what the parts of the method spell. -/
theorem Artifact.Implements.text_eq_spell {a : Artifact} {d : Descriptor} (implements : a.Implements d)
    {i : Instance} (made : i.record = d.record) : i.text = i.spell d.textFormParts := by
  have known := implements.method?_record (m := textFormMethod d.planned) (by simp [methodsOf])
  unfold Instance.text
  rw [made, show d.record.method? "__str__" = _ from known]
  rfl

/-- Whether something is an instance of the class is answered if equality knows the class. -/
theorem Descriptor.exists_belongs_iff (d : Descriptor) (serial : Nat) (other : Instance.Other) :
    (∃ related, Instance.belongs d.record serial ["self", "other"] other = .ok related) ↔
      d.IsKnownToEquality := by
  have named : d.record.name = d.typeName := rfl
  unfold Instance.belongs Descriptor.IsKnownToEquality
  rw [named]
  by_cases kept : ownName d.typeName d.typeName = d.typeName
  · rw [kept]
    by_cases parameter : d.typeName = "self" ∨ d.typeName = "other"
    · obtain parameter | parameter := parameter <;> simp [parameter]
    · obtain ⟨notSelf, notOther⟩ := not_or.1 parameter
      by_cases hidden : d.typeName = "isinstance"
      · simp [hidden]
      · simp only [notSelf, notOther, hidden, List.contains_cons, List.contains_nil, List.mem_cons,
          List.not_mem_nil, or_false, not_false_eq_true, and_self, iff_true, beq_iff_eq, bne_self_eq_false,
          Bool.or_eq_true, Bool.false_eq_true, if_false]
        cases other <;> exact ⟨_, rfl⟩
  · refine iff_of_false (fun ⟨related, answered⟩ => ?_) fun known => kept known.1
    dsimp only at answered
    split at answered
    · cases answered
    · rw [if_pos (by simpa using kept)] at answered
      cases answered

/-- If equality knows the class, instances are those of the same compilation. -/
theorem Descriptor.IsKnownToEquality.belongs_eq {d : Descriptor} (known : d.IsKnownToEquality)
    (serial : Nat) (i : Instance) :
    Instance.belongs d.record serial ["self", "other"] (.record i) = .ok (i.serial = serial) := by
  obtain ⟨kept, free⟩ := known
  have named : d.record.name = d.typeName := rfl
  unfold Instance.belongs
  rw [named, kept]
  simp only [List.mem_cons, List.not_mem_nil, or_false, not_or] at free
  simp [free]

/-- The attributes of all fields. -/
theorem Descriptor.Fills.mapM_entry {d : Descriptor} {i : Instance} {values : FieldSpec → Datum}
    (fills : d.Fills i values) : (d.planned.fields.map FieldPlan.attributeName).mapM i.entry =
      .ok (d.fields.map fun f => (f.attributeName, values f)) := by
  rw [Descriptor.planned, List.map_map]
  refine mapM_map_eq_pure fun f mem => ?_
  show (i.value f.attributeName).map _ = _
  rw [fills.value f mem]
  rfl

namespace Artifact.Implements

variable {a : Artifact} {d : Descriptor} (implements : a.Implements d) (serial identity : Nat)
  (document : Document)
include implements

/-- There is a text form unless the name of the class hides the function that gives the text of a
value. -/
theorem exists_text_iff : (∃ text, (d.holding serial identity document).text = .ok text) ↔
    d.typeName ≠ "str" := by
  have called {f : FieldSpec} (mem : f ∈ d.fields) :
      (∃ s, (d.holding serial identity document).partText (.attribute f.attributeName) = .ok s) ↔
        d.typeName ≠ "str" := by
    unfold Instance.partText
    dsimp only
    rw [implements.value_holding mem serial identity document, ok_bind]
    by_cases hidden : d.typeName = "str"
    · simp [Descriptor.holding, Descriptor.record, recordOf, Descriptor.planned, hidden]
    · simp [Descriptor.holding, Descriptor.record, recordOf, Descriptor.planned, hidden, pure,
        Except.pure]
  have spelled : (∃ text, (d.holding serial identity document).text = .ok text) ↔
      ∀ part ∈ d.textFormParts, ∃ s, (d.holding serial identity document).partText part = .ok s := by
    rw [← mapM_succeeds_iff, implements.text_eq_spell rfl, Instance.spell]
    simp [map_eq_ok]
  rw [spelled]
  constructor
  · intro each
    obtain ⟨f, fields, split⟩ := List.exists_cons_of_ne_nil implements.valid.nonempty
    refine (called (f := f) (split ▸ .head _)).1 (each _ (List.mem_append_left _ ?_))
    rw [Descriptor.planned, split]
    exact .tail _ (.head _)
  · intro free part mem
    obtain ⟨s, rfl⟩ | ⟨f, declared, rfl⟩ := Descriptor.exists_of_mem_textFormParts mem
    · exact ⟨s, rfl⟩
    · exact (called declared).2 free

section Filled

variable {i j : Instance} {values values' : FieldSpec → Datum}

/-- The hash code depends on the values of all fields. There is none if the name of the class hides the
function that gives it. -/
theorem exists_hashKeys_eq (fills : d.Fills i values) : ∃ key : FieldSpec → Datum.HashKey,
    (∀ f ∈ d.fields, (values f).hashKey = .ok (key f)) ∧ i.hashKeys =
      if d.typeName = "hash" then .error (d.record.callFault 1)
      else .ok (d.fields.map fun f => (f.attributeName, key f)) := by
  have known := implements.method?_record (m := digestMethod d.planned) (by simp [methodsOf])
  have hashed : ∀ f ∈ d.fields, ∃ key, (values f).hashKey = .ok key := fun f mem =>
    (Carrier.isQuietScalar (fills.kept f mem)).exists_hashKey
  have : Nonempty Datum.HashKey := ⟨.null⟩
  choose! key coded using hashed
  refine ⟨key, coded, ?_⟩
  have keys : (d.fields.map fun f => (f.attributeName, values f)).mapM
      (fun r => (r.2.hashKey.mapError CallFault.unhashable).map (Prod.mk r.1)) =
        .ok (d.fields.map fun f => (f.attributeName, key f)) := by
    refine mapM_map_eq_pure fun f mem => ?_
    rw [coded f mem]
    rfl
  unfold Instance.hashKeys
  rw [show i.record.method? "__hash__" = _ from fills.record ▸ known]
  simp only [digestMethod, fills.mapM_entry, ok_bind]
  rw [show i.record.name = d.typeName by rw [fills.record]; rfl, keys, fills.record]
  by_cases hidden : d.typeName = "hash"
  · rw [if_pos hidden, if_pos hidden]
    rfl
  · rw [if_neg hidden, if_neg hidden]

/-- There is a hash code unless the name of the class hides the function that gives it. -/
theorem exists_hashKeys_iff (fills : d.Fills i values) :
    (∃ keys, i.hashKeys = .ok keys) ↔ d.typeName ≠ "hash" := by
  obtain ⟨key, -, shape⟩ := implements.exists_hashKeys_eq fills
  rw [shape]
  split
  · rename_i hidden
    simp [hidden]
  · rename_i free
    exact iff_of_true ⟨_, rfl⟩ free

/-- Instances are compared by their numbers, then by their classes, then by the values of all fields. -/
theorem equalSharing_eq (shared : Instance.Sharing) (fills : d.Fills i values)
    (fills' : d.Fills j values') : i.equalSharing shared (.record j) =
      if i.identity = j.identity then .ok true
      else do
        let related ← Instance.belongs d.record i.serial ["self", "other"] (.record j)
        return related && d.fields.all fun f =>
          shared f.attributeName f.attributeName || (values f).same (values' f) := by
  have known := implements.method?_record (m := equalMethod d.planned) (by simp [methodsOf])
  have compared := Instance.sameValues_map shared
    (fun f mem => Carrier.isQuietScalar (fills.kept f mem))
    (fun f mem => Carrier.isQuietScalar (fills'.kept f mem))
  unfold Instance.equalSharing
  rw [show i.record.method? "__eq__" = _ from fills.record ▸ known]
  simp only [equalMethod, Instance.equalBy, fills.mapM_entry, ok_bind]
  by_cases self : i.identity = j.identity
  · rw [if_pos self]
    exact if_pos (beq_iff_eq.2 self)
  · rw [if_neg self, fills.record]
    refine (if_neg (by simpa using self)).trans ?_
    show (Instance.belongs d.record i.serial ["self", "other"] _ >>= _) = _
    refine congrArg _ (funext fun related => ?_)
    cases related with
    | false => rfl
    | true =>
      dsimp only
      rw [fills'.mapM_entry, ok_bind, compared]
      rfl

/-- If equality knows the class, two instances are equal if they are of one compilation and if the attributes
of each field hold the same object or equal values. -/
theorem equalSharing_of_known (shared : Instance.Sharing) (fills : d.Fills i values)
    (fills' : d.Fills j values') (known : d.IsKnownToEquality) (distinct : i.identity ≠ j.identity) :
    i.equalSharing shared (.record j) = .ok (decide (j.serial = i.serial) && d.fields.all fun f =>
      shared f.attributeName f.attributeName || (values f).same (values' f)) := by
  rw [implements.equalSharing_eq shared fills fills', if_neg distinct, known.belongs_eq, ok_bind]
  rfl

/-- Two instances are compared if they are the same one or equality knows the class. -/
theorem exists_equalSharing_iff (shared : Instance.Sharing) (fills : d.Fills i values)
    (fills' : d.Fills j values') : (∃ same, i.equalSharing shared (.record j) = .ok same) ↔
      i.identity = j.identity ∨ d.IsKnownToEquality := by
  rw [implements.equalSharing_eq shared fills fills', ← d.exists_belongs_iff i.serial (.record j)]
  by_cases self : i.identity = j.identity
  · exact iff_of_true ⟨true, if_pos self⟩ (.inl self)
  · rw [if_neg self, or_iff_right self]
    cases Instance.belongs d.record i.serial ["self", "other"] (.record j) with
    | error fault => simp
    | ok related => exact iff_of_true ⟨_, rfl⟩ ⟨related, rfl⟩

end Filled

end Artifact.Implements

/-- Which names keep special methods from working, for a record without defaults: `super` has no
instances, `str` no text forms, `hash` no hash codes, and a name that equality does not know is not
compared with other instances. No other name does any harm. -/
theorem Artifact.special_methods_work {s : Submission} {d : Descriptor} {source : String}
    (valid : s.validate = .ok d) (rendered : s.source = .ok source) {serial serial' : Nat}
    {hash hash' : String} {a b : Artifact}
    (built : Cache.build serial hash d.qualifiedName source = .ok a)
    (built' : Cache.build serial' hash' d.qualifiedName source = .ok b)
    (undeclared : ∀ f ∈ d.fields, f.default = .null) :
    (∀ identity, (∃ i, a.instantiate identity = .ok i) ↔ d.typeName ≠ "super") ∧
      ∀ i, a.Populates i →
        ((∃ text, i.text = .ok text) ↔ d.typeName ≠ "str") ∧
        ((∃ keys, i.hashKeys = .ok keys) ↔ d.typeName ≠ "hash") ∧
        ∀ j, b.Populates j → ((∃ same, i.equal (.record j) = .ok same) ↔
          i.identity = j.identity ∨ d.IsKnownToEquality) := by
  have implements := implements_of_build valid rendered built
  have minutes : ∀ f ∈ d.fields, f.initial.hasMinuteOffset := by
    intro f mem
    rw [FieldSpec.initial, undeclared f mem]
    rfl
  refine ⟨fun identity => ?_, fun i populated => ?_⟩
  · exact (implements.exists_instantiate_iff identity).trans (and_iff_left minutes)
  · obtain ⟨document, holds⟩ := implements.exists_holding populated
    refine ⟨?_, ?_, fun j populated' => ?_⟩
    · rw [holds]
      exact implements.exists_text_iff a.serial i.identity document
    · rw [holds]
      exact implements.exists_hashKeys_iff (implements.fills_holding a.serial i.identity document)
    · obtain ⟨document', holds'⟩ :=
        (implements_of_build valid rendered built').exists_holding populated'
      have compared := implements.exists_equalSharing_iff Instance.apart
        (implements.fills_holding a.serial i.identity document)
        (implements.fills_holding b.serial j.identity document')
      rwa [← holds, ← holds'] at compared

/-- A descriptor without defaults. Its fields have names that methods look up, which does no harm. -/
def Descriptor.point : Descriptor where
  typeName := "Point"
  space := "a"
  fields := [⟨"super", "int", true, .null⟩, ⟨"str", "string", false, .null⟩]
  description := none

/-- A point has a text form and a hash code. -/
theorem Artifact.special_methods_point : ∃ a, Cache.build 0 "" Descriptor.point.qualifiedName
    Descriptor.point.moduleText = .ok a ∧ ∃ i, a.instantiate 0 = .ok i ∧
      (∃ text, i.text = .ok text) ∧ ∃ keys, i.hashKeys = .ok keys := by
  have valid : Descriptor.point.submission.validate = .ok .point := by
    with_unfolding_all rfl
  obtain ⟨a, built⟩ := (Submission.validate_eq_ok valid).1.exists_build
    ⟨⟨by decide, by decide⟩, by decide⟩ (by decide) (by decide) (by decide +kernel) 0 ""
  have work := special_methods_work valid (Submission.source_of_validate valid) built built
    (by simp [Descriptor.point])
  obtain ⟨i, created⟩ := (work.1 0).2 (by decide)
  have methods := work.2 i (.new created)
  exact ⟨a, built, i, created, methods.1.2 (by decide), methods.2.1.2 (by decide)⟩

/-- A descriptor whose name hides the function that gives the text of a value. -/
def Descriptor.hiding : Descriptor where
  typeName := "str"
  space := "a"
  fields := [⟨"x", "string", false, .null⟩]
  description := none

/-- The descriptor is accepted, but its instances have no text form. -/
theorem Artifact.text_hiding : Descriptor.hiding.submission.validate = .ok .hiding ∧
    (∀ f ∈ Descriptor.hiding.fields, f.default = .null) ∧
    ∃ a, Cache.build 0 "" Descriptor.hiding.qualifiedName Descriptor.hiding.moduleText = .ok a ∧
      ∃ i, a.instantiate 0 = .ok i ∧ ¬ ∃ text, i.text = .ok text := by
  have valid : Descriptor.hiding.submission.validate = .ok .hiding := by
    with_unfolding_all rfl
  obtain ⟨a, built⟩ := (Submission.validate_eq_ok valid).1.exists_build
    ⟨⟨by decide, by decide⟩, by decide⟩ (by decide) (by decide) (by decide +kernel) 0 ""
  have implements := implements_of_build valid (Submission.source_of_validate valid) built
  have minutes : ∀ f ∈ Descriptor.hiding.fields, f.initial.hasMinuteOffset := by
    with_unfolding_all decide
  obtain ⟨i, created⟩ := (implements.exists_instantiate_iff 0).2 ⟨by decide, minutes⟩
  refine ⟨valid, by simp [Descriptor.hiding], a, built, i, created, fun spelled => ?_⟩
  rw [implements.instantiate_eq_ok created, implements.exists_text_iff] at spelled
  exact spelled rfl

end FlatRecord
