import FlatRecord.Proofs.Admission.Checks
import FlatRecord.Proofs.Binding.Accessors
import FlatRecord.Proofs.Rendering.SpecialMethods

/-!
# Text forms

The method for the text form of a generated class returns a sum of texts and of texts of attributes, which is
read back from the source as it was generated. On any instance it evaluates to the declared text form: the name
of the type and, in braces, every field with its declared name and the text of the value that its getter gives.
-/

namespace FlatRecord

open FlatRecord.Script FlatRecord.Generation FlatRecord.Execution

mutual

/-- Whether a value has a text: no integer in it has too many digits to be written. -/
def Datum.isShowable : Datum → Bool
  | .int n => !Number.isUnwritable n
  | .list xs => Datum.areShowable xs
  | .map es => Datum.areShowableEntries es
  | .set xs => Datum.areShowable xs
  | _ => true

/-- Whether all items of a list have a text. -/
def Datum.areShowable : List Datum → Bool
  | [] => true
  | x :: rest => Datum.isShowable x && Datum.areShowable rest

/-- Whether all entries of a mapping have a text. -/
def Datum.areShowableEntries : List (Datum × Datum) → Bool
  | [] => true
  | (k, v) :: rest => Datum.isShowable k && Datum.isShowable v && Datum.areShowableEntries rest

end

namespace Instance

/-- The value of an operand in a method of an instance: a constant, or an attribute of the instance. -/
def operand? (i : Instance) : Expr → Option Datum
  | .constant (.datum v) => some v
  | .member (.name "self" _) attr _ => (i.value (ownName i.record.name attr)).toOption
  | _ => none

/-- The value of an expression in a method of an instance: an operand, the text of one, unless the class hides
the function that gives it, or a sum of texts. -/
def evaluate? (i : Instance) : Expr → Option Datum
  | .call (.name "str" _) [arg] [] => do
    let v ← i.operand? arg
    if i.record.name = "str" || !v.isShowable then none else return .text v.displayString
  | .binary left .add right => do
    let first ← (i.evaluate? left).bind Datum.text?
    let last ← (i.evaluate? right).bind Datum.text?
    return .text (first ++ last)
  | e => i.operand? e

end Instance

/-- A part of a text form in terms of the attribute that a hidden name of a class stands for. -/
def TextPart.own (owner : String) : TextPart → TextPart
  | .text s => .text s
  | .attribute name => .attribute (ownName owner name)

/-- Whether the attributes that parts of a text form name have values with a text. -/
def Instance.Shows (i : Instance) (parts : List TextPart) : Prop :=
  ∀ name v, .attribute name ∈ parts → i.value name = .ok v → v.isShowable

namespace Instance

variable {i : Instance}

/-- The parts of a text form are spelled one after the other. -/
theorem spell_append (i : Instance) (first last : List TextPart) : i.spell (first ++ last) = do
    let before ← i.spell first
    let behind ← i.spell last
    return before ++ behind := by
  unfold spell
  rw [List.mapM_append]
  cases first.mapM i.partText with
  | error fault => rfl
  | ok texts =>
    cases last.mapM i.partText with
    | error fault => rfl
    | ok others => exact congrArg Except.ok String.join_append

theorem spell_singleton (i : Instance) (p : TextPart) : i.spell [p] = i.partText p := by
  unfold spell
  rw [List.mapM_cons]
  cases i.partText p with
  | error fault => rfl
  | ok s =>
    show Except.ok (String.join [s]) = Except.ok s
    rw [String.join_cons, String.join_nil, String.append_empty]

/-- The text of an attribute is that of its value, unless the class hides the function that gives it. -/
theorem toOption_partText (i : Instance) (name : String) : (i.partText (.attribute name)).toOption =
    (i.value name).toOption.bind fun v => if i.record.name = "str" then none else some v.displayString := by
  unfold partText
  dsimp only
  cases i.value name with
  | error fault => rfl
  | ok v =>
    rw [ok_bind]
    split <;> rfl

/-- What the guard takes for a part of a text form evaluates to the text of the part. -/
theorem evaluate?_of_textPart? {e : Expr} {p : TextPart} (part : Behaviour.textPart? e = some p)
    (shows : i.Shows [p.own i.record.name]) :
    i.evaluate? e = (i.partText (p.own i.record.name)).toOption.map .text := by
  unfold Behaviour.textPart? at part
  split at part
  · obtain rfl := Option.some.inj part
    rfl
  · rename_i callee arg
    simp only [Option.ite_none_right_eq_some, Option.map_eq_some_iff] at part
    obtain ⟨named, attr, taken, rfl⟩ := part
    obtain ⟨use, rfl⟩ := Admission.isName_iff.1 named
    unfold Behaviour.memberOf? at taken
    split at taken
    · rename_i owner member use'
      simp only [Option.ite_none_right_eq_some, Option.some.injEq] at taken
      obtain ⟨self, rfl⟩ := taken
      obtain ⟨use'', rfl⟩ := Admission.isName_iff.1 self
      rw [TextPart.own, toOption_partText]
      cases found : i.value (ownName i.record.name member) with
      | error fault =>
        simp only [evaluate?, operand?, found]
        rfl
      | ok v =>
        have shown : v.isShowable := shows _ v (.head _) found
        simp only [evaluate?, operand?, found]
        by_cases hidden : i.record.name = "str" <;> simp [hidden, shown, Except.toOption]
    · cases taken
  · cases part

/-- What the guard takes for a text form evaluates to the text that its parts spell. -/
theorem evaluate?_of_textParts? {e : Expr} {parts : List TextPart}
    (sum : Behaviour.textParts? e = some parts)
    (shows : i.Shows (parts.reverse.map (TextPart.own i.record.name))) :
    i.evaluate? e = (i.spell (parts.reverse.map (TextPart.own i.record.name))).toOption.map .text := by
  -- Sums are nested to the left and taken apart from the right, so the last part is the operand next to them.
  induction e using Behaviour.textParts?.induct generalizing parts with
  | case1 left right ih =>
    simp only [Behaviour.textParts?, Option.bind_eq_bind, Option.bind_eq_some_iff] at sum
    obtain ⟨last, ofRight, others, ofLeft, same⟩ := sum
    obtain rfl : last :: others = parts := Option.some.inj same
    rw [List.reverse_cons, List.map_append, List.map_singleton] at shows ⊢
    have first := ih ofLeft fun name v mem => shows name v (List.mem_append_left _ mem)
    have second := evaluate?_of_textPart? ofRight fun name v mem => shows name v (List.mem_append_right _ mem)
    rw [spell_append, spell_singleton, evaluate?, first, second]
    cases i.spell (others.reverse.map (TextPart.own i.record.name)) with
    | error fault => rfl
    | ok s => cases i.partText (last.own i.record.name) <;> rfl
  | case2 e other =>
    rw [Behaviour.textParts?.eq_2 e other, Option.map_eq_some_iff] at sum
    obtain ⟨p, only, rfl⟩ := sum
    rw [evaluate?_of_textPart? only shows, ← spell_singleton]
    rfl

end Instance

namespace Generation

variable {line : Nat}

/-- Pieces that are read back as they are stay so when they are joined. -/
theorem placed_joined {pieces : List Expr} (kept : ∀ e ∈ pieces, e.placed line = e) :
    (joined pieces).placed line = joined pieces :=
  joined_induction (P := fun e => e.placed line = e) (fun _ piece => piece)
    (fun left right here next => by rw [Expr.placed, here, next]) rfl kept

theorem placed_textPieces (beginning : String) (fields : List FieldPlan) :
    ∀ e ∈ textPieces beginning fields, e.placed line = e := by
  induction fields generalizing beginning with
  | nil => simp [textPieces]
  | cons f rest ih =>
    exact List.forall_mem_cons.2 ⟨rfl, List.forall_mem_cons.2 ⟨rfl, ih ", "⟩⟩

end Generation

/-- The sum that the method for the text form of a descriptor's class returns. -/
def Descriptor.textSum (d : Descriptor) : Expr :=
  joined (textPieces (d.typeName ++ "\x7b") d.planned.fields ++ [textLiteral "\x7d"])

/-- What a text form shows of a field: its name and the text of its value. -/
def FieldSpec.shownText (f : FieldSpec) (v : Datum) : String := f.name ++ "=" ++ v.displayString

/-- The text form that a descriptor declares for values of its fields. -/
def Descriptor.shownText (d : Descriptor) (values : FieldSpec → Datum) : String :=
  d.typeName ++ "\x7b" ++ ", ".intercalate (d.fields.map fun f => f.shownText (values f)) ++ "\x7d"

/-- The sum is read back as it was generated. -/
theorem Descriptor.placed_textSum (d : Descriptor) (line : Nat) : d.textSum.placed line = d.textSum :=
  placed_joined (List.forall_mem_append.2
    ⟨placed_textPieces _ _, List.forall_mem_singleton.2 rfl⟩)

/-- The guard takes the sum apart into the parts of the text form. -/
theorem Descriptor.textParts?_textSum (d : Descriptor) :
    Behaviour.textParts? d.textSum = some d.textFormParts.reverse := by
  rw [← d.placed_textSum 0]
  exact textParts?_textForm _ _

/-- None of the parts is hidden from other classes. -/
theorem Descriptor.map_own_textFormParts {d : Descriptor} (sound : d.planned.IsSound) (owner : String) :
    d.textFormParts.map (TextPart.own owner) = d.textFormParts :=
  Behaviour.spell.inj (ownBehaviour_spell sound.fields owner _)

namespace Instance

variable {i : Instance} (named : i.record.name ≠ "str") {values : FieldSpec → Datum}
include named

/-- The parts of a field spell its name and the text of its value. -/
theorem spell_textParts_cons (beginning : String) {f : FieldSpec}
    (held : i.value f.attributeName = .ok (values f)) (fields : List FieldPlan) (last : List TextPart) :
    i.spell (textParts beginning (f.planned :: fields) ++ last) = do
      let behind ← i.spell (textParts ", " fields ++ last)
      return beginning ++ f.shownText (values f) ++ behind := by
  have member : i.partText (.attribute f.attributeName) = .ok (values f).displayString := by
    unfold partText
    dsimp only
    rw [held, ok_bind, if_neg named]
    rfl
  have parts : textParts beginning (f.planned :: fields) ++ last = [.text (beginning ++ f.name ++ "=")] ++
      ([.attribute f.attributeName] ++ (textParts ", " fields ++ last)) := rfl
  rw [parts, spell_append, spell_append, spell_singleton, spell_singleton, member]
  cases i.spell (textParts ", " fields ++ last) with
  | error fault => rfl
  | ok s =>
    refine congrArg Except.ok ?_
    simp only [FieldSpec.shownText, String.append_assoc]

/-- The parts of a text form spell the fields with a comma and a blank between each two of them. -/
theorem spell_textParts (beginning : String) (f : FieldSpec) (fields : List FieldSpec)
    (held : ∀ g ∈ f :: fields, i.value g.attributeName = .ok (values g)) :
    i.spell (textParts beginning ((f :: fields).map FieldSpec.planned) ++ [.text "\x7d"]) =
      .ok (beginning ++ ", ".intercalate ((f :: fields).map fun g => g.shownText (values g)) ++ "\x7d") := by
  induction fields generalizing beginning f with
  | nil =>
    rw [List.map_singleton, spell_textParts_cons named beginning (held f (.head _)), textParts,
      List.nil_append, spell_singleton, List.map_singleton, String.intercalate_singleton]
    rfl
  | cons g rest ih =>
    obtain ⟨here, others⟩ := List.forall_mem_cons.1 held
    rw [List.map_cons, spell_textParts_cons named beginning here, ih ", " g others, ok_bind]
    refine congrArg Except.ok ?_
    simp only [List.map_cons, String.intercalate_cons_cons, String.append_assoc]

end Instance

/-- Whether the class of a module has a method without parameters that does nothing but return an
expression. -/
def Script.Module.Returns (m : Module) (className method : String) (e : Expr) : Prop :=
  ∃ line body, .classDef line className [Generation.read "BaseModel"] [] body [] ∈ m.body ∧
    ∃ line receiver at_line hint, .functionDef line method
      (.mk [] [.mk receiver "self" none] none [] [] none []) [.ret at_line (some e)] [] hint ∈ body

/-- The sum is what the method for the text form returns in the module that is read back. -/
theorem Descriptor.returns_textSum (d : Descriptor) :
    (Generation.module d.planned).placed.Returns d.typeName "__str__" d.textSum := by
  obtain ⟨line, body⟩ := placed_module d.planned
  have declared : textMethod d.planned ∈ classBody d.planned := by
    unfold classBody
    simp
  obtain ⟨at_line, among⟩ : ∃ at_line, (textMethod d.planned).placed 1 at_line ∈
      Stmt.placedBody 1 (line + 2) (classBody d.planned) := Stmt.exists_mem_placedBody declared
  refine ⟨line + 1, Stmt.placedBody 1 (line + 2) (classBody d.planned), ?_, at_line + 1, at_line + 1,
    at_line + 2, some (Generation.read "str"), ?_⟩
  · rw [body]
    exact List.mem_append_right _ (List.mem_singleton.2 rfl)
  · rw [← d.placed_textSum (at_line + 2)]
    exact among

namespace Artifact.Implements

variable {a : Artifact} {d : Descriptor} (implements : a.Implements d) {i : Instance}
  (made : i.record = d.record)
include implements made

/-- What the getter of a field gives is the value of the field. -/
theorem value_of_get {f : FieldSpec} (mem : f ∈ d.fields) {v : Datum}
    (given : i.get f.getterName = .ok v) : i.value f.attributeName = .ok v := by
  cases hidden : i.values.lookup f.getterName with
  | none => rwa [implements.get_getterName mem made hidden] at given
  | some other =>
    have refused : i.methodOf f.getterName = .error (.uncallable other.typeName) := by
      unfold Instance.methodOf
      rw [hidden]
      cases i.record.method? f.getterName <;> rfl
    unfold Instance.get at given
    rw [refused] at given
    cases given

/-- On an instance whose getters give values that have a text, the method for the text form evaluates to the
text form that is declared for them. -/
theorem evaluates_textSum (named : d.typeName ≠ "str") {values : FieldSpec → Datum}
    (given : ∀ f ∈ d.fields, i.get f.getterName = .ok (values f))
    (showable : ∀ f ∈ d.fields, (values f).isShowable) :
    i.evaluate? d.textSum = some (.text (d.shownText values)) ∧ i.text = .ok (d.shownText values) := by
  have held : ∀ f ∈ d.fields, i.value f.attributeName = .ok (values f) := fun f mem =>
    implements.value_of_get made mem (given f mem)
  have free : i.record.name ≠ "str" := by
    rw [made]
    exact named
  obtain ⟨f, rest, fields⟩ := List.exists_cons_of_ne_nil implements.valid.nonempty
  have spelled : i.spell d.textFormParts = .ok (d.shownText values) := by
    rw [Descriptor.textFormParts, Descriptor.planned, Descriptor.shownText, fields]
    exact Instance.spell_textParts free _ f rest (fields ▸ held)
  have shows : i.Shows d.textFormParts := by
    intro name v mem there
    obtain ⟨s, other⟩ | ⟨g, declared, same⟩ := Descriptor.exists_of_mem_textFormParts mem
    · cases other
    obtain rfl := TextPart.attribute.inj same
    obtain rfl := Except.ok.inj ((held g declared).symm.trans there)
    exact showable g declared
  have own := Descriptor.map_own_textFormParts
    (implements.valid.planned_isSound implements.clean.toIsClean) i.record.name
  refine ⟨?_, (implements.text_eq_spell made).trans spelled⟩
  rw [Instance.evaluate?_of_textParts? d.textParts?_textSum (by rwa [List.reverse_reverse, own]),
    List.reverse_reverse, own, spelled]
  rfl

end Artifact.Implements

/-- What a field of a generated class accepts has a text: its integers are bounded. -/
theorem Generation.isShowable_of_accept (f : FieldPlan) {v : Datum}
    (accepted : (fieldShape f).accept v = .ok v) : v.isShowable := by
  obtain rfl | carried := kept_of_accept f accepted
  · rfl
  have checked : f.kind.checkBounds v = .ok v := by
    rw [← toOption_eq_some, ← accept_of_holds f carried, accepted]
    rfl
  have holds : f.kind.Holds v := ⟨carried, (Kind.checkBounds_eq_ok checked).2⟩
  cases v with
  | int n => exact Bool.not_eq_true' _ ▸ holds.isUnwritable_eq
  | list _ | map _ | set _ =>
    cases carrier : f.kind.carrier <;> rw [carrier] at carried <;> exact absurd carried id
  | _ => rfl

/-- The getters of an instance that conforms give values that have a text. -/
theorem Artifact.Implements.exists_showable {a : Artifact} {d : Descriptor} (implements : a.Implements d)
    {i : Instance} (conforms : i.Conforms d) : ∃ values : FieldSpec → Datum, ∀ f ∈ d.fields,
      i.get f.getterName = .ok (values f) ∧ (values f).isShowable := by
  obtain ⟨values, fills, given⟩ := implements.exists_fills conforms
  refine ⟨values, fun f mem => ⟨given f mem, ?_⟩⟩
  have named := implements.valid.isName implements.clean.toIsClean mem
  obtain null | accepted := conforms.accepts _ _ _ (Naming.isMember_attributeName named).isHidden_eq
    (implements.valid.field?_record mem) (fills.value f mem)
  · rw [null]
    rfl
  · exact isShowable_of_accept f.planned accepted

/-- The text form of a generated class is the declared one, unless the class is called like the function that
gives the text of a value. The sum that is generated for a descriptor is what the method for the text form
returns in the module that is read back and admitted. On every instance of the class whose getters give
values that have a text it evaluates to the declared text form, which is the text of the instance; and the
getters of every instance that is reached from a new one give such values. -/
theorem Artifact.text_form_shows_fields {s : Submission} {d : Descriptor} {source : String}
    (valid : s.validate = .ok d) (rendered : s.source = .ok source) {serial : Nat} {hash : String}
    {a : Artifact} (built : Cache.build serial hash d.qualifiedName source = .ok a)
    (named : d.typeName ≠ "str") :
    (∃ m, Module.read source.toList = .ok m ∧ m.admit = .ok d.typeName ∧
      m.Returns d.typeName "__str__" d.textSum ∧
      ∀ line, (Behaviour.ofBody? d.typeName "__str__" [] [.ret line (some d.textSum)]).isSome) ∧
    (∀ (i : Instance) (values : FieldSpec → Datum), i.record = a.record →
      (∀ f ∈ d.fields, i.get f.getterName = .ok (values f) ∧ (values f).isShowable) →
      i.evaluate? d.textSum = some (.text (d.shownText values)) ∧ i.text = .ok (d.shownText values)) ∧
    ∀ i, a.Reaches i → i.record = a.record ∧ ∃ values : FieldSpec → Datum,
      ∀ f ∈ d.fields, i.get f.getterName = .ok (values f) ∧ (values f).isShowable := by
  have implements := implements_of_build valid rendered built
  obtain rfl : d.moduleText = source :=
    Except.ok.inj ((Submission.source_of_validate valid).symm.trans rendered)
  refine ⟨⟨(Generation.module d.planned).placed, ?_, ?_, d.returns_textSum, fun line => ?_⟩, ?_, ?_⟩
  · rw [Descriptor.moduleText, String.toList_ofList]
    exact read_print (implements.valid.planned_isSound implements.clean.toIsClean)
  · rw [admit_module (implements.valid.planned_isSound implements.clean.toIsClean)]
    exact if_pos (implements.valid.isLoadable_of_build implements.clean built).declarable
  · show ((Behaviour.textParts? d.textSum).map _).isSome
    rw [d.textParts?_textSum]
    rfl
  · intro i values made given
    exact implements.evaluates_textSum (made.trans implements.record) named (fun f mem => (given f mem).1)
      fun f mem => (given f mem).2
  · intro i reached
    have conforms := implements.conforms reached
    exact ⟨conforms.record.trans implements.record.symm, implements.exists_showable conforms⟩

/-- A document for a person. -/
def Document.ofPerson : Document := [(.text "name", .text "Ada"), (.text "int", .text "7")]

/-- The text form of a person to whom it has been bound shows the number under its declared name, which is
not the name of its attribute. -/
theorem Artifact.text_form_person : ∃ a, Cache.build 0 "" Descriptor.person.qualifiedName
    Descriptor.person.moduleText = .ok a ∧ ∃ i, a.Reaches i ∧
      i.evaluate? Descriptor.person.textSum =
        some (.text "Person\x7bname=Ada, int=7, born=2020-02-29\x7d") ∧
      i.text = .ok "Person\x7bname=Ada, int=7, born=2020-02-29\x7d" := by
  obtain ⟨a, built, implements, populated⟩ := exists_populates_person Document.ofPerson
  have valid := Descriptor.validate_person
  obtain ⟨-, evaluates, -⟩ :=
    text_form_shows_fields valid (Submission.source_of_validate valid) built (by decide)
  have showable : ∀ f ∈ Descriptor.person.fields, (f.value Document.ofPerson).isShowable := by
    decide +kernel
  have shown : Descriptor.person.shownText (fun f => f.value Document.ofPerson) =
      "Person\x7bname=Ada, int=7, born=2020-02-29\x7d" := by
    decide +kernel
  have given := evaluates _ (fun f => f.value Document.ofPerson) implements.record.symm fun f mem =>
    ⟨implements.get_holding mem a.serial 0 Document.ofPerson, showable f mem⟩
  rw [shown] at given
  exact ⟨a, built, _, populated.reaches, given⟩

end FlatRecord
