import FlatRecord.Proofs.Binding.InPlace
import FlatRecord.Proofs.Record.AcceptedValues
import FlatRecord.Proofs.Rendering.Populated

/-!
# Accessors

An instance of a generated class goes through calls of its methods and through documents that are bound to it.
Whatever they are, it has a value that the field accepts for each attribute of its fields, and hides no getter
and no setter. So the accessors of a field read and write its attribute alone: they are independent of those of
other fields, a call that fails leaves everything as it is, and a call with the value that is kept already
changes nothing.
-/

namespace FlatRecord

open FlatRecord.Execution FlatRecord.Generation

/-- The instance that a program ends with, whether by a fault or not. -/
def InPlace.after {α : Type} (program : InPlace α) (i : Instance) : Instance :=
  match program.run i with
  | .ok _ j => j
  | .error _ j => j

/-- The instances that a new one becomes by calls of its methods with a value and by documents that are bound to
it, with the setters of any artifact. -/
inductive Artifact.Reaches (a : Artifact) : Instance → Prop where
  | new {identity : Nat} {i : Instance} (created : a.instantiate identity = .ok i) : a.Reaches i
  | call {i : Instance} (reached : a.Reaches i) (name : String) (v : Datum) :
    a.Reaches ((InPlace.callNamed name v).after i)
  | bind {i : Instance} (reached : a.Reaches i) (b : Artifact) (document : Document) :
    a.Reaches ((InPlace.bind b document).after i)

/-- Instances to which documents have been bound are reached. -/
theorem Artifact.Populates.reaches {a : Artifact} {i : Instance} (populated : a.Populates i) :
    a.Reaches i := by
  induction populated with
  | new created => exact .new created
  | bind populated document ih =>
    have bound := ih.bind a document
    unfold InPlace.after at bound
    rwa [InPlace.run_bind] at bound

/-- An instance of the class of a descriptor with a value for each attribute of the fields: null, or what the
field accepts as it is. Apart from them, it may only have attributes that are hidden. -/
structure Instance.Conforms (i : Instance) (d : Descriptor) : Prop where
  record : i.record = d.record
  shown : ∀ name, RecordClass.isHidden name = false →
    ((i.values.lookup name).isSome ↔ name ∈ d.fields.map FieldSpec.attributeName)
  accepts : ∀ name f v, RecordClass.isHidden name = false → d.record.field? name = some f →
    i.value name = .ok v → v = .null ∨ f.shape.accept v = .ok v

/-- A class keeps values in the attributes of fields only, apart from hidden ones. -/
theorem Descriptor.mem_of_keeps {d : Descriptor} {name : String} {v w : Datum}
    (kept : d.record.keeps name v = .ok w) (shown : RecordClass.isHidden name = false) :
    name ∈ d.fields.map FieldSpec.attributeName := by
  have checks : d.record.checksAssignment = true := rfl
  unfold RecordClass.keeps at kept
  rw [shown, checks, if_neg Bool.false_ne_true] at kept
  cases found : d.record.field? name with
  | none =>
    rw [found] at kept
    cases kept
  | some known =>
    obtain ⟨f, mem, rfl⟩ : ∃ f ∈ d.planned.fields, fieldOf f = known :=
      List.mem_map.1 (List.mem_of_find?_eq_some found)
    obtain ⟨g, among, rfl⟩ := List.mem_map.1 mem
    have named : (fieldOf g.planned).attr = name := by simpa using List.find?_some found
    exact List.mem_map.2 ⟨g, among, named⟩

/-- What a class keeps in the attribute of a field is what the field accepts. -/
theorem Descriptor.accept_of_keeps {d : Descriptor} {name : String} {f : Field} {v w : Datum}
    (kept : d.record.keeps name v = .ok w) (shown : RecordClass.isHidden name = false)
    (found : d.record.field? name = some f) : f.shape.accept v = .ok w := by
  have checks : d.record.checksAssignment = true := rfl
  unfold RecordClass.keeps at kept
  rw [shown, checks, found, if_neg Bool.false_ne_true] at kept
  rwa [← toOption_eq_some, ← toOption_mapError, toOption_eq_some]

namespace Instance.Conforms

variable {i : Instance} {d : Descriptor} (conforms : i.Conforms d)
include conforms

/-- Writing what the class keeps. -/
theorem poke {name : String} {v w : Datum} (kept : d.record.keeps name v = .ok w) :
    (i.poke name w).Conforms d := by
  constructor
  · exact conforms.record
  · intro other shown
    rw [lookup_poke]
    by_cases same : other = name
    · rw [if_pos same]
      exact iff_of_true rfl (Descriptor.mem_of_keeps (same ▸ kept) shown)
    · rw [if_neg same]
      exact conforms.shown other shown
  · intro other f u shown found there
    rw [value_poke] at there
    by_cases same : other = name
    · rw [if_pos same] at there
      obtain rfl := Except.ok.inj there
      exact .inr (Shape.accept_idem (Descriptor.accept_of_keeps (same ▸ kept) shown found))
    · rw [if_neg same] at there
      exact conforms.accepts other f u shown found there

/-- Calling a method with a value. -/
theorem callNamed (name : String) (v : Datum) : ((InPlace.callNamed name v).after i).Conforms d := by
  unfold InPlace.after
  rw [InPlace.run_callNamed]
  cases called : i.set name v with
  | error fault => exact conforms
  | ok j =>
    obtain rfl | ⟨attr, stored⟩ := set_eq_ok called
    · exact conforms
    · obtain ⟨w, kept, rfl, -⟩ := exists_of_store stored
      rw [conforms.record] at kept
      exact conforms.poke kept

/-- Binding a document. -/
theorem bind (b : Artifact) (document : Document) : ((InPlace.bind b document).after i).Conforms d := by
  unfold InPlace.after
  rw [InPlace.run_bind]
  induction document using List.reverseRecOn with
  | nil => exact conforms
  | append_singleton document entry ih =>
    show (b.bind i (document ++ [entry])).1.Conforms d
    rw [b.bind_concat_fst]
    cases written : b.written? i.record entry with
    | none => exact ih
    | some put =>
      obtain ⟨name, w⟩ := put
      obtain ⟨v, kept⟩ := Artifact.exists_keeps written
      rw [conforms.record] at kept
      exact ih.poke kept

end Instance.Conforms

namespace Artifact.Implements

variable {a : Artifact} {d : Descriptor} (implements : a.Implements d)
include implements

/-- Every instance that is reached conforms. -/
theorem conforms {i : Instance} (reached : a.Reaches i) : i.Conforms d := by
  induction reached with
  | @new identity i created =>
    have fresh := implements.instantiate_eq_ok created
    constructor
    · rw [fresh]
      rfl
    · intro name _
      have named : d.fields.map FieldSpec.attributeName = (d.held []).map Prod.fst := by
        rw [Descriptor.held, List.map_map]
        rfl
      rw [fresh, named, Option.isSome_iff_ne_none, Ne, lookup_eq_none_iff_key, not_not]
      rfl
    · intro name known v _ found there
      obtain ⟨f, mem, rfl⟩ : ∃ f ∈ d.fields, known = fieldOf f.planned := by
        obtain ⟨plan, among, rfl⟩ := List.mem_map.1 (List.mem_of_find?_eq_some found)
        obtain ⟨f, mem, rfl⟩ := List.mem_map.1 among
        exact ⟨f, mem, rfl⟩
      obtain rfl : (fieldOf f.planned).attr = name := by simpa using List.find?_some found
      rw [fresh] at there
      obtain rfl := Except.ok.inj ((implements.value_holding mem a.serial identity []).symm.trans there)
      exact ((implements.valid.fields f mem).value_gives []).imp And.left
        (accept_of_gives f.planned)
  | call reached name v ih => exact ih.callNamed name v
  | bind reached b document ih => exact ih.bind b document

section Conforming

variable {i : Instance} (conforms : i.Conforms d)
include conforms

/-- No attribute of an instance that conforms hides an accessor. -/
theorem lookup_name {m : Method} (mem : m ∈ methodsOf d.planned)
    (shown : RecordClass.isHidden m.name = false) : i.values.lookup m.name = none := by
  rw [← Option.not_isSome_iff_eq_none, conforms.shown m.name shown]
  exact implements.name_not_mem_attributeNames mem

variable {f : FieldSpec} (mem : f ∈ d.fields)
include mem

theorem get_of_conforms : i.get f.getterName = i.value f.attributeName := by
  have named := implements.valid.isName implements.clean.toIsClean mem
  apply implements.get_getterName mem conforms.record
  exact implements.lookup_name conforms (getterMethod_mem mem)
    (Naming.isMember_getterName named).isHidden_eq

theorem set_of_conforms (v : Datum) : i.set f.setterName v = i.store f.attributeName v := by
  have named := implements.valid.isName implements.clean.toIsClean mem
  apply implements.set_setterName mem conforms.record
  exact implements.lookup_name conforms (setterMethod_mem mem)
    (Naming.isMember_setterName named).isHidden_eq

/-- An instance that conforms has a value for each field: null, or one of the carrier of the field. -/
theorem exists_value : ∃ v, i.value f.attributeName = .ok v ∧ (v = .null ∨ f.kind.carrier.Holds v) := by
  have named := implements.valid.isName implements.clean.toIsClean mem
  have shown := (Naming.isMember_attributeName named).isHidden_eq
  have there := (conforms.shown f.attributeName shown).2 (List.mem_map_of_mem mem)
  obtain ⟨v, found⟩ := Option.isSome_iff_exists.1 there
  have holds : i.value f.attributeName = .ok v := by
    unfold Instance.value
    rw [found]
  have known := implements.valid.field?_record mem
  refine ⟨v, holds, ?_⟩
  obtain null | accepted := conforms.accepts _ _ v shown known holds
  · exact .inl null
  · exact kept_of_accept f.planned accepted

/-- The getter of a field gives the value of the field. -/
theorem exists_get : ∃ v, i.get f.getterName = .ok v := by
  obtain ⟨v, holds, -⟩ := implements.exists_value conforms mem
  exact ⟨v, (implements.get_of_conforms conforms mem).trans holds⟩

section Written

variable {v w : Datum} (kept : d.record.keeps f.attributeName v = .ok w)
include kept

/-- After something has been written into the attribute of a field, its getter gives that. -/
theorem get_poke : (i.poke f.attributeName w).get f.getterName = .ok w := by
  rw [implements.get_of_conforms (conforms.poke kept) mem, Instance.value_poke, if_pos rfl]

/-- The getters of other fields give what they gave. -/
theorem get_poke_of_ne {g : FieldSpec} (among : g ∈ d.fields) (other : g ≠ f) :
    (i.poke f.attributeName w).get g.getterName = i.get g.getterName := by
  have apart : g.attributeName ≠ f.attributeName := by
    intro same
    exact other (List.inj_on_of_nodup_map implements.valid.nodup_attributeName among mem same)
  rw [implements.get_of_conforms (conforms.poke kept) among, implements.get_of_conforms conforms among,
    Instance.value_poke, if_neg apart]

end Written

end Conforming

/-- An instance that conforms holds values of the fields, which the getters give. -/
theorem exists_fills {i : Instance} (conforms : i.Conforms d) : ∃ values, d.Fills i values ∧
    ∀ f ∈ d.fields, i.get f.getterName = .ok (values f) := by
  choose! values value kept using fun f mem => implements.exists_value conforms (f := f) mem
  refine ⟨values, ⟨conforms.record, value, kept⟩, fun f mem => ?_⟩
  exact (implements.get_of_conforms conforms mem).trans (value f mem)

end Artifact.Implements

/-- Accessors of different fields are independent, on every instance that is reached from a new one.

A call of the setter of a field with a value fails exactly if the type of the field refuses the value, and then
every getter gives what it gave before. If it returns, the getter of the field gives the value that its type
accepts for the one that was given, every getter of another field gives what it gave before, and calling the
setter again with the accepted value returns and changes nothing. -/
theorem Artifact.call_setter_frames {s : Submission} {d : Descriptor} {source : String}
    (valid : s.validate = .ok d) (rendered : s.source = .ok source) {serial : Nat} {hash : String}
    {a : Artifact} (built : Cache.build serial hash d.qualifiedName source = .ok a) {i : Instance}
    (reached : a.Reaches i) {f : FieldSpec} (mem : f ∈ d.fields) (v : Datum) :
    ∃ before : FieldSpec → Datum, (∀ g ∈ d.fields, i.get g.getterName = .ok (before g)) ∧
      match (InPlace.callNamed f.setterName v).run i with
      | .error _ j => (∀ w, (fieldShape f.planned).accept v ≠ .ok w) ∧
          ∀ g ∈ d.fields, j.get g.getterName = .ok (before g)
      | .ok _ j => ∃ w, (fieldShape f.planned).accept v = .ok w ∧ j.get f.getterName = .ok w ∧
          (∀ g ∈ d.fields, g ≠ f → j.get g.getterName = .ok (before g)) ∧
          (InPlace.callNamed f.setterName w).run j = .ok () j := by
  have implements := implements_of_build valid rendered built
  have conforms := implements.conforms reached
  choose! before given using fun g among => implements.exists_get conforms (f := g) among
  have accepts := implements.valid.toOption_keeps implements.clean.toIsClean mem
  refine ⟨before, given, ?_⟩
  rw [InPlace.run_callNamed, implements.set_of_conforms conforms mem]
  cases stored : i.store f.attributeName v with
  | error fault =>
    refine ⟨fun w accepted => ?_, given⟩
    have kept : d.record.keeps f.attributeName v = .ok w := by
      rw [← toOption_eq_some, accepts, accepted]
      rfl
    rw [Instance.store_eq, conforms.record, kept] at stored
    cases stored
  | ok j =>
    obtain ⟨w, kept, rfl, again⟩ := Instance.exists_of_store stored
    rw [conforms.record] at kept
    have accepted : (fieldShape f.planned).accept v = .ok w := by
      rw [← toOption_eq_some, ← accepts, kept]
      rfl
    refine ⟨w, accepted, ?_, ?_, ?_⟩
    · exact implements.get_poke conforms mem kept
    · intro g among other
      rw [implements.get_poke_of_ne conforms mem kept among other]
      exact given g among
    · rw [InPlace.run_callNamed, implements.set_of_conforms (conforms.poke kept) mem, again]

/-- The number of a person is set by a text, after other values have been bound and refused. -/
theorem Artifact.call_setter_frames_person : ∃ a, Cache.build 0 "" Descriptor.person.qualifiedName
    Descriptor.person.moduleText = .ok a ∧ ∃ i, a.Reaches i ∧ ∃ j,
      (InPlace.callNamed "setInt" (.text " 7 ")).run i = .ok () j ∧
      j.get "getInt" = .ok (.int 7) ∧ j.get "getBorn" = i.get "getBorn" ∧
      (InPlace.callNamed "setInt" (.int 7)).run j = .ok () j := by
  obtain ⟨a, built⟩ := Cache.build_person 0 ""
  have valid := Descriptor.validate_person
  have rendered := Submission.source_of_validate valid
  have minutes : ∀ f ∈ Descriptor.person.fields, f.initial.hasMinuteOffset := by
    with_unfolding_all decide
  obtain ⟨i, created⟩ :=
    ((implements_of_build valid rendered built).exists_instantiate_iff 0).2 ⟨by decide, minutes⟩
  have reached := ((Reaches.new created).bind a [(.text "born", .null)]).call "setInt" (.list [])
  let number : FieldSpec := ⟨"int", "int", false, .int (-5)⟩
  let born : FieldSpec := ⟨"born", "date", false, .text "2020-02-29"⟩
  have mem : number ∈ Descriptor.person.fields := by simp [Descriptor.person, number]
  have among : born ∈ Descriptor.person.fields := by simp [Descriptor.person, born]
  have accepts : (fieldShape number.planned).accept (.text " 7 ") = .ok (.int 7) := by
    with_unfolding_all rfl
  obtain ⟨before, given, called⟩ := call_setter_frames valid rendered built reached mem (.text " 7 ")
  generalize (InPlace.callNamed "setInt" (.list [])).after
    ((InPlace.bind a [(.text "born", .null)]).after i) = k at *
  have sets : number.setterName = "setInt" := by decide
  have gets : number.getterName = "getInt" := by decide
  have dates : born.getterName = "getBorn" := by decide
  rw [sets] at called
  cases ends : (InPlace.callNamed "setInt" (.text " 7 ")).run k with
  | error fault j =>
    rw [ends] at called
    exact absurd accepts (called.1 _)
  | ok u j =>
    rw [ends] at called
    obtain ⟨w, accepted, got, others, again⟩ := called
    obtain rfl : Datum.int 7 = w := Except.ok.inj (accepts.symm.trans accepted)
    have same := (others born among (by simp [born, number])).trans (given born among).symm
    rw [gets] at got
    rw [dates] at same
    exact ⟨a, built, k, reached, j, ends, got, same, again⟩

end FlatRecord
