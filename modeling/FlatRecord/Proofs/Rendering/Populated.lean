import FlatRecord.Proofs.Rendering.Refinement

/-!
# Populated instances

An instance of a compiled record is a new one to which any number of documents have been bound. It holds
what the descriptor reads off all of them in a row, and its getters give that.
-/

namespace FlatRecord

open FlatRecord.Execution FlatRecord.Generation

/-- The instances of a compiled record: new ones, and those to which a document has been bound. -/
inductive Artifact.Populates (a : Artifact) : Instance → Prop where
  | new {identity : Nat} {i : Instance} (created : a.instantiate identity = .ok i) : a.Populates i
  | bind {i : Instance} (populated : a.Populates i) (document : Document) :
    a.Populates (a.bind i document).1

/-- A new instance belongs to the compilation of its artifact. -/
theorem Artifact.instantiate_eq_ok {a : Artifact} {identity : Nat} {i : Instance}
    (created : a.instantiate identity = .ok i) : i.identity = identity ∧ i.serial = a.serial := by
  obtain ⟨values, -, rfl⟩ := map_eq_ok.1 created
  exact ⟨rfl, rfl⟩

/-- Whether an artifact has the class and the setters of a descriptor. -/
structure Artifact.Implements (a : Artifact) (d : Descriptor) : Prop where
  valid : d.IsValid
  clean : d.IsLineFree
  record : a.record = d.record
  setters : a.setters = d.planned.fields.map setterOf

/-- What is built from the source of an accepted submission implements its descriptor. -/
theorem Artifact.implements_of_build {s : Submission} {d : Descriptor} {source : String}
    (valid : s.validate = .ok d) (rendered : s.source = .ok source) {serial : Nat} {hash : String}
    {a : Artifact} (built : Cache.build serial hash d.qualifiedName source = .ok a) :
    a.Implements d := by
  have known := (Submission.validate_eq_ok valid).1
  obtain rfl : d.moduleText = source :=
    Except.ok.inj ((Submission.source_of_validate valid).symm.trans rendered)
  obtain ⟨clean, record, setters⟩ := known.parts_of_build built
  exact ⟨known, clean, record, setters⟩

/-- The instance of a class that holds what a document gives. -/
def Descriptor.holding (d : Descriptor) (serial identity : Nat) (document : Document) : Instance :=
  ⟨identity, serial, d.record, d.held document⟩

/-- Whether an instance of the class of a descriptor holds certain values in the attributes of its fields. -/
structure Descriptor.Fills (d : Descriptor) (i : Instance) (values : FieldSpec → Datum) : Prop where
  record : i.record = d.record
  value : ∀ f ∈ d.fields, i.value f.attributeName = .ok (values f)
  kept : ∀ f ∈ d.fields, values f = .null ∨ f.kind.carrier.Holds (values f)

section Accessors

variable {d : Descriptor} {f : FieldSpec} (mem : f ∈ d.fields)
include mem

theorem getterMethod_mem : getterMethod f.planned ∈ methodsOf d.planned :=
  .tail _ (List.mem_append_left _ (List.mem_flatMap.2 ⟨f.planned, List.mem_map_of_mem mem, .head _⟩))

theorem setterMethod_mem : setterMethod f.planned ∈ methodsOf d.planned :=
  .tail _ (List.mem_append_left _ (List.mem_flatMap.2
    ⟨f.planned, List.mem_map_of_mem mem, .tail _ (.head _)⟩))

end Accessors

namespace Artifact.Implements

variable {a : Artifact} {d : Descriptor} (implements : a.Implements d)
include implements

/-- A record has new instances unless its name hides what its constructor calls, or some default is a
date-time whose offset has seconds. -/
theorem toOption_instantiate (identity : Nat) : (a.instantiate identity).toOption =
    if d.typeName ≠ "super" ∧ ∀ f ∈ d.fields, f.initial.hasMinuteOffset then
      some (d.holding a.serial identity [])
    else none :=
  implements.valid.toOption_instantiate implements.clean.toIsClean implements.record identity

theorem exists_instantiate_iff (identity : Nat) : (∃ i, a.instantiate identity = .ok i) ↔
    d.typeName ≠ "super" ∧ ∀ f ∈ d.fields, f.initial.hasMinuteOffset := by
  rw [exists_ok_iff_isSome, implements.toOption_instantiate]
  split
  · rename_i kept
    exact iff_of_true rfl kept
  · rename_i refused
    exact iff_of_false Bool.false_ne_true refused

theorem instantiate_eq_ok {identity : Nat} {i : Instance} (created : a.instantiate identity = .ok i) :
    i = d.holding a.serial identity [] :=
  (implements.valid.instantiate_eq_ok implements.clean.toIsClean implements.record created).2

/-- Binding a document to an instance that holds what an earlier one gives. -/
theorem bind_holding (identity : Nat) (earlier document : Document) :
    (a.bind (d.holding a.serial identity earlier) document).1 =
      d.holding a.serial identity (earlier ++ document) :=
  (implements.valid.bind_held implements.clean.toIsClean implements.setters
    (i := d.holding a.serial identity earlier) rfl rfl document).1

/-- If there are new instances, there is one that holds what a document gives. -/
theorem populates_holding (named : d.typeName ≠ "super")
    (minutes : ∀ f ∈ d.fields, f.initial.hasMinuteOffset) (identity : Nat) (document : Document) :
    a.Populates (d.holding a.serial identity document) := by
  obtain ⟨i, created⟩ := (implements.exists_instantiate_iff identity).2 ⟨named, minutes⟩
  have populated := (Populates.new created).bind document
  rwa [implements.instantiate_eq_ok created, implements.bind_holding, List.nil_append] at populated

/-- Every instance holds what some document gives: the documents that have been bound to it, in a
row. -/
theorem exists_holding {i : Instance} (populated : a.Populates i) :
    ∃ document, i = d.holding a.serial i.identity document := by
  induction populated with
  | new created =>
    have fresh := implements.instantiate_eq_ok created
    exact ⟨[], by rw [fresh]; rfl⟩
  | bind populated document ih =>
    obtain ⟨earlier, holds⟩ := ih
    refine ⟨earlier ++ document, ?_⟩
    rw [holds, implements.bind_holding]
    rfl

/-- The class of a descriptor knows its methods. -/
theorem method?_record {m : Method} (mem : m ∈ methodsOf d.planned) :
    d.record.method? m.name = some m :=
  method?_recordOf (implements.valid.planned_isSound implements.clean.toIsClean) mem d.space

/-- An instance has the methods that none of its attributes hides. -/
theorem methodOf_eq {m : Method} (mem : m ∈ methodsOf d.planned) {i : Instance}
    (made : i.record = d.record) (unhidden : i.values.lookup m.name = none) :
    i.methodOf m.name = .ok m := by
  unfold Instance.methodOf
  rw [made, implements.method?_record mem, unhidden]

/-- The attributes of fields hide no method. -/
theorem name_not_mem_attributeNames {m : Method} (mem : m ∈ methodsOf d.planned) :
    m.name ∉ d.fields.map FieldSpec.attributeName := by
  intro among
  obtain ⟨f, inside, same⟩ := List.mem_map.1 among
  have sound := implements.valid.planned_isSound implements.clean.toIsClean
  exact name_ne_attributeName sound mem (List.mem_map_of_mem inside) same

/-- The getter of a field gives the value of its attribute, unless an attribute hides the getter. -/
theorem get_getterName {f : FieldSpec} (mem : f ∈ d.fields) {i : Instance} (made : i.record = d.record)
    (unhidden : i.values.lookup f.getterName = none) :
    i.get f.getterName = i.value f.attributeName := by
  have found := implements.methodOf_eq (getterMethod_mem mem) made unhidden
  unfold Instance.get
  rw [show f.getterName = (getterMethod f.planned).name from rfl, found]
  rfl

/-- The setter of a field stores values in its attribute, unless an attribute hides the setter. -/
theorem set_setterName {f : FieldSpec} (mem : f ∈ d.fields) {i : Instance} (made : i.record = d.record)
    (unhidden : i.values.lookup f.setterName = none) (v : Datum) :
    i.set f.setterName v = i.store f.attributeName v := by
  have found := implements.methodOf_eq (setterMethod_mem mem) made unhidden
  unfold Instance.set
  rw [show f.setterName = (setterMethod f.planned).name from rfl, found]
  rfl

theorem value_holding {f : FieldSpec} (mem : f ∈ d.fields) (serial identity : Nat)
    (document : Document) :
    (d.holding serial identity document).value f.attributeName = .ok (f.value document) := by
  unfold Instance.value
  rw [show (d.holding serial identity document).values = d.held document from rfl,
    implements.valid.lookup_held mem]

theorem fills_holding (serial identity : Nat) (document : Document) :
    d.Fills (d.holding serial identity document) fun f => f.value document where
  record := rfl
  value _ mem := implements.value_holding mem serial identity document
  kept _ mem := ((implements.valid.fields _ mem).value_holds document).imp_right Kind.Holds.carried

/-- The getter of a field gives the value of the field. -/
theorem get_holding {f : FieldSpec} (mem : f ∈ d.fields) (serial identity : Nat)
    (document : Document) :
    (d.holding serial identity document).get f.getterName = .ok (f.value document) := by
  have unhidden : (d.held document).lookup f.getterName = none := by
    apply lookup_eq_none
    rw [Descriptor.held, List.map_map]
    exact implements.name_not_mem_attributeNames (getterMethod_mem mem)
  rw [implements.get_getterName mem rfl unhidden]
  exact implements.value_holding mem serial identity document

end Artifact.Implements

/-- If a class is built and has new instances, it has one that holds what a document gives. -/
theorem Artifact.exists_populates {d : Descriptor} (valid : d.submission.validate = .ok d)
    (builds : ∃ a, Cache.build 0 "" d.qualifiedName d.moduleText = .ok a) (named : d.typeName ≠ "super")
    (minutes : ∀ f ∈ d.fields, f.initial.hasMinuteOffset) (document : Document) :
    ∃ a, Cache.build 0 "" d.qualifiedName d.moduleText = .ok a ∧ a.Implements d ∧
      a.Populates (d.holding a.serial 0 document) := by
  obtain ⟨a, built⟩ := builds
  have implements := implements_of_build valid (Submission.source_of_validate valid) built
  exact ⟨a, built, implements, implements.populates_holding named minutes 0 document⟩

/-- A person that holds what a document gives. -/
theorem Artifact.exists_populates_person (document : Document) : ∃ a,
    Cache.build 0 "" Descriptor.person.qualifiedName Descriptor.person.moduleText = .ok a ∧
      a.Implements .person ∧ a.Populates (Descriptor.person.holding a.serial 0 document) :=
  exists_populates Descriptor.validate_person (Cache.build_person 0 "") (by decide)
    (by with_unfolding_all decide) document

end FlatRecord
