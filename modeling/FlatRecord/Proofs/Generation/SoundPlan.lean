import FlatRecord.Proofs.Descriptor.MemberNames
import FlatRecord.Proofs.Descriptor.Validated

/-!
# Sound plans

A plan is sound if all of its names can stand in source text, its members are distinct, and every
default is a value of its field's kind. The plan of a valid descriptor is sound unless a line feed
stands at the end of a name.
-/

namespace FlatRecord

open FlatRecord.Script (IsName)

namespace FieldPlan

/-- The attribute that stores the field. -/
def attributeName (f : FieldPlan) : String := Naming.attributeName f.name

/-- The getter of the field. -/
def getterName (f : FieldPlan) : String := Naming.getterName f.name

/-- The setter of the field. -/
def setterName (f : FieldPlan) : String := Naming.setterName f.name

/-- The members that the field gives its class. -/
def memberNames (f : FieldPlan) : List String := [f.attributeName, f.getterName, f.setterName]

/-- What generation relies on for a field. -/
structure IsSound (f : FieldPlan) : Prop where
  named : IsName f.name
  holds : f.default = .null ∨ f.kind.Holds f.default
  finite : ∀ x, f.default = .float x → x.isFinite

variable {f : FieldPlan}

theorem IsSound.attributeName (sound : f.IsSound) : Naming.IsMember f.attributeName :=
  Naming.isMember_attributeName sound.named

theorem IsSound.getterName (sound : f.IsSound) : Naming.IsMember f.getterName :=
  Naming.isMember_getterName sound.named

theorem IsSound.setterName (sound : f.IsSound) : Naming.IsMember f.setterName :=
  Naming.isMember_setterName sound.named

end FieldPlan

/-- What generation relies on. -/
structure RecordPlan.IsSound (plan : RecordPlan) : Prop where
  named : IsName plan.typeName
  unimported : plan.typeName ∉ Naming.moduleNames
  spaced : ∃ space, plan.space = .text space
  described : ∃ description, plan.description = Datum.ofText? description
  nonempty : plan.fields ≠ []
  fields : ∀ f ∈ plan.fields, f.IsSound
  members : (plan.fields.flatMap FieldPlan.memberNames).Nodup

/-- A default that passed validation is null or what it converts to. -/
theorem FieldSpec.IsValid.initial_gives {f : FieldSpec} (valid : f.IsValid) :
    f.initial = .null ∨ f.kind.Gives f.initial := by
  by_cases given : f.default = .null
  · left
    simp [FieldSpec.initial, given]
  · exact .inr ⟨_, valid.converts given⟩

theorem FieldSpec.IsValid.initial_holds {f : FieldSpec} (valid : f.IsValid) :
    f.initial = .null ∨ f.kind.Holds f.initial :=
  valid.initial_gives.imp_right Kind.Gives.holds

/-- The plan of a valid field is sound if its name holds no line feed. -/
theorem FieldSpec.IsValid.planned_isSound {f : FieldSpec} (valid : f.IsValid)
    (clean : '\n' ∉ f.name.toList) : f.planned.IsSound :=
  ⟨valid.named.isName clean, valid.initial_holds, valid.finite⟩

/-- The names of a descriptor that stand in its record module as they are. -/
structure Descriptor.IsClean (d : Descriptor) : Prop where
  typeName : '\n' ∉ d.typeName.toList
  fields : ∀ f ∈ d.fields, '\n' ∉ f.name.toList

/-- The plan of a valid descriptor is sound if its names hold no line feed. -/
theorem Descriptor.IsValid.planned_isSound {d : Descriptor} (valid : d.IsValid)
    (clean : d.IsClean) : d.planned.IsSound where
  named := valid.named.isName clean.typeName
  unimported := valid.unimported
  spaced := ⟨d.space, rfl⟩
  described := ⟨d.description, rfl⟩
  nonempty := by simpa [planned] using valid.nonempty
  fields := by
    intro f mem
    obtain ⟨spec, among, rfl⟩ := List.mem_map.1 mem
    exact (valid.fields spec among).planned_isSound (clean.fields spec among)
  members := by
    have distinct := valid.members
    rwa [planned, List.flatMap_map]

end FlatRecord
