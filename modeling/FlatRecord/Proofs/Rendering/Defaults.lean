import FlatRecord.Proofs.Rendering.Populated

/-!
# Declared defaults

A new instance holds what binding the declared defaults would store, though generated code writes them
down, reads them again and, for some kinds, converts their text in another way. There is no new instance
where that other conversion refuses a default: a date-time whose offset has seconds.
-/

namespace FlatRecord

variable {d : Descriptor}

/-- An entry that gives a field its declared default. -/
theorem FieldSpec.IsValid.given?_default {f : FieldSpec} (valid : f.IsValid)
    (declared : f.default ≠ .null) : f.given? (.text f.name, f.default) = some f.initial :=
  given?_of_coerce valid.isEmpty_name rfl (valid.converts declared)

/-- A record whose name does not hide what its constructor calls has new instances exactly if the offsets
of its date-time defaults are whole minutes. In a new instance every field has the value that its default
converts to, which is also what binding the default to the field stores, or null without a default. -/
theorem Artifact.defaults_agree {s : Submission} {source : String} (valid : s.validate = .ok d)
    (rendered : s.source = .ok source) {serial : Nat} {hash : String} {a : Artifact}
    (built : Cache.build serial hash d.qualifiedName source = .ok a)
    (apart : d.typeName ≠ "super") (identity : Nat) :
    ((∃ i, a.instantiate identity = .ok i) ↔ ∀ f ∈ d.fields, f.initial.hasMinuteOffset) ∧
      ∀ i, a.instantiate identity = .ok i → ∀ f ∈ d.fields,
        (f.default = .null → i.get f.getterName = .ok .null) ∧
        (f.default ≠ .null → ∃ v, f.kind.coerce f.default = .ok v ∧ i.get f.getterName = .ok v ∧
          ∀ j, a.Populates j → (a.bind j [(.text f.name, f.default)]).1.get f.getterName = .ok v) := by
  have implements := Artifact.implements_of_build valid rendered built
  refine ⟨(implements.exists_instantiate_iff identity).trans (and_iff_right apart),
    fun i created f mem => ⟨fun undeclared => ?_, fun declared => ?_⟩⟩
  · rw [implements.instantiate_eq_ok created, implements.get_holding mem, FieldSpec.value_nil]
    simp [FieldSpec.initial, undeclared]
  · have known := implements.valid.fields f mem
    refine ⟨f.initial, known.converts declared, ?_, fun j populated => ?_⟩
    · rw [implements.instantiate_eq_ok created, implements.get_holding mem, FieldSpec.value_nil]
    · obtain ⟨document, holds⟩ := implements.exists_holding populated
      rw [holds, implements.bind_holding, implements.get_holding mem, FieldSpec.value_concat,
        known.given?_default declared, Option.getD_some]

/-- The defaults of a person. -/
theorem Artifact.instantiate_person : ∃ a, Cache.build 0 "" Descriptor.person.qualifiedName
    Descriptor.person.moduleText = .ok a ∧ ∃ i, a.instantiate 0 = .ok i := by
  obtain ⟨a, built⟩ := Cache.build_person 0 ""
  have minutes : ∀ f ∈ Descriptor.person.fields, f.initial.hasMinuteOffset := by
    with_unfolding_all decide
  exact ⟨a, built, (defaults_agree Descriptor.validate_person
    (Submission.source_of_validate Descriptor.validate_person) built (by decide) 0).1.2 minutes⟩

/-- A descriptor with a date-time default whose offset has seconds. -/
def Descriptor.stamped : Descriptor where
  typeName := "P"
  space := "a"
  fields := [⟨"t", "datetime", false, .text "2020-01-01T00:00:00+00:00:30"⟩]
  description := none

/-- The default is accepted, but its record has no instances. -/
theorem Artifact.instantiate_stamped : Descriptor.stamped.submission.validate = .ok .stamped ∧
    ∃ a, Cache.build 0 "" Descriptor.stamped.qualifiedName Descriptor.stamped.moduleText = .ok a ∧
      Descriptor.stamped.typeName ≠ "super" ∧ ¬ ∃ i, a.instantiate 0 = .ok i := by
  have valid : Descriptor.stamped.submission.validate = .ok .stamped := by
    with_unfolding_all rfl
  obtain ⟨a, built⟩ := (Submission.validate_eq_ok valid).1.exists_build
    ⟨⟨by decide, by decide⟩, by decide⟩ (by decide) (by decide) (by decide +kernel) 0 ""
  have implements := implements_of_build valid (Submission.source_of_validate valid) built
  have seconds : ¬ ∀ f ∈ Descriptor.stamped.fields, f.initial.hasMinuteOffset := by
    with_unfolding_all decide
  exact ⟨valid, a, built, by decide, fun creates =>
    seconds ((implements.exists_instantiate_iff 0).1 creates).2⟩

end FlatRecord
