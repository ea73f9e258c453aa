import FlatRecord.Proofs.Cache.Session
import FlatRecord.Proofs.Generation.Loaded
import FlatRecord.Rendering

/-!
# Totality of generation

A record type is generated for every valid descriptor whose names hold no line feed, unless the type
has a name that is reserved or the source text is too long.
-/

namespace FlatRecord

variable {s : Submission} {d : Descriptor}

/-- What loading demands of a valid descriptor and of the size of its source. -/
structure Descriptor.IsLoadable (d : Descriptor) (source : String) : Prop where
  declarable : Admission.isDeclarable d.typeName = true
  unlike : d.typeName ≠ "__namespace__"
  fits : source.utf8ByteSize ≤ maxSourceBytes

section Build

variable (valid : d.IsValid) (clean : d.IsLineFree)
include valid clean

/-- The record module of a loadable descriptor is built. -/
theorem Descriptor.IsValid.build_of_isLoadable (loadable : d.IsLoadable d.moduleText) (serial : Nat)
    (hash : String) : Cache.build serial hash d.qualifiedName d.moduleText =
      .ok ⟨serial, d.qualifiedName, d.moduleText, hash, d.record,
        d.planned.fields.map Generation.setterOf⟩ := by
  have loaded := valid.load_moduleText (Cache.label d.qualifiedName hash) clean
  rw [if_neg (Nat.not_lt.2 loadable.fits), loadable.declarable, Bool.not_true,
    if_neg Bool.false_ne_true, if_neg loadable.unlike] at loaded
  have setters : Setter.collect d.globals d.record =
      .ok (d.planned.fields.map Generation.setterOf) :=
    Generation.collect_recordOf (valid.planned_isSound clean.toIsClean) d.globals d.space
  unfold Cache.build
  rw [loaded]
  show (do
    let setters ← (Setter.collect d.globals d.record).mapError CompileFault.unreadable
    return (⟨serial, d.qualifiedName, d.moduleText, hash, d.record, setters⟩ : Artifact)) = _
  rw [setters]
  rfl

/-- The record module of a descriptor with few characters in it is built. -/
theorem Descriptor.IsValid.exists_build (declarable : Admission.isDeclarable d.typeName = true)
    (unlike : d.typeName ≠ "__namespace__")
    (short : 4 * (Generation.module d.planned).print.length ≤ maxSourceBytes) (serial : Nat)
    (hash : String) : ∃ a, Cache.build serial hash d.qualifiedName d.moduleText = .ok a :=
  ⟨_, valid.build_of_isLoadable clean
    ⟨declarable, unlike, d.utf8ByteSize_moduleText_le.trans short⟩ serial hash⟩

/-- The record module of any other descriptor is not loaded. -/
theorem Descriptor.IsValid.load_of_not_isLoadable (unloadable : ¬ d.IsLoadable d.moduleText)
    (hash : String) :
    ∃ fault, load (Cache.label d.qualifiedName hash) d.qualifiedName d.moduleText = .error fault := by
  have loaded := valid.load_moduleText (Cache.label d.qualifiedName hash) clean
  split at loaded
  · exact ⟨_, loaded⟩
  split at loaded
  · exact ⟨_, loaded⟩
  split at loaded
  · exact ⟨_, loaded⟩
  · rename_i fits declarable unlike
    exact absurd ⟨by simpa using declarable, unlike, Nat.not_lt.1 fits⟩ unloadable

/-- So it is not built. -/
theorem Descriptor.IsValid.build_of_not_isLoadable (unloadable : ¬ d.IsLoadable d.moduleText)
    (serial : Nat) (hash : String) :
    ∃ fault, Cache.build serial hash d.qualifiedName d.moduleText = .error fault := by
  obtain ⟨fault, refused⟩ := valid.load_of_not_isLoadable clean unloadable hash
  unfold Cache.build
  rw [refused]
  exact ⟨_, rfl⟩

theorem Descriptor.IsValid.isLoadable_of_build {serial : Nat} {hash : String} {a : Artifact}
    (built : Cache.build serial hash d.qualifiedName d.moduleText = .ok a) :
    d.IsLoadable d.moduleText := by
  by_contra unloadable
  obtain ⟨fault, refused⟩ := valid.build_of_not_isLoadable clean unloadable serial hash
  rw [refused] at built
  cases built

end Build

theorem Cache.build_person (serial : Nat) (hash : String) : ∃ a, Cache.build serial hash
    Descriptor.person.qualifiedName Descriptor.person.moduleText = .ok a :=
  (Submission.validate_eq_ok Descriptor.validate_person).1.exists_build
    ⟨⟨by decide, by decide⟩, by decide⟩ (by decide) (by decide) (by decide +kernel) serial hash

/-- A valid descriptor whose type has a reserved name. -/
def Descriptor.reserved : Descriptor where
  typeName := "__P__"
  space := "a"
  fields := [⟨"x", "string", false, .null⟩]
  description := none

end FlatRecord
