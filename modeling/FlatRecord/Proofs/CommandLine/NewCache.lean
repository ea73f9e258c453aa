import FlatRecord.CommandLine.Request
import FlatRecord.Proofs.Cache.Succession
import FlatRecord.Proofs.Descriptor.Acceptance
import FlatRecord.Proofs.Generation.Totality
import FlatRecord.Rendering

/-!
# New caches

A run of the program starts with a new cache. What it compiles first is built as the first artifact of all,
and is found when it is asked for again.
-/

namespace FlatRecord

/-- What has been compiled is found by compiling it again. -/
theorem Cache.compile_again {c : Cache} {name source : String} {a : Artifact}
    (compiled : (c.compile name source).1 = .ok a) :
    (c.compile name source).2.compile name source = (.ok a, (c.compile name source).2) := by
  unfold compile at compiled ⊢
  by_cases qualified : Naming.isQualified name = true
  · simp only [if_pos qualified] at compiled ⊢
    cases found : c.artifact? (contentHash name source) with
    | some b =>
      simp only [found] at compiled ⊢
      obtain rfl := Except.ok.inj compiled
      rfl
    | none =>
      simp only [found] at compiled ⊢
      obtain ⟨-, ⟨b, same, -, -, live, -⟩ | ⟨⟨fault, failed⟩, -⟩⟩ :=
        c.compileNew_cases_artifact? (contentHash name source) name source
      · obtain rfl : b = a := Except.ok.inj (same.symm.trans compiled)
        rw [live]
      · rw [failed] at compiled
        cases compiled
  · simp only [if_neg qualified] at compiled
    cases compiled

/-- What a new cache compiles is built as the first of its artifacts. -/
theorem Cache.compile_empty {capacity : Nat} (positive : 0 < capacity) {name : String}
    (qualified : Naming.isQualified name = true) (source : String) :
    ((empty capacity positive).compile name source).1 = build 0 (contentHash name source) name source := by
  have nothing (hash : String) : (empty capacity positive).artifact? hash = none := rfl
  rw [compile_fst _ qualified, nothing]
  rfl

theorem Cache.build_of_compile_empty {capacity : Nat} {positive : 0 < capacity} {name source : String}
    {a : Artifact} (compiled : ((empty capacity positive).compile name source).1 = .ok a) :
    build 0 (contentHash name source) name source = .ok a := by
  have qualified : Naming.isQualified name = true := by
    by_contra unqualified
    unfold compile at compiled
    rw [if_neg unqualified] at compiled
    cases compiled
  exact (compile_empty positive qualified source).symm.trans compiled

/-- Generating the type of a valid descriptor compiles its record module. -/
theorem Cache.generate_eq_compile (c : Cache) {d : Descriptor} (valid : d.submission.validate = .ok d)
    (verify : Bool) : c.generate (some d.submission) verify =
      match c.compile d.qualifiedName d.moduleText with
      | (.error fault, c) => (.error (.compile fault), c)
      | (.ok a, c) => (.ok ⟨d, a, c.stats, if verify then some (a.verify d) else none⟩, c) := by
  have source : d.source = .ok d.moduleText := (Submission.validate_eq_ok valid).1.source
  have validated : validateSubmission (some d.submission) = .ok d := valid
  rcases compiled : c.compile d.qualifiedName d.moduleText with ⟨fault | a, after⟩
  · simp only [generate, validated, source, compiled]
  · simp only [generate, validated, source, compiled]

/-- A type that a new cache has generated is that of a valid descriptor, and has been compiled from its record
module. -/
theorem Cache.compile_of_generate {capacity : Nat} {positive : 0 < capacity} {d : Descriptor} {verify : Bool}
    {made : GeneratedType} {after : Cache}
    (generated : (empty capacity positive).generate (some d.submission) verify = (.ok made, after)) :
    d.submission.validate = .ok d ∧
      (empty capacity positive).compile d.qualifiedName d.moduleText = (.ok made.artifact, after) ∧
      build 0 (contentHash d.qualifiedName d.moduleText) d.qualifiedName d.moduleText =
        .ok made.artifact := by
  have valid : d.submission.validate = .ok d := by
    cases checked : d.submission.validate with
    | ok accepted =>
      obtain ⟨rfl, -⟩ := Submission.validate_submission_eq_ok_iff.1 checked
      rfl
    | error v =>
      have refused : validateSubmission (some d.submission) = .error v := checked
      simp [generate, refused] at generated
  rw [generate_eq_compile _ valid] at generated
  rcases compiled : (empty capacity positive).compile d.qualifiedName d.moduleText with ⟨fault | a, c⟩
  · simp [compiled] at generated
  · simp only [compiled, Prod.mk.injEq, Except.ok.injEq] at generated
    obtain ⟨rfl, rfl⟩ := generated
    exact ⟨valid, rfl, build_of_compile_empty (a := a) (congrArg Prod.fst compiled)⟩

/-- The cache of a request is a new one. -/
theorem CommandLine.Request.exists_cache_eq {arguments : List String} {r : Request}
    (asked : read arguments = .ok r) :
    ∃ capacity positive, r.cache = Cache.empty capacity positive := by
  unfold read at asked
  obtain ⟨shared, -, asked⟩ := bind_eq_ok.1 asked
  cases command : shared.command with
  | none => simp [command] at asked
  | some c =>
    obtain ⟨name, arguments⟩ := c
    simp only [command] at asked
    obtain ⟨⟨what, extras⟩, -, asked⟩ := bind_eq_ok.1 asked
    dsimp only at asked
    split at asked
    · cases asked
    · cases room : Cache.ofCapacity? shared.capacity with
      | none => simp [room] at asked
      | some cache =>
        simp only [room, pure, Except.pure, Except.ok.injEq] at asked
        subst asked
        unfold Cache.ofCapacity? at room
        split at room
        · rename_i positive
          exact ⟨_, positive, (Option.some.inj room).symm⟩
        · cases room

end FlatRecord
