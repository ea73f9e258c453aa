import FlatRecord.Proofs.Cache.Transparency

/-!
# What is live after what

A cache that has been asked for things keeps only artifacts that it kept before or has compiled since,
and what it compiles is numbered on from the compilations so far. So an artifact that is gone never comes
back: what is compiled in its place has a greater number. An artifact that is given out again under the
same hash is the one that was given out before exactly if it has been live all the time.
-/

namespace FlatRecord.Cache

variable {c c' c'' : Cache}

/-- A compiled artifact has the number of its compilation. -/
theorem serial_of_build {serial : Nat} {hash name source : String} {a : Artifact}
    (built : build serial hash name source = .ok a) : a.serial = serial := by
  have numbered := build_renumber serial serial hash name source
  rw [built] at numbered
  exact congrArg Artifact.serial (Except.ok.inj numbered)

/-- Whether a cache may come after another one: what is live has been live or has been compiled since,
and compilations are counted on. -/
structure Advances (c c' : Cache) : Prop where
  counts : c.compilations ≤ c'.compilations
  kept : ∀ hash a, c'.artifact? hash = some a → c.artifact? hash = some a ∨
    a.hash = hash ∧ c.compilations ≤ a.serial ∧ a.serial < c'.compilations

namespace Advances

theorem refl (c : Cache) : Advances c c := ⟨Nat.le_refl _, fun _ _ live => .inl live⟩

theorem trans (first : Advances c c') (second : Advances c' c'') : Advances c c'' where
  counts := Nat.le_trans first.counts second.counts
  kept := by
    intro hash a live
    obtain live | ⟨own, since, before⟩ := second.kept hash a live
    · refine (first.kept hash a live).imp_right fun ⟨own, since, before⟩ => ?_
      exact ⟨own, since, Nat.lt_of_lt_of_le before second.counts⟩
    · exact .inr ⟨own, Nat.le_trans first.counts since, before⟩

/-- An artifact that was numbered before and is live now has been live before. -/
theorem artifact?_eq_some (advances : Advances c c') {a : Artifact} (old : a.serial < c.compilations)
    {hash : String} (live : c'.artifact? hash = some a) : c.artifact? hash = some a := by
  refine (advances.kept hash a live).resolve_right fun ⟨_, since, _⟩ => ?_
  exact Nat.not_lt.2 since old

end Advances

/-- What a compilation changes: nothing but the count if it fails, and otherwise the artifact is live. -/
theorem compileNew_cases_artifact? (c : Cache) (hash name source : String) :
    (c.compileNew hash name source).2.compilations = c.compilations + 1 ∧
      ((∃ a, (c.compileNew hash name source).1 = .ok a ∧ a.hash = hash ∧ a.serial = c.compilations ∧
          (c.compileNew hash name source).2.artifact? hash = some a ∧
          ∀ key b, key ≠ hash → (c.compileNew hash name source).2.artifact? key = some b →
            c.artifact? key = some b) ∨
        ((∃ fault, (c.compileNew hash name source).1 = .error fault) ∧
          (c.compileNew hash name source).2.artifacts = c.artifacts)) := by
  unfold compileNew
  cases built : build c.compilations hash name source with
  | error fault => exact ⟨rfl, .inr ⟨⟨fault, rfl⟩, rfl⟩⟩
  | ok a =>
    obtain ⟨-, rfl⟩ := origin_of_build built
    refine ⟨rfl, .inl ⟨a, rfl, rfl, serial_of_build built, ?_, fun key b other live => ?_⟩⟩
    · exact (lookup_putKey _ _ _ _).trans (if_pos rfl)
    · have old := ((lookup_putKey _ _ _ _).trans (if_neg other)).symm.trans live
      split at old
      · cases old
      · exact old

theorem advances_compileNew (c : Cache) (hash name source : String) :
    Advances c (c.compileNew hash name source).2 := by
  obtain ⟨count, ⟨a, -, own, number, live, others⟩ | ⟨-, same⟩⟩ :=
    c.compileNew_cases_artifact? hash name source
  · refine ⟨by omega, fun key b found => ?_⟩
    by_cases here : key = hash
    · obtain rfl : a = b := by simpa [here, live] using found
      exact .inr ⟨own.trans here.symm, by omega, by omega⟩
    · exact .inl (others key b here found)
  · refine ⟨by omega, fun key b found => .inl ?_⟩
    rwa [artifact?, same] at found

theorem advances_compile (c : Cache) (name source : String) :
    Advances c (c.compile name source).2 := by
  unfold compile
  split
  · dsimp only
    split
    · exact .refl c
    · exact c.advances_compileNew _ _ _
  · exact .refl c

theorem advances_compileGiven (c : Cache) (name source : Datum) :
    Advances c (c.compileGiven name source).2 := by
  unfold compileGiven
  split
  · exact c.advances_compile _ _
  · exact .refl c
  · exact .refl c

theorem advances_reload (c : Cache) (hash : String) : Advances c (c.reload hash).2 := by
  unfold reload
  split
  · exact .refl c
  · exact .refl c
  · exact c.advances_compileNew _ _ _

/-- Dropping an artifact leaves the others. -/
theorem artifact?_evict (c : Cache) (hash key : String) :
    (c.evict hash).2.artifact? key = if key = hash then none else c.artifact? key := by
  unfold evict artifact?
  dsimp only
  induction c.artifacts with
  | nil => exact (ite_self none).symm
  | cons entry rest ih =>
    obtain ⟨k, a⟩ := entry
    rw [List.filter_cons]
    by_cases here : key = k
    · subst here
      by_cases dropped : key = hash
      · rw [if_neg (by simpa using dropped), ih, if_pos dropped, if_pos dropped]
      · rw [if_pos (by simpa using dropped), List.lookup_cons_self, if_neg dropped,
          List.lookup_cons_self]
    · have other : (key == k) = false := beq_false_of_ne here
      rw [List.lookup_cons, other]
      by_cases dropped : k = hash
      · rw [if_neg (by simpa using dropped), ih]
      · rw [if_pos (by simpa using dropped), List.lookup_cons, other, ih]

/-- A generated type is compiled, unless the cache is left as it is. -/
theorem generate_cases (c : Cache) (submitted : Option Submission) (verify : Bool) :
    ((∃ fault, (c.generate submitted verify).1 = .error fault) ∧ (c.generate submitted verify).2 = c) ∨
      ∃ name source, (c.generate submitted verify).2 = (c.compile name source).2 ∧
        (c.generate submitted verify).1.toOption.map GeneratedType.artifact =
          (c.compile name source).1.toOption := by
  unfold generate
  cases validateSubmission submitted with
  | error violation => exact .inl ⟨⟨_, rfl⟩, rfl⟩
  | ok d =>
    dsimp only
    cases d.source with
    | error fault => exact .inl ⟨⟨_, rfl⟩, rfl⟩
    | ok source =>
      refine .inr ⟨d.qualifiedName, source, ?_⟩
      dsimp only
      cases c.compile d.qualifiedName source with
      | mk result left => cases result <;> exact ⟨rfl, rfl⟩

/-- A document is rendered through what its name and its source compile to. -/
theorem render_snd (c : Cache) (name source : Datum) (document : Document) (format : OutputFormat)
    (pretty : Bool) : (c.render name source document format pretty).2 =
      (c.compileGiven name source).2 := by
  unfold render
  cases c.compileGiven name source with
  | mk result left => cases result <;> rfl

/-- The cache that a request leaves behind comes after the one that was asked. -/
theorem advances_after (c : Cache) (request : Request) : Advances c (c.after request) := by
  cases request with
  | generate submitted verify =>
    show Advances c (c.generate submitted verify).2
    obtain ⟨-, same⟩ | ⟨name, source, same, -⟩ := c.generate_cases submitted verify
    · rw [same]
      exact .refl c
    · rw [same]
      exact c.advances_compile name source
  | render name source document format pretty =>
    show Advances c (c.render name source document format pretty).2
    rw [render_snd]
    exact c.advances_compileGiven name source
  | evict hash =>
    refine ⟨Nat.le_refl _, fun key a live => .inl ?_⟩
    have found : (c.evict hash).2.artifact? key = some a := live
    rw [artifact?_evict] at found
    split at found
    · cases found
    · exact found
  | reload hash => exact c.advances_reload hash
  | reset => exact ⟨Nat.le_refl _, fun _ _ live => absurd live (Option.some_ne_none _).symm⟩

theorem advances_foldl_after (c : Cache) (requests : List Request) :
    Advances c (requests.foldl after c) := by
  induction requests generalizing c with
  | nil => exact .refl c
  | cons request requests ih => exact (c.advances_after request).trans (ih (c.after request))

/-- Whether live artifacts are kept under their hashes and numbered before the next compilation. -/
def IsNumbered (c : Cache) : Prop :=
  ∀ hash a, c.artifact? hash = some a → a.hash = hash ∧ a.serial < c.compilations

theorem IsNumbered.of_advances (numbered : c.IsNumbered) (advances : Advances c c') :
    c'.IsNumbered := by
  intro hash a live
  obtain live | ⟨own, -, before⟩ := advances.kept hash a live
  · exact (numbered hash a live).imp_right fun before => Nat.lt_of_lt_of_le before advances.counts
  · exact ⟨own, before⟩

/-- A cache that has been asked for things since it was made numbers its artifacts. -/
theorem isNumbered_foldl_after {capacity : Nat} (positive : 0 < capacity) (requests : List Request) :
    (requests.foldl after (empty capacity positive)).IsNumbered := by
  have fresh : (empty capacity positive).IsNumbered := fun hash a live =>
    absurd live (Option.some_ne_none a).symm
  exact fresh.of_advances (advances_foldl_after _ requests)

/-- The artifact that a request is answered with: one that is generated, one whose class a document is
rendered through, or one that is found or compiled again. -/
def answered (c : Cache) : Request → Option Artifact
  | .generate submitted verify => (c.generate submitted verify).1.toOption.map (·.artifact)
  | .render name source _ _ _ => (c.compileGiven name source).1.toOption
  | .reload hash => (c.reload hash).1.toOption
  | _ => none

/-- How an artifact comes to be given out: it is live, or it is the next compilation because none was
live under its hash. Either way it is live afterwards. -/
def GivesOut (c c' : Cache) (a : Artifact) : Prop :=
  c'.artifact? a.hash = some a ∧
    (c.artifact? a.hash = some a ∨ c.artifact? a.hash = none ∧ a.serial = c.compilations)

/-- A compilation gives out what it compiles. -/
theorem givesOut_of_compileNew {hash name source : String} {a : Artifact}
    (missing : c.artifact? hash = none) (compiled : (c.compileNew hash name source).1 = .ok a) :
    GivesOut c (c.compileNew hash name source).2 a := by
  obtain ⟨-, ⟨b, same, own, number, live, -⟩ | ⟨⟨fault, failed⟩, -⟩⟩ :=
    c.compileNew_cases_artifact? hash name source
  · obtain rfl : b = a := Except.ok.inj (same.symm.trans compiled)
    subst own
    exact ⟨live, .inr ⟨missing, number⟩⟩
  · rw [failed] at compiled
    cases compiled

namespace IsNumbered

variable (numbered : c.IsNumbered) {a : Artifact}
include numbered

/-- A live artifact is given out as it is. -/
theorem givesOut_of_live {hash : String} (live : c.artifact? hash = some a) : GivesOut c c a := by
  obtain ⟨rfl, -⟩ := numbered hash a live
  exact ⟨live, .inl live⟩

theorem givesOut_of_compile {name source : String} (compiled : (c.compile name source).1 = .ok a) :
    GivesOut c (c.compile name source).2 a := by
  unfold compile at compiled ⊢
  split
  · rename_i qualified
    rw [if_pos qualified] at compiled
    dsimp only at compiled ⊢
    cases found : c.artifact? (contentHash name source) with
    | some b =>
      rw [found] at compiled
      obtain rfl := Except.ok.inj compiled
      exact numbered.givesOut_of_live found
    | none =>
      rw [found] at compiled
      exact givesOut_of_compileNew found compiled
  · rename_i unqualified
    rw [if_neg unqualified] at compiled
    cases compiled

theorem givesOut_of_compileGiven {name source : Datum}
    (compiled : (c.compileGiven name source).1 = .ok a) :
    GivesOut c (c.compileGiven name source).2 a := by
  cases name with
  | text n =>
    cases source with
    | text s => exact numbered.givesOut_of_compile compiled
    | _ => cases compiled
  | _ => cases compiled

theorem givesOut_of_reload {hash : String} (reloaded : (c.reload hash).1 = .ok a) :
    GivesOut c (c.reload hash).2 a := by
  unfold reload at reloaded ⊢
  cases found : c.artifact? hash with
  | some b =>
    rw [found] at reloaded
    obtain rfl := Except.ok.inj reloaded
    exact numbered.givesOut_of_live found
  | none =>
    rw [found] at reloaded
    cases kept : c.sources.lookup hash with
    | none =>
      rw [kept] at reloaded
      cases reloaded
    | some p =>
      rw [kept] at reloaded
      refine givesOut_of_compileNew found ?_
      dsimp only at reloaded
      cases result : (c.compileNew hash p.1 p.2).1 with
      | ok b =>
        rw [result] at reloaded
        exact congrArg _ (Except.ok.inj reloaded)
      | error fault =>
        rw [result] at reloaded
        cases reloaded

/-- A request gives out the artifact that it is answered with. -/
theorem givesOut_of_answered {request : Request} (given : c.answered request = some a) :
    GivesOut c (c.after request) a := by
  cases request with
  | generate submitted verify =>
    show GivesOut c (c.generate submitted verify).2 a
    have asked : (c.generate submitted verify).1.toOption.map GeneratedType.artifact = some a := given
    obtain ⟨⟨fault, failed⟩, -⟩ | ⟨name, source, same, compiled⟩ := c.generate_cases submitted verify
    · rw [failed] at asked
      cases asked
    · rw [same]
      exact numbered.givesOut_of_compile (toOption_eq_some.1 (compiled.symm.trans asked))
  | render name source document format pretty =>
    show GivesOut c (c.render name source document format pretty).2 a
    rw [render_snd]
    exact numbered.givesOut_of_compileGiven (toOption_eq_some.1 given)
  | reload hash => exact numbered.givesOut_of_reload (toOption_eq_some.1 given)
  | _ => cases given

end IsNumbered

/-- Whether an artifact is live all the time while a cache is asked for things: before each request and
after the last one. -/
def StaysLive (a : Artifact) : Cache → List Request → Prop
  | c, [] => c.artifact? a.hash = some a
  | c, request :: requests => c.artifact? a.hash = some a ∧ StaysLive a (c.after request) requests

/-- An artifact that was numbered before and is live in the end has been live all the time. -/
theorem staysLive_iff {a : Artifact} (old : a.serial < c.compilations) (requests : List Request) :
    StaysLive a c requests ↔ (requests.foldl after c).artifact? a.hash = some a := by
  induction requests generalizing c with
  | nil => rfl
  | cons request requests ih =>
    have next := c.advances_after request
    rw [StaysLive, ih (Nat.lt_of_lt_of_le old next.counts), List.foldl_cons]
    refine and_iff_right_of_imp fun live => ?_
    exact (next.trans (advances_foldl_after _ requests)).artifact?_eq_some old live

/-- What is given out under the hash of an artifact after it has been given out: the artifact itself, if
it has been live all the time, and a later compilation otherwise. -/
theorem IsNumbered.answered_again (numbered : c.IsNumbered) {first last : Request}
    {between : List Request} {a b : Artifact} (given : c.answered first = some a)
    (again : (between.foldl after (c.after first)).answered last = some b) (same : a.hash = b.hash) :
    StaysLive a (c.after first) between ∧ b = a ∨
      ¬ StaysLive a (c.after first) between ∧ a.serial < b.serial := by
  have between_numbered : (c.after first).IsNumbered := numbered.of_advances (c.advances_after first)
  have later : Advances (c.after first) (between.foldl after (c.after first)) :=
    advances_foldl_after _ between
  obtain ⟨live, -⟩ := numbered.givesOut_of_answered given
  obtain ⟨-, old⟩ := between_numbered _ a live
  obtain ⟨-, found⟩ := (between_numbered.of_advances later).givesOut_of_answered again
  rw [← same] at found
  rw [staysLive_iff old]
  by_cases still : (between.foldl after (c.after first)).artifact? a.hash = some a
  · rw [still] at found
    have itself := found.resolve_right fun gone => Option.some_ne_none a gone.1
    exact .inl ⟨still, (Option.some.inj itself).symm⟩
  · refine .inr ⟨still, ?_⟩
    obtain found | ⟨-, new⟩ := found
    · obtain before | ⟨-, since, -⟩ := later.kept _ b found
      · obtain rfl : a = b := Option.some.inj (live.symm.trans before)
        exact absurd found still
      · exact Nat.lt_of_lt_of_le old since
    · rw [new]
      exact Nat.lt_of_lt_of_le old later.counts

end FlatRecord.Cache
