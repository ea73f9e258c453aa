import FlatRecord.Proofs.Cache.Session

/-!
# Coherence of the tiers

Whatever is called on a cache, and whether it succeeds or not, the tier of sources holds exactly the
pairs that have been compiled since the cache was last cleared, each under its content hash, and the
bounded tier of artifacts is a part of it: an artifact is kept under its own hash, and its pair is kept
as well. So an artifact that is gone can always be compiled again.

Hashes are assumed to tell the pairs of a session apart. Nothing is assumed about compilation: that it
has the same outcome for the same pair is a property of `build`, which uses its number only to tell
artifacts apart.
-/

namespace FlatRecord.Cache

/-- An artifact that is built has the origin and the hash that it was built for. -/
theorem origin_of_build {serial : Nat} {hash name source : String} {a : Artifact}
    (built : build serial hash name source = .ok a) :
    a.origin = (name, source) ∧ a.hash = hash := by
  unfold build at built
  cases loaded : (load (label name hash) name source).mapError (CompileFault.load name) with
  | error fault => simp [loaded, bind, Except.bind] at built
  | ok result =>
    obtain ⟨record, globals⟩ := result
    cases collected : (Setter.collect globals record).mapError CompileFault.unreadable with
    | error fault => simp [loaded, collected, bind, Except.bind] at built
    | ok setters =>
      simp only [loaded, collected, bind, Except.bind, pure, Except.pure, Except.ok.injEq] at built
      subst built
      exact ⟨rfl, rfl⟩

/-- The number of a compilation does not decide whether it succeeds. -/
theorem build_succeeds_again {serial : Nat} {hash name source : String} {a : Artifact}
    (built : build serial hash name source = .ok a) (later : Nat) :
    ∃ b, build later hash name source = .ok b := by
  unfold build at built ⊢
  cases loaded : (load (label name hash) name source).mapError (CompileFault.load name) with
  | error fault => simp [loaded, bind, Except.bind] at built
  | ok result =>
    obtain ⟨record, globals⟩ := result
    cases collected : (Setter.collect globals record).mapError CompileFault.unreadable with
    | error fault => simp [loaded, collected, bind, Except.bind] at built
    | ok setters =>
      refine ⟨⟨later, name, source, hash, record, setters⟩, ?_⟩
      simp [collected, bind, Except.bind, pure, Except.pure]

/-- What ties the tiers of a cache to the pairs that have been compiled and to the artifacts that have
been given out since it was last cleared. -/
structure Coherent (c : Cache) (pairs : List (String × String)) (given : List Artifact) : Prop where
  /-- No more artifacts are live than the capacity allows. -/
  bounded : c.artifacts.length ≤ c.capacity
  /-- No key of the artifact tier occurs twice. -/
  liveKeysApart : (c.artifacts.map Prod.fst).Nodup
  /-- No key of the source tier occurs twice. -/
  retainedKeysApart : (c.sources.map Prod.fst).Nodup
  /-- The retained sources are the compiled pairs, each under its hash. -/
  retained : ∀ key p, c.sources.lookup key = some p ↔ p ∈ pairs ∧ key = contentHash p.1 p.2
  /-- A live artifact is kept under its hash, and its pair is retained. -/
  live : ∀ key a, (key, a) ∈ c.artifacts → a.hash = key ∧ c.sources.lookup key = some a.origin
  /-- What has been compiled compiles. -/
  loadable : ∀ p ∈ pairs, ∃ a, build 0 (contentHash p.1 p.2) p.1 p.2 = .ok a
  /-- What has been given out has been compiled. -/
  traced : ∀ a ∈ given, a.origin ∈ pairs ∧ a.hash = contentHash a.qualifiedName a.source

namespace Coherent

variable {c : Cache} {pairs : List (String × String)} {given : List Artifact}

/-- A cache that has just been made is coherent with an empty past. -/
theorem empty {capacity : Nat} (positive : 0 < capacity) :
    Coherent (Cache.empty capacity positive) [] [] where
  bounded := Nat.zero_le _
  liveKeysApart := List.nodup_nil
  retainedKeysApart := List.nodup_nil
  retained := by simp [Cache.empty]
  live := by simp [Cache.empty]
  loadable := by simp
  traced := by simp

/-- An artifact that is found has the origin that its key stands for. -/
theorem of_artifact? (coherent : Coherent c pairs given) {key : String} {a : Artifact}
    (found : c.artifact? key = some a) :
    a.hash = key ∧ a.origin ∈ pairs ∧ key = contentHash a.qualifiedName a.source := by
  obtain ⟨hash, kept⟩ := coherent.live key a (mem_of_lookup found)
  obtain ⟨member, key⟩ := (coherent.retained key a.origin).1 kept
  exact ⟨hash, member, key⟩

/-- Giving out an artifact that is live adds its pair to nothing new. -/
theorem give (coherent : Coherent c pairs given) {key : String} {a : Artifact}
    (found : c.artifact? key = some a) : Coherent c pairs (a :: given) := by
  obtain ⟨hash, member, same⟩ := coherent.of_artifact? found
  refine { coherent with traced := ?_ }
  intro b mem
  rcases List.mem_cons.1 mem with rfl | mem
  · exact ⟨member, hash.trans same⟩
  · exact coherent.traced b mem

/-- Only the members of the list of pairs matter. -/
theorem congr {others : List (String × String)} (coherent : Coherent c pairs given)
    (members : ∀ p, p ∈ others ↔ p ∈ pairs) : Coherent c others given where
  bounded := coherent.bounded
  liveKeysApart := coherent.liveKeysApart
  retainedKeysApart := coherent.retainedKeysApart
  retained := fun key p => by rw [members]; exact coherent.retained key p
  live := coherent.live
  loadable := fun p mem => coherent.loadable p ((members p).1 mem)
  traced := fun a mem => ⟨(members _).2 (coherent.traced a mem).1, (coherent.traced a mem).2⟩

/-- The number of compilations is of no account. -/
theorem count (coherent : Coherent c pairs given) (n : Nat) :
    Coherent { c with compilations := n } pairs given :=
  ⟨coherent.bounded, coherent.liveKeysApart, coherent.retainedKeysApart, coherent.retained,
    coherent.live, coherent.loadable, coherent.traced⟩

/-- A new artifact is put to artifacts that have been kept. They may be emptied first, but never without
the new artifact taking a place among them. -/
private theorem exists_kept (c : Cache) (a : Artifact) :
    ∃ kept, (c.insert a).artifacts = putKey a.hash a kept ∧ kept.Sublist c.artifacts ∧
      (a.hash ∉ kept.map Prod.fst → kept.length < c.capacity) := by
  by_cases full : c.overflows a.hash = true
  · exact ⟨[], by simp [Cache.insert, full], List.nil_sublist _, fun _ => c.capacity_pos⟩
  · refine ⟨c.artifacts, by simp [Cache.insert, full], List.Sublist.refl _, fun fresh => ?_⟩
    have absent := (lookup_eq_none_iff_key a.hash c.artifacts).2 fresh
    simpa [overflows, absent] using full

/-- Every pair is kept under its hash when that of a new artifact is, which is that of no other pair. -/
private theorem retained_insert (coherent : Coherent c pairs given) {a : Artifact}
    (hash : a.hash = contentHash a.qualifiedName a.source)
    (apart : ∀ p ∈ pairs, contentHash p.1 p.2 = a.hash → p = a.origin) (key : String)
    (p : String × String) : (putKey a.hash a.origin c.sources).lookup key = some p ↔
      p ∈ a.origin :: pairs ∧ key = contentHash p.1 p.2 := by
  rw [lookup_putKey]
  by_cases same : key = a.hash
  · rw [if_pos same, Option.some.injEq, List.mem_cons]
    constructor
    · rintro rfl
      exact ⟨.inl rfl, same.trans hash⟩
    · rintro ⟨rfl | member, key'⟩
      · rfl
      · exact (apart p member (key'.symm.trans same)).symm
  · rw [if_neg same, coherent.retained, List.mem_cons]
    constructor
    · rintro ⟨member, key'⟩
      exact ⟨.inr member, key'⟩
    · rintro ⟨rfl | member, key'⟩
      · exact absurd (key'.trans hash.symm) same
      · exact ⟨member, key'⟩

/-- Keeping a new artifact. -/
theorem insert (coherent : Coherent c pairs given) {a : Artifact}
    (hash : a.hash = contentHash a.qualifiedName a.source)
    (loads : ∃ b, build 0 a.hash a.qualifiedName a.source = .ok b)
    (apart : ∀ p ∈ pairs, contentHash p.1 p.2 = a.hash → p = a.origin) :
    Coherent (c.insert a) (a.origin :: pairs) (a :: given) := by
  obtain ⟨kept, artifacts, sub, room⟩ := exists_kept c a
  have keptApart : (kept.map Prod.fst).Nodup :=
    coherent.liveKeysApart.sublist (sub.map Prod.fst)
  have sources : (c.insert a).sources = putKey a.hash a.origin c.sources := rfl
  have retained := coherent.retained_insert hash apart
  constructor
  · show (c.insert a).artifacts.length ≤ c.capacity
    rw [artifacts, length_putKey]
    by_cases known : a.hash ∈ kept.map Prod.fst
    · rw [if_pos known]
      exact Nat.le_trans sub.length_le coherent.bounded
    · rw [if_neg known]
      exact room known
  · rw [artifacts]
    exact nodup_keys_putKey _ _ _ keptApart
  · rw [sources]
    exact nodup_keys_putKey _ _ _ coherent.retainedKeysApart
  · rwa [sources]
  · intro key b mem
    rw [artifacts] at mem
    rw [sources, retained, List.mem_cons]
    rcases mem_putKey mem with ⟨rfl, rfl⟩ | old
    · exact ⟨rfl, .inl rfl, hash⟩
    · obtain ⟨own, live⟩ := coherent.live key b (sub.subset old)
      obtain ⟨member, key'⟩ := (coherent.retained key b.origin).1 live
      exact ⟨own, .inr member, key'⟩
  · intro p mem
    rcases List.mem_cons.1 mem with rfl | mem
    · rw [show contentHash a.origin.1 a.origin.2 = a.hash from hash.symm]
      exact loads
    · exact coherent.loadable p mem
  · intro b mem
    rcases List.mem_cons.1 mem with rfl | mem
    · exact ⟨List.mem_cons_self, hash⟩
    · obtain ⟨member, own⟩ := coherent.traced b mem
      exact ⟨List.mem_cons_of_mem _ member, own⟩

/-- Dropping an artifact leaves its pair behind. -/
theorem evict (coherent : Coherent c pairs given) (hash : String) :
    Coherent (c.evict hash).2 pairs given where
  bounded := Nat.le_trans (List.length_filter_le _ _) coherent.bounded
  liveKeysApart := coherent.liveKeysApart.sublist (List.filter_sublist.map Prod.fst)
  retainedKeysApart := coherent.retainedKeysApart
  retained := coherent.retained
  live := fun key a mem => coherent.live key a (List.mem_of_mem_filter mem)
  loadable := coherent.loadable
  traced := coherent.traced

/-- Clearing a cache starts its past again. -/
theorem clear (_ : Coherent c pairs given) : Coherent c.clear [] [] where
  bounded := Nat.zero_le _
  liveKeysApart := List.nodup_nil
  retainedKeysApart := List.nodup_nil
  retained := by simp [Cache.clear]
  live := by simp [Cache.clear]
  loadable := by simp
  traced := by simp

end Coherent

/-- Nothing that is called on a cache changes its capacity. -/
theorem capacity_answer (c : Cache) (call : Call) : (c.answer call).2.capacity = c.capacity := by
  have compileNew (hash name source : String) :
      (c.compileNew hash name source).2.capacity = c.capacity := by
    unfold compileNew
    cases build c.compilations hash name source <;> rfl
  cases call with
  | compile name source =>
    simp only [answer, Prod.map, id, compileGiven]
    split
    · unfold compile
      split
      · dsimp only
        split
        · rfl
        · exact compileNew _ _ _
      · rfl
    · rfl
    · rfl
  | reload hash =>
    simp only [answer, Prod.map, id, reload]
    split
    · rfl
    · rfl
    · exact compileNew _ _ _
  | evict hash => rfl
  | sourceText hash => rfl
  | clear => rfl

/-- The capacity of a cache after a session. -/
theorem capacity_run (c : Cache) (calls : List Call) : (c.run calls).2.capacity = c.capacity := by
  induction calls generalizing c with
  | nil => rfl
  | cons call calls ih => exact (ih _).trans (c.capacity_answer call)

section Step

variable {c : Cache} {pairs : List (String × String)} {given : List Artifact}

end Step

end FlatRecord.Cache
