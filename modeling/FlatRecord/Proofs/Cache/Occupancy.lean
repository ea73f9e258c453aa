import FlatRecord.Proofs.Cache.Coherence
import Mathlib.Data.List.Induction
import Mathlib.Data.List.Nodup

/-!
# How full the tiers get

A cache is asked to compile one pair of a name and a source after the other, and again for pairs that are
still live. Being asked again changes nothing. Every pair that is new finds room, or the artifacts that
fill the tier give way to its own: the artifacts that are live are always those of the last few pairs, and
how few is a remainder by the capacity. The tier of sources and the number of compilations only grow.
-/

namespace FlatRecord.Cache

/-- The call that asks to compile a pair of a name and a source. -/
def Call.ofPair (p : String × String) : Call := .compile (.text p.1) (.text p.2)

theorem ofPair_injective {p q : String × String} (same : Call.ofPair p = .ofPair q) : p = q := by
  obtain ⟨names, sources⟩ := Call.compile.inj same
  exact Prod.ext (Datum.text.inj names) (Datum.text.inj sources)

/-- Whether an artifact is live under the content hash of a pair. -/
def IsLive (c : Cache) (p : String × String) : Prop :=
  (c.artifact? (contentHash p.1 p.2)).isSome

instance (c : Cache) (p : String × String) : Decidable (c.IsLive p) := by
  unfold IsLive
  infer_instance

/-- Whether a new cache compiles a pair. -/
def Compiles (p : String × String) : Prop :=
  ((empty 1 Nat.one_pos).compile p.1 p.2).1.toOption.isSome

instance (p : String × String) : Decidable (Compiles p) := by
  unfold Compiles
  infer_instance

/-- What a new cache answers when it is asked for pairs one after the other, and what is left of it. -/
def ask {capacity : Nat} (positive : 0 < capacity) (pairs : List (String × String)) :
    List Event × Cache :=
  (empty capacity positive).run (pairs.map .ofPair)

/-- Whether a pair is only asked for again while it is live. -/
def RepeatsLive {capacity : Nat} (positive : 0 < capacity) (pairs : List (String × String)) : Prop :=
  ∀ i (h : i < pairs.length), pairs[i] ∈ pairs.take i →
    (ask positive (pairs.take i)).2.IsLive pairs[i]

instance {capacity : Nat} (positive : 0 < capacity) (pairs : List (String × String)) :
    Decidable (RepeatsLive positive pairs) := by
  unfold RepeatsLive
  infer_instance

section Counting

variable {α : Type} {capacity : Nat}

/-- The number of artifacts that are live when a number of them have been kept. -/
def occupancy (capacity : Nat) : Nat → Nat
  | 0 => 0
  | n + 1 => n % capacity + 1

/-- The last of some artifacts, as many as are live. -/
def latest (capacity : Nat) (xs : List α) : List α :=
  xs.drop (xs.length - occupancy capacity xs.length)

theorem occupancy_eq {n : Nat} (positive : 0 < n) : occupancy capacity n = (n - 1) % capacity + 1 := by
  cases n with
  | zero => exact absurd positive (Nat.lt_irrefl 0)
  | succ n => rfl

theorem occupancy_le (n : Nat) : occupancy capacity n ≤ n := by
  cases n with
  | zero => exact Nat.le_refl 0
  | succ n => exact Nat.succ_le_succ (Nat.mod_le n capacity)

theorem length_latest (xs : List α) : (latest capacity xs).length = occupancy capacity xs.length := by
  rw [latest, List.length_drop, Nat.sub_sub_self (occupancy_le _)]

theorem latest_eq {xs : List α} (nonempty : xs ≠ []) :
    latest capacity xs = xs.drop (xs.length - ((xs.length - 1) % capacity + 1)) := by
  rw [latest, occupancy_eq (List.length_pos_iff.2 nonempty)]

theorem latest_map {β : Type} (f : α → β) (xs : List α) :
    latest capacity (xs.map f) = (latest capacity xs).map f := by
  rw [latest, latest, List.length_map, List.map_drop]

theorem occupancy_le_capacity (positive : 0 < capacity) (n : Nat) : occupancy capacity n ≤ capacity := by
  cases n with
  | zero => exact Nat.zero_le _
  | succ n => exact Nat.mod_lt n positive

/-- One more artifact starts a full tier again. -/
theorem occupancy_succ (positive : 0 < capacity) (n : Nat) : occupancy capacity (n + 1) =
    if occupancy capacity n = capacity then 1 else occupancy capacity n + 1 := by
  cases n with
  | zero =>
    show 0 % capacity + 1 = if 0 = capacity then 1 else 0 + 1
    rw [if_neg (Nat.ne_of_lt positive), Nat.zero_mod]
  | succ n =>
    show (n + 1) % capacity + 1 = if n % capacity + 1 = capacity then 1 else n % capacity + 1 + 1
    rw [← Nat.mod_add_mod]
    split
    · rename_i full
      rw [full, Nat.mod_self]
    · rename_i room
      rw [Nat.mod_eq_of_lt (Nat.lt_of_le_of_ne (Nat.mod_lt n positive) room)]

/-- One more artifact is live on its own, or behind those that were live. -/
theorem latest_concat (positive : 0 < capacity) (xs : List α) (x : α) : latest capacity (xs ++ [x]) =
    if capacity ≤ (latest capacity xs).length then [x] else latest capacity xs ++ [x] := by
  have bound := occupancy_le_capacity positive xs.length
  have kept : occupancy capacity xs.length ≤ xs.length := occupancy_le _
  rw [length_latest, latest, List.length_append, List.length_singleton, occupancy_succ positive]
  by_cases full : occupancy capacity xs.length = capacity
  · rw [if_pos full, if_pos (Nat.le_of_eq full.symm), Nat.add_sub_cancel, List.drop_left]
  · rw [if_neg full, if_neg (by omega), Nat.add_sub_add_right, List.drop_append_of_le_length (by omega)]
    rfl

/-- One more element of a list is one more without repetitions, unless it was there before. -/
theorem eraseDups_concat [BEq α] [LawfulBEq α] (xs : List α) (x : α) :
    (xs ++ [x]).eraseDups = if x ∈ xs then xs.eraseDups else xs.eraseDups ++ [x] := by
  rw [List.eraseDups_append]
  split
  · rename_i known
    simp [List.removeAll, known]
  · rename_i unknown
    simp [List.removeAll, unknown, List.eraseDups_cons]

end Counting

/-- A pair that compiles has a dotted name, and building its artifact succeeds. -/
theorem Compiles.build {p : String × String} (compiles : Compiles p) (serial : Nat) :
    Naming.isQualified p.1 ∧ ∃ a, build serial (contentHash p.1 p.2) p.1 p.2 = .ok a := by
  by_cases qualified : Naming.isQualified p.1
  · refine ⟨qualified, ?_⟩
    rw [Compiles, compile_fst _ qualified] at compiles
    obtain ⟨a, built⟩ := exists_ok_iff_isSome.2 compiles
    exact build_succeeds_again built serial
  · rw [Compiles, compile, if_neg qualified] at compiles
    cases compiles

/-- What a cache looks like that has kept artifacts one after the other, each for a pair that was new. -/
structure Filled (c : Cache) (kept : List Artifact) : Prop where
  /-- The last few are live, each under its hash. -/
  live : c.artifacts = (latest c.capacity kept).map fun a => (a.hash, a)
  /-- The pairs of all of them are retained. -/
  retained : c.sources = kept.map fun a => (a.hash, a.origin)
  /-- Each of them took one compilation. -/
  compilations : c.compilations = kept.length
  /-- Each of them has the hash of its pair. -/
  own : ∀ a ∈ kept, a.hash = contentHash a.origin.1 a.origin.2
  /-- No two of them have the same pair. -/
  apart : (kept.map Artifact.origin).Nodup

namespace Filled

variable {c : Cache} {kept : List Artifact} {a : Artifact} {p : String × String}

theorem empty {capacity : Nat} (positive : 0 < capacity) : Filled (Cache.empty capacity positive) [] where
  live := rfl
  retained := rfl
  compilations := rfl
  own := by simp
  apart := List.nodup_nil

/-- A live artifact is among those that were kept. -/
theorem mem_of_artifact? (filled : Filled c kept) {hash : String} (found : c.artifact? hash = some a) :
    a ∈ kept ∧ a.hash = hash := by
  have mem := mem_of_lookup found
  rw [filled.live] at mem
  obtain ⟨b, among, same⟩ := List.mem_map.1 mem
  obtain ⟨rfl, rfl⟩ := Prod.mk.inj same
  exact ⟨List.mem_of_mem_drop among, rfl⟩

theorem length_artifacts (filled : Filled c kept) :
    c.artifacts.length = occupancy c.capacity kept.length := by
  rw [filled.live, List.length_map, length_latest]

/-- The artifacts that were kept have the hashes of their pairs. -/
theorem map_hash_origin (filled : Filled c kept) : (kept.map fun a => (a.hash, a.origin)) =
    (kept.map Artifact.origin).map fun p => (contentHash p.1 p.2, p) := by
  rw [List.map_map]
  exact List.map_congr_left fun a among => congrArg (·, a.origin) (filled.own a among)

/-- The live artifacts are those of the last pairs, each under the hash of its pair. -/
theorem map_artifacts (filled : Filled c kept) : (c.artifacts.map fun entry => (entry.1, entry.2.origin)) =
    (latest c.capacity (kept.map Artifact.origin)).map fun p => (contentHash p.1 p.2, p) := by
  rw [← latest_map, ← filled.map_hash_origin, latest_map, filled.live, List.map_map]
  rfl

/-- The artifacts that were kept are told apart by their pairs. -/
theorem eq_of_origin_eq (filled : Filled c kept) {b : Artifact} (first : a ∈ kept) (second : b ∈ kept)
    (same : a.origin = b.origin) : a = b :=
  List.inj_on_of_nodup_map filled.apart first second same

/-- Keeping the artifact of a new pair, whose hash is new as well. -/
theorem insert (filled : Filled c kept) (own : a.hash = contentHash a.origin.1 a.origin.2)
    (unknown : ∀ b ∈ kept, b.origin ≠ a.origin) (fresh : ∀ b ∈ kept, b.hash ≠ a.hash) :
    Filled ({ c with compilations := c.compilations + 1 }.insert a) (kept ++ [a]) := by
  -- A new hash is a key of neither tier, so the artifact and its pair come last in both.
  have absent {β : Type} (f : Artifact → β) {others : List Artifact}
      (among : ∀ b ∈ others, b ∈ kept) :
      a.hash ∉ (others.map fun b => (b.hash, f b)).map Prod.fst := by
    rw [List.map_map, List.mem_map]
    rintro ⟨b, mem, same⟩
    exact fresh b (among b mem) same
  have missing : a.hash ∉ c.artifacts.map Prod.fst := by
    rw [filled.live]
    exact absent id fun b mem => List.mem_of_mem_drop mem
  have full : ({ c with compilations := c.compilations + 1 } : Cache).overflows a.hash =
      decide (c.capacity ≤ (latest c.capacity kept).length) := by
    show ((c.artifacts.lookup a.hash).isNone && decide (c.capacity ≤ c.artifacts.length)) = _
    rw [(lookup_eq_none_iff_key _ _).2 missing, filled.live, List.length_map]
    rfl
  constructor
  · show putKey a.hash a (if Cache.overflows _ a.hash then [] else c.artifacts) =
      (latest c.capacity (kept ++ [a])).map fun b => (b.hash, b)
    rw [full, latest_concat c.capacity_pos]
    simp only [decide_eq_true_eq]
    split
    · rfl
    · rw [putKey_of_notMem _ _ missing, filled.live, List.map_append]
      rfl
  · show putKey a.hash a.origin c.sources = _
    rw [filled.retained, putKey_of_notMem _ _ (absent Artifact.origin fun _ mem => mem), List.map_append]
    rfl
  · show c.compilations + 1 = _
    rw [filled.compilations, List.length_append]
    rfl
  · exact List.forall_mem_append.2 ⟨filled.own, List.forall_mem_singleton.2 own⟩
  · rw [List.map_append, List.map_singleton, ← List.concat_eq_append, List.nodup_concat]
    refine ⟨fun mem => ?_, filled.apart⟩
    obtain ⟨b, among, same⟩ := List.mem_map.1 mem
    exact unknown b among same

/-- A pair that is live is answered with the artifact that was kept for it, and nothing changes. -/
theorem compile_of_isLive (filled : Filled c kept) (qualified : Naming.isQualified p.1)
    (distinct : ∀ b ∈ kept, contentHash b.origin.1 b.origin.2 = contentHash p.1 p.2 → b.origin = p)
    (live : c.IsLive p) :
    ∃ b ∈ kept, b.origin = p ∧ c.answer (.ofPair p) = (.compiled (.ok b), c) := by
  obtain ⟨b, found⟩ := Option.isSome_iff_exists.1 live
  obtain ⟨among, hash⟩ := filled.mem_of_artifact? found
  refine ⟨b, among, distinct b among ((filled.own b among).symm.trans hash), ?_⟩
  show Prod.map Answer.compiled id (c.compile p.1 p.2) = _
  unfold compile
  rw [if_pos qualified]
  dsimp only
  rw [found]
  rfl

/-- A pair that is new is answered with an artifact of its own, which is kept. -/
theorem compile_of_new (filled : Filled c kept) (compiles : Compiles p)
    (distinct : ∀ b ∈ kept, contentHash b.origin.1 b.origin.2 = contentHash p.1 p.2 → b.origin = p)
    (unknown : ∀ b ∈ kept, b.origin ≠ p) :
    ∃ b, b.origin = p ∧ (c.answer (.ofPair p)).1 = .compiled (.ok b) ∧
      Filled (c.answer (.ofPair p)).2 (kept ++ [b]) := by
  have fresh : ∀ b ∈ kept, b.hash ≠ contentHash p.1 p.2 := fun b among same =>
    unknown b among (distinct b among ((filled.own b among).symm.trans same))
  have missing : c.artifact? (contentHash p.1 p.2) = none := by
    rw [Option.eq_none_iff_forall_ne_some]
    intro b found
    obtain ⟨among, hash⟩ := filled.mem_of_artifact? found
    exact fresh b among hash
  obtain ⟨qualified, b, built⟩ := compiles.build c.compilations
  obtain ⟨origin, hash⟩ := origin_of_build built
  have answer : c.answer (.ofPair p) =
      (.compiled (.ok b), { c with compilations := c.compilations + 1 }.insert b) := by
    show Prod.map Answer.compiled id (c.compile p.1 p.2) = _
    unfold compile
    rw [if_pos qualified]
    dsimp only
    rw [missing]
    dsimp only
    rw [compileNew, built]
    rfl
  rw [answer]
  obtain rfl : b.origin = p := origin
  exact ⟨b, rfl, rfl, filled.insert hash unknown (hash ▸ fresh)⟩

end Filled

section Asking

variable {capacity : Nat} {positive : 0 < capacity} {pairs : List (String × String)} {p : String × String}

/-- One more pair is asked for. -/
theorem ask_concat : ask positive (pairs ++ [p]) =
    ((ask positive pairs).1 ++ [(.ofPair p, ((ask positive pairs).2.answer (.ofPair p)).1)],
      ((ask positive pairs).2.answer (.ofPair p)).2) := by
  rw [ask, List.map_append, run_append]
  rfl

/-- The calls that are answered are those for the pairs. -/
theorem map_fst_ask : (ask positive pairs).1.map Prod.fst = pairs.map .ofPair :=
  map_fst_run _ _

theorem capacity_ask : (ask positive pairs).2.capacity = capacity :=
  capacity_run _ _

/-- The last of some pairs is live if it was among those before. -/
theorem RepeatsLive.of_concat (repeats : RepeatsLive positive (pairs ++ [p])) :
    RepeatsLive positive pairs ∧ (p ∈ pairs → (ask positive pairs).2.IsLive p) := by
  constructor
  · intro i inside known
    have longer : i < (pairs ++ [p]).length := by
      rw [List.length_append]
      exact Nat.lt_add_right _ inside
    have live := repeats i longer
    rw [List.getElem_append_left inside, List.take_append_of_le_length (Nat.le_of_lt inside)] at live
    exact live known
  · have live := repeats pairs.length (by simp)
    rwa [List.getElem_concat_length rfl, List.take_left] at live

/-- Hashes tell the pairs apart that a cache is asked for. -/
theorem hashesApart_map_ofPair : HashesApart (pairs.map .ofPair) ↔
    ∀ p ∈ pairs, ∀ q ∈ pairs, contentHash p.1 p.2 = contentHash q.1 q.2 → p = q := by
  have origins : (pairs.map Call.ofPair).filterMap Call.origin? = pairs := by
    rw [List.filterMap_map]
    exact List.filterMap_some
  rw [HashesApart, origins]

/-- The event in which an artifact is given out for its pair. -/
def eventOf (a : Artifact) : Event := (.ofPair a.origin, .compiled (.ok a))

/-- After pairs have been asked for, again only while they were live, one artifact has been kept for each
of them, and what happened is that these were given out for their pairs. -/
theorem exists_filled (compiles : ∀ p ∈ pairs, Compiles p)
    (apart : ∀ p ∈ pairs, ∀ q ∈ pairs, contentHash p.1 p.2 = contentHash q.1 q.2 → p = q)
    (repeats : RepeatsLive positive pairs) :
    ∃ kept, Filled (ask positive pairs).2 kept ∧ kept.map Artifact.origin = pairs.eraseDups ∧
      ∀ event, event ∈ (ask positive pairs).1 ↔ event ∈ kept.map eventOf := by
  -- The induction is from the end: what a call finds live depends on all that was asked for before.
  induction pairs using List.reverseRecOn with
  | nil => exact ⟨[], .empty positive, rfl, by simp [ask, run]⟩
  | append_singleton pairs p ih =>
    have inside {q : String × String} (mem : q ∈ pairs) : q ∈ pairs ++ [p] := List.mem_append_left [p] mem
    have last : p ∈ pairs ++ [p] := List.mem_append_right pairs (List.mem_singleton.2 rfl)
    obtain ⟨before, live⟩ := repeats.of_concat
    obtain ⟨kept, filled, origins, answers⟩ := ih (fun q mem => compiles q (inside mem))
      (fun q first r second => apart q (inside first) r (inside second)) before
    have asked {b : Artifact} (among : b ∈ kept) : b.origin ∈ pairs := by
      rw [← List.mem_eraseDups, ← origins]
      exact List.mem_map_of_mem among
    have distinct (b : Artifact) (among : b ∈ kept)
        (same : contentHash b.origin.1 b.origin.2 = contentHash p.1 p.2) : b.origin = p :=
      apart b.origin (inside (asked among)) p last same
    rw [ask_concat, eraseDups_concat, ← origins]
    by_cases known : p ∈ pairs
    · obtain ⟨b, among, origin, answer⟩ :=
        filled.compile_of_isLive ((compiles p last).build 0).1 distinct (live known)
      rw [answer, if_pos known]
      refine ⟨kept, filled, rfl, fun event => ?_⟩
      rw [List.mem_append, answers, List.mem_singleton]
      refine or_iff_left_of_imp ?_
      rintro rfl
      exact List.mem_map.2 ⟨b, among, by rw [eventOf, origin]⟩
    · obtain ⟨b, rfl, answer, after⟩ := filled.compile_of_new (compiles p last) distinct
        fun b among same => known (same ▸ asked among)
      rw [answer, if_neg known]
      refine ⟨kept ++ [b], after, List.map_append, fun event => ?_⟩
      rw [List.mem_append, answers, List.map_append, List.mem_append]
      rfl

end Asking

/-- A new cache is asked for pairs that compile, and again for some of them while they are live. If there
are n different pairs, then as many artifacts are live afterwards as one more than the remainder of n - 1
by the capacity: those of the pairs that were asked for last, each under the hash of its pair. All pairs
are retained, and there was one compilation for each. Every live artifact has been given out, and every
call was answered with the artifact of its pair, which is one and the same whenever it was asked for. -/
theorem live_after_asking {capacity : Nat} (positive : 0 < capacity) {pairs : List (String × String)}
    (nonempty : pairs ≠ []) (compiles : ∀ p ∈ pairs, Compiles p) (apart : HashesApart (pairs.map .ofPair))
    (repeats : RepeatsLive positive pairs) :
    let events := (ask positive pairs).1
    let c := (ask positive pairs).2
    let distinct := pairs.eraseDups
    let count := (distinct.length - 1) % capacity + 1
    events.map Prod.fst = pairs.map .ofPair ∧
    c.stats = ⟨count, distinct.length⟩ ∧
    (c.artifacts.map fun entry => (entry.1, entry.2.origin)) =
      (distinct.drop (distinct.length - count)).map (fun p => (contentHash p.1 p.2, p)) ∧
    c.sources = distinct.map (fun p => (contentHash p.1 p.2, p)) ∧
    c.compilations = distinct.length ∧
    (∀ entry ∈ c.artifacts, (.ofPair entry.2.origin, .compiled (.ok entry.2)) ∈ events) ∧
    ∀ event ∈ events, (∃ a, event = (.ofPair a.origin, .compiled (.ok a))) ∧
      ∀ other ∈ events, other.1 = event.1 → other.2 = event.2 := by
  intro events c distinct count
  obtain ⟨kept, filled, origins, answers⟩ := exists_filled compiles (hashesApart_map_ofPair.1 apart) repeats
  have length : kept.length = distinct.length := by
    rw [← List.length_map (f := Artifact.origin), origins]
  have several : distinct ≠ [] := by
    obtain ⟨p, asked⟩ := List.exists_mem_of_ne_nil pairs nonempty
    exact List.ne_nil_of_mem (List.mem_eraseDups.2 asked)
  have retained : c.sources = distinct.map fun p => (contentHash p.1 p.2, p) := by
    rw [filled.retained, filled.map_hash_origin, origins]
  refine ⟨map_fst_ask, ?_, ?_, retained, filled.compilations.trans length, ?_, ?_⟩
  · rw [stats, filled.length_artifacts, capacity_ask, length, occupancy_eq (List.length_pos_iff.2 several),
      retained, List.length_map]
  · rw [filled.map_artifacts, capacity_ask, origins, latest_eq several]
  · intro entry mem
    rw [filled.live] at mem
    obtain ⟨a, among, rfl⟩ := List.mem_map.1 mem
    exact (answers _).2 (List.mem_map_of_mem (List.mem_of_mem_drop among))
  · intro event mem
    obtain ⟨a, among, rfl⟩ := List.mem_map.1 ((answers event).1 mem)
    refine ⟨⟨a, rfl⟩, fun other mem' same => ?_⟩
    obtain ⟨b, among', rfl⟩ := List.mem_map.1 ((answers other).1 mem')
    rw [filled.eq_of_origin_eq among' among (ofPair_injective same)]

/-- The source text of a record type without fields, with its documentation text. -/
def fieldless (text : String) : String :=
  "from pydantic import BaseModel\n__namespace__ = 'a'\nclass T(BaseModel):\n    '" ++ text ++ "'\n"

/-- The pair of a name and such a source. -/
def fieldlessPair (text : String) : String × String := ("a.T", fieldless text)

/-- Pairs for a cache of two artifacts. The first one is asked for again before the third one makes the
cache start again. -/
def threePairs : List (String × String) := ["one", "one", "two", "three"].map fieldlessPair

/-- The third pair is live on its own. -/
theorem threePairs_live_after_asking :
    (threePairs ≠ [] ∧ (∀ p ∈ threePairs, Compiles p) ∧ HashesApart (threePairs.map .ofPair) ∧
      RepeatsLive Nat.two_pos threePairs) ∧
    (ask Nat.two_pos threePairs).2.stats = ⟨1, 3⟩ ∧
    ((ask Nat.two_pos threePairs).2.artifacts.map fun entry => (entry.1, entry.2.origin)) =
      [(contentHash "a.T" (fieldless "three"), fieldlessPair "three")] := by
  have nonempty : threePairs ≠ [] := by decide
  have distinct : threePairs.eraseDups = ["one", "two", "three"].map fieldlessPair := by decide
  have among {p : String × String} (mem : p ∈ threePairs) :
      p ∈ ["one", "two", "three"].map fieldlessPair := distinct ▸ List.mem_eraseDups.2 mem
  have each : ∀ p ∈ ["one", "two", "three"].map fieldlessPair, Compiles p := by decide +kernel
  have compiles : ∀ p ∈ threePairs, Compiles p := fun p mem => each p (among mem)
  have hashes : ∀ p ∈ ["one", "two", "three"].map fieldlessPair,
      ∀ q ∈ ["one", "two", "three"].map fieldlessPair,
        contentHash p.1 p.2 = contentHash q.1 q.2 → p = q := by decide +kernel
  have apart : HashesApart (threePairs.map .ofPair) :=
    hashesApart_map_ofPair.2 fun p mem q mem' => hashes p (among mem) q (among mem')
  have repeats : RepeatsLive Nat.two_pos threePairs := by decide +kernel
  obtain ⟨-, full, live, -⟩ := live_after_asking Nat.two_pos nonempty compiles apart repeats
  rw [distinct] at full live
  exact ⟨⟨nonempty, compiles, apart, repeats⟩, full, live⟩

end FlatRecord.Cache
