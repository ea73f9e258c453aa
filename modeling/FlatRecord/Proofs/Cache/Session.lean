import FlatRecord.Cache
import FlatRecord.Proofs.Outcome
import Mathlib.Data.List.Nodup

/-!
# Sessions on a cache

A session is a sequence of calls on one cache. Running it answers each call and leaves a cache behind.
The events of a session, calls with their answers, say which pairs of a qualified name and a source
text have been compiled, and which artifacts have been given out, since the cache was last cleared.
-/

namespace FlatRecord

/-- The qualified name and the source text that an artifact was compiled from. -/
def Artifact.origin (a : Artifact) : String × String := (a.qualifiedName, a.source)

namespace Cache

/-- A call on a cache. The name and the source that are to be compiled may be of any type. -/
inductive Call where
  | compile (name source : Datum)
  | reload (hash : String)
  | evict (hash : String)
  | sourceText (hash : String)
  | clear

/-- The answer to a call. -/
inductive Answer where
  | compiled (result : Except CompileFault Artifact)
  | reloaded (result : Except ReloadFault Artifact)
  | evicted (found : Bool)
  | sourceText (found : Option String)
  | cleared

/-- A call with its answer. -/
abbrev Event := Call × Answer

/-- Answer a call. -/
def answer (c : Cache) : Call → Answer × Cache
  | .compile name source => ((c.compileGiven name source).map .compiled id)
  | .reload hash => ((c.reload hash).map .reloaded id)
  | .evict hash => ((c.evict hash).map .evicted id)
  | .sourceText hash => (.sourceText (c.source? hash), c)
  | .clear => (.cleared, c.clear)

/-- Answer calls one after the other: the events and the cache that is left. -/
def run (c : Cache) : List Call → List Event × Cache
  | [] => ([], c)
  | call :: calls =>
    let (a, c) := c.answer call
    let (events, c) := c.run calls
    ((call, a) :: events, c)

theorem run_cons (c : Cache) (call : Call) (calls : List Call) : c.run (call :: calls) =
    ((call, (c.answer call).1) :: ((c.answer call).2.run calls).1, ((c.answer call).2.run calls).2) := rfl

/-- Calls are answered one after the other. -/
theorem run_append (c : Cache) (first last : List Call) : c.run (first ++ last) =
    ((c.run first).1 ++ ((c.run first).2.run last).1, ((c.run first).2.run last).2) := by
  induction first generalizing c with
  | nil => rfl
  | cons call first ih =>
    rw [List.cons_append, run_cons, ih, run_cons]
    rfl

/-- Every call has its event. -/
theorem map_fst_run (c : Cache) (calls : List Call) : (c.run calls).1.map Prod.fst = calls := by
  induction calls generalizing c with
  | nil => rfl
  | cons call calls ih => exact congrArg (call :: ·) (ih _)

/-- The pair that a call asks to compile, if its name and its source are texts. -/
def Call.origin? : Call → Option (String × String)
  | .compile (.text name) (.text source) => some (name, source)
  | _ => none

/-- The artifact that an answer gives out. -/
def Answer.artifact? : Answer → Option Artifact
  | .compiled (.ok a) => some a
  | .reloaded (.ok a) => some a
  | _ => none

/-- Different pairs that a session asks to compile have different content hashes. -/
def HashesApart (calls : List Call) : Prop :=
  ∀ p ∈ calls.filterMap Call.origin?, ∀ q ∈ calls.filterMap Call.origin?,
    contentHash p.1 p.2 = contentHash q.1 q.2 → p = q

/-- What compiling makes of a dotted name and a source depends on the artifact that is kept for them
and on building a new one. -/
theorem compile_fst (c : Cache) {name : String} (qualified : Naming.isQualified name)
    (source : String) : (c.compile name source).1 =
      match c.artifact? (contentHash name source) with
      | some a => .ok a
      | none => build c.compilations (contentHash name source) name source := by
  unfold compile
  rw [if_pos qualified]
  dsimp only
  cases c.artifact? (contentHash name source) with
  | some a => rfl
  | none =>
    dsimp only
    unfold compileNew
    cases build c.compilations (contentHash name source) name source <;> rfl

end Cache

section Table

variable {α : Type} (key : String) (a : α)

/-- A key that has been set has its new value, and every other key the value it had. -/
theorem lookup_putKey (k : String) (table : List (String × α)) :
    (putKey key a table).lookup k = if k = key then some a else table.lookup k := by
  induction table with
  | nil =>
    by_cases h : k = key
    · simp [putKey, h]
    · have different : (k == key) = false := by simpa using h
      simp only [putKey, List.lookup_cons, different, List.lookup_nil, if_neg h]
  | cons entry rest ih =>
    obtain ⟨name, old⟩ := entry
    by_cases hname : name = key
    · subst hname
      by_cases h : k = name
      · simp [putKey, h]
      · have different : (k == name) = false := by simpa using h
        simp only [putKey, if_true, List.lookup_cons, different, if_neg h]
    · by_cases h : k = name
      · subst h
        simp [putKey, hname]
      · have different : (k == name) = false := by simpa using h
        simp only [putKey, if_neg hname, List.lookup_cons, different, ih]

/-- Setting a key adds nothing but that key. -/
theorem keys_putKey (table : List (String × α)) :
    (putKey key a table).map Prod.fst =
      if key ∈ table.map Prod.fst then table.map Prod.fst else table.map Prod.fst ++ [key] := by
  induction table with
  | nil => simp [putKey]
  | cons entry rest ih =>
    obtain ⟨name, old⟩ := entry
    by_cases hname : name = key
    · simp [putKey, hname]
    · have other : key ≠ name := fun h => hname h.symm
      by_cases known : key ∈ rest.map Prod.fst
      · simp only [putKey, if_neg hname, List.map_cons, ih, List.mem_cons, known, or_true,
          if_true]
      · simp only [putKey, if_neg hname, List.map_cons, ih, List.mem_cons, known, other,
          or_false, if_false, List.cons_append]

/-- A key that is new comes last. -/
theorem putKey_of_notMem {table : List (String × α)} (fresh : key ∉ table.map Prod.fst) :
    putKey key a table = table ++ [(key, a)] := by
  induction table with
  | nil => rfl
  | cons entry rest ih =>
    rw [List.map_cons, List.mem_cons, not_or] at fresh
    rw [putKey, if_neg (Ne.symm fresh.1), ih fresh.2]
    rfl

/-- Setting a key keeps keys apart. -/
theorem nodup_keys_putKey (table : List (String × α)) (apart : (table.map Prod.fst).Nodup) :
    ((putKey key a table).map Prod.fst).Nodup := by
  rw [keys_putKey]
  by_cases known : key ∈ table.map Prod.fst
  · simpa only [if_pos known] using apart
  · rw [if_neg known]
    exact List.nodup_append.2 ⟨apart, List.nodup_singleton key,
      fun k old l new same => known (by simp_all)⟩

/-- Setting a key adds at most one entry, and none if the key is known. -/
theorem length_putKey (table : List (String × α)) :
    (putKey key a table).length =
      if key ∈ table.map Prod.fst then table.length else table.length + 1 := by
  rw [← List.length_map (f := Prod.fst), keys_putKey]
  by_cases known : key ∈ table.map Prod.fst <;> simp only [known, if_true, if_false,
    List.length_append, List.length_map, List.length_singleton]

variable {key a} in
/-- An entry of a table in which a key has been set is the new one or an old one. -/
theorem mem_putKey {table : List (String × α)} {entry : String × α}
    (mem : entry ∈ putKey key a table) : entry = (key, a) ∨ entry ∈ table := by
  induction table with
  | nil => exact .inl (List.mem_singleton.1 mem)
  | cons first rest ih =>
    obtain ⟨name, old⟩ := first
    by_cases hname : name = key
    · rw [putKey, if_pos hname, List.mem_cons, hname] at mem
      exact mem.imp id (List.mem_cons_of_mem _)
    · rw [putKey, if_neg hname, List.mem_cons] at mem
      rcases mem with rfl | mem
      · exact .inr List.mem_cons_self
      · exact (ih mem).imp id (List.mem_cons_of_mem _)

omit a in
/-- A key is looked up successfully exactly where it has an entry. -/
theorem lookup_eq_none_iff_key (table : List (String × α)) :
    table.lookup key = none ↔ key ∉ table.map Prod.fst := by
  rw [List.lookup_eq_none_iff]
  constructor
  · intro h member
    obtain ⟨entry, mem, rfl⟩ := List.mem_map.1 member
    exact absurd (h entry mem) (by simp)
  · intro h entry mem
    have : key ≠ entry.1 := fun same => h (same ▸ List.mem_map_of_mem mem)
    simpa using this

end Table

end FlatRecord
