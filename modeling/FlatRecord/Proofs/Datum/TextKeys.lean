import FlatRecord.Datum.Basic
import Mathlib.Data.List.Nodup

/-!
# Mappings with text keys

A mapping whose keys are texts is a table: a key leads to its first entry, and entries with keys of
their own are put behind the others as they come.
-/

namespace FlatRecord.Datum

/-- Texts are equal if they are the same text. -/
@[simp]
theorem same_text (s t : String) : (Datum.text s).same (.text t) = (s == t) := by
  rw [same]

/-- Lists of texts are equal if they are the same texts. -/
theorem same_texts (ss ts : List String) :
    (Datum.list (ss.map .text)).same (.list (ts.map .text)) = decide (ss = ts) := by
  rw [same]
  induction ss generalizing ts with
  | nil => cases ts <;> simp [sameItems]
  | cons s ss ih =>
    cases ts with
    | nil => simp [sameItems]
    | cons t ts => simp [sameItems, ih, Bool.beq_eq_decide_eq]

section Lookup

variable {key : String} {entries : List (Datum × Datum)}

@[simp]
theorem field?_nil (key : String) : field? [] key = none := rfl

/-- A key leads to its first entry. -/
@[simp]
theorem field?_cons (key other : String) (v : Datum) (entries : List (Datum × Datum)) :
    field? ((.text other, v) :: entries) key = if key = other then some v else field? entries key := by
  unfold field? lookup?
  by_cases same : key = other <;> simp [same]

/-- What a text key leads to is an entry with that key. -/
theorem mem_of_field? (texts : ∀ e ∈ entries, ∃ s, e.1 = .text s) {v : Datum}
    (found : field? entries key = some v) : (.text key, v) ∈ entries := by
  obtain ⟨⟨k, w⟩, first, rfl⟩ := Option.map_eq_some_iff.1 found
  have mem := List.mem_of_find?_eq_some first
  obtain ⟨s, rfl⟩ : ∃ s, k = .text s := texts _ mem
  obtain rfl : key = s := by simpa using List.find?_some first
  exact mem

/-- In a table that is made of items with keys of their own, every key leads to its item. -/
theorem field?_map {α : Type} {name : α → String} {value : α → Datum} {xs : List α}
    (distinct : (xs.map name).Nodup) {x : α} (mem : x ∈ xs) :
    field? (xs.map fun y => (.text (name y), value y)) (name x) = some (value x) := by
  induction xs with
  | nil => exact absurd mem List.not_mem_nil
  | cons y xs ih =>
    obtain ⟨fresh, distinct⟩ := List.nodup_cons.1 distinct
    rw [List.map_cons, field?_cons]
    obtain rfl | behind := List.mem_cons.1 mem
    · exact if_pos rfl
    · have other : name x ≠ name y := fun same => fresh (same ▸ List.mem_map_of_mem behind)
      rw [if_neg other]
      exact ih distinct behind

end Lookup

/-- An entry with a new key comes last. -/
theorem put_of_fresh {key : String} (v : Datum) {entries : List (Datum × Datum)}
    (fresh : ∀ e ∈ entries, (Datum.text key).same e.1 = false) :
    put (.text key) v entries = entries ++ [(.text key, v)] := by
  induction entries with
  | nil => rfl
  | cons e entries ih =>
    obtain ⟨first, others⟩ := List.forall_mem_cons.1 fresh
    rw [put, first, if_neg Bool.false_ne_true, ih others, List.cons_append]

/-- Items with keys of their own are put behind each other. -/
theorem foldl_put_map {α : Type} {name : α → String} {value : α → Datum} {xs : List α}
    (distinct : (xs.map name).Nodup) {before : List (Datum × Datum)}
    (fresh : ∀ e ∈ before, ∀ x ∈ xs, (Datum.text (name x)).same e.1 = false) :
    (xs.map fun x => (Datum.text (name x), value x)).foldl (fun es e => put e.1 e.2 es) before =
      before ++ xs.map fun x => (.text (name x), value x) := by
  induction xs generalizing before with
  | nil => rw [List.map_nil, List.append_nil, List.foldl_nil]
  | cons x xs ih =>
    obtain ⟨apart, distinct⟩ := List.nodup_cons.1 distinct
    rw [List.map_cons, List.foldl_cons, put_of_fresh _ fun e mem => fresh e mem x (.head _),
      ih distinct, List.append_assoc, List.singleton_append]
    intro e mem y among
    obtain old | new := List.mem_append.1 mem
    · exact fresh e old y (.tail _ among)
    · obtain rfl := List.mem_singleton.1 new
      have other : name y ≠ name x := fun same => apart (same ▸ List.mem_map_of_mem among)
      simpa using other

end FlatRecord.Datum
