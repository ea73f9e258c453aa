import FlatRecord.Execution.Evaluation
import Mathlib.Data.List.Nodup

/-!
# Names and their meanings

Looking up names among bindings, and binding them.
-/

namespace FlatRecord.Execution

variable {bindings : Bindings} {name : String} {o : Object}

/-- A name that is not bound has no meaning. -/
theorem lookup_eq_none {α : Type} {bindings : List (String × α)}
    (fresh : name ∉ bindings.map Prod.fst) : bindings.lookup name = none := by
  refine List.lookup_eq_none_iff.2 fun b mem => ?_
  rw [bne_iff_ne]
  exact fun same => fresh (same ▸ List.mem_map_of_mem mem)

/-- Among different names, each has the meaning it is bound to. -/
theorem lookup_eq_some {α : Type} {bindings : List (String × α)} {o : α}
    (distinct : (bindings.map Prod.fst).Nodup) (mem : (name, o) ∈ bindings) :
    bindings.lookup name = some o := by
  induction bindings with
  | nil => simp at mem
  | cons b rest ih =>
    obtain ⟨id, p⟩ := b
    obtain ⟨fresh, others⟩ := List.nodup_cons.1 distinct
    obtain same | behind := List.mem_cons.1 mem
    · obtain ⟨rfl, rfl⟩ := Prod.mk.inj same
      exact List.lookup_cons_self
    · have other : name ≠ id := by
        rintro rfl
        exact fresh (List.mem_map.2 ⟨_, behind, rfl⟩)
      rw [List.lookup_cons, beq_eq_false_iff_ne.2 other]
      exact ih others behind

/-- What is looked for by a key of its own is found. -/
theorem find?_eq_some {α : Type} {key : α → String} {xs : List α} (distinct : (xs.map key).Nodup)
    {x : α} (mem : x ∈ xs) : (xs.find? fun y => key y = key x) = some x := by
  cases found : xs.find? fun y => key y = key x with
  | none =>
    have other := List.find?_eq_none.1 found x mem
    simp at other
  | some y =>
    have same : key y = key x := by simpa using List.find?_some found
    rw [List.inj_on_of_nodup_map distinct (List.mem_of_find?_eq_some found) mem same]

/-- A new name comes last. -/
theorem bindName_of_fresh (fresh : name ∉ bindings.map Prod.fst) :
    bindName name o bindings = bindings ++ [(name, o)] := by
  induction bindings with
  | nil => rfl
  | cons b rest ih =>
    simp only [List.map_cons, List.mem_cons, not_or] at fresh
    obtain ⟨id, old⟩ := b
    rw [bindName, if_neg fun same => fresh.1 same.symm, ih fresh.2]
    rfl

/-- A name that is bound has the new meaning, and others keep theirs. -/
theorem lookup_bindName (id : String) : (bindName name o bindings).lookup id =
    if id = name then some o else bindings.lookup id := by
  induction bindings with
  | nil =>
    by_cases same : id = name
    · simp [bindName, same]
    · simp [bindName, same, List.lookup_cons, beq_eq_false_iff_ne.2 same]
  | cons b rest ih =>
    obtain ⟨other, old⟩ := b
    rw [bindName]
    split
    · rename_i same
      subst same
      by_cases here : id = other
      · simp [here]
      · simp [List.lookup_cons, beq_eq_false_iff_ne.2 here, here]
    · rename_i differs
      by_cases here : id = other
      · subst here
        simp [differs]
      · simp [List.lookup_cons, beq_eq_false_iff_ne.2 here, ih]

/-- A name of source text means what the scope knows under the name that the text has in it. -/
theorem Scope.resolve_eq_ok_iff {scope : Scope} {id : String} :
    scope.resolve id = .ok o ↔ scope.lookup? (scope.nameOf id) = some o := by
  unfold Scope.resolve
  dsimp only
  cases scope.lookup? (scope.nameOf id) <;> simp

end FlatRecord.Execution
