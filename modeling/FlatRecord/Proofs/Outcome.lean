import Mathlib.Data.List.Forall2
import Mathlib.Tactic.Common

/-!
# Outcomes of steps

Chains of steps that may fail, steps that are made for each item of a list, and what is looked up in a
table.
-/

namespace FlatRecord

variable {ε α β : Type}

/-- A step that succeeds hands its result on. -/
theorem ok_bind (a : α) (f : α → Except ε β) : (Except.ok a >>= f) = f a := rfl

/-- A step that fails is the last one. -/
theorem error_bind (e : ε) (f : α → Except ε β) : ((.error e : Except ε α) >>= f) = .error e := rfl

/-- A chain of steps succeeds if the first step does and the others succeed with its result. -/
theorem bind_eq_ok {x : Except ε α} {f : α → Except ε β} {b : β} :
    (x >>= f) = .ok b ↔ ∃ a, x = .ok a ∧ f a = .ok b := by
  cases x with
  | error e => simp [bind, Except.bind]
  | ok a => simp [bind, Except.bind]

/-- What is made of the result of a step is a result if the step has one. -/
theorem map_eq_ok {x : Except ε α} {f : α → β} {b : β} :
    x.map f = .ok b ↔ ∃ a, x = .ok a ∧ f a = b := by
  cases x with
  | error e => simp [Except.map]
  | ok a => simp [Except.map]

/-- A chain of steps fails if the first step does, or the others do with its result. -/
theorem bind_eq_error {x : Except ε α} {f : α → Except ε β} {e : ε} :
    (x >>= f) = .error e ↔ x = .error e ∨ ∃ a, x = .ok a ∧ f a = .error e := by
  cases x with
  | ok a => simp [ok_bind]
  | error other => simp [error_bind]

theorem map_eq_error {x : Except ε α} {f : α → β} {e : ε} : x.map f = .error e ↔ x = .error e := by
  cases x <;> simp [Except.map]

/-- Naming a fault otherwise leaves the result. -/
theorem toOption_mapError {ε' : Type} (g : ε → ε') (x : Except ε α) :
    (x.mapError g).toOption = x.toOption := by
  cases x <;> rfl

/-- A step has the result that it is asked for. -/
theorem toOption_eq_some {x : Except ε α} {a : α} : x.toOption = some a ↔ x = .ok a := by
  cases x <;> simp [Except.toOption]

/-- What is looked up successfully is an entry. -/
theorem mem_of_lookup {key : String} {a : α} {table : List (String × α)}
    (found : table.lookup key = some a) : (key, a) ∈ table := by
  obtain ⟨front, back, split, _⟩ := List.lookup_eq_some_iff.1 found
  rw [split]
  exact List.mem_append_right _ List.mem_cons_self

/-- A step for each item succeeds if every step does, for items that are made of others. -/
theorem mapM_map_eq_pure {m : Type → Type} [Monad m] [LawfulMonad m] {γ : Type} {f : β → m γ}
    {k : α → β} {g : α → γ} {xs : List α} (h : ∀ x ∈ xs, f (k x) = pure (g x)) :
    (xs.map k).mapM f = pure (xs.map g) := by
  induction xs with
  | nil => rfl
  | cons x xs ih =>
    rw [List.map_cons, List.mapM_cons, h x (.head _), ih fun y mem => h y (.tail _ mem)]
    simp

/-- The same for the items themselves. -/
theorem mapM_eq_pure {m : Type → Type} [Monad m] [LawfulMonad m] {f : α → m β} {g : α → β}
    {xs : List α} (h : ∀ x ∈ xs, f x = pure (g x)) : xs.mapM f = pure (xs.map g) := by
  have all := mapM_map_eq_pure (k := id) h
  rwa [List.map_id] at all

/-- A step for each item whose results are worked on is the step for each item, and then the work on all
results. -/
theorem mapM_eq_map_result {γ : Type} {f : α → Except ε β} {g : β → γ} {h : α → Except ε γ}
    {xs : List α} (same : ∀ x ∈ xs, h x = (f x).map g) :
    xs.mapM h = (xs.mapM f).map (List.map g) := by
  induction xs with
  | nil => rfl
  | cons x xs ih =>
    rw [List.mapM_cons, List.mapM_cons, same x (.head _), ih fun y mem => same y (.tail _ mem)]
    cases f x with
    | error e => rfl
    | ok y => cases xs.mapM f <;> rfl

/-- A step for each item gives the results of the steps. -/
theorem mapM_eq_ok_iff {f : α → Except ε β} {xs : List α} {ys : List β} :
    xs.mapM f = .ok ys ↔ List.Forall₂ (fun x y => f x = .ok y) xs ys := by
  induction xs generalizing ys with
  | nil =>
    rw [List.forall₂_nil_left_iff]
    exact ⟨fun done => (Except.ok.inj done).symm, fun empty => empty ▸ rfl⟩
  | cons x xs ih =>
    rw [List.mapM_cons, bind_eq_ok, List.forall₂_cons_left_iff]
    constructor
    · rintro ⟨first, one, rest⟩
      obtain ⟨others, more, rest⟩ := bind_eq_ok.1 rest
      exact ⟨first, others, one, ih.1 more, (Except.ok.inj rest).symm⟩
    · rintro ⟨first, others, one, more, rfl⟩
      exact ⟨first, one, bind_eq_ok.2 ⟨others, ih.2 more, rfl⟩⟩

/-- A step for each item that fails for some of them fails for the first such one. -/
theorem mapM_eq_find? {f : α → Except ε β} {fails : α → Bool} {g : α → β} {e : α → ε}
    {xs : List α} (h : ∀ x ∈ xs, f x = if fails x then .error (e x) else .ok (g x)) :
    xs.mapM f = (xs.find? fails).elim (.ok (xs.map g)) fun x => .error (e x) := by
  induction xs with
  | nil => rfl
  | cons x xs ih =>
    rw [List.mapM_cons, h x (.head _), ih fun y mem => h y (.tail _ mem), List.find?_cons]
    cases fails x with
    | true => rfl
    | false =>
      rw [if_neg Bool.false_ne_true, ok_bind]
      cases xs.find? fails <;> rfl

/-- A step for each item fails exactly if one of the steps does. -/
theorem mapM_fails_iff {f : α → Except ε β} {xs : List α} :
    (∃ e, xs.mapM f = .error e) ↔ ∃ x ∈ xs, ∃ e, f x = .error e := by
  induction xs with
  | nil => simp [pure, Except.pure]
  | cons x xs ih =>
    rw [List.mapM_cons]
    cases first : f x with
    | error e => simp [first, error_bind]
    | ok a =>
      have others : (∃ e, (xs.mapM f >>= fun bs => pure (a :: bs)) = .error e) ↔
          ∃ e, xs.mapM f = .error e := by
        cases xs.mapM f <;> simp [bind, Except.bind, pure, Except.pure]
      rw [ok_bind, others, ih]
      simp [first]

/-- A step has a result unless it has a fault. -/
theorem exists_ok_iff {x : Except ε α} : (∃ a, x = .ok a) ↔ ¬ ∃ e, x = .error e := by
  cases x <;> simp

/-- A step that has a result has one to go on with. -/
theorem exists_ok_iff_isSome {x : Except ε α} : (∃ a, x = .ok a) ↔ x.toOption.isSome := by
  cases x <;> simp [Except.toOption]

/-- A step for each item succeeds exactly if every step does. -/
theorem mapM_succeeds_iff {f : α → Except ε β} {xs : List α} :
    (∃ ys, xs.mapM f = .ok ys) ↔ ∀ x ∈ xs, ∃ y, f x = .ok y := by
  rw [exists_ok_iff, mapM_fails_iff]
  simp only [exists_ok_iff, not_exists, not_and]

/-- Each result of a step for each item is that of some item. -/
theorem exists_mem_of_mapM_eq_ok {f : α → Except ε β} : ∀ {xs : List α} {ys : List β},
    xs.mapM f = .ok ys → ∀ y ∈ ys, ∃ x ∈ xs, f x = .ok y
  | [], ys, mapped, y, mem => by
    obtain rfl : [] = ys := Except.ok.inj mapped
    cases mem
  | x :: xs, ys, mapped, y, mem => by
    rw [List.mapM_cons] at mapped
    obtain ⟨first, one, mapped⟩ := bind_eq_ok.1 mapped
    obtain ⟨others, more, mapped⟩ := bind_eq_ok.1 mapped
    obtain rfl : first :: others = ys := Except.ok.inj mapped
    obtain rfl | mem := List.mem_cons.1 mem
    · exact ⟨x, .head _, one⟩
    · obtain ⟨x', mem', same⟩ := exists_mem_of_mapM_eq_ok more y mem
      exact ⟨x', .tail _ mem', same⟩

/-- A step without a result for each item succeeds exactly if every step does. -/
theorem forM_eq_ok_iff {f : α → Except ε PUnit} {xs : List α} :
    xs.forM f = .ok () ↔ ∀ x ∈ xs, f x = .ok () := by
  induction xs with
  | nil => exact iff_of_true rfl fun _ mem => absurd mem List.not_mem_nil
  | cons x xs ih =>
    show (f x >>= fun _ => xs.forM f) = .ok () ↔ _
    rw [bind_eq_ok, List.forall_mem_cons, ← ih]
    exact ⟨fun ⟨_, first, others⟩ => ⟨first, others⟩, fun ⟨first, others⟩ => ⟨_, first, others⟩⟩

/-- A step without a result for each item succeeds if every step does. -/
theorem forM_eq_ok {f : α → Except ε PUnit} {xs : List α} (h : ∀ x ∈ xs, f x = .ok ()) :
    xs.forM f = .ok () :=
  forM_eq_ok_iff.2 h

end FlatRecord
