import FlatRecord.Execution.Evaluation
import FlatRecord.Proofs.Script.PlacedStatements

/-!
# Meanings of what is read back

An expression that is printed and read again means the same as before, in every scope.
-/

namespace FlatRecord.Execution

open FlatRecord.Script FlatRecord.Number

variable {scope : Scope} {line : Nat}

/-- A literal means its value, also where it is a sign before a number. -/
theorem evaluate_constant_placed (c : Constant) :
    evaluate scope c.placed = evaluate scope (.constant c) := by
  unfold Constant.placed
  split <;> rfl

mutual

/-- An expression that is read back means the same. -/
theorem evaluate_placed (scope : Scope) (line : Nat) (e : Expr) :
    evaluate scope (e.placed line) = evaluate scope e := by
  cases e with
  | constant c => exact evaluate_constant_placed c
  | name id use => rfl
  | member owner attr use => simp only [Expr.placed, evaluate, evaluate_placed scope line owner]
  | subscript owner index use =>
    simp only [Expr.placed, evaluate, evaluate_placed scope line owner,
      evaluate_placed scope line index]
  | list items use => simp only [Expr.placed, evaluate, meanings_placed scope line items]
  | tuple items use => simp only [Expr.placed, evaluate, meanings_placed scope line items]
  | dict keys values =>
    simp only [Expr.placed, evaluate, keyMeanings_placed scope line keys,
      meanings_placed scope line values]
  | call callee args keywords =>
    simp only [Expr.placed, evaluate, evaluate_placed scope line callee,
      meanings_placed scope line args, namedMeanings_placed scope line keywords]
  | unary op operand => simp only [Expr.placed, evaluate, evaluate_placed scope line operand]
  | binary left op right =>
    simp only [Expr.placed, evaluate, evaluate_placed scope line left,
      evaluate_placed scope line right]
  | compare left ops rights =>
    simp only [Expr.placed, evaluate, evaluate_placed scope line left,
      meanings_placed scope line rights]
  | foreign construct parts => rfl

theorem meanings_placed (scope : Scope) (line : Nat) (items : List Expr) :
    meanings scope (Expr.placedEach line items) = meanings scope items := by
  cases items with
  | nil => rfl
  | cons e rest =>
    rw [Expr.placedEach, meanings, meanings, evaluate_placed scope line e,
      meanings_placed scope line rest]

theorem keyMeanings_placed (scope : Scope) (line : Nat) (keys : List (Option Expr)) :
    keyMeanings scope (Expr.placedKeys line keys) = keyMeanings scope keys := by
  cases keys with
  | nil => rfl
  | cons key rest =>
    cases key with
    | none => rw [Expr.placedKeys, keyMeanings, keyMeanings, keyMeanings_placed scope line rest]
    | some e =>
      rw [Expr.placedKeys, keyMeanings, keyMeanings, evaluate_placed scope line e,
        keyMeanings_placed scope line rest]

theorem namedMeanings_placed (scope : Scope) (line : Nat) (keywords : List Keyword) :
    namedMeanings scope (Expr.placedKeywords line keywords) = namedMeanings scope keywords := by
  cases keywords with
  | nil => rfl
  | cons k rest =>
    obtain ⟨_, label, value⟩ := k
    rw [Expr.placedKeywords, namedMeanings, namedMeanings, evaluate_placed scope line value,
      namedMeanings_placed scope line rest]

end

end FlatRecord.Execution
