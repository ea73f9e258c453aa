import FlatRecord.Number.Exact
import Mathlib.Data.Nat.Log
import Mathlib.Tactic.Ring

/-!
# Order of exact values

Exact values are compared without expanding their powers of ten, by the number of their digits first.
For integers this is the order of the integers.
-/

namespace FlatRecord.Number

/-- Dropping final zeros keeps the value. -/
theorem Decimal.normalize_value (fuel coefficient : Nat) (exponent : Int) :
    ∃ c k : Nat, normalize fuel coefficient exponent = (c, exponent + k) ∧
      c * 10 ^ k = coefficient := by
  induction fuel generalizing coefficient exponent with
  | zero => exact ⟨coefficient, 0, by simp [normalize], by simp⟩
  | succ fuel ih =>
    rw [normalize]
    split
    · rename_i droppable
      obtain ⟨c, k, same, value⟩ := ih (coefficient / 10) (exponent + 1)
      refine ⟨c, k + 1, by rw [same]; simp; omega, ?_⟩
      have whole : coefficient % 10 = 0 := by simp_all
      rw [pow_succ, ← mul_assoc, value]
      omega
    · exact ⟨coefficient, 0, by simp, by simp⟩

namespace Exact

/-- The exact value of an integer is a coefficient and a number of zeros. -/
theorem ofInt_eq (n : Int) : ∃ c k : Nat, ofInt n = .finite (n < 0) c k ∧ c * 10 ^ k = n.natAbs := by
  unfold ofInt make
  split
  · rename_i zero
    obtain rfl : n = 0 := by omega
    exact ⟨0, 0, rfl, rfl⟩
  · obtain ⟨c, k, same, value⟩ := Decimal.normalize_value (n.natAbs.log2 + 1) n.natAbs 0
    refine ⟨c, k, ?_, value⟩
    rw [same]
    simp

/-- Values whose exponents are brought together are compared by value. -/
theorem natLess_eq (c k c' k' : Nat) :
    natLess c k c' k' = decide (c * 10 ^ k < c' * 10 ^ k') := by
  unfold natLess
  split
  · rename_i le
    obtain ⟨j, rfl⟩ : ∃ j, k' = k + j := ⟨k' - k, by omega⟩
    have shift : ((k + j : Nat) - k : Int).natAbs = j := by omega
    have scaled : c' * 10 ^ (k + j) = c' * 10 ^ j * 10 ^ k := by ring
    rw [shift, scaled, decide_eq_decide]
    exact (Nat.mul_lt_mul_right (Nat.pow_pos (by decide))).symm
  · rename_i gt
    obtain ⟨j, rfl⟩ : ∃ j, k = k' + j := ⟨k - k', by omega⟩
    have shift : ((k' + j : Nat) - k' : Int).natAbs = j := by omega
    have scaled : c * 10 ^ (k' + j) = c * 10 ^ j * 10 ^ k' := by ring
    rw [shift, scaled, decide_eq_decide]
    exact (Nat.mul_lt_mul_right (Nat.pow_pos (by decide))).symm

/-- A value with fewer digits is less. -/
private theorem lt_of_fewer {c k c' k' : Nat} (positive : c' ≠ 0)
    (fewer : k + (naturalText c).length < k' + (naturalText c').length) :
    c * 10 ^ k < c' * 10 ^ k' := by
  have filled : 0 < (naturalText c).length := List.length_pos_iff.2 Nat.toDigits_ne_nil
  have above : c < 10 ^ (naturalText c).length :=
    (Nat.length_toDigits_le_iff (by decide) filled).1 le_rfl
  have least : 10 ^ ((naturalText c').length - 1) ≤ c' := by
    by_contra below
    by_cases single : (naturalText c').length - 1 = 0
    · simp only [single, pow_zero] at below
      omega
    · have short := (Nat.length_toDigits_le_iff (b := 10) (by decide)
        (Nat.pos_of_ne_zero single)).2 (Nat.lt_of_not_le below)
      have same : (Nat.toDigits 10 c').length = (naturalText c').length := rfl
      omega
  calc c * 10 ^ k < 10 ^ (naturalText c).length * 10 ^ k :=
        (Nat.mul_lt_mul_right (Nat.pow_pos (by decide))).2 above
    _ = 10 ^ (k + (naturalText c).length) := by rw [← pow_add, Nat.add_comm]
    _ ≤ 10 ^ ((naturalText c').length - 1 + k') :=
        Nat.pow_le_pow_right (by decide) (by omega)
    _ = 10 ^ ((naturalText c').length - 1) * 10 ^ k' := pow_add _ _ _
    _ ≤ c' * 10 ^ k' := Nat.mul_le_mul_right _ least

/-- Absolute values are compared by value. -/
theorem magnitudeLess_eq (c k c' k' : Nat) :
    magnitudeLess c k c' k' = decide (c * 10 ^ k < c' * 10 ^ k') := by
  unfold magnitudeLess
  split
  · rename_i zero
    simp [zero]
  split
  · rename_i positive zero
    simp [zero, Nat.pos_of_ne_zero positive]
  rename_i positive' positive
  dsimp only
  split
  · exact natLess_eq c k c' k'
  · rename_i apart
    rw [decide_eq_decide]
    constructor
    · intro fewer
      exact lt_of_fewer positive' (by omega)
    · intro less
      by_contra more
      have greater : c' * 10 ^ k' < c * 10 ^ k := lt_of_fewer positive (by omega)
      omega

/-- Integers are compared by value. -/
theorem less_ofInt (m n : Int) : (ofInt m).less (ofInt n) = decide (m < n) := by
  obtain ⟨c, k, first, value⟩ := ofInt_eq m
  obtain ⟨c', k', second, value'⟩ := ofInt_eq n
  rw [first, second]
  by_cases negative : m < 0 <;> by_cases negative' : n < 0 <;>
    simp only [negative, negative', decide_true, decide_false, less, magnitudeLess_eq, value,
      value', decide_eq_decide, Bool.true_eq, Bool.false_eq, decide_eq_true_eq,
      decide_eq_false_iff_not] <;> omega

end Exact

end FlatRecord.Number
