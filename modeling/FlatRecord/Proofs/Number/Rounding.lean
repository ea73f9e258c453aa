import FlatRecord.Number.Shortest
import Mathlib.Algebra.Order.Field.Power
import Mathlib.Algebra.Order.Field.Rat
import Mathlib.Tactic.FieldSimp
import Mathlib.Tactic.GCongr
import Mathlib.Tactic.Linarith
import Mathlib.Tactic.NormNum
import Mathlib.Tactic.Positivity
import Mathlib.Tactic.Ring

/-!
# Rounding to double precision

What a ratio of naturals is rounded to depends on its value only. The exponent of the result is the
only one at which the value has 53 bits before the point, or the least one where it has fewer. So a
value that is a double precision number is rounded to itself, and a multiple of a power of ten is
rounded as the ratio that it equals, at whatever power it is written.
-/

namespace FlatRecord.Number.Binary64

/-- An exponent at which a value has 53 bits before the point, or fewer and the exponent is the
least one. -/
def IsExponent (q : ℚ) (e : ℤ) : Prop :=
  -1074 ≤ e ∧ q < 2 ^ (e + 53) ∧ (e = -1074 ∨ 2 ^ (e + 52) ≤ q)

/-- An exponent is at most any other one of the same value. -/
private theorem IsExponent.le {q : ℚ} {e e' : ℤ} (h : IsExponent q e) (h' : IsExponent q e') :
    e ≤ e' := by
  rcases h.2.2 with least | reached
  · exact least ▸ h'.1
  · have between : (2 : ℚ) ^ (e + 52) < 2 ^ (e' + 53) := lt_of_le_of_lt reached h'.2.1
    have := (zpow_lt_zpow_iff_right₀ (by norm_num : (1 : ℚ) < 2)).1 between
    omega

/-- A value has one exponent. -/
theorem IsExponent.unique {q : ℚ} {e e' : ℤ} (h : IsExponent q e) (h' : IsExponent q e') :
    e = e' :=
  le_antisymm (h.le h') (h'.le h)

/-- Scaling a ratio divides its value by a power of two. -/
theorem scaled_value (n d : Nat) (e : Int) :
    (scaleNumerator n e : ℚ) / scaleDenominator d e = n / d / 2 ^ e := by
  unfold scaleNumerator scaleDenominator
  by_cases negative : e < 0
  · obtain ⟨k, rfl⟩ : ∃ k : Nat, e = -(k : Int) := ⟨e.natAbs, by omega⟩
    rw [if_pos negative, if_pos negative]
    simp [div_eq_mul_inv]
    ring
  · obtain ⟨k, rfl⟩ : ∃ k : Nat, e = (k : Int) := ⟨e.natAbs, by omega⟩
    rw [if_neg negative, if_neg negative]
    simp [div_eq_mul_inv]
    ring

/-- The scaled denominator of a ratio is not zero either. -/
theorem scaleDenominator_pos {d : Nat} (hd : 0 < d) (e : Int) : 0 < scaleDenominator d e := by
  unfold scaleDenominator
  split
  · exact hd
  · exact Nat.mul_pos hd (Nat.pow_pos (by decide))

/-- The powers of two around a ratio, from the logarithms of its parts. -/
private theorem ratio_between {n d : Nat} (hn : 0 < n) (hd : 0 < d) :
    (2 : ℚ) ^ ((n.log2 : ℤ) - d.log2 - 1) < n / d ∧
      (n / d : ℚ) < 2 ^ ((n.log2 : ℤ) - d.log2 + 1) := by
  have two : (2 : ℚ) ≠ 0 := by norm_num
  have hd' : (0 : ℚ) < d := by exact_mod_cast hd
  have lowN : (2 : ℚ) ^ n.log2 ≤ n := by exact_mod_cast Nat.log2_self_le hn.ne'
  have highN : (n : ℚ) < 2 ^ (n.log2 + 1) := by exact_mod_cast Nat.lt_log2_self
  have lowD : (2 : ℚ) ^ d.log2 ≤ d := by exact_mod_cast Nat.log2_self_le hd.ne'
  have highD : (d : ℚ) < 2 ^ (d.log2 + 1) := by exact_mod_cast Nat.lt_log2_self
  have low : (2 : ℚ) ^ ((n.log2 : ℤ) - d.log2 - 1) = 2 ^ n.log2 / 2 ^ (d.log2 + 1) := by
    rw [sub_sub, zpow_sub₀ two]
    norm_cast
  have high : (2 : ℚ) ^ ((n.log2 : ℤ) - d.log2 + 1) = 2 ^ (n.log2 + 1) / 2 ^ d.log2 := by
    rw [sub_add_eq_add_sub, zpow_sub₀ two]
    norm_cast
  constructor
  · rw [low, div_lt_div_iff₀ (by positivity) hd']
    calc (2 : ℚ) ^ n.log2 * d ≤ n * d := by gcongr
      _ < n * 2 ^ (d.log2 + 1) := by gcongr
  · rw [high, div_lt_div_iff₀ hd' (by positivity)]
    calc (n : ℚ) * 2 ^ d.log2 ≤ n * d := by gcongr
      _ < 2 ^ (n.log2 + 1) * d := by gcongr

/-- The quotient of a scaled ratio has at most 53 bits just where the value is below the power of
two that is 53 bits up. -/
private theorem quotient_lt_iff {n d : Nat} (hd : 0 < d) (e : Int) :
    scaleNumerator n e / scaleDenominator d e < Nat.pow 2 53 ↔ (n / d : ℚ) < 2 ^ (e + 53) := by
  have positive := scaleDenominator_pos hd e
  have positive' : (0 : ℚ) < scaleDenominator d e := by exact_mod_cast positive
  have power : (0 : ℚ) < 2 ^ e := by positivity
  calc scaleNumerator n e / scaleDenominator d e < Nat.pow 2 53
      ↔ scaleNumerator n e < 2 ^ 53 * scaleDenominator d e :=
        Nat.div_lt_iff_lt_mul positive
    _ ↔ (scaleNumerator n e : ℚ) < 2 ^ 53 * scaleDenominator d e := by norm_cast
    _ ↔ (n / d : ℚ) / 2 ^ e < 2 ^ 53 := by rw [← scaled_value, div_lt_iff₀ positive']
    _ ↔ (n / d : ℚ) < 2 ^ (e + 53) := by
      rw [div_lt_iff₀ power, zpow_add₀ (by norm_num), mul_comm]
      norm_cast

/-- The exponent that rounding chooses is the exponent of the value. -/
theorem isExponent_ratioExponent {n d : Nat} (hn : 0 < n) (hd : 0 < d) :
    IsExponent (n / d) (ratioExponent n d) := by
  obtain ⟨low, high⟩ := ratio_between hn hd
  have monotone {a b : ℤ} (h : a ≤ b) : (2 : ℚ) ^ a ≤ 2 ^ b :=
    zpow_le_zpow_right₀ (by norm_num) h
  unfold ratioExponent
  set e : ℤ := max ((n.log2 : ℤ) - d.log2 - 53) (-1074) with choice
  by_cases fits : scaleNumerator n e / scaleDenominator d e < Nat.pow 2 53
  · rw [if_pos fits]
    refine ⟨by omega, (quotient_lt_iff hd e).1 fits, ?_⟩
    by_cases least : e = -1074
    · exact .inl least
    · exact .inr (le_of_lt (lt_of_le_of_lt (monotone (by omega)) low))
  · rw [if_neg fits]
    have large : (2 : ℚ) ^ (e + 53) ≤ n / d := not_lt.1 fun h => fits ((quotient_lt_iff hd e).2 h)
    refine ⟨by omega, lt_of_lt_of_le high (monotone (by omega)), .inr ?_⟩
    rwa [add_assoc]

/-- Rounding to a whole number depends on the value of the quotient only. -/
private theorem divideToEven_mul {k : Nat} (hk : 0 < k) (n d : Nat) :
    divideToEven (k * n) (k * d) = divideToEven n d := by
  unfold divideToEven
  rw [Nat.mul_div_mul_left _ _ hk, Nat.mul_mod_mul_left]
  have twice : 2 * (k * (n % d)) = k * (2 * (n % d)) := by ring
  simp only [twice, Nat.mul_lt_mul_left hk]

/-- A common factor does not change what a ratio is rounded to. -/
private theorem ofRatio_mul {k : Nat} (hk : 0 < k) (negative : Bool) (n : Nat) {d : Nat}
    (hd : 0 < d) : ofRatio negative (k * n) (k * d) = ofRatio negative n d := by
  by_cases zero : n = 0
  · simp [ofRatio, zero]
  have hn : 0 < n := Nat.pos_of_ne_zero zero
  have exponents : ratioExponent (k * n) (k * d) = ratioExponent n d := by
    have value : ((k * n : Nat) : ℚ) / (k * d : Nat) = n / d := by
      push_cast
      exact mul_div_mul_left _ _ (by exact_mod_cast hk.ne')
    have exponent := isExponent_ratioExponent (Nat.mul_pos hk hn) (Nat.mul_pos hk hd)
    rw [value] at exponent
    exact exponent.unique (isExponent_ratioExponent hn hd)
  have numerator (e : Int) : scaleNumerator (k * n) e = k * scaleNumerator n e := by
    unfold scaleNumerator
    split
    · exact Nat.mul_assoc ..
    · rfl
  have denominator (e : Int) : scaleDenominator (k * d) e = k * scaleDenominator d e := by
    unfold scaleDenominator
    split
    · rfl
    · exact Nat.mul_assoc ..
  have nonzero : k * n ≠ 0 := (Nat.mul_pos hk hn).ne'
  simp only [ofRatio, if_neg zero, if_neg nonzero, exponents, numerator, denominator,
    divideToEven_mul hk]

/-- Ratios of the same value are rounded to the same number. -/
theorem ofRatio_congr (negative : Bool) {n d n' d' : Nat} (hd : 0 < d) (hd' : 0 < d')
    (same : n * d' = n' * d) : ofRatio negative n d = ofRatio negative n' d' :=
  calc ofRatio negative n d = ofRatio negative (d' * n) (d' * d) :=
        (ofRatio_mul hd' negative n hd).symm
    _ = ofRatio negative (d * n') (d * d') := by
      rw [Nat.mul_comm d' n, same, Nat.mul_comm n' d, Nat.mul_comm d' d]
    _ = ofRatio negative n' d' := ofRatio_mul hd negative n' hd'

/-- A quotient without a remainder is rounded to itself. -/
private theorem divideToEven_mul_self {d : Nat} (hd : 0 < d) (m : Nat) :
    divideToEven (m * d) d = m := by
  simp [divideToEven, Nat.mul_div_cancel _ hd, hd]

/-- A ratio whose value is a double precision number is rounded to this number. -/
theorem ofRatio_exact (negative : Bool) {n d m : Nat} {e : Int} (hd : 0 < d)
    (canonical : IsSignificand m e) (value : (n / d : ℚ) = m * 2 ^ e) :
    ofRatio negative n d = .finite negative m e canonical := by
  have hd' : (d : ℚ) ≠ 0 := by exact_mod_cast hd.ne'
  have power : (0 : ℚ) < 2 ^ e := by positivity
  have ⟨small, least, _, filled⟩ := canonical
  by_cases zero : n = 0
  · have : m = 0 := by
      have : (0 : ℚ) = m * 2 ^ e := by rw [← value, zero]; simp
      simpa [power.ne'] using this.symm
    subst this
    have : e = -1074 := by simpa using filled
    subst this
    simp [ofRatio, zero, Binary64.zero]
  have hn : 0 < n := Nat.pos_of_ne_zero zero
  have exponent : ratioExponent n d = e := by
    refine (isExponent_ratioExponent hn hd).unique ⟨least, ?_, ?_⟩
    · rw [value, add_comm, zpow_add₀ (by norm_num)]
      gcongr
      exact_mod_cast small
    · refine filled.symm.imp_right fun filled => ?_
      rw [value, add_comm, zpow_add₀ (by norm_num)]
      gcongr
      exact_mod_cast filled
  have significand : divideToEven (scaleNumerator n e) (scaleDenominator d e) = m := by
    have positive := scaleDenominator_pos hd e
    have exact : scaleNumerator n e = m * scaleDenominator d e := by
      have scaled := scaled_value n d e
      rw [value, mul_div_cancel_right₀ _ power.ne',
        div_eq_iff (by exact_mod_cast positive.ne')] at scaled
      exact_mod_cast scaled
    rw [exact, divideToEven_mul_self positive]
  have bounded : m ≠ Nat.pow 2 53 := Nat.ne_of_lt small
  simp only [ofRatio, if_neg zero, exponent, significand, if_neg bounded, assemble]
  exact dif_pos canonical

/-- A value beyond the finite numbers is rounded to infinity. -/
theorem ofRatio_of_large (negative : Bool) {n d : Nat} (hd : 0 < d)
    (large : (2 : ℚ) ^ (1024 : ℤ) ≤ n / d) : ofRatio negative n d = .infinite negative := by
  have zero : n ≠ 0 := by
    rintro rfl
    have positive : (0 : ℚ) < 2 ^ (1024 : ℤ) := by positivity
    rw [Nat.cast_zero, zero_div] at large
    exact absurd large (not_le.2 positive)
  have exponent := isExponent_ratioExponent (Nat.pos_of_ne_zero zero) hd
  have far : 971 < ratioExponent n d := by
    have between := lt_of_le_of_lt large exponent.2.1
    have := (zpow_lt_zpow_iff_right₀ (by norm_num : (1 : ℚ) < 2)).1 between
    omega
  have beyond (m : Nat) {e : Int} (he : 971 < e) : assemble negative m e = .infinite negative :=
    dif_neg fun canonical => absurd canonical.2.2.1 (not_le.2 he)
  simp only [ofRatio, if_neg zero]
  split
  · exact beyond _ (by omega)
  · exact beyond _ far

/-- A value below half of the least number is rounded to zero. -/
theorem ofRatio_of_small (negative : Bool) {n d : Nat} (hd : 0 < d)
    (small : (n / d : ℚ) < 2 ^ (-1075 : ℤ)) : ofRatio negative n d = zero negative := by
  by_cases zero : n = 0
  · simp [ofRatio, zero]
  have exponent : ratioExponent n d = -1074 := by
    have chosen := isExponent_ratioExponent (Nat.pos_of_ne_zero zero) hd
    rcases chosen.2.2 with least | reached
    · exact least
    · have between := lt_of_le_of_lt reached small
      have := (zpow_lt_zpow_iff_right₀ (by norm_num : (1 : ℚ) < 2)).1 between
      have := chosen.1
      omega
  have half : 2 * scaleNumerator n (-1074) < scaleDenominator d (-1074) := by
    have positive : (0 : ℚ) < scaleDenominator d (-1074) := by
      exact_mod_cast scaleDenominator_pos hd _
    have scaled : (scaleNumerator n (-1074) : ℚ) / scaleDenominator d (-1074) < 1 / 2 := by
      rw [scaled_value, div_lt_iff₀ (by positivity)]
      calc (n / d : ℚ) < 2 ^ (-1075 : ℤ) := small
        _ = 2 ^ (-1 : ℤ) * 2 ^ (-1074 : ℤ) := zpow_add₀ (by norm_num) (-1) (-1074)
        _ = 1 / 2 * 2 ^ (-1074 : ℤ) := by rw [zpow_neg_one, one_div]
    rw [div_lt_div_iff₀ positive (by norm_num)] at scaled
    have : (2 * scaleNumerator n (-1074) : ℚ) < scaleDenominator d (-1074) := by linarith
    exact_mod_cast this
  have below : scaleNumerator n (-1074) < scaleDenominator d (-1074) := by omega
  have rounded : divideToEven (scaleNumerator n (-1074)) (scaleDenominator d (-1074)) = 0 := by
    simp [divideToEven, Nat.div_eq_of_lt below, Nat.mod_eq_of_lt below, half]
  simp only [ofRatio, if_neg zero, exponent, rounded]
  rfl

/-- A multiple of a power of ten is rounded as any ratio that it equals. -/
theorem ofScaled_eq_ofRatio (negative : Bool) {digits n d : Nat} {exponent : Int} (hd : 0 < d)
    (value : (n / d : ℚ) = digits * 10 ^ exponent) :
    ofScaled negative digits exponent = ofRatio negative n d := by
  have hd' : (d : ℚ) ≠ 0 := by exact_mod_cast hd.ne'
  unfold ofScaled
  by_cases zero : digits = 0
  · have : n = 0 := by simpa [zero, hd'] using value
    simp [zero, this, ofRatio]
  rw [if_neg zero]
  have one : (1 : ℚ) ≤ digits := by exact_mod_cast Nat.pos_of_ne_zero zero
  by_cases far : 400 < exponent
  · rw [if_pos far, ofRatio_of_large negative hd]
    calc (2 : ℚ) ^ (1024 : ℤ) ≤ 2 ^ (3 * 400 : ℤ) := zpow_le_zpow_right₀ (by norm_num) (by norm_num)
      _ = (2 ^ (3 : ℤ)) ^ (400 : ℤ) := zpow_mul 2 3 400
      _ ≤ 10 ^ (400 : ℤ) := zpow_le_zpow_left₀ (by norm_num) (by norm_num) (by norm_num)
      _ ≤ 10 ^ exponent := zpow_le_zpow_right₀ (by norm_num) far.le
      _ ≤ digits * 10 ^ exponent := le_mul_of_one_le_left (by positivity) one
      _ = n / d := value.symm
  rw [if_neg far]
  by_cases near : exponent + (digits.log2 : Int) < -1200
  · rw [if_pos near, ofRatio_of_small negative hd]
    have high : (digits : ℚ) < 2 ^ ((digits.log2 : ℤ) + 1) := by
      exact_mod_cast Nat.lt_log2_self (n := digits)
    have power : (10 : ℚ) ^ exponent ≤ 2 ^ exponent := by
      obtain ⟨k, rfl⟩ : ∃ k : Nat, exponent = -(k : Int) := ⟨exponent.natAbs, by omega⟩
      rw [zpow_neg, zpow_neg, zpow_natCast, zpow_natCast]
      gcongr
      norm_num
    calc (n / d : ℚ) = digits * 10 ^ exponent := value
      _ < 2 ^ ((digits.log2 : ℤ) + 1) * 2 ^ exponent :=
        mul_lt_mul high power (by positivity) (by positivity)
      _ = 2 ^ ((digits.log2 : ℤ) + 1 + exponent) := (zpow_add₀ (by norm_num) _ _).symm
      _ ≤ 2 ^ (-1075 : ℤ) := zpow_le_zpow_right₀ (by norm_num) (by omega)
  rw [if_neg near]
  by_cases positive : 0 ≤ exponent
  · rw [if_pos positive]
    obtain ⟨k, rfl⟩ : ∃ k : Nat, exponent = (k : Int) := ⟨exponent.natAbs, by omega⟩
    refine ofRatio_congr negative Nat.one_pos hd ?_
    rw [div_eq_iff hd', zpow_natCast] at value
    simp only [Int.natAbs_natCast, mul_one]
    exact_mod_cast value.symm
  · rw [if_neg positive]
    obtain ⟨k, rfl⟩ : ∃ k : Nat, exponent = -(k : Int) := ⟨exponent.natAbs, by omega⟩
    refine ofRatio_congr negative (Nat.pow_pos (by decide)) hd ?_
    rw [zpow_neg, zpow_natCast, ← div_eq_mul_inv, div_eq_div_iff hd' (by positivity)] at value
    simp only [Int.natAbs_neg, Int.natAbs_natCast]
    exact_mod_cast value.symm

/-- What a multiple of a power of ten is rounded to depends on its value only. -/
theorem ofScaled_congr (negative : Bool) {digits digits' : Nat} {exponent exponent' : Int}
    (same : (digits * 10 ^ exponent : ℚ) = digits' * 10 ^ exponent') :
    ofScaled negative digits exponent = ofScaled negative digits' exponent' := by
  obtain ⟨n, d, hd, value⟩ : ∃ n d : Nat, 0 < d ∧ (n / d : ℚ) = digits * 10 ^ exponent := by
    by_cases positive : 0 ≤ exponent
    · obtain ⟨k, rfl⟩ : ∃ k : Nat, exponent = (k : Int) := ⟨exponent.natAbs, by omega⟩
      exact ⟨digits * 10 ^ k, 1, Nat.one_pos, by push_cast; simp⟩
    · obtain ⟨k, rfl⟩ : ∃ k : Nat, exponent = -(k : Int) := ⟨exponent.natAbs, by omega⟩
      refine ⟨digits, 10 ^ k, Nat.pow_pos (by decide), ?_⟩
      rw [zpow_neg, zpow_natCast, ← div_eq_mul_inv]
      norm_cast
  rw [ofScaled_eq_ofRatio negative hd value, ofScaled_eq_ofRatio negative hd (value.trans same)]

end FlatRecord.Number.Binary64
