import FlatRecord.Number.FloatText
import FlatRecord.Proofs.Number.Rounding

/-!
# Shortest digits and their layout

The shortest digits of a double precision number are rounded to this number again. This needs no
bound on how many digits are enough: a hit of the search is one because it reads back, and behind
a search without a hit the exact digits stand in.

Texts of decimal digits stand for numbers, which zeros before the digits do not change.
-/

namespace FlatRecord.Number

open Binary64 FlatRecord.Text

/-- A text of decimal digits only. -/
def IsDigits (cs : List Char) : Prop := ∀ c ∈ cs, c.isDigit

namespace IsDigits

theorem nil : IsDigits [] := List.forall_mem_nil _

theorem cons {c : Char} {cs : List Char} (h : c.isDigit) (hs : IsDigits cs) : IsDigits (c :: cs) :=
  List.forall_mem_cons.2 ⟨h, hs⟩

theorem append {cs ds : List Char} (hc : IsDigits cs) (hd : IsDigits ds) : IsDigits (cs ++ ds) :=
  List.forall_mem_append.2 ⟨hc, hd⟩

theorem replicate_zero (n : Nat) : IsDigits (List.replicate n '0') := by
  intro c mem
  rw [List.eq_of_mem_replicate mem]
  decide

theorem naturalText (n : Nat) : IsDigits (naturalText n) :=
  fun _ mem => Nat.isDigit_of_mem_toDigits (by decide) (by decide) mem

theorem take {cs : List Char} (h : IsDigits cs) (n : Nat) : IsDigits (cs.take n) :=
  fun c mem => h c (List.mem_of_mem_take mem)

theorem drop {cs : List Char} (h : IsDigits cs) (n : Nat) : IsDigits (cs.drop n) :=
  fun c mem => h c (List.mem_of_mem_drop mem)

end IsDigits

/-- The number that a text of decimal digits stands for. -/
def textNumber (cs : List Char) : Nat := Nat.ofDigitChars 10 cs 0

@[simp]
theorem textNumber_nil : textNumber [] = 0 := Nat.ofDigitChars_nil

@[simp]
theorem textNumber_naturalText (n : Nat) : textNumber (naturalText n) = n :=
  Nat.ofDigitChars_ten_toDigits

theorem textNumber_append (cs ds : List Char) :
    textNumber (cs ++ ds) = textNumber cs * 10 ^ ds.length + textNumber ds := by
  rw [textNumber, Nat.ofDigitChars_append, Nat.ofDigitChars_eq_ofDigitChars_zero, Nat.mul_comm]
  rfl

@[simp]
theorem textNumber_zeros (n : Nat) : textNumber (List.replicate n '0') = 0 := by
  rw [textNumber, Nat.ofDigitChars_replicate_zero, Nat.mul_zero]

/-- The number of a text is that of the values of its digits. -/
theorem digitsNumber_map (cs : List Char) :
    digitsNumber (cs.map asciiDigitValue) = textNumber cs := by
  rw [digitsNumber, textNumber, Nat.ofDigitChars_eq_foldl, List.foldl_map]
  rfl

namespace Shortest

/-- A neighbour on a grid is taken only if it reads back. -/
private theorem readsBack_of_onGrid {readsBack : Scaled → Bool} {n d : Nat} {e : Int} {s : Scaled}
    (hit : onGrid readsBack n d e = some s) : readsBack s := by
  unfold onGrid at hit
  grind

/-- What the search finds reads back. -/
private theorem readsBack_of_search {readsBack : Scaled → Bool} {n d : Nat} {top : Int} {s : Scaled}
    {fuel count : Nat} (hit : search readsBack n d top fuel count = some s) : readsBack s := by
  induction fuel generalizing count with
  | zero => simp [search] at hit
  | succ fuel ih =>
    rw [search] at hit
    cases tried : onGrid readsBack n d (top - count) with
    | some found =>
      rw [tried, Option.some.injEq] at hit
      exact hit ▸ readsBack_of_onGrid tried
    | none =>
      rw [tried] at hit
      exact ih hit

end Shortest

/-- Final zeros of the digits have no part in the value. -/
private theorem ofScaled_strip (negative : Bool) (fuel : Nat) (s : Scaled) :
    ofScaled negative (s.strip fuel).digits (s.strip fuel).exponent =
      ofScaled negative s.digits s.exponent := by
  induction fuel generalizing s with
  | zero => rfl
  | succ fuel ih =>
    rw [Scaled.strip]
    by_cases droppable : (s.digits != 0 && s.digits % 10 = 0) = true
    · rw [if_pos droppable, ih]
      refine ofScaled_congr negative ?_
      have divided : s.digits / 10 * 10 = s.digits :=
        Nat.div_mul_cancel (Nat.dvd_of_mod_eq_zero (by simp_all))
      rw [zpow_add₀ (by norm_num), zpow_one, mul_comm (10 ^ s.exponent : ℚ), ← mul_assoc]
      congr 1
      exact_mod_cast divided
    · rw [if_neg droppable]

/-- The shortest digits of a number are rounded to this number. -/
theorem ofScaled_shortestDigits {m : Nat} {e : Int} (canonical : IsSignificand m e) :
    ofScaled false (shortestDigits m e).digits (shortestDigits m e).exponent =
      .finite false m e canonical := by
  have value : (scaleNumerator m (-e) / scaleDenominator 1 (-e) : ℚ) = m * 2 ^ e := by
    rw [scaled_value, Nat.cast_one, div_one, zpow_neg, div_inv_eq_mul]
  have positive := scaleDenominator_pos Nat.one_pos (-e)
  have exact := ofRatio_exact false positive canonical value
  unfold shortestDigits
  by_cases zero : m = 0
  · have least : e = -1074 := by simpa [zero] using canonical.2.2.2
    subst zero least
    rfl
  rw [if_neg zero]
  dsimp only
  split
  next s hit =>
    rw [ofScaled_strip, ← exact]
    simpa using Shortest.readsBack_of_search hit
  next =>
    rw [← exact]
    by_cases negative : e < 0
    · rw [if_pos negative]
      refine ofScaled_eq_ofRatio false positive ?_
      obtain ⟨k, rfl⟩ : ∃ k : Nat, e = -(k : Int) := ⟨e.natAbs, by omega⟩
      rw [value, Int.natAbs_neg, Int.natAbs_natCast, zpow_neg, zpow_neg, zpow_natCast, zpow_natCast,
        show (10 : ℚ) = 2 * 5 by norm_num, mul_pow]
      push_cast
      field_simp
      norm_cast
    · rw [if_neg negative]
      refine ofScaled_eq_ofRatio false positive ?_
      obtain ⟨k, rfl⟩ : ∃ k : Nat, e = (k : Int) := ⟨e.natAbs, by omega⟩
      rw [value, Int.natAbs_natCast, zpow_natCast]
      push_cast
      simp

theorem ofScaled_true (digits : Nat) (exponent : Int) :
    ofScaled true digits exponent = (ofScaled false digits exponent).negate := by
  have assembled (m : Nat) (e : Int) : assemble true m e = (assemble false m e).negate := by
    unfold assemble
    split <;> rfl
  have ratio (n d : Nat) : ofRatio true n d = (ofRatio false n d).negate := by
    unfold ofRatio
    dsimp only
    split
    · rfl
    split <;> exact assembled _ _
  unfold ofScaled
  split
  · rfl
  split
  · rfl
  split
  · rfl
  split <;> exact ratio _ _

/-- The same for the number with a sign. -/
theorem ofScaled_shortestDigits_signed (negative : Bool) {m : Nat} {e : Int}
    (canonical : IsSignificand m e) :
    ofScaled negative (shortestDigits m e).digits (shortestDigits m e).exponent =
      .finite negative m e canonical := by
  cases negative with
  | false => exact ofScaled_shortestDigits canonical
  | true => rw [ofScaled_true, ofScaled_shortestDigits canonical]; rfl

end FlatRecord.Number
