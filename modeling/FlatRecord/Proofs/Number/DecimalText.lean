import FlatRecord.Proofs.Number.NumberParts

/-!
# Decimal numbers read back

The text of a finite decimal number, with the digits and the exponent it has, is read as the same
number, unless that is beyond the limits of exponents. The text has one of two layouts: digits with a
point somewhere between them, or one digit, the others behind a point, and an exponent. What is read is
within the limits.

The text without an exponent has the first layout, with zeros in place of a positive exponent. It is read as
a number of the same value.
-/

namespace FlatRecord.Number

open FlatRecord.Text

/-- Folding leaves an ASCII text without underscores alone. -/
private theorem foldDigits?_eq {cs : List Char}
    (h : ∀ c ∈ cs, c ≠ '_' ∧ c ≠ '\x00' ∧ c.toNat < 0x80) :
    Decimal.foldDigits? cs = some cs := by
  induction cs with
  | nil => rfl
  | cons c cs ih =>
    obtain ⟨⟨underscore, null, ascii⟩, others⟩ := List.forall_mem_cons.1 h
    simp [Decimal.foldDigits?, ih others, underscore, null, ascii]

namespace Decimal

/-- A text that begins with a digit is no name. -/
private theorem readUnsigned_of_isDigit {c : Char} {cs : List Char} (digit : c.isDigit)
    (negative : Bool) {parts : DecimalParts}
    (read : decimalParts? (c :: cs) = some parts) :
    readUnsigned negative (c :: cs) =
      make negative (digitsNumber (parts.whole ++ parts.fraction))
        (parts.exponent - parts.fraction.length) := by
  have unnamed {word : List Char} (letter : word.head?.any Char.isAlpha) :
      lowerAscii (c :: cs) ≠ word := ne_of_isDigit digit rfl letter
  have beginning (count : Nat) {word : List Char} (letter : word.head?.any Char.isAlpha) :
      (lowerAscii (c :: cs)).take (count + 1) ≠ word := ne_of_isDigit digit rfl letter
  unfold readUnsigned
  dsimp only
  rw [if_neg (not_or.2 ⟨unnamed rfl, unnamed rfl⟩), if_neg (beginning 2 rfl),
    if_neg (beginning 3 rfl), read]

/-- The text of a number is read as the number, if that is within the limits. -/
private theorem read_parts {p : NumberParts} (plain : p.IsPlain) (negative : Bool) :
    Decimal.read (withSign negative (p.text 'E')) = make negative p.coefficient p.scale := by
  have known := plain.inNumber (.inr rfl) negative
  have trimmed := trim_eq fun c mem => (known c mem).plain.1
  have folded := foldDigits?_eq fun c mem => (known c mem).plain.2
  have parts := plain.decimalParts?_text (.inr rfl)
  have coefficient := p.digitsNumber_parts
  obtain ⟨c, tail, text, digit⟩ := plain.text_cons 'E'
  rw [text] at trimmed folded parts ⊢
  rw [Decimal.read, trimmed, folded]
  simp only [signed_withSign negative digit]
  rw [readUnsigned_of_isDigit digit negative parts]
  dsimp only
  rw [coefficient, List.length_map]
  rfl

/-- Digits with a point before some of them, after enough zeros. -/
private theorem pointed_parts {digits : List Char} (plain : IsDigits digits) (nonempty : digits ≠ [])
    (places : Nat) : ∃ p : NumberParts, p.IsPlain ∧ p.exponent = none ∧
      pointed digits places = p.text 'E' ∧ p.coefficient = textNumber digits ∧ p.scale = -places := by
  unfold pointed
  split
  · rename_i zero
    refine ⟨⟨digits, [], none⟩, ⟨plain, nonempty, .nil, by simp⟩, rfl, ?_, ?_, ?_⟩
    · simp [NumberParts.text, NumberParts.pointText, NumberParts.exponentText]
    · simp [NumberParts.coefficient]
    · simp [NumberParts.scale, NumberParts.power, zero]
  · rename_i some
    let padded := List.replicate (places + 1 - digits.length) '0' ++ digits
    have length : places + 1 ≤ padded.length := by
      simp only [padded, List.length_append, List.length_replicate]
      omega
    have digits' : IsDigits padded := (IsDigits.replicate_zero _).append plain
    have number : textNumber padded = textNumber digits := by
      rw [textNumber_append, textNumber_zeros, Nat.zero_mul, Nat.zero_add]
    have filled : padded.take (padded.length - places) ≠ [] := by
      rw [Ne, ← List.length_eq_zero_iff, List.length_take]
      omega
    have behind : (padded.drop (padded.length - places)).length = places := by
      rw [List.length_drop]
      omega
    have fraction : padded.drop (padded.length - places) ≠ [] := by
      rw [Ne, ← List.length_eq_zero_iff, behind]
      exact some
    refine ⟨⟨padded.take (padded.length - places), padded.drop (padded.length - places), none⟩,
      ⟨digits'.take _, filled, digits'.drop _, by simp⟩, rfl, ?_, ?_, ?_⟩
    · rw [NumberParts.text, NumberParts.pointText, if_neg fraction]
      simp [NumberParts.exponentText, padded]
    · rw [← number, NumberParts.coefficient, List.take_append_drop]
    · rw [NumberParts.scale, behind, NumberParts.power, Option.elim_none, zero_sub]

/-- The text of a finite decimal number has parts that stand for the number. -/
private theorem text_parts (negative : Bool) (coefficient : Nat) (exponent : Int) :
    ∃ p : NumberParts, p.IsPlain ∧
      (finite negative coefficient exponent).text = withSign negative (p.text 'E') ∧
      p.coefficient = coefficient ∧ p.scale = exponent := by
  have plain := IsDigits.naturalText coefficient
  have nonempty : naturalText coefficient ≠ [] := Nat.toDigits_ne_nil
  have number := textNumber_naturalText coefficient
  unfold text
  dsimp only
  generalize naturalText coefficient = digits at plain nonempty number ⊢
  subst number
  split
  · rename_i near
    obtain ⟨p, known, -, layout, same, place⟩ := pointed_parts plain nonempty exponent.natAbs
    exact ⟨p, known, by rw [layout], same, by rw [place]; omega⟩
  · rename_i far
    obtain ⟨first, others, rfl⟩ := List.exists_cons_of_ne_nil nonempty
    obtain ⟨digit, behind⟩ := List.forall_mem_cons.1 plain
    have length : ((first :: others).length : Int) = others.length + 1 := by simp
    rw [length] at far ⊢
    have shown : (exponent + (others.length + 1) - 1 : Int) = exponent + others.length := by omega
    have exponential : (exponent + others.length : Int) ≠ 0 := by omega
    rw [shown, if_neg exponential]
    refine ⟨⟨[first], others, some (decide (exponent + others.length < 0),
      naturalText (exponent + others.length).natAbs)⟩, ⟨.cons digit .nil, by simp, behind, ?_⟩, ?_, rfl, ?_⟩
    · rintro _ ⟨⟩
      exact ⟨.naturalText _, Nat.toDigits_ne_nil⟩
    · cases others <;> simp [NumberParts.text, NumberParts.pointText, NumberParts.exponentText]
    · simp only [NumberParts.scale, NumberParts.power, Option.elim_some, textNumber_naturalText,
        decide_eq_true_eq]
      split <;> omega

/-- The text of a finite decimal number is read as the number, if that is within the limits. -/
theorem read_text (negative : Bool) (coefficient : Nat) (exponent : Int) :
    Decimal.read (finite negative coefficient exponent).text =
      make negative coefficient exponent := by
  obtain ⟨p, plain, text, same, place⟩ := text_parts negative coefficient exponent
  rw [text, read_parts plain, same, place]

/-- Whether a number is finite and its exponents are within the limits. -/
def InRange : Decimal → Prop
  | finite negative coefficient exponent =>
    make negative coefficient exponent = .ok (finite negative coefficient exponent)
  | _ => False

theorem InRange.isFinite {d : Decimal} (within : d.InRange) : d.isFinite := by
  cases d with
  | finite negative coefficient exponent => rfl
  | _ => exact absurd within id

/-- What is put together is within the limits. -/
theorem inRange_of_make {negative : Bool} {coefficient : Nat} {exponent : Int} {d : Decimal}
    (made : make negative coefficient exponent = .ok d) : d.InRange := by
  have same : finite negative coefficient exponent = d := by
    unfold make at made
    generalize (if coefficient = 0 then exponent
      else exponent + (naturalText coefficient).length - 1) = adjusted at made
    dsimp only at made
    split at made
    · cases made
    · exact Except.ok.inj made
  rwa [← same, InRange, same]

/-- A finite number that is read is within the limits. -/
theorem inRange_of_read {cs : List Char} {d : Decimal} (finite : d.isFinite)
    (found : Decimal.read cs = .ok d) : d.InRange := by
  have unsigned {negative : Bool} {cs : List Char}
      (found : readUnsigned negative cs = .ok d) : d.InRange := by
    unfold readUnsigned at found
    dsimp only at found
    split at found
    · obtain rfl := Except.ok.inj found
      cases finite
    split at found
    · split at found
      · obtain rfl := Except.ok.inj found
        cases finite
      · cases found
    split at found
    · split at found
      · obtain rfl := Except.ok.inj found
        cases finite
      · cases found
    split at found
    · exact inRange_of_make found
    · cases found
  unfold Decimal.read at found
  split at found
  · cases found
  · exact unsigned found

/-- The text of a number within the limits is read as the number. -/
theorem read_text_of_inRange {d : Decimal} (within : d.InRange) : Decimal.read d.text = .ok d := by
  cases d with
  | finite negative coefficient exponent => exact (read_text ..).trans within
  | _ => exact absurd within id

/-- The value of a finite number. -/
def value : Decimal → ℚ
  | finite negative coefficient exponent =>
    (if negative then -1 else 1) * coefficient * 10 ^ exponent
  | _ => 0

/-- The text of a number without an exponent has parts that stand for the number: zeros are added to the
coefficient in place of a positive exponent. -/
private theorem plainText_parts (negative : Bool) (coefficient : Nat) (exponent : Int) :
    ∃ p : NumberParts, p.IsPlain ∧ p.exponent = none ∧
      (finite negative coefficient exponent).plainText = withSign negative (p.text 'E') ∧
      p.coefficient = coefficient * 10 ^ exponent.toNat ∧ p.scale = min exponent 0 := by
  have plain := IsDigits.naturalText coefficient
  have nonempty : naturalText coefficient ≠ [] := Nat.toDigits_ne_nil
  have number := textNumber_naturalText coefficient
  unfold plainText
  by_cases positive : 0 < exponent
  · let zeros := List.replicate (if coefficient = 0 then 0 else exponent.natAbs) '0'
    refine ⟨⟨naturalText coefficient ++ zeros, [], none⟩,
      ⟨plain.append (.replicate_zero _), by simp [nonempty], .nil, by simp⟩, rfl, ?_, ?_, ?_⟩
    · simp [positive, zeros, NumberParts.text, NumberParts.pointText, NumberParts.exponentText]
    · rw [NumberParts.coefficient, List.append_nil, textNumber_append, number, textNumber_zeros,
        List.length_replicate, Nat.add_zero]
      by_cases zero : coefficient = 0
      · simp [zero]
      · rw [if_neg zero, show exponent.natAbs = exponent.toNat by omega]
    · simp only [NumberParts.scale, NumberParts.power, Option.elim_none, List.length_nil]
      omega
  · obtain ⟨p, known, whole, layout, same, place⟩ := pointed_parts plain nonempty exponent.natAbs
    refine ⟨p, known, whole, (if_neg positive).trans (by rw [layout]), ?_, by rw [place]; omega⟩
    rw [same, number, show exponent.toNat = 0 by omega, pow_zero, Nat.mul_one]

/-- The text of a finite number without an exponent holds digits, a point and a sign only. -/
theorem mem_plainText {d : Decimal} (finite : d.isFinite) :
    ∀ c ∈ d.plainText, c.isDigit ∨ c = '.' ∨ c = '-' := by
  cases d with
  | finite negative coefficient exponent =>
    obtain ⟨p, plain, whole, text, -⟩ := plainText_parts negative coefficient exponent
    have fraction : ∀ c ∈ NumberParts.pointText p.fraction, c.isDigit ∨ c = '.' ∨ c = '-' := by
      unfold NumberParts.pointText
      split_ifs
      · exact List.forall_mem_nil _
      · exact List.forall_mem_cons.2 ⟨.inr (.inl rfl), fun c mem => .inl (plain.fraction c mem)⟩
    have unsigned : ∀ c ∈ p.text 'E', c.isDigit ∨ c = '.' ∨ c = '-' := by
      rw [NumberParts.text, whole, NumberParts.exponentText, List.append_nil]
      exact List.forall_mem_append.2 ⟨fun c mem => .inl (plain.whole c mem), fraction⟩
    rw [text]
    cases negative with
    | false => exact unsigned
    | true => exact List.forall_mem_cons.2 ⟨.inr (.inr rfl), unsigned⟩
  | _ => cases finite

/-- The exponent of the first digit of a number. -/
private def adjusted (coefficient : Nat) (exponent : Int) : Int :=
  if coefficient = 0 then exponent else exponent + (naturalText coefficient).length - 1

private theorem inRange_iff {negative : Bool} {coefficient : Nat} {exponent : Int} :
    (finite negative coefficient exponent).InRange ↔
      minExponent ≤ exponent ∧ adjusted coefficient exponent ≤ maxExponent := by
  unfold InRange make adjusted
  dsimp only
  split_ifs <;> simp <;> omega

/-- Zeros in place of a positive exponent do not move the first digit of a number. -/
private theorem adjusted_zeros_le (coefficient : Nat) {exponent : Int} (positive : 0 < exponent) :
    adjusted (coefficient * 10 ^ exponent.toNat) 0 ≤ adjusted coefficient exponent := by
  have filled : 0 < (naturalText coefficient).length := List.length_pos_iff.2 Nat.toDigits_ne_nil
  have above : coefficient < 10 ^ (naturalText coefficient).length :=
    (Nat.length_toDigits_le_iff (by decide) filled).1 le_rfl
  have longer : (naturalText (coefficient * 10 ^ exponent.toNat)).length ≤
      (naturalText coefficient).length + exponent.toNat := by
    refine (Nat.length_toDigits_le_iff (by decide) (Nat.add_pos_left filled _)).2 ?_
    rw [pow_add]
    exact (Nat.mul_lt_mul_right (Nat.pow_pos (by decide))).2 above
  unfold adjusted
  by_cases zero : coefficient = 0
  · simp [zero, positive.le]
  · rw [if_neg zero, if_neg (Nat.mul_ne_zero zero (Nat.pow_pos (by decide)).ne')]
    omega

/-- The text of a number without an exponent is read as a number of the same value. -/
theorem read_plainText {d : Decimal} (within : d.InRange) :
    ∃ e : Decimal, Decimal.read d.plainText = .ok e ∧ e.isFinite ∧ e.value = d.value := by
  cases d with
  | finite negative coefficient exponent =>
    obtain ⟨p, plain, -, text, same, place⟩ := plainText_parts negative coefficient exponent
    obtain ⟨least, greatest⟩ := inRange_iff.1 within
    by_cases positive : 0 < exponent
    · have written : (finite negative (coefficient * 10 ^ exponent.toNat) 0).InRange :=
        inRange_iff.2 ⟨by decide, (adjusted_zeros_le coefficient positive).trans greatest⟩
      refine ⟨_, ?_, written.isFinite, ?_⟩
      · rw [text, read_parts plain, same, place, min_eq_right positive.le]
        exact written
      · have power : ((10 : ℚ) ^ exponent.toNat : ℚ) = 10 ^ exponent := by
          rw [← zpow_natCast, Int.toNat_of_nonneg positive.le]
        simp only [value]
        push_cast
        rw [power, mul_one, mul_assoc]
    · refine ⟨_, ?_, within.isFinite, rfl⟩
      rw [text, read_parts plain, same, place, min_eq_left (not_lt.1 positive),
        show exponent.toNat = 0 by omega, pow_zero, Nat.mul_one]
      exact within
  | _ => exact absurd within id

end Decimal

end FlatRecord.Number
