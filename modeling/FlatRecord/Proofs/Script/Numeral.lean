import FlatRecord.Proofs.Number.NumberParts
import FlatRecord.Script.Numeral
import Mathlib.Tactic.FinCases

/-!
# Numerals read back

The decimal digits of an integer and the plain layouts of a finite double precision number are
numerals of the scripting language, and stand for the same number. What follows a numeral must not
look like a continuation of it.
-/

namespace FlatRecord.Script

open FlatRecord.Number FlatRecord.Text

/-- A text that begins with no letter, digit, underscore or point, so that a numeral ends before
it. -/
def EndsNumeral (rest : List Char) : Prop := ∀ c ∈ rest.head?, isWordLike c = false ∧ c ≠ '.'

/-- A text that does not continue a run of digits. -/
private def EndsDigits (rest : List Char) : Prop := ∀ c ∈ rest.head?, c.isDigit = false ∧ c ≠ '_'

private theorem isAsciiDigit_eq (c : Char) : isAsciiDigit c = c.isDigit := rfl

private theorem isWordLike_of_isDigit {c : Char} (digit : c.isDigit) : isWordLike c := by
  simp [isWordLike, Char.isAlphanum, digit]

private theorem EndsNumeral.endsDigits {rest : List Char} (ends : EndsNumeral rest) :
    EndsDigits rest := by
  intro c mem
  have apart := (ends c mem).1
  constructor
  · by_contra digit
    rw [isWordLike_of_isDigit (by simpa using digit)] at apart
    contradiction
  · rintro rfl
    exact absurd apart (by decide)

/-- A decimal digit has a value below ten. -/
private theorem baseDigit?_of_isDigit {c : Char} (digit : c.isDigit) :
    baseDigit? 10 c = some (asciiDigitValue c) := by
  have bounds : 48 ≤ c.toNat ∧ c.toNat ≤ 57 := by
    simp only [Char.isDigit, Bool.and_eq_true, decide_eq_true_eq, ge_iff_le,
      UInt32.le_iff_toNat_le] at digit
    exact digit
  have small : asciiDigitValue c < 10 := by
    unfold asciiDigitValue
    omega
  simp [baseDigit?, hexDigitValue?, isAsciiDigit_eq, digit, small]

/-- What is no decimal digit has no value in base ten. -/
private theorem baseDigit?_of_not_isDigit {c : Char} (other : c.isDigit = false) :
    baseDigit? 10 c = none := by
  have letter (low high : Char) (offset : Nat) (far : offset + 10 ≤ low.toNat)
      (h : low ≤ c ∧ c ≤ high) : ¬ c.toNat - offset < 10 := by
    have : low.toNat ≤ c.toNat := h.1
    omega
  unfold baseDigit? hexDigitValue?
  rw [isAsciiDigit_eq, other]
  simp only [Bool.false_eq_true, if_false]
  split
  next h => simpa using letter 'a' 'f' 0x57 (by decide) h
  split
  next h => simpa using letter 'A' 'F' 0x37 (by decide) h
  rfl

/-- A run of digits ends where something else follows. -/
private theorem digitRun_nil {rest : List Char} (ends : EndsDigits rest) :
    digitRun 10 rest = some ([], rest) := by
  cases rest with
  | nil => rfl
  | cons c tail =>
    obtain ⟨other, underscore⟩ := ends c rfl
    have value := baseDigit?_of_not_isDigit other
    unfold digitRun
    split
    · simp_all
    · simp_all
    · simp_all

/-- Digits are read up to their end. -/
private theorem digitRun_append {cs rest : List Char} (digits : IsDigits cs)
    (ends : EndsDigits rest) :
    digitRun 10 (cs ++ rest) = some (cs.map asciiDigitValue, rest) := by
  induction cs with
  | nil => exact digitRun_nil ends
  | cons c cs ih =>
    obtain ⟨digit, digits⟩ := List.forall_mem_cons.1 digits
    have value := baseDigit?_of_isDigit digit
    have apart : c ≠ '_' := by
      rintro rfl
      exact absurd digit (by decide)
    rw [List.cons_append, digitRun.eq_def]
    split
    · simp_all
    · simp_all
    next c' rest' _ _ shape =>
      obtain ⟨rfl, rfl⟩ := List.cons_eq_cons.1 shape
      simp [value, ih digits]

/-- Without a point there is no fraction. -/
private theorem fractionPart_of_ne {cs : List Char} (h : cs.head? ≠ some '.') :
    fractionPart cs = some (false, [], cs) := by
  unfold fractionPart
  split
  · simp at h
  · rfl

/-- Digits behind a point. -/
private theorem fractionPart_append {cs rest : List Char} (nonempty : cs ≠ [])
    (digits : IsDigits cs) (ends : EndsDigits rest) :
    fractionPart ('.' :: (cs ++ rest)) = some (true, cs.map asciiDigitValue, rest) := by
  have first : (cs ++ rest).head?.any isAsciiDigit := by
    obtain ⟨c, tail, rfl⟩ := List.exists_cons_of_ne_nil nonempty
    simpa [isAsciiDigit_eq] using digits c (by simp)
  rw [fractionPart, if_pos first, digitRun_append digits ends]
  rfl

/-- Where a numeral may end there is no exponent. -/
private theorem exponentPart_of_ends {rest : List Char} (ends : EndsNumeral rest) :
    exponentPart rest = some (none, rest) := by
  cases rest with
  | nil => rfl
  | cons c tail =>
    have apart := (ends c rfl).1
    have mark : ¬ (c = 'e' ∨ c = 'E') := by
      rintro (rfl | rfl) <;> exact absurd apart (by decide)
    rw [exponentPart.eq_def]
    exact if_neg mark

/-- A signed exponent. -/
private theorem exponentPart_append {mark : Char} {cs rest : List Char}
    (sign : mark = '+' ∨ mark = '-') (nonempty : cs ≠ []) (digits : IsDigits cs)
    (ends : EndsDigits rest) :
    exponentPart ('e' :: mark :: (cs ++ rest)) =
      some (some (if mark = '-' then -(textNumber cs : Int) else textNumber cs), rest) := by
  have run := digitRun_append digits ends
  obtain ⟨c, tail, rfl⟩ := List.exists_cons_of_ne_nil nonempty
  have first : isAsciiDigit c := digits c (by simp)
  rw [List.cons_append] at run ⊢
  rw [exponentPart, if_pos (.inl rfl)]
  simp only [if_pos sign, if_pos first, List.tail_cons, run, Option.map_some, digitsNumber_map]

/-- A numeral may end before a text that does not continue it. -/
private theorem isNumeralEnd_of_ends {rest : List Char} (ends : EndsNumeral rest) :
    isNumeralEnd rest := by
  cases rest with
  | nil => rfl
  | cons c tail =>
    have apart := (ends c rfl).1
    unfold isNumeralEnd
    split <;> simp_all

/-- The end of a decimal numeral: no mark of an imaginary part stands there. -/
private theorem not_imaginary {rest : List Char} (ends : EndsNumeral rest) {c : Char}
    {tail : List Char} (shape : rest = c :: tail) : ¬ (c = 'j' ∨ c = 'J') := by
  subst shape
  have apart := (ends c rfl).1
  rintro (rfl | rfl) <;> exact absurd apart (by decide)

/-- A decimal numeral from its parts. -/
private theorem decimalNumeral_of_parts {cs afterWhole afterFraction rest : List Char}
    {whole fraction : List Nat} {pointed : Bool} {exponent : Option Int}
    (first : digitRun 10 cs = some (whole, afterWhole))
    (second : fractionPart afterWhole = some (pointed, fraction, afterFraction))
    (third : exponentPart afterFraction = some (exponent, rest)) (ends : EndsNumeral rest)
    (marked : (pointed || exponent.isSome) = true) :
    decimalNumeral cs = some (.datum (.float (Binary64.ofScaled false
      (digitsNumber (whole ++ fraction)) (exponent.getD 0 - fraction.length))), rest) := by
  unfold decimalNumeral
  rw [first]
  simp only [Option.bind_eq_bind, Option.bind_some, second, third, endNumeral,
    isNumeralEnd_of_ends ends, marked, if_true]
  cases rest with
  | nil => rfl
  | cons c tail => simp [not_imaginary ends rfl]

/-- A text whose second character is no mark of another base is read as a decimal numeral. -/
private theorem numeral_eq_decimalNumeral {cs : List Char}
    (decimal : ∀ mark ∈ cs.tail.head?, mark ∉ ['x', 'X', 'o', 'O', 'b', 'B']) :
    numeral cs = decimalNumeral cs := by
  unfold numeral
  split
  next mark rest =>
    have apart := decimal mark (by simp)
    simp only [List.mem_cons, List.not_mem_nil, or_false, not_or] at apart
    simp [apart]
  next => rfl

/-- Neither digits nor what may follow them marks another base. -/
private theorem decimal_of_digits {cs rest : List Char} (nonempty : cs ≠ []) (digits : IsDigits cs)
    (apart : ∀ mark ∈ rest.head?, mark ∉ ['x', 'X', 'o', 'O', 'b', 'B']) :
    ∀ mark ∈ (cs ++ rest).tail.head?, mark ∉ ['x', 'X', 'o', 'O', 'b', 'B'] := by
  obtain ⟨c, cs, rfl⟩ := List.exists_cons_of_ne_nil nonempty
  intro mark mem
  cases cs with
  | nil => exact apart mark mem
  | cons d tail =>
    obtain rfl : d = mark := by simpa using mem
    have digit : d.isDigit := digits d (by simp)
    intro among
    fin_cases among <;> exact absurd digit (by decide)

/-- The same where a numeral ends. -/
private theorem EndsNumeral.apart {rest : List Char} (ends : EndsNumeral rest) :
    ∀ mark ∈ rest.head?, mark ∉ ['x', 'X', 'o', 'O', 'b', 'B'] := by
  intro mark mem among
  have apart := (ends mark mem).1
  fin_cases among <;> exact absurd apart (by decide)

/-- The digits of a natural number, where they are not too many, are a numeral for it. -/
theorem numeral_naturalText {n : Nat} {rest : List Char} (ends : EndsNumeral rest)
    (short : (naturalText n).length ≤ maxIntegerDigits) :
    numeral (naturalText n ++ rest) = some (.datum (.int n), rest) := by
  have digits := IsDigits.naturalText n
  have nonempty : naturalText n ≠ [] := Nat.toDigits_ne_nil
  rw [numeral_eq_decimalNumeral (decimal_of_digits nonempty digits ends.apart)]
  have point : rest.head? ≠ some '.' := fun h => (ends '.' h).2 rfl
  unfold decimalNumeral
  rw [digitRun_append digits ends.endsDigits]
  simp only [Option.bind_eq_bind, Option.bind_some, fractionPart_of_ne point,
    exponentPart_of_ends ends, endNumeral, isNumeralEnd_of_ends ends, Bool.false_or,
    Option.isSome_none, Bool.false_eq_true, if_false, if_true, List.append_nil, List.length_map,
    not_lt.2 short, digitsNumber_map, textNumber_naturalText]
  have whole : (if (List.map asciiDigitValue (naturalText n)).head? = some 0 then
      if (List.map asciiDigitValue (naturalText n)).any (· ≠ 0) then none
      else some (Constant.datum (.int 0), rest)
    else some (Constant.datum (.int n), rest)) = some (Constant.datum (.int n), rest) := by
    by_cases zero : n = 0
    · subst zero
      rfl
    · obtain ⟨c, tail, text⟩ := List.exists_cons_of_ne_nil nonempty
      have first : (List.map asciiDigitValue (naturalText n)).head? ≠ some 0 := by
        rw [text]
        intro h
        have digit : c.isDigit := digits c (by simp [text])
        have low : asciiDigitValue c = 0 := by simpa using h
        have same : c = '0' := by
          simp only [Char.isDigit, Bool.and_eq_true, decide_eq_true_eq, ge_iff_le,
            UInt32.le_iff_toNat_le] at digit
          have bound : 48 ≤ c.toNat := digit.1
          unfold asciiDigitValue at low
          exact Char.toNat_inj.1 (by change c.toNat = 48; omega)
        exact zero (eq_zero_of_head (same ▸ text))
      rw [if_neg first]
  cases rest with
  | nil => exact whole
  | cons c tail =>
    simp only [not_imaginary ends rfl, if_false]
    exact whole

section Parts

variable {fraction : List Char} {exponent : Option (Bool × List Char)} {rest : List Char}

/-- What an exponent is read as. -/
private def exponentValue (exponent : Option (Bool × List Char)) : Option Int :=
  exponent.map fun e => if e.1 then -(textNumber e.2 : Int) else textNumber e.2

/-- An exponent is read, if there is one. -/
private theorem exponentPart_exponentText (power : ∀ e ∈ exponent, IsDigits e.2 ∧ e.2 ≠ [])
    (ends : EndsNumeral rest) : exponentPart (NumberParts.exponentText 'e' exponent ++ rest) =
      some (exponentValue exponent, rest) := by
  cases exponent with
  | none => exact exponentPart_of_ends ends
  | some e =>
    obtain ⟨negative, cs⟩ := e
    obtain ⟨only, nonempty⟩ := power _ rfl
    have sign : (if negative then '-' else '+') = '+' ∨ (if negative then '-' else '+') = '-' := by
      cases negative <;> simp
    have read := exponentPart_append sign nonempty only ends.endsDigits
    cases negative <;> simpa [NumberParts.exponentText, exponentValue] using read

/-- Digits end where an exponent begins, and it begins neither with a point nor with the mark of another
base. -/
private theorem endsDigits_exponentText (exponent : Option (Bool × List Char))
    (ends : EndsNumeral rest) :
    EndsDigits (NumberParts.exponentText 'e' exponent ++ rest) ∧
      (NumberParts.exponentText 'e' exponent ++ rest).head? ≠ some '.' ∧
      ∀ mark ∈ (NumberParts.exponentText 'e' exponent ++ rest).head?,
        mark ∉ ['x', 'X', 'o', 'O', 'b', 'B'] := by
  cases exponent with
  | none => exact ⟨ends.endsDigits, fun h => (ends '.' h).2 rfl, ends.apart⟩
  | some e => simp [NumberParts.exponentText, EndsDigits]

/-- Digits behind a point are read, if there are any, in front of an exponent. -/
private theorem fractionPart_pointText (exponent : Option (Bool × List Char))
    (digits : IsDigits fraction) (ends : EndsNumeral rest) :
    fractionPart (NumberParts.pointText fraction ++
        (NumberParts.exponentText 'e' exponent ++ rest)) =
      some (decide (fraction ≠ []), fraction.map asciiDigitValue,
        NumberParts.exponentText 'e' exponent ++ rest) := by
  obtain ⟨behind, point, -⟩ := endsDigits_exponentText exponent ends
  unfold NumberParts.pointText
  split
  · rename_i none
    subst none
    exact fractionPart_of_ne point
  · rename_i some
    simpa [some] using fractionPart_append some digits behind

/-- Digits end where a point or an exponent begins, and neither begins with the mark of another base. -/
private theorem endsDigits_pointText (fraction : List Char) (exponent : Option (Bool × List Char))
    (ends : EndsNumeral rest) :
    EndsDigits (NumberParts.pointText fraction ++ (NumberParts.exponentText 'e' exponent ++ rest)) ∧
      ∀ mark ∈ (NumberParts.pointText fraction ++
        (NumberParts.exponentText 'e' exponent ++ rest)).head?,
          mark ∉ ['x', 'X', 'o', 'O', 'b', 'B'] := by
  obtain ⟨behind, -, apart⟩ := endsDigits_exponentText exponent ends
  unfold NumberParts.pointText
  split
  · exact ⟨behind, apart⟩
  · simp [EndsDigits]

end Parts

/-- A number with a point or an exponent among its parts is a numeral for it. -/
private theorem numeral_parts {p : NumberParts} (plain : p.IsPlain)
    (marked : p.fraction ≠ [] ∨ p.exponent ≠ none) {rest : List Char} (ends : EndsNumeral rest) :
    numeral (p.text 'e' ++ rest) =
      some (.datum (.float (Binary64.ofScaled false p.coefficient p.scale)), rest) := by
  obtain ⟨whole, fraction, exponent⟩ := p
  obtain ⟨digits, filled, digits', power⟩ := plain
  -- Reading goes from the end of the text to its beginning, where each part ends before the next one.
  have third := exponentPart_exponentText power ends
  have second := fractionPart_pointText exponent digits' ends
  obtain ⟨behind, apart⟩ := endsDigits_pointText fraction exponent ends
  have first := digitRun_append digits behind
  have known : (decide (fraction ≠ []) || (exponentValue exponent).isSome) = true := by
    cases exponent <;> simp_all [exponentValue]
  have value : (exponentValue exponent).getD 0 =
      (NumberParts.mk whole fraction exponent).power := by
    cases exponent <;> rfl
  have text : (NumberParts.mk whole fraction exponent).text 'e' ++ rest =
      whole ++ (NumberParts.pointText fraction ++ (NumberParts.exponentText 'e' exponent ++ rest)) := by
    simp [NumberParts.text]
  rw [text, numeral_eq_decimalNumeral (decimal_of_digits filled digits apart),
    decimalNumeral_of_parts first second third ends known, value, List.length_map,
    ← List.map_append, digitsNumber_map]
  rfl

/-- The plain text of a finite number without its sign is a numeral for it. -/
theorem numeral_magnitudeText {m : Nat} {e : Int} (canonical : IsSignificand m e)
    {rest : List Char} (ends : EndsNumeral rest) :
    numeral (FloatLayout.plain.magnitudeText m e ++ rest) =
      some (.datum (.float (.finite false m e canonical)), rest) := by
  obtain ⟨p, plain, -, marked, text, value⟩ := magnitudeText_parts .plain m e
  rw [text, numeral_parts plain marked ends, value, ofScaled_shortestDigits]

end FlatRecord.Script
