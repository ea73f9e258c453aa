import FlatRecord.Number.Decimal
import FlatRecord.Proofs.Number.ShortestDigits

/-!
# The parts of a number's text

The texts of decimal and of double precision numbers have one form: digits, a point with further digits
behind it, and a mark with the sign and the digits of an exponent; the point and the exponent may be
missing. What is read off such a text depends on these parts alone.

A layout puts the point somewhere between the shortest digits of a number, after zeros, or writes an
exponent. None of this changes the value.
-/

namespace FlatRecord.Number

open FlatRecord.Text

/-- The parts of the text of an unsigned number: the digits before the point and behind it, and whether
the exponent is negative with its digits. -/
structure NumberParts where
  whole : List Char
  fraction : List Char
  exponent : Option (Bool × List Char)

namespace NumberParts

/-- Digits behind a point, which is missing where they are. -/
def pointText (digits : List Char) : List Char := if digits = [] then [] else '.' :: digits

/-- An exponent behind its mark. -/
def exponentText (mark : Char) : Option (Bool × List Char) → List Char
  | none => []
  | some (negative, digits) => mark :: (if negative then '-' else '+') :: digits

@[simp]
theorem pointText_eq_nil {digits : List Char} : pointText digits = [] ↔ digits = [] := by
  unfold pointText
  split <;> simp_all

@[simp]
theorem exponentText_eq_nil {mark : Char} {exponent : Option (Bool × List Char)} :
    exponentText mark exponent = [] ↔ exponent = none := by
  cases exponent <;> simp [exponentText]

/-- The text with the given mark of an exponent. -/
def text (mark : Char) (p : NumberParts) : List Char :=
  p.whole ++ (pointText p.fraction ++ exponentText mark p.exponent)

/-- The parts are digits, and there are some before the point and in an exponent. -/
structure IsPlain (p : NumberParts) : Prop where
  whole : IsDigits p.whole
  filled : p.whole ≠ []
  fraction : IsDigits p.fraction
  exponent : ∀ e ∈ p.exponent, IsDigits e.2 ∧ e.2 ≠ []

/-- The number of all digits, with the point left out. -/
def coefficient (p : NumberParts) : Nat := textNumber (p.whole ++ p.fraction)

/-- The exponent as a number. -/
def power (p : NumberParts) : Int :=
  p.exponent.elim 0 fun e => if e.1 then -(textNumber e.2 : Int) else textNumber e.2

/-- The power of ten that goes with the number of all digits. -/
def scale (p : NumberParts) : Int := p.power - p.fraction.length

variable {p : NumberParts}

/-- The text begins with a digit. -/
theorem IsPlain.text_cons (plain : p.IsPlain) (mark : Char) :
    ∃ c tail, p.text mark = c :: tail ∧ c.isDigit := by
  obtain ⟨c, tail, whole⟩ := List.exists_cons_of_ne_nil plain.filled
  exact ⟨c, _, by rw [text, whole]; rfl, plain.whole c (by simp [whole])⟩

end NumberParts

theorem toNat_of_isDigit {c : Char} (digit : c.isDigit) : 48 ≤ c.toNat ∧ c.toNat ≤ 57 := by
  simpa [Char.isDigit, UInt32.le_iff_toNat_le] using digit

/-- What holds of the ten digits holds of every digit. -/
theorem isDigit_elim {P : Char → Prop} (ten : ∀ n < 58, 48 ≤ n → P (Char.ofNat n)) {c : Char}
    (digit : c.isDigit) : P c := by
  have bounds := toNat_of_isDigit digit
  have known := ten c.toNat (by omega) bounds.1
  rwa [Char.ofNat_toNat] at known

/-- Zeros before digits do not change the number. -/
theorem textNumber_padDigits (width : Nat) (ds : List Char) :
    textNumber (padDigits width ds) = textNumber ds := by
  rw [padDigits, textNumber_append, textNumber_zeros, Nat.zero_mul, Nat.zero_add]

/-- Whether parts are those of a positional layout: there are digits on both sides of the point, and the
value is kept. -/
private structure ArePositional (ds : List Char) (place : Int) (p : NumberParts) : Prop where
  plain : p.IsPlain
  pointed : p.fraction ≠ []
  head : p.whole = ['0'] ∨ p.whole.head? = ds.head?
  layout : positional ds place = p.text 'e'
  value : (p.coefficient * 10 ^ p.scale : ℚ) = textNumber ds * 10 ^ (place - ds.length)

/-- Digits around a point are the parts of a positional layout if they are laid out so. -/
private theorem arePositional_of_eq {ds whole fraction : List Char} {place : Int}
    (filled : whole ≠ []) (digits : IsDigits whole) (some_behind : fraction ≠ [])
    (digits' : IsDigits fraction) (head : whole = ['0'] ∨ whole.head? = ds.head?)
    (layout : positional ds place = whole ++ '.' :: fraction)
    (same : (textNumber (whole ++ fraction) * 10 ^ (-fraction.length : ℤ) : ℚ) =
      textNumber ds * 10 ^ (place - ds.length)) :
    ArePositional ds place ⟨whole, fraction, none⟩ := by
  refine ⟨⟨digits, filled, digits', by simp⟩, some_behind, head, ?_, ?_⟩
  · simp [layout, NumberParts.text, NumberParts.pointText, NumberParts.exponentText, some_behind]
  · rw [← same, NumberParts.scale, NumberParts.power, Option.elim_none, zero_sub]
    rfl

/-- Digits that begin behind the point stand there after zeros. -/
private theorem arePositional_behind {ds : List Char} (nonempty : ds ≠ []) (digits : IsDigits ds)
    (k : Nat) : ArePositional ds (-(k : Int)) ⟨['0'], List.replicate k '0' ++ ds, none⟩ := by
  refine arePositional_of_eq (by simp) (.cons (by decide) .nil) (by simp [nonempty])
    ((IsDigits.replicate_zero k).append digits) (.inl rfl) (by simp [positional]) ?_
  have zeros : ['0'] ++ (List.replicate k '0' ++ ds) = List.replicate (k + 1) '0' ++ ds := by
    simp [List.replicate_succ]
  rw [zeros, textNumber_append, textNumber_zeros, Nat.zero_mul, Nat.zero_add]
  congr 2
  simp
  ring

/-- Digits with the point after some of them, or after all of them and zeros. -/
private theorem exists_arePositional {ds : List Char} (nonempty : ds ≠ []) (digits : IsDigits ds)
    {n : Nat} (some_before : 0 < n) : ∃ p, ArePositional ds n p := by
  have ten : (10 : ℚ) ≠ 0 := by norm_num
  have layout : positional ds n = (ds.take n ++ List.replicate (n - ds.length) '0') ++
      '.' :: (if (ds.drop n).isEmpty then ['0'] else ds.drop n) := by
    rw [positional, if_neg (by omega)]
    simp
  have whole : ds.take n ++ List.replicate (n - ds.length) '0' ≠ [] := by
    simp [nonempty, some_before.ne']
  have wholeDigits := (digits.take n).append (IsDigits.replicate_zero (n - ds.length))
  have head : (ds.take n ++ List.replicate (n - ds.length) '0').head? = ds.head? := by
    obtain ⟨c, tail, rfl⟩ := List.exists_cons_of_ne_nil nonempty
    obtain ⟨k, rfl⟩ := Nat.exists_eq_succ_of_ne_zero some_before.ne'
    rfl
  by_cases inside : n < ds.length
  · have behind : ds.drop n ≠ [] := by simpa using inside
    refine ⟨_, arePositional_of_eq whole wholeDigits behind (digits.drop n) (.inr head)
      (by simpa [behind] using layout) ?_⟩
    rw [Nat.sub_eq_zero_of_le inside.le, List.replicate_zero, List.append_nil,
      List.take_append_drop, List.length_drop, Nat.cast_sub inside.le]
    congr 2
    ring
  · have behind : ds.drop n = [] := by simpa using inside
    refine ⟨⟨_, ['0'], none⟩, arePositional_of_eq whole wholeDigits (by simp)
      (.cons (by decide) .nil) (.inr head) (by simpa [behind] using layout) ?_⟩
    have number : textNumber (ds.take n ++ List.replicate (n - ds.length) '0' ++ ['0']) =
        textNumber ds * 10 ^ (n - ds.length + 1) := by
      rw [List.take_of_length_le (not_lt.1 inside), List.append_assoc, ← List.replicate_succ',
        textNumber_append, textNumber_zeros, List.length_replicate, Nat.add_zero]
    rw [number]
    push_cast
    rw [mul_assoc, ← zpow_natCast, ← zpow_add₀ ten]
    congr 2
    rw [List.length_singleton]
    push_cast [Nat.cast_sub (not_lt.1 inside)]
    ring

/-- A positional layout has digits on both sides of the point, and keeps the value. -/
private theorem positional_parts {ds : List Char} (nonempty : ds ≠ []) (digits : IsDigits ds)
    (place : Int) : ∃ p, ArePositional ds place p := by
  by_cases before : place ≤ 0
  · obtain ⟨k, rfl⟩ : ∃ k : Nat, place = -(k : Int) := ⟨place.natAbs, by omega⟩
    exact ⟨_, arePositional_behind nonempty digits k⟩
  · obtain ⟨n, rfl⟩ : ∃ n : Nat, place = (n : Int) := ⟨place.natAbs, by omega⟩
    exact exists_arePositional nonempty digits (by omega)

/-- A layout with an exponent has one digit before the point and all others, if there are any,
behind it, and keeps the value. -/
private theorem exponential_parts (width : Nat) {c : Char} {ds : List Char}
    (digits : IsDigits (c :: ds)) (place : Int) : ∃ p : NumberParts, p.IsPlain ∧ p.exponent ≠ none ∧
      p.whole = [c] ∧ exponential width (c :: ds) place = p.text 'e' ∧
      (p.coefficient * 10 ^ p.scale : ℚ) = textNumber (c :: ds) * 10 ^ (place - (c :: ds).length) := by
  obtain ⟨digit, behind⟩ := List.forall_mem_cons.1 digits
  have shown := (IsDigits.replicate_zero (width - (naturalText (place - 1).natAbs).length)).append
    (IsDigits.naturalText (place - 1).natAbs)
  refine ⟨⟨[c], ds, some (decide (place - 1 < 0), padDigits width (naturalText (place - 1).natAbs))⟩,
    ⟨.cons digit .nil, by simp, behind, ?_⟩, by simp, rfl, ?_, ?_⟩
  · rintro _ ⟨⟩
    exact ⟨shown, by simp [padDigits, naturalText]⟩
  · cases ds <;> simp [exponential, NumberParts.text, NumberParts.pointText, NumberParts.exponentText]
  · have power : (if decide (place - 1 < 0) then
        -(textNumber (padDigits width (naturalText (place - 1).natAbs)) : Int)
        else textNumber (padDigits width (naturalText (place - 1).natAbs))) = place - 1 := by
      rw [textNumber_padDigits, textNumber_naturalText]
      by_cases negative : place - 1 < 0
      · simp only [negative, decide_true, if_true]
        omega
      · simp only [negative, decide_false, Bool.false_eq_true, if_false]
        omega
    rw [NumberParts.scale, NumberParts.power, Option.elim_some, power]
    show (textNumber ([c] ++ ds) * 10 ^ (place - 1 - (ds.length : Int)) : ℚ) = _
    rw [List.singleton_append, List.length_cons]
    congr 2
    push_cast
    ring

/-- Digits stand for less than the next power of ten. -/
private theorem textNumber_lt {cs : List Char} (digits : IsDigits cs) :
    textNumber cs < 10 ^ cs.length := by
  induction cs using List.reverseRecOn with
  | nil => simp
  | append_singleton cs c ih =>
    have before := ih fun d mem => digits d (by simp [mem])
    have small : textNumber [c] < 10 := by
      have high := (toNat_of_isDigit (digits c (by simp))).2
      have value : textNumber [c] = c.toNat - 48 := by simp [textNumber, Nat.ofDigitChars]
      omega
    rw [textNumber_append, List.length_append, List.length_singleton, pow_succ, pow_zero]
    omega

/-- Only zero is written with a zero at the head. -/
theorem eq_zero_of_head {n : Nat} {cs : List Char} (text : naturalText n = '0' :: cs) : n = 0 := by
  have number : n = textNumber cs := by
    rw [← textNumber_naturalText n, text, ← List.singleton_append, textNumber_append]
    exact (congrArg (· + textNumber cs) (Nat.zero_mul _)).trans (Nat.zero_add _)
  cases cs with
  | nil => exact number
  | cons c tail =>
    -- With fewer digits needed the text would be shorter.
    have small : n < 10 ^ (c :: tail).length := by
      rw [number]
      refine textNumber_lt fun d mem => IsDigits.naturalText n d ?_
      rw [text]
      exact List.mem_cons_of_mem _ mem
    have short := (Nat.length_toDigits_le_iff (by decide) (by simp)).2 small
    have long : (Nat.toDigits 10 n).length = (c :: tail).length + 1 := congrArg List.length text
    omega

/-- No zero stands before other digits of the whole part. -/
def NumberParts.IsUnpadded (p : NumberParts) : Prop := p.whole = ['0'] ∨ p.whole.head? ≠ some '0'

/-- The digits of a natural number, without a point. -/
def NumberParts.ofNat (n : Nat) : NumberParts := ⟨naturalText n, [], none⟩

section Natural

variable (n : Nat)

theorem NumberParts.isPlain_ofNat : (ofNat n).IsPlain :=
  ⟨.naturalText n, Nat.toDigits_ne_nil, .nil, by simp [ofNat]⟩

theorem NumberParts.isUnpadded_ofNat : (ofNat n).IsUnpadded := by
  by_cases zero : n = 0
  · subst zero
    exact .inl rfl
  · refine .inr fun head => zero ?_
    obtain ⟨tail, text⟩ := List.head?_eq_some_iff.1 head
    exact eq_zero_of_head text

@[simp]
theorem NumberParts.text_ofNat (mark : Char) : (ofNat n).text mark = naturalText n := by
  simp [text, ofNat, pointText, exponentText]

end Natural

/-- The text of a number without its sign has parts, with a point or an exponent among them, that
stand for the shortest digits of the number. -/
theorem magnitudeText_parts (layout : FloatLayout) (m : Nat) (e : Int) : ∃ p : NumberParts,
    p.IsPlain ∧ p.IsUnpadded ∧ (p.fraction ≠ [] ∨ p.exponent ≠ none) ∧
      layout.magnitudeText m e = p.text 'e' ∧ ∀ negative, Binary64.ofScaled negative p.coefficient p.scale =
        Binary64.ofScaled negative (shortestDigits m e).digits (shortestDigits m e).exponent := by
  unfold FloatLayout.magnitudeText
  dsimp only
  generalize shortestDigits m e = s
  have digits := IsDigits.naturalText s.digits
  have nonempty : naturalText s.digits ≠ [] := Nat.toDigits_ne_nil
  set place := if s.digits = 0 then 1 else s.exponent + (naturalText s.digits).length with at_place
  have value : (textNumber (naturalText s.digits) * 10 ^ (place - (naturalText s.digits).length) : ℚ) =
      s.digits * 10 ^ s.exponent := by
    rw [textNumber_naturalText]
    by_cases zero : s.digits = 0
    · simp [zero]
    · rw [at_place, if_neg zero, add_sub_cancel_right]
  split
  · by_cases zero : s.digits = 0
    · -- Zero is `0.0`, whatever its exponent.
      refine ⟨⟨['0'], ['0'], none⟩, ⟨.cons (by decide) .nil, by simp, .cons (by decide) .nil, by simp⟩,
        .inl rfl, .inl (by simp), ?_, fun negative => Binary64.ofScaled_congr negative ?_⟩
      · rw [zero, show place = 1 by rw [at_place, if_pos zero]]
        rfl
      · have nothing : textNumber ['0', '0'] = 0 := rfl
        simp [NumberParts.coefficient, nothing, zero]
    · obtain ⟨p, plain, pointed, head, layout, same⟩ := positional_parts nonempty digits place
      refine ⟨p, plain, head.imp_right fun same => ?_, .inl pointed, layout, fun negative =>
        Binary64.ofScaled_congr negative (same.trans value)⟩
      rw [same]
      refine (NumberParts.isUnpadded_ofNat s.digits).resolve_left fun single => ?_
      exact zero (eq_zero_of_head single)
  · obtain ⟨c, ds, text⟩ := List.exists_cons_of_ne_nil nonempty
    rw [text] at digits value ⊢
    obtain ⟨p, plain, marked, whole, layout, same⟩ :=
      exponential_parts layout.exponentDigits digits place
    refine ⟨p, plain, ?_, .inr marked, layout, fun negative =>
      Binary64.ofScaled_congr negative (same.trans value)⟩
    by_cases zero : c = '0'
    · exact .inl (by rw [whole, zero])
    · exact .inr (by simp [whole, zero])

/-- The text of a number without its sign begins with a digit. -/
theorem magnitudeText_cons (layout : FloatLayout) (m : Nat) (e : Int) :
    ∃ c tail, layout.magnitudeText m e = c :: tail ∧ c.isDigit := by
  obtain ⟨p, plain, -, -, text, -⟩ := magnitudeText_parts layout m e
  rw [text]
  exact plain.text_cons 'e'

/-- A character of the text of a number. -/
def InNumber (c : Char) : Prop := c.isDigit ∨ c ∈ ['.', 'e', 'E', '+', '-']

theorem IsDigits.inNumber {cs : List Char} (digits : IsDigits cs) : ∀ c ∈ cs, InNumber c :=
  fun c mem => .inl (digits c mem)

/-- What holds of the ten digits and of the marks of numbers holds of every character in the text of a
number. -/
theorem InNumber.elim {P : Char → Prop} (ten : ∀ n < 58, 48 ≤ n → P (Char.ofNat n))
    (marks : P '.' ∧ P 'e' ∧ P 'E' ∧ P '+' ∧ P '-') {c : Char} (h : InNumber c) : P c := by
  obtain ⟨point, small, capital, plus, minus⟩ := marks
  obtain digit | mark := h
  · exact isDigit_elim ten digit
  · simp only [List.mem_cons, List.not_mem_nil, or_false] at mark
    obtain rfl | rfl | rfl | rfl | rfl := mark <;> assumption

/-- What is known of a character of the text of a number. -/
theorem InNumber.plain {c : Char} (h : InNumber c) :
    isBlank c = false ∧ c ≠ '_' ∧ c ≠ '\x00' ∧ c.toNat < 0x80 :=
  h.elim (P := fun c => isBlank c = false ∧ c ≠ '_' ∧ c ≠ '\x00' ∧ c.toNat < 0x80)
    (by decide) (by decide)

/-- Trimming leaves a text alone that holds no blank. -/
theorem trim_eq {cs : List Char} (h : ∀ c ∈ cs, isBlank c = false) : trim cs = cs := by
  have left {ds : List Char} (h : ∀ c ∈ ds, isBlank c = false) : trimLeft ds = ds := by
    cases ds with
    | nil => rfl
    | cons d ds => simp [trimLeft, h d (.head _)]
  rw [trim, left h, left fun c mem => h c (List.mem_reverse.1 mem), List.reverse_reverse]

/-- A digit has its value. -/
theorem digitValue?_eq {c : Char} (digit : c.isDigit) : digitValue? c = some (asciiDigitValue c) := by
  have bounds := toNat_of_isDigit digit
  rw [digitValue?, if_pos (by omega), if_pos bounds]
  rfl

/-- Digits are a group. -/
theorem groupedDigits?_eq {cs : List Char} (digits : IsDigits cs) (nonempty : cs ≠ []) :
    groupedDigits? cs = some (cs.map asciiDigitValue) := by
  fun_induction groupedDigits? cs with
  | case1 => exact absurd rfl nonempty
  | case2 c => simp [digitValue?_eq (digits c (.head _))]
  | case3 c rest ih =>
    exact absurd (digits '_' (by simp)) (by decide)
  | case4 c rest single _ ih =>
    obtain ⟨digit, digits⟩ := List.forall_mem_cons.1 digits
    have others := ih digits single
    simp [digitValue?_eq digit, others]

/-- Digits, which may be missing. -/
private theorem optionalDigits?_eq {cs : List Char} (digits : IsDigits cs) :
    optionalDigits? cs = some (cs.map asciiDigitValue) := by
  cases cs with
  | nil => rfl
  | cons c cs => exact groupedDigits?_eq digits (by simp)

/-- Splitting where a condition ends. -/
theorem span_append {α : Type} {test : α → Bool} {cs ds : List α} (inside : ∀ c ∈ cs, test c)
    (outside : ∀ c ∈ ds.head?, test c = false) : (cs ++ ds).span test = (cs, ds) := by
  rw [List.span_eq_takeWhile_dropWhile, List.takeWhile_append_of_pos inside,
    List.dropWhile_append_of_pos inside]
  cases ds with
  | nil => simp
  | cons d ds => simp [outside d rfl]

/-- Digits are none of the marks in a number. -/
private theorem unmarked {cs : List Char} (digits : IsDigits cs) :
    ∀ c ∈ cs, (c != '.' && c != 'e' && c != 'E') = true := by
  intro c mem
  have digit := digits c mem
  rw [Bool.and_eq_true, Bool.and_eq_true, bne_iff_ne, bne_iff_ne, bne_iff_ne]
  refine ⟨⟨?_, ?_⟩, ?_⟩ <;>
  · rintro rfl
    exact absurd digit (by decide)

/-- A minus sign before a text that begins with a digit is read as the sign. -/
theorem signed_withSign (negative : Bool) {c : Char} (digit : c.isDigit) (tail : List Char) :
    signed (Decimal.withSign negative (c :: tail)) = (negative, c :: tail) := by
  cases negative with
  | true => rfl
  | false =>
    show signed (c :: tail) = _
    unfold signed
    split
    · rename_i start
      obtain ⟨rfl, -⟩ := List.cons_eq_cons.1 start
      exact absurd digit (by decide)
    · rename_i start
      obtain ⟨rfl, -⟩ := List.cons_eq_cons.1 start
      exact absurd digit (by decide)
    · rfl

/-- A text that begins with a digit is no word that begins with a letter. -/
theorem ne_of_isDigit {c : Char} (digit : c.isDigit) {cs word : List Char}
    (head : cs.head? = some c.toLower) (letter : word.head?.any Char.isAlpha) : cs ≠ word := by
  have here : c.toLower.isAlpha = false :=
    isDigit_elim (P := fun c => c.toLower.isAlpha = false) (by decide) digit
  rintro rfl
  rw [head, Option.any_some, here] at letter
  exact Bool.false_ne_true letter

namespace NumberParts

/-- The number of all digits is that of the values of the digits. -/
theorem digitsNumber_parts (p : NumberParts) :
    digitsNumber (p.whole.map asciiDigitValue ++ p.fraction.map asciiDigitValue) = p.coefficient := by
  rw [← List.map_append, digitsNumber_map, coefficient]

variable {p : NumberParts} (plain : p.IsPlain) {mark : Char} (marked : mark = 'e' ∨ mark = 'E')

include plain marked in
/-- An exponent is read. -/
private theorem IsPlain.exponentPart?_exponentText :
    exponentPart? (exponentText mark p.exponent) = some p.power := by
  unfold power
  cases exponent : p.exponent with
  | none => rfl
  | some e =>
    obtain ⟨negative, digits⟩ := e
    obtain ⟨only, nonempty⟩ := plain.exponent _ exponent
    have read := groupedDigits?_eq only nonempty
    rw [exponentText, exponentPart?, if_pos marked]
    cases negative <;>
      simp only [signed, read, Option.map_some, digitsNumber_map, Option.elim_some, if_true, if_false,
        Bool.false_eq_true]

include plain marked in
/-- The parts of a number are found in its text. -/
theorem IsPlain.decimalParts?_text : decimalParts? (p.text mark) =
    some ⟨p.whole.map asciiDigitValue, p.fraction.map asciiDigitValue, p.power⟩ := by
  have ends : ∀ c ∈ (exponentText mark p.exponent).head?,
      (c != '.' && c != 'e' && c != 'E') = false ∧ (c != 'e' && c != 'E') = false ∧ c ≠ '.' := by
    cases p.exponent with
    | none => rintro _ ⟨⟩
    | some e =>
      rintro _ ⟨⟩
      obtain rfl | rfl := marked <;> decide
  have pointless : ∀ after, exponentText mark p.exponent = '.' :: after → False :=
    fun after shape => (ends '.' (by rw [shape]; rfl)).2.2 rfl
  have power := plain.exponentPart?_exponentText marked
  unfold decimalParts? text pointText
  by_cases whole : p.fraction = []
  · rw [if_pos whole, List.nil_append]
    simp only [span_append (unmarked plain.whole) fun c mem => (ends c mem).1]
    simp [optionalDigits?_eq plain.whole, optionalDigits?_eq IsDigits.nil, power, plain.filled, whole]
  · have point : ∀ c ∈ ('.' :: (p.fraction ++ exponentText mark p.exponent)).head?,
        (c != '.' && c != 'e' && c != 'E') = false := by
      rintro _ ⟨⟩
      rfl
    have inside : ∀ c ∈ p.fraction, (c != 'e' && c != 'E') = true := by
      intro c mem
      have free := unmarked plain.fraction c mem
      simp only [Bool.and_eq_true] at free ⊢
      exact ⟨free.1.2, free.2⟩
    rw [if_neg whole, List.cons_append]
    simp only [span_append (unmarked plain.whole) point,
      span_append inside fun c mem => (ends c mem).2.1]
    simp [optionalDigits?_eq plain.whole, optionalDigits?_eq plain.fraction, power, plain.filled]

include plain marked in
/-- Signed text of a number holds the characters of numbers only. -/
theorem IsPlain.inNumber (negative : Bool) :
    ∀ c ∈ Decimal.withSign negative (p.text mark), InNumber c := by
  have exponent : ∀ c ∈ exponentText mark p.exponent, InNumber c := by
    cases exponent : p.exponent with
    | none => exact List.forall_mem_nil _
    | some e =>
      refine List.forall_mem_cons.2 ⟨.inr ?_, List.forall_mem_cons.2 ⟨.inr ?_,
        (plain.exponent e exponent).1.inNumber⟩⟩
      · obtain rfl | rfl := marked <;> decide
      · split <;> decide
  have fraction : ∀ c ∈ pointText p.fraction, InNumber c := by
    unfold pointText
    split
    · exact List.forall_mem_nil _
    · exact List.forall_mem_cons.2 ⟨.inr (by decide), plain.fraction.inNumber⟩
  have unsigned : ∀ c ∈ p.text mark, InNumber c :=
    List.forall_mem_append.2 ⟨plain.whole.inNumber, List.forall_mem_append.2 ⟨fraction, exponent⟩⟩
  cases negative with
  | false => exact unsigned
  | true => exact List.forall_mem_cons.2 ⟨.inr (by decide), unsigned⟩

include plain marked in
/-- The text of a number is read as the number that is nearest to it. -/
theorem IsPlain.readFloat?_text (negative : Bool) :
    readFloat? (Decimal.withSign negative (p.text mark)) =
      some (Binary64.ofScaled negative p.coefficient p.scale) := by
  have trimmed := trim_eq fun c mem => (plain.inNumber marked negative c mem).plain.1
  have parts := plain.decimalParts?_text marked
  have coefficient := p.digitsNumber_parts
  obtain ⟨c, tail, text, digit⟩ := plain.text_cons mark
  rw [text] at trimmed parts ⊢
  unfold readFloat?
  rw [trimmed]
  simp only [signed_withSign negative digit]
  have unnamed {word : List Char} (letter : word.head?.any Char.isAlpha) :
      lowerAscii (c :: tail) ≠ word := ne_of_isDigit digit rfl letter
  rw [if_neg (not_or.2 ⟨unnamed rfl, unnamed rfl⟩), if_neg (unnamed rfl), parts]
  simp [coefficient, scale]

/-- The text of an integer is that of its digits, with its sign. -/
theorem integerText_eq (mark : Char) (n : Int) :
    integerText n = Decimal.withSign (decide (n < 0)) ((ofNat n.natAbs).text mark) := by
  rw [text_ofNat]
  cases n with
  | ofNat n => rfl
  | negSucc n =>
    rw [decide_eq_true (Int.negSucc_lt_zero n)]
    rfl

end NumberParts

theorem inNumber_integerText (n : Int) : ∀ c ∈ integerText n, InNumber c := by
  rw [NumberParts.integerText_eq 'e']
  exact (NumberParts.isPlain_ofNat n.natAbs).inNumber (.inl rfl) _

/-- The characters of the text of a number that is finite. -/
theorem inNumber_magnitudeText (layout : FloatLayout) (negative : Bool) (m : Nat) (e : Int) :
    ∀ c ∈ Decimal.withSign negative (layout.magnitudeText m e), InNumber c := by
  obtain ⟨p, plain, -, -, text, -⟩ := magnitudeText_parts layout m e
  rw [text]
  exact plain.inNumber (.inl rfl) negative

/-- The text of an integer is read as the integer, unless it has too many digits. -/
theorem readInteger_integerText_eq (n : Int) : readInteger (integerText n) =
    if maxIntegerDigits < (naturalText n.natAbs).length then
      .error (.tooLong (naturalText n.natAbs).length)
    else .ok n := by
  have plain := NumberParts.isPlain_ofNat n.natAbs
  have trimmed := trim_eq fun c mem => (inNumber_integerText n c mem).plain.1
  have grouped := groupedDigits?_eq (IsDigits.naturalText n.natAbs) Nat.toDigits_ne_nil
  obtain ⟨c, tail, shape, digit⟩ := plain.text_cons 'e'
  rw [NumberParts.integerText_eq 'e'] at trimmed ⊢
  unfold readInteger
  rw [trimmed, shape]
  simp only [signed_withSign _ digit]
  rw [← shape, NumberParts.text_ofNat, grouped]
  simp only [List.length_map, digitsNumber_map, textNumber_naturalText, decide_eq_true_eq]
  congr 2
  split <;> omega

theorem readInteger_integerText {n : Int}
    (short : (naturalText n.natAbs).length ≤ maxIntegerDigits) : readInteger (integerText n) = .ok n := by
  rw [readInteger_integerText_eq, if_neg (Nat.not_lt.2 short)]

end FlatRecord.Number
