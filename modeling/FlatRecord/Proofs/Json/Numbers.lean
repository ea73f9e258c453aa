import FlatRecord.Json.Reader
import FlatRecord.Json.Writer
import FlatRecord.Proofs.Number.NumberParts
import FlatRecord.Proofs.Outcome

/-!
# Numbers in JSON text

The digits of an integer and the text of a finite double precision number are single tokens of JSON text,
and stand for the same number. What follows a token must not go on with a number.
-/

namespace FlatRecord.Json

open FlatRecord.Number FlatRecord.Text

/-- A text that does not go on with a number. -/
def EndsToken (rest : List Char) : Prop :=
  ∀ c ∈ rest.head?, isAsciiDigit c = false ∧ c ∉ ['.', 'e', 'E']

/-- The steps in which an unsigned number is read: a single zero or a run of digits, a point with digits
behind it or no point, and an exponent or none. -/
private theorem unsignedToken?_of_steps {cs whole tail fraction tail' exponent rest : List Char}
    (first : whole = ['0'] ∧ cs = '0' :: tail ∨
      cs.head? ≠ some '0' ∧ whole ≠ [] ∧ cs.span isAsciiDigit = (whole, tail))
    (second : fraction = [] ∧ tail.head? ≠ some '.' ∧ tail' = tail ∨
      ∃ digits more, fraction = '.' :: digits ∧ digits ≠ [] ∧ tail = '.' :: more ∧
        more.span isAsciiDigit = (digits, tail'))
    (third : exponent = [] ∧ exponentToken? tail' = none ∧ rest = tail' ∨
      exponent ≠ [] ∧ exponentToken? tail' = some (exponent, rest)) :
    unsignedToken? cs =
      some ⟨whole ++ fraction ++ exponent, !(fraction.isEmpty && exponent.isEmpty), rest⟩ := by
  have other {c : Char} {ds : List Char} (apart : ds.head? ≠ some c) : ∀ more, ds = c :: more → False :=
    fun more shape => apart (by rw [shape]; rfl)
  obtain ⟨rfl, rfl⟩ | ⟨nonzero, filled, split⟩ := first
  · obtain ⟨rfl, pointless, rfl⟩ | ⟨digits, more, rfl, behind, rfl, split'⟩ := second
    · have plain := other pointless
      obtain ⟨rfl, unmarked, rfl⟩ | ⟨marked, marked'⟩ := third
      · simp [unsignedToken?, unmarked]
      · simp [unsignedToken?, marked, marked']
    · obtain ⟨rfl, unmarked, rfl⟩ | ⟨marked, marked'⟩ := third
      · simp only [unsignedToken?, split']
        simp [behind, unmarked]
      · simp only [unsignedToken?, split']
        simp [behind, marked']
  · have plain := other nonzero
    obtain ⟨rfl, pointless, rfl⟩ | ⟨digits, more, rfl, behind, rfl, split'⟩ := second
    · have plain' := other pointless
      obtain ⟨rfl, unmarked, rfl⟩ | ⟨marked, marked'⟩ := third
      · simp only [unsignedToken?, split]
        simp [filled, unmarked]
      · simp only [unsignedToken?, split]
        simp [filled, marked, marked']
    · obtain ⟨rfl, unmarked, rfl⟩ | ⟨marked, marked'⟩ := third
      · simp only [unsignedToken?, split, split']
        simp [filled, behind, unmarked]
      · simp only [unsignedToken?, split, split']
        simp [filled, behind, marked']

section Token

variable {p : NumberParts} (plain : p.IsPlain) {rest : List Char} (ends : EndsToken rest)
include plain ends

/-- An exponent is read up to its end; where there is none, none is read. -/
private theorem exponentToken?_exponentText : NumberParts.exponentText 'e' p.exponent = [] ∧
      exponentToken? (NumberParts.exponentText 'e' p.exponent ++ rest) = none ∧
      rest = NumberParts.exponentText 'e' p.exponent ++ rest ∨
    NumberParts.exponentText 'e' p.exponent ≠ [] ∧
      exponentToken? (NumberParts.exponentText 'e' p.exponent ++ rest) =
        some (NumberParts.exponentText 'e' p.exponent, rest) := by
  cases exponent : p.exponent with
  | none =>
    refine .inl ⟨rfl, ?_, rfl⟩
    rw [NumberParts.exponentText, List.nil_append]
    cases rest with
    | nil => rfl
    | cons c rest =>
      have apart := (ends c rfl).2
      simp only [List.mem_cons, List.not_mem_nil, or_false, not_or] at apart
      exact if_neg (not_or.2 apart.2)
  | some e =>
    obtain ⟨negative, cs⟩ := e
    obtain ⟨digits, nonempty⟩ := plain.exponent _ exponent
    have split : (cs ++ rest).span isAsciiDigit = (cs, rest) :=
      span_append digits fun c mem => (ends c mem).1
    have filled : cs.isEmpty = false := by simpa using nonempty
    refine .inr ⟨List.cons_ne_nil _ _, ?_⟩
    cases negative <;>
      simp only [NumberParts.exponentText, List.cons_append, exponentToken?, true_or, if_true, split,
        filled, Bool.false_eq_true, if_false] <;> rfl

omit plain in
/-- What is behind the digits of a fraction neither goes on with them nor begins with a point. -/
private theorem head_exponentText : ∀ c ∈ (NumberParts.exponentText 'e' p.exponent ++ rest).head?,
    isAsciiDigit c = false ∧ c ≠ '.' := by
  cases p.exponent with
  | none => exact fun c mem => ⟨(ends c mem).1, fun point => (ends c mem).2 (by simp [point])⟩
  | some e =>
    rintro _ ⟨⟩
    decide

omit ends in
/-- A point and the digits behind it are read up to the exponent; where there is none, none is read. -/
private theorem span_pointText {tail : List Char}
    (behind : ∀ c ∈ tail.head?, isAsciiDigit c = false ∧ c ≠ '.') :
    NumberParts.pointText p.fraction = [] ∧
      (NumberParts.pointText p.fraction ++ tail).head? ≠ some '.' ∧
      tail = NumberParts.pointText p.fraction ++ tail ∨
    ∃ digits more, NumberParts.pointText p.fraction = '.' :: digits ∧ digits ≠ [] ∧
      NumberParts.pointText p.fraction ++ tail = '.' :: more ∧
      more.span isAsciiDigit = (digits, tail) := by
  unfold NumberParts.pointText
  split_ifs with none
  · exact .inl ⟨rfl, fun point => (behind '.' point).2 rfl, rfl⟩
  · exact .inr ⟨_, _, rfl, none, rfl, span_append plain.fraction fun c mem => (behind c mem).1⟩

/-- The unsigned text of a number is one token. -/
theorem unsignedToken?_text (unpadded : p.IsUnpadded) : unsignedToken? (p.text 'e' ++ rest) =
    some ⟨p.text 'e', decide (p.fraction ≠ [] ∨ p.exponent ≠ none), rest⟩ := by
  have behind : ∀ c ∈ (NumberParts.exponentText 'e' p.exponent ++ rest).head?,
      isAsciiDigit c = false ∧ c ≠ '.' := head_exponentText ends
  have third := exponentToken?_exponentText plain ends
  have second := span_pointText plain behind
  have point : ∀ c ∈ (NumberParts.pointText p.fraction ++
      (NumberParts.exponentText 'e' p.exponent ++ rest)).head?, isAsciiDigit c = false := by
    unfold NumberParts.pointText
    split_ifs
    · exact fun c mem => (behind c mem).1
    · rintro _ ⟨⟩
      rfl
  have first : p.whole = ['0'] ∧ p.text 'e' ++ rest = '0' :: (NumberParts.pointText p.fraction ++
        (NumberParts.exponentText 'e' p.exponent ++ rest)) ∨
      (p.text 'e' ++ rest).head? ≠ some '0' ∧ p.whole ≠ [] ∧
        (p.text 'e' ++ rest).span isAsciiDigit = (p.whole, NumberParts.pointText p.fraction ++
          (NumberParts.exponentText 'e' p.exponent ++ rest)) := by
    have text : p.text 'e' ++ rest = p.whole ++ (NumberParts.pointText p.fraction ++
        (NumberParts.exponentText 'e' p.exponent ++ rest)) := by
      simp [NumberParts.text]
    rw [text]
    refine unpadded.imp (fun zero => ⟨zero, by rw [zero]; rfl⟩) fun nonzero =>
      ⟨?_, plain.filled, span_append plain.whole point⟩
    rwa [List.head?_append_of_ne_nil _ plain.filled]
  rw [unsignedToken?_of_steps first second third, NumberParts.text, List.append_assoc]
  congr 2
  rw [Bool.eq_iff_iff]
  simp only [Bool.not_eq_true', Bool.and_eq_false_iff, List.isEmpty_eq_false_iff, ne_eq,
    NumberParts.pointText_eq_nil, NumberParts.exponentText_eq_nil, decide_eq_true_eq]

/-- The text of a number is one token. -/
private theorem numberToken?_text (unpadded : p.IsUnpadded) (negative : Bool) :
    numberToken? (Decimal.withSign negative (p.text 'e') ++ rest) =
      some ⟨Decimal.withSign negative (p.text 'e'), decide (p.fraction ≠ [] ∨ p.exponent ≠ none),
        rest⟩ := by
  have unsigned := unsignedToken?_text plain ends unpadded
  cases negative with
  | true =>
    show (unsignedToken? (p.text 'e' ++ rest)).map _ = _
    rw [unsigned]
    rfl
  | false =>
    show numberToken? (p.text 'e' ++ rest) = _
    obtain ⟨c, tail, text, digit⟩ := plain.text_cons 'e'
    rw [text] at unsigned ⊢
    unfold numberToken?
    split
    · rename_i shape
      obtain ⟨rfl, -⟩ := List.cons_eq_cons.1 shape
      exact absurd digit (by decide)
    · exact unsigned

end Token

/-- A number is no constant. -/
private theorem find?_constants {c : Char} (digit : c.isDigit) (negative : Bool) (tail rest : List Char) :
    (constants.find? fun entry =>
      entry.1.isPrefixOf (Decimal.withSign negative (c :: tail) ++ rest)) = none := by
  have apart (letter : Char) (other : letter.isDigit = false) : (letter == c) = false := by
    rw [beq_eq_false_iff_ne]
    rintro rfl
    rw [digit] at other
    cases other
  cases negative <;>
    simp [constants, Decimal.withSign, List.isPrefixOf, apart 'n' rfl, apart 't' rfl, apart 'f' rfl,
      apart 'N' rfl, apart 'I' rfl, apart '-' rfl]

/-- Reading answers what a text means: the value and the rest of the text, or else the cause of a fault. -/
def Answers {α : Type} (result : Except Fault (Read α)) (meaning : Except Cause α)
    (rest : List Char) : Prop :=
  ∃ position, result = match meaning with
    | .ok v => .ok (v, rest, position)
    | .error cause => .error ⟨cause, position⟩

/-- A text that begins as a number does and that is read as what it means, whatever follows. -/
structure IsNumber (cs : List Char) (meaning : Except Cause Datum) : Prop where
  starts : ∃ c tail, cs = c :: tail ∧ (c = '-' ∨ c.isDigit)
  reads : ∀ {rest}, EndsToken rest → ∀ position,
    Answers (scalar (cs ++ rest) position) meaning rest

/-- The text of a number means what its token does. -/
private theorem isNumber_text {p : NumberParts} (plain : p.IsPlain) (unpadded : p.IsUnpadded)
    (negative : Bool) {meaning : Except Cause Datum} (value : ∀ rest position,
      NumberToken.value ⟨Decimal.withSign negative (p.text 'e'),
        decide (p.fraction ≠ [] ∨ p.exponent ≠ none), rest⟩ position =
          meaning.mapError fun cause => ⟨cause, position⟩) :
    IsNumber (Decimal.withSign negative (p.text 'e')) meaning := by
  obtain ⟨c, tail, text, digit⟩ := plain.text_cons 'e'
  refine ⟨?_, fun {rest} ends position => ?_⟩
  · cases negative with
    | true => exact ⟨'-', p.text 'e', rfl, .inl rfl⟩
    | false => exact ⟨c, tail, text, .inr digit⟩
  have unknown : (constants.find? fun entry =>
      entry.1.isPrefixOf (Decimal.withSign negative (p.text 'e') ++ rest)) = none := by
    rw [text]
    exact find?_constants digit negative tail rest
  unfold scalar
  rw [unknown, numberToken?_text plain ends unpadded negative]
  dsimp only
  rw [value]
  cases meaning <;> exact ⟨_, rfl⟩

/-- The text of a finite number in a document is read as the number. -/
theorem isNumber_documentNumber {x : Binary64} (finite : x.isFinite) :
    IsNumber (documentNumber x) (.ok (.float x)) := by
  cases x with
  | finite negative m e canonical =>
    obtain ⟨p, plain, unpadded, marked, text, value⟩ := magnitudeText_parts .json m e
    have layout : documentNumber (.finite negative m e canonical) =
        Decimal.withSign negative (p.text 'e') := by
      unfold documentNumber
      rw [if_pos finite, ← text]
      rfl
    rw [layout]
    refine isNumber_text plain unpadded negative fun rest position => ?_
    unfold NumberToken.value
    dsimp only
    rw [if_pos (decide_eq_true marked), plain.readFloat?_text (.inl rfl), value,
      ofScaled_shortestDigits_signed negative canonical]
    rfl
  | _ => cases finite

/-- What the digits of an integer mean: the integer, unless it has too many of them. -/
def integerMeaning (n : Int) : Except Cause Datum :=
  let digits := (naturalText n.natAbs).length
  if maxIntegerDigits < digits then
    .error (.integer (String.ofList (integerText n)) (.tooLong digits))
  else .ok (.int n)

/-- The digits of an integer are read as the integer, unless it has too many of them. -/
theorem isNumber_integerText (n : Int) : IsNumber (integerText n) (integerMeaning n) := by
  have read := readInteger_integerText_eq n
  unfold integerMeaning
  rw [NumberParts.integerText_eq 'e'] at read ⊢
  refine isNumber_text (NumberParts.isPlain_ofNat _) (NumberParts.isUnpadded_ofNat _) _ fun rest _ => ?_
  unfold NumberToken.value
  dsimp only
  rw [if_neg (by simp [NumberParts.ofNat]), read]
  split_ifs <;> rfl

end FlatRecord.Json
