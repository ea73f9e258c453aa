/-!
# Double precision numbers

The numbers of the binary64 format, as exact values: a sign, a natural significand and a power
of two. A positive ratio of naturals is rounded to the nearest such number, a tie to the one with
an even significand, and beyond the greatest one to infinity.
-/

namespace FlatRecord.Number

/-- The significands and exponents of finite numbers: 53 bits at most, all of them used unless the
exponent is the least one. -/
def IsSignificand (significand : Nat) (exponent : Int) : Prop :=
  significand < Nat.pow 2 53 ∧ -1074 ≤ exponent ∧ exponent ≤ 971 ∧
    (Nat.pow 2 52 ≤ significand ∨ exponent = -1074)

instance (m : Nat) (e : Int) : Decidable (IsSignificand m e) :=
  inferInstanceAs (Decidable (_ ∧ _ ∧ _ ∧ (_ ∨ _)))

/-- A double precision number. A finite one is its significand times two to its exponent. -/
inductive Binary64 where
  | nan
  | infinite (negative : Bool)
  | finite (negative : Bool) (significand : Nat) (exponent : Int)
      (canonical : IsSignificand significand exponent)
  deriving DecidableEq

namespace Binary64

/-- Zero of either sign. -/
def zero (negative : Bool) : Binary64 :=
  .finite negative 0 (-1074) (by decide)

instance : Inhabited Binary64 := ⟨zero false⟩

/-- The finite number of a significand and an exponent, or infinity where there is none. -/
def assemble (negative : Bool) (significand : Nat) (exponent : Int) : Binary64 :=
  if h : IsSignificand significand exponent then .finite negative significand exponent h
  else .infinite negative

/-- The numerator of a ratio divided by a power of two. -/
def scaleNumerator (numerator : Nat) (exponent : Int) : Nat :=
  if exponent < 0 then numerator * Nat.pow 2 exponent.natAbs else numerator

/-- The denominator of a ratio divided by a power of two. -/
def scaleDenominator (denominator : Nat) (exponent : Int) : Nat :=
  if exponent < 0 then denominator else denominator * Nat.pow 2 exponent.natAbs

/-- A quotient rounded to the nearest natural number, a tie to the even one. -/
def divideToEven (numerator denominator : Nat) : Nat :=
  let quotient := numerator / denominator
  let twice := 2 * (numerator % denominator)
  if twice < denominator then quotient
  else if denominator < twice then quotient + 1
  else quotient + quotient % 2

/-- The exponent that leaves 53 bits of a positive ratio before the point, or the least one. -/
def ratioExponent (numerator denominator : Nat) : Int :=
  let e := max ((numerator.log2 : Int) - denominator.log2 - 53) (-1074)
  if scaleNumerator numerator e / scaleDenominator denominator e < Nat.pow 2 53 then e else e + 1

/-- The number nearest to a ratio of naturals. -/
def ofRatio (negative : Bool) (numerator denominator : Nat) : Binary64 :=
  if numerator = 0 then zero negative
  else
    let e := ratioExponent numerator denominator
    let m := divideToEven (scaleNumerator numerator e) (scaleDenominator denominator e)
    if m = Nat.pow 2 53 then assemble negative (Nat.pow 2 52) (e + 1) else assemble negative m e

/-- The number nearest to a natural number times a power of ten. Exponents so far out that the
result is zero or infinite are not expanded. -/
def ofScaled (negative : Bool) (digits : Nat) (exponent : Int) : Binary64 :=
  if digits = 0 then zero negative
  else if 400 < exponent then .infinite negative
  else if exponent + (digits.log2 : Int) < -1200 then zero negative
  else if 0 ≤ exponent then ofRatio negative (digits * Nat.pow 10 exponent.natAbs) 1
  else ofRatio negative digits (Nat.pow 10 exponent.natAbs)

/-- The number nearest to an integer; none if it is beyond the finite numbers. -/
def ofInt? (n : Int) : Option Binary64 :=
  match ofRatio (n < 0) n.natAbs 1 with
  | .infinite _ => none
  | x => some x

/-- Whether the number is neither infinite nor a non-number. -/
def isFinite : Binary64 → Bool
  | .finite .. => true
  | _ => false

/-- The number with the other sign. -/
def negate : Binary64 → Binary64
  | .nan => .nan
  | .infinite negative => .infinite !negative
  | .finite negative m e h => .finite (!negative) m e h

/-- The integer part of a finite number, toward zero. -/
def truncate? : Binary64 → Option Int
  | .finite negative m e _ =>
    let n := scaleNumerator m (-e) / scaleDenominator 1 (-e)
    some (if negative then -(n : Int) else n)
  | _ => none

/-- Whether a number differs from zero. -/
def isNonzero : Binary64 → Bool
  | .finite _ m _ _ => m != 0
  | _ => true

end Binary64

end FlatRecord.Number
