import FlatRecord.Number.Binary64

/-!
# Shortest decimal digits

The fewest decimal digits that read back as a given double precision number. On each decimal grid,
from one digit up, the two neighbours of the number are tried; the first grid with a neighbour that
reads back gives the digits. Of two such neighbours the nearer one is taken, and of two equally near
ones the even one.
-/

namespace FlatRecord.Number

/-- Decimal digits and the place of the point: the value is the digits, as a natural number, times
ten to the exponent. -/
structure Scaled where
  digits : Nat
  exponent : Int
  deriving DecidableEq, Repr

namespace Shortest

/-- Whether a ratio is at least a power of ten. -/
def reaches (numerator denominator : Nat) (exponent : Int) : Bool :=
  if 0 ≤ exponent then Nat.pow 10 exponent.natAbs * denominator ≤ numerator
  else denominator ≤ numerator * Nat.pow 10 exponent.natAbs

/-- Climb from an exponent that the ratio reaches to the first one that it does not reach. -/
def climb (numerator denominator : Nat) : Nat → Int → Int
  | 0, exponent => exponent
  | fuel + 1, exponent =>
    if reaches numerator denominator exponent then climb numerator denominator fuel (exponent + 1)
    else exponent

/-- The least exponent whose power of ten is greater than a positive ratio. -/
def magnitude (numerator denominator : Nat) : Int :=
  let bits := (numerator.log2 : Int) - denominator.log2 - 1
  climb numerator denominator 8 (bits * 30103 / 100000 - 1)

/-- The quotient of a ratio and a power of ten, rounded down, and whether twice the remainder is
less than, equal to or greater than the divisor; exact quotients have no remainder. -/
def gridFloor (numerator denominator : Nat) (exponent : Int) : Nat × Nat × Nat :=
  let n := if exponent < 0 then numerator * Nat.pow 10 exponent.natAbs else numerator
  let d := if exponent < 0 then denominator else denominator * Nat.pow 10 exponent.natAbs
  (n / d, n % d, d)

/-- The neighbour on a decimal grid that reads back, the nearer one of two. -/
def onGrid (readsBack : Scaled → Bool) (numerator denominator : Nat) (exponent : Int) :
    Option Scaled :=
  let (low, rest, divisor) := gridFloor numerator denominator exponent
  let below : Scaled := ⟨low, exponent⟩
  let above : Scaled := ⟨low + 1, exponent⟩
  let lowHit := low != 0 && readsBack below
  let highHit := rest != 0 && readsBack above
  if lowHit && highHit then
    if 2 * rest < divisor then some below
    else if divisor < 2 * rest then some above
    else some (if low % 2 = 0 then below else above)
  else if lowHit then some below
  else if highHit then some above
  else none

/-- The first grid, from `count` digits up, on which a neighbour reads back. -/
def search (readsBack : Scaled → Bool) (numerator denominator : Nat) (top : Int) :
    Nat → Nat → Option Scaled
  | 0, _ => none
  | fuel + 1, count =>
    match onGrid readsBack numerator denominator (top - count) with
    | some hit => some hit
    | none => search readsBack numerator denominator top fuel (count + 1)

end Shortest

/-- Drop the final zeros of the digits. -/
def Scaled.strip : Nat → Scaled → Scaled
  | 0, s => s
  | fuel + 1, s =>
    if s.digits != 0 && s.digits % 10 = 0 then strip fuel ⟨s.digits / 10, s.exponent + 1⟩ else s

/-- The shortest decimal digits of a significand and an exponent. Seventeen digits always
suffice; the exact digits stand in where the search ends without a hit. -/
def shortestDigits (significand : Nat) (exponent : Int) : Scaled :=
  if significand = 0 then ⟨0, 0⟩
  else
    let numerator := Binary64.scaleNumerator significand (-exponent)
    let denominator := Binary64.scaleDenominator 1 (-exponent)
    let target := Binary64.ofRatio false numerator denominator
    let readsBack (s : Scaled) := decide (Binary64.ofScaled false s.digits s.exponent = target)
    let top := Shortest.magnitude numerator denominator
    match Shortest.search readsBack numerator denominator top 17 1 with
    | some s => Scaled.strip 20 s
    | none =>
      if exponent < 0 then ⟨significand * Nat.pow 5 exponent.natAbs, exponent⟩
      else ⟨significand * Nat.pow 2 exponent.natAbs, 0⟩

end FlatRecord.Number
