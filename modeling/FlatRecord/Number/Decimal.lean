import FlatRecord.Number.FloatText

/-!
# Decimal numbers

Decimal numbers keep the digits and the exponent they were written with, so that `1.50` and `1.5`
are different numbers of equal value. Besides finite numbers there are two infinities and
non-numbers, which may be signalling and may carry a payload.

A number is written positionally if its exponent is not positive and at most five zeros follow the
point, and with an exponent otherwise. `plainText` never uses an exponent.
-/

namespace FlatRecord.Number

open FlatRecord.Text

/-- A decimal number. A finite one is its coefficient times ten to its exponent. -/
inductive Decimal where
  | finite (negative : Bool) (coefficient : Nat) (exponent : Int)
  | infinite (negative : Bool)
  | nan (negative signalling : Bool) (payload : Nat)
  deriving DecidableEq, Repr, Inhabited

namespace Decimal

/-- Whether the number is neither infinite nor a non-number. -/
def isFinite : Decimal → Bool
  | .finite .. => true
  | _ => false

/-- A minus sign before the text of a negative number. -/
def withSign (negative : Bool) (cs : List Char) : List Char :=
  if negative then '-' :: cs else cs

/-- Digits with a point before the last `places` of them. -/
def pointed (digits : List Char) (places : Nat) : List Char :=
  if places = 0 then digits
  else
    let padded := List.replicate (places + 1 - digits.length) '0' ++ digits
    let whole := padded.length - places
    padded.take whole ++ '.' :: padded.drop whole

/-- The number as text, with the digits and the exponent it has. -/
def text : Decimal → List Char
  | .infinite negative => withSign negative "Infinity".toList
  | .nan negative signalling payload =>
    let name := if signalling then "sNaN" else "NaN"
    withSign negative (name.toList ++ if payload = 0 then [] else naturalText payload)
  | .finite negative coefficient exponent =>
    let digits := naturalText coefficient
    let adjusted := exponent + digits.length - 1
    if exponent ≤ 0 ∧ -6 ≤ adjusted then withSign negative (pointed digits exponent.natAbs)
    else
      let mantissa :=
        match digits with
        | first :: second :: rest => first :: '.' :: second :: rest
        | short => short
      let mark := if adjusted < 0 then '-' else '+'
      let mantissa := if adjusted = 0 then mantissa
        else mantissa ++ 'E' :: mark :: naturalText adjusted.natAbs
      withSign negative mantissa

/-- The number as a string. -/
def string (d : Decimal) : String := String.ofList d.text

/-- The number as text without an exponent. -/
def plainText : Decimal → List Char
  | .finite negative coefficient exponent =>
    if 0 < exponent then
      let zeros := if coefficient = 0 then 0 else exponent.natAbs
      withSign negative (naturalText coefficient ++ List.replicate zeros '0')
    else withSign negative (pointed (naturalText coefficient) exponent.natAbs)
  | other => other.text

/-- Why a text is not read as a decimal number. -/
inductive Fault where
  /-- The text is not a decimal number. -/
  | malformed
  /-- The number has an exponent beyond the limits. -/
  | outOfRange
  deriving DecidableEq, Repr

/-- The greatest exponent of a number in scientific form. -/
def maxExponent : Int := 999999999999999999

/-- The least exponent of the last digit of a number. -/
def minExponent : Int := -1999999999999999997

/-- The finite number with the given parts, if its exponents are within the limits. -/
def make (negative : Bool) (coefficient : Nat) (exponent : Int) : Except Fault Decimal :=
  let adjusted :=
    if coefficient = 0 then exponent else exponent + (naturalText coefficient).length - 1
  if exponent < minExponent ∨ maxExponent < adjusted then .error .outOfRange
  else .ok (.finite negative coefficient exponent)

/-- Decimal digits of any script as ASCII digits, blanks as spaces, without underscores. Other
characters beyond ASCII have no place in a number. -/
def foldDigits? : List Char → Option (List Char)
  | [] => some []
  | c :: rest => do
    let rest ← foldDigits? rest
    if c = '_' then return rest
    else if c = '\x00' then none
    else if c.toNat < 0x80 then return c :: rest
    else if isBlank c then return ' ' :: rest
    else return asciiDigit (← digitValue? c) :: rest

/-- The payload of a non-number. -/
def payload? (cs : List Char) : Option Nat :=
  if cs.all isAsciiDigit then some (digitsNumber (cs.map asciiDigitValue)) else none

/-- Read the unsigned text of a decimal number. -/
def readUnsigned (negative : Bool) (cs : List Char) : Except Fault Decimal :=
  let word := lowerAscii cs
  if word = "inf".toList ∨ word = "infinity".toList then .ok (.infinite negative)
  else if word.take 3 = "nan".toList then
    match payload? (word.drop 3) with
    | some n => .ok (.nan negative false n)
    | none => .error .malformed
  else if word.take 4 = "snan".toList then
    match payload? (word.drop 4) with
    | some n => .ok (.nan negative true n)
    | none => .error .malformed
  else
    match decimalParts? cs with
    | some parts =>
      make negative (digitsNumber (parts.whole ++ parts.fraction))
        (parts.exponent - parts.fraction.length)
    | none => .error .malformed

/-- Read a decimal number. Underscores are skipped wherever they stand. -/
def read (cs : List Char) : Except Fault Decimal :=
  match foldDigits? (trim cs) with
  | none => .error .malformed
  | some folded =>
    let (negative, rest) := signed folded
    readUnsigned negative rest

/-- Drop the final zeros of a coefficient, raising the exponent. -/
def normalize : Nat → Nat → Int → Nat × Int
  | 0, coefficient, exponent => (coefficient, exponent)
  | fuel + 1, coefficient, exponent =>
    if coefficient != 0 && coefficient % 10 = 0 then
      normalize fuel (coefficient / 10) (exponent + 1)
    else (coefficient, exponent)

end Decimal

end FlatRecord.Number
