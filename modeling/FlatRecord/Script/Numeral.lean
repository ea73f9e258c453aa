import FlatRecord.Number.FloatText
import FlatRecord.Script.Tree
import FlatRecord.Text.Word

/-!
# Numerals of the scripting language

Whole numbers in decimal, hexadecimal, octal or binary digits, and decimal numbers with a fraction,
an exponent or the mark of an imaginary part. Single underscores may stand between digits.

A decimal whole number other than zero does not begin with a zero, and has a limited number of
digits. No letter or digit may follow a numeral, except the first letters of a keyword that can
stand behind a number.
-/

namespace FlatRecord.Script

open FlatRecord.Number FlatRecord.Text

/-- The value of a hexadecimal digit. -/
def hexDigitValue? (c : Char) : Option Nat :=
  if isAsciiDigit c then some (asciiDigitValue c)
  else if 'a' ≤ c ∧ c ≤ 'f' then some (c.toNat - 0x57)
  else if 'A' ≤ c ∧ c ≤ 'F' then some (c.toNat - 0x37)
  else none

/-- The value of a digit of a base up to sixteen. -/
def baseDigit? (base : Nat) (c : Char) : Option Nat :=
  (hexDigitValue? c).filter (· < base)

/-- Whether a word may contain the character, before it is known to be a proper one. -/
def isWordLike (c : Char) : Bool := c.isAlphanum || c == '_' || 0x80 ≤ c.toNat

/-- The digits at the head of a text, with underscores left out, and the text behind them. An
underscore without a digit behind it is a mistake. -/
def digitRun (base : Nat) : List Char → Option (List Nat × List Char)
  | [] => some ([], [])
  | '_' :: c :: rest =>
    match baseDigit? base c with
    | none => none
    | some d => (digitRun base rest).map fun r => (d :: r.1, r.2)
  | c :: rest =>
    match baseDigit? base c with
    | some d => (digitRun base rest).map fun r => (d :: r.1, r.2)
    | none => if c = '_' then none else some ([], c :: rest)

/-- Whether a numeral may end before this text. -/
def isNumeralEnd : List Char → Bool
  | 'a' :: 'n' :: 'd' :: _ => true
  | 'e' :: 'l' :: 's' :: 'e' :: _ => true
  | 'f' :: 'o' :: 'r' :: _ => true
  | 'i' :: 'f' :: _ => true
  | 'i' :: 'n' :: _ => true
  | 'i' :: 's' :: _ => true
  | 'n' :: 'o' :: 't' :: _ => true
  | 'o' :: 'r' :: _ => true
  | c :: _ => !isWordLike c
  | [] => true

/-- The number of some digits of a base. -/
def digitsIn (base : Nat) (digits : List Nat) : Nat := digits.foldl (fun n d => base * n + d) 0

/-- A numeral and the text behind it, if the numeral may end there. -/
def endNumeral (value : Constant) (rest : List Char) : Option (Constant × List Char) :=
  if isNumeralEnd rest then some (value, rest) else none

/-- A whole number of a base other than ten, from behind the mark of the base on. -/
def baseNumeral (base : Nat) (cs : List Char) : Option (Constant × List Char) := do
  let (digits, rest) ← digitRun base cs
  if digits.isEmpty then none
  else endNumeral (.datum (.int (digitsIn base digits))) rest

/-- The digits behind a decimal point, and whether there is a point. -/
def fractionPart (cs : List Char) : Option (Bool × List Nat × List Char) :=
  match cs with
  | '.' :: rest =>
    if rest.head?.any isAsciiDigit then
      (digitRun 10 rest).map fun r => (true, r.1, r.2)
    else some (true, [], rest)
  | _ => some (false, [], cs)

/-- An exponent, if one stands at the head of a text. A sign without a digit is a mistake; a mark
without either is no exponent. -/
def exponentPart (cs : List Char) : Option (Option Int × List Char) :=
  match cs with
  | mark :: rest =>
    if mark = 'e' ∨ mark = 'E' then
      match rest with
      | sign :: digit :: _ =>
        if sign = '+' ∨ sign = '-' then
          if isAsciiDigit digit then
            (digitRun 10 rest.tail).map fun r =>
              (some (if sign = '-' then -(digitsNumber r.1 : Int) else digitsNumber r.1), r.2)
          else none
        else if isAsciiDigit sign then
          (digitRun 10 rest).map fun r => (some (digitsNumber r.1 : Int), r.2)
        else some (none, cs)
      | [digit] =>
        if isAsciiDigit digit then some (some (asciiDigitValue digit : Int), [])
        else if digit = '+' ∨ digit = '-' then none
        else some (none, cs)
      | [] => some (none, cs)
    else some (none, cs)
  | [] => some (none, cs)

/-- A decimal numeral. -/
def decimalNumeral (cs : List Char) : Option (Constant × List Char) := do
  let (whole, afterWhole) ← digitRun 10 cs
  let (pointed, fraction, afterFraction) ← fractionPart afterWhole
  let (exponent, rest) ← exponentPart afterFraction
  let value := Binary64.ofScaled false (digitsNumber (whole ++ fraction))
    (exponent.getD 0 - fraction.length)
  match rest with
  | c :: tail =>
    if c = 'j' ∨ c = 'J' then return ← endNumeral (.complex value) tail
  | [] => pure ()
  if pointed || exponent.isSome then endNumeral (.datum (.float value)) rest
  else if whole.head? = some 0 then
    if whole.any (· ≠ 0) then none else endNumeral (.datum (.int 0)) rest
  else if maxIntegerDigits < whole.length then none
  else endNumeral (.datum (.int (digitsNumber whole))) rest

/-- The numeral at the head of a text that begins with a digit, or with a point and a digit. -/
def numeral (cs : List Char) : Option (Constant × List Char) :=
  match cs with
  | '0' :: mark :: rest =>
    if mark = 'x' ∨ mark = 'X' then baseNumeral 16 rest
    else if mark = 'o' ∨ mark = 'O' then baseNumeral 8 rest
    else if mark = 'b' ∨ mark = 'B' then baseNumeral 2 rest
    else decimalNumeral cs
  | _ => decimalNumeral cs

end FlatRecord.Script
