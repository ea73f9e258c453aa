import FlatRecord.Number.IntegerText
import FlatRecord.Number.Shortest

/-!
# Double precision numbers as text

A number is written in its shortest digits, positionally where the point falls near them and with
an exponent otherwise. A `FloatLayout` says where that is and how an exponent looks. Reading accepts
decimal digits of any script, a point, an exponent, single underscores between digits, blanks
around the number, and the names of the infinities and of the non-number.
-/

namespace FlatRecord.Number

open FlatRecord.Text

/-- How a finite number is laid out. The point falls `place` digits after the start of the digits;
the number is written positionally from place `leastPlace` to place `greatestPlace`. -/
structure FloatLayout where
  leastPlace : Int
  greatestPlace : Int
  /-- Digits an exponent has at least. -/
  exponentDigits : Nat

/-- Digits after as many zeros as give at least `width` digits. -/
def padDigits (width : Nat) (digits : List Char) : List Char :=
  List.replicate (width - digits.length) '0' ++ digits

/-- Digits with the point after `place` of them, with a digit on each side of the point. -/
def positional (digits : List Char) (place : Int) : List Char :=
  if place ≤ 0 then '0' :: '.' :: (List.replicate place.natAbs '0' ++ digits)
  else
    let n := place.natAbs
    let whole := digits.take n ++ List.replicate (n - digits.length) '0'
    let fraction := digits.drop n
    whole ++ '.' :: (if fraction.isEmpty then ['0'] else fraction)

/-- Digits with a point after the first and an exponent. -/
def exponential (exponentDigits : Nat) (digits : List Char) (place : Int) : List Char :=
  let mantissa :=
    match digits with
    | first :: second :: rest => first :: '.' :: second :: rest
    | short => short
  let e := place - 1
  let mark := if e < 0 then '-' else '+'
  mantissa ++ 'e' :: mark :: padDigits exponentDigits (naturalText e.natAbs)

/-- The text of the absolute value of a finite number. -/
def FloatLayout.magnitudeText (layout : FloatLayout) (significand : Nat) (exponent : Int) :
    List Char :=
  let s := shortestDigits significand exponent
  let digits := naturalText s.digits
  let place := if s.digits = 0 then 1 else s.exponent + digits.length
  if layout.leastPlace ≤ place ∧ place ≤ layout.greatestPlace then positional digits place
  else exponential layout.exponentDigits digits place

/-- The text of a number, with the given names of the infinity and of the non-number. -/
def FloatLayout.text (layout : FloatLayout) (infinity notANumber : String) : Binary64 → List Char
  | .nan => notANumber.toList
  | .infinite negative => if negative then '-' :: infinity.toList else infinity.toList
  | .finite negative m e _ =>
    let body := layout.magnitudeText m e
    if negative then '-' :: body else body

/-- Values are written positionally from `0.0001` to below `1e+16`, and exponents have at least
two digits. -/
def FloatLayout.plain : FloatLayout := ⟨-3, 16, 2⟩

/-- JSON documents of records write numbers positionally from `0.00001` to below `1e+16`, and
exponents without leading zeros. -/
def FloatLayout.json : FloatLayout := ⟨-4, 16, 1⟩

/-- A number as plain text. -/
def floatText (x : Binary64) : List Char := FloatLayout.plain.text "inf" "nan" x

/-- A number as a plain string. -/
def floatString (x : Binary64) : String := String.ofList (floatText x)

/-- The parts of an unsigned decimal number: digits before and after the point, and the exponent. -/
structure DecimalParts where
  whole : List Nat
  fraction : List Nat
  exponent : Int

/-- A group of digits, which may be missing. -/
def optionalDigits? (cs : List Char) : Option (List Nat) :=
  if cs.isEmpty then some [] else groupedDigits? cs

/-- An exponent, from its mark on; none if there is no mark. -/
def exponentPart? : List Char → Option Int
  | [] => some 0
  | mark :: rest =>
    if mark = 'e' ∨ mark = 'E' then
      let (negative, digits) := signed rest
      (groupedDigits? digits).map fun ds =>
        let n := digitsNumber ds
        if negative then -(n : Int) else n
    else none

/-- The parts of an unsigned decimal number. -/
def decimalParts? (cs : List Char) : Option DecimalParts := do
  let (wholeText, rest) := cs.span fun c => c != '.' && c != 'e' && c != 'E'
  let (fractionText, tail) :=
    match rest with
    | '.' :: after => after.span fun c => c != 'e' && c != 'E'
    | _ => ([], rest)
  let whole ← optionalDigits? wholeText
  let fraction ← optionalDigits? fractionText
  if whole.isEmpty && fraction.isEmpty then none
  let exponent ← exponentPart? tail
  return ⟨whole, fraction, exponent⟩

/-- An ASCII text in lower case. -/
def lowerAscii (cs : List Char) : List Char := cs.map fun c => c.toLower

/-- Read a number. -/
def readFloat? (cs : List Char) : Option Binary64 :=
  let (negative, rest) := signed (trim cs)
  let word := lowerAscii rest
  if word = "inf".toList ∨ word = "infinity".toList then some (.infinite negative)
  else if word = "nan".toList then some .nan
  else
    (decimalParts? rest).map fun parts =>
      Binary64.ofScaled negative (digitsNumber (parts.whole ++ parts.fraction))
        (parts.exponent - parts.fraction.length)

end FlatRecord.Number
