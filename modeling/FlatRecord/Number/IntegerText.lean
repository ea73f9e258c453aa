import FlatRecord.Text.Blank
import FlatRecord.Text.Digit

/-!
# Integers as text

An integer is written in decimal digits, with a minus sign if it is negative. It is read from
decimal digits of any script, with an optional sign, with blanks around it and with single
underscores between digits. Both directions stop at a fixed number of digits.
-/

namespace FlatRecord.Number

open FlatRecord.Text

/-- The decimal digits of a natural number. -/
def naturalText (n : Nat) : List Char := Nat.toDigits 10 n

/-- The decimal digits of an integer, after a minus sign if it is negative. -/
def integerText : Int → List Char
  | .ofNat n => naturalText n
  | .negSucc n => '-' :: naturalText (n + 1)

/-- An integer as a string. -/
def integerString (n : Int) : String := String.ofList (integerText n)

/-- The number that a list of decimal digits stands for. -/
def digitsNumber (digits : List Nat) : Nat := digits.foldl (fun n d => 10 * n + d) 0

/-- The digits of a text that holds nothing but decimal digits and single underscores between
them. There is no such list for an empty text. -/
def groupedDigits? : List Char → Option (List Nat)
  | [] => none
  | [c] => (digitValue? c).map fun d => [d]
  | c :: '_' :: rest => do
    let d ← digitValue? c
    let ds ← groupedDigits? rest
    return d :: ds
  | c :: rest => do
    let d ← digitValue? c
    let ds ← groupedDigits? rest
    return d :: ds

/-- The sign at the head of a text, true for a minus sign, and the text after it. -/
def signed : List Char → Bool × List Char
  | '-' :: rest => (true, rest)
  | '+' :: rest => (false, rest)
  | rest => (false, rest)

/-- The greatest number of digits that is converted between text and integers. -/
def maxIntegerDigits : Nat := 4300

/-- Why a text is not read as an integer. -/
inductive IntegerFault where
  /-- The text is not a decimal number. -/
  | malformed
  /-- The text has more digits than are converted. -/
  | tooLong (digits : Nat)
  deriving DecidableEq, Repr

/-- Read an integer. -/
def readInteger (cs : List Char) : Except IntegerFault Int :=
  let (negative, rest) := signed (trim cs)
  match groupedDigits? rest with
  | none => .error .malformed
  | some digits =>
    if maxIntegerDigits < digits.length then .error (.tooLong digits.length)
    else
      let n := digitsNumber digits
      .ok (if negative then -(n : Int) else n)

/-- Whether an integer has too many digits to be written. -/
def isUnwritable (n : Int) : Bool :=
  -- No integer of at most 14284 bits has more than 4300 digits.
  if n.natAbs.log2 < 14284 then false else maxIntegerDigits < (naturalText n.natAbs).length

end FlatRecord.Number
