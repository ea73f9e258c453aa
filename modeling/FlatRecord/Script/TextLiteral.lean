import FlatRecord.Script.FormatText
import FlatRecord.Script.Numeral
import FlatRecord.Text.CharacterName

/-!
# Text literals

What stands between the quotes of a literal, with the letters before the first quote, decides its
value. In a raw literal backslashes stand for themselves. Elsewhere they begin escapes; an escape
that does not exist is kept as it is written, a numeric one with too few digits is a mistake.
-/

namespace FlatRecord.Script

open FlatRecord.Text

/-- What the letters before a quote say about the literal. -/
structure Flavour where
  raw : Bool
  bytes : Bool
  format : Bool
  deriving DecidableEq, Repr

/-- The flavour of a word before a quote, if the word can stand there. -/
def Flavour.ofWord? (word : List Char) : Option Flavour :=
  match word.map Char.toLower with
  | [] => some ⟨false, false, false⟩
  | ['u'] => some ⟨false, false, false⟩
  | ['r'] => some ⟨true, false, false⟩
  | ['b'] => some ⟨false, true, false⟩
  | ['b', 'r'] => some ⟨true, true, false⟩
  | ['r', 'b'] => some ⟨true, true, false⟩
  | ['f'] => some ⟨false, false, true⟩
  | ['f', 'r'] => some ⟨true, false, true⟩
  | ['r', 'f'] => some ⟨true, false, true⟩
  | _ => none

/-- The code point of an escape of a single letter. -/
def simpleEscape? (c : Char) : Option Nat :=
  match c with
  | '\\' => some 0x5c
  | '\'' => some 0x27
  | '"' => some 0x22
  | 'a' => some 7
  | 'b' => some 8
  | 'f' => some 12
  | 'n' => some 10
  | 'r' => some 13
  | 't' => some 9
  | 'v' => some 11
  | _ => none

/-- The number that exactly `width` hexadecimal digits at the head of a text stand for, and the
text behind them. -/
def fixedHex : Nat → Nat → List Char → Option (Nat × List Char)
  | 0, value, cs => some (value, cs)
  | width + 1, value, c :: cs =>
    match hexDigitValue? c with
    | some d => fixedHex width (16 * value + d) cs
    | none => none
  | _ + 1, _, [] => none

/-- The number that at most `width` further octal digits continue, and the text behind them. -/
def octal : Nat → Nat → List Char → Nat × List Char
  | width + 1, value, c :: cs =>
    match baseDigit? 8 c with
    | some d => octal width (8 * value + d) cs
    | none => (value, c :: cs)
  | _, value, cs => (value, cs)

/-- The digit widths of numeric escapes by their letter. -/
def escapeWidth? (c : Char) : Option Nat :=
  if c = 'x' then some 2 else if c = 'u' then some 4 else if c = 'U' then some 8 else none

/-- The characters of a text literal's body, in reverse, with escapes replaced. Each round takes a
character or an escape, so as many rounds as characters suffice. -/
def unescapeText : Nat → List Char → List Char → Option (List Char)
  | _, done, [] => some done
  | 0, _, _ :: _ => none
  | rounds + 1, done, '\\' :: c :: rest =>
    if c = '\n' then unescapeText rounds done rest
    else
      match simpleEscape? c with
      | some n => unescapeText rounds (Char.ofNat n :: done) rest
      | none =>
        match escapeWidth? c with
        | some width =>
          match fixedHex width 0 rest with
          | some (n, after) =>
            if n < 0x110000 then unescapeText rounds (Char.ofNat n :: done) after else none
          | none => none
        | none =>
          match baseDigit? 8 c with
          | some d =>
            let (n, after) := octal 2 d rest
            unescapeText rounds (Char.ofNat n :: done) after
          | none =>
            if c = 'N' then
              match characterName? rest with
              | some (n, after) => unescapeText rounds (n :: done) after
              | none => none
            else unescapeText rounds (c :: '\\' :: done) rest
  | rounds + 1, done, c :: rest => unescapeText rounds (c :: done) rest

/-- The bytes of a byte literal's body, in reverse, with escapes replaced. -/
def unescapeBytes : Nat → List UInt8 → List Char → Option (List UInt8)
  | _, done, [] => some done
  | 0, _, _ :: _ => none
  | rounds + 1, done, '\\' :: c :: rest =>
    if c = '\n' then unescapeBytes rounds done rest
    else
      match simpleEscape? c with
      | some n => unescapeBytes rounds (n.toUInt8 :: done) rest
      | none =>
        match baseDigit? 8 c with
        | some d =>
          let (n, after) := octal 2 d rest
          unescapeBytes rounds (n.toUInt8 :: done) after
        | none =>
          if c = 'x' then
            match fixedHex 2 0 rest with
            | some (n, after) => unescapeBytes rounds (n.toUInt8 :: done) after
            | none => none
          else unescapeBytes rounds (c.toNat.toUInt8 :: 0x5c :: done) rest
  | rounds + 1, done, c :: rest => unescapeBytes rounds (c.toNat.toUInt8 :: done) rest

/-- The text of a literal's body. -/
def textOf? (raw : Bool) (body : List Char) : Option String :=
  if raw then some (String.ofList body)
  else (unescapeText body.length [] body).map fun done => String.ofList done.reverse

/-- The literal of a flavour and a body. -/
def literal? (flavour : Flavour) (body : List Char) : Option Literal :=
  if flavour.bytes then
    if body.any fun c => 0x80 ≤ c.toNat then none
    else if flavour.raw then some (.bytes (body.map fun c => c.toNat.toUInt8))
    else (unescapeBytes body.length [] body).map fun done => .bytes done.reverse
  else if flavour.format then do
    let (texts, fields) ← formatParts? flavour.raw body
    let _ ← texts.mapM (textOf? flavour.raw)
    return .format fields
  else (textOf? flavour.raw body).map .text

end FlatRecord.Script
