import FlatRecord.Scalar.Coercion

/-!
# Reading JSON text

JSON text is read into data. Numbers without a fraction or an exponent are integers of any size,
all others are double precision numbers; `NaN`, `Infinity` and `-Infinity` are numbers too. Of a
repeated key the last value counts. A fault names its cause and the place where it was found.
-/

namespace FlatRecord.Json

open FlatRecord.Number FlatRecord.Text

/-- What is wrong with a text that is not JSON. -/
inductive Cause where
  | value
  | extraData
  | propertyName
  | colon
  | comma
  | unterminatedString
  | controlCharacter
  | escape
  | unicodeEscape
  | byteOrderMark
  | integer (text : String) (fault : IntegerFault)

/-- What is wrong with a text, and the number of characters before that place. -/
structure Fault where
  cause : Cause
  position : Nat

/-- What was read from the head of a text, the rest of it and the rest's position. -/
abbrev Read (α : Type) := α × List Char × Nat

/-- Whether JSON text may have the character between its tokens. -/
def isSpace (c : Char) : Bool := c = ' ' || c = '\n' || c = '\r' || c = '\t'

/-- The text after leading spaces, and its position. -/
def skipSpaces : List Char → Nat → List Char × Nat
  | [], position => ([], position)
  | c :: rest, position =>
    if isSpace c then skipSpaces rest (position + 1) else (c :: rest, position)

/-- The value of a hexadecimal digit. -/
def hexValue? (c : Char) : Option Nat :=
  if '0' ≤ c ∧ c ≤ '9' then some (c.toNat - 0x30)
  else if 'a' ≤ c ∧ c ≤ 'f' then some (c.toNat - 0x57)
  else if 'A' ≤ c ∧ c ≤ 'F' then some (c.toNat - 0x37)
  else none

/-- The number of four hexadecimal digits. -/
def hexQuad? (a b c d : Char) : Option Nat := do
  let a ← hexValue? a
  let b ← hexValue? b
  let c ← hexValue? c
  let d ← hexValue? d
  return ((a * 16 + b) * 16 + c) * 16 + d

/-- The character that a one-letter escape stands for. -/
def shortEscape? (c : Char) : Option Char :=
  if c = '"' ∨ c = '\\' ∨ c = '/' then some c
  else if c = 'b' then some '\x08'
  else if c = 'f' then some '\x0c'
  else if c = 'n' then some '\n'
  else if c = 'r' then some '\r'
  else if c = 't' then some '\t'
  else none

/-- The code point of a high and a low surrogate. -/
def joinSurrogates (high low : Nat) : Nat :=
  0x10000 + (high - 0xd800) * 0x400 + (low - 0xdc00)

/-- The rest of a string whose opening quote stands at `start`. The characters read so far are
given in reverse. -/
def stringRest (start : Nat) : List Char → Nat → List Char → Except Fault (Read String)
  | [], _, _ => .error ⟨.unterminatedString, start⟩
  | ['\\'], _, _ => .error ⟨.unterminatedString, start⟩
  | '\\' :: 'u' :: a :: b :: c :: d :: '\\' :: 'u' :: e :: f :: g :: h :: x :: rest,
    position, read =>
    match hexQuad? a b c d with
    | none => .error ⟨.unicodeEscape, position + 1⟩
    | some high =>
      if 0xd800 ≤ high ∧ high < 0xdc00 then
        match hexQuad? e f g h with
        | none => .error ⟨.unicodeEscape, position + 7⟩
        | some low =>
          if 0xdc00 ≤ low ∧ low < 0xe000 then
            stringRest start (x :: rest) (position + 12)
              (Char.ofNat (joinSurrogates high low) :: read)
          else
            stringRest start ('\\' :: 'u' :: e :: f :: g :: h :: x :: rest) (position + 6)
              ('\ufffd' :: read)
      else
        stringRest start ('\\' :: 'u' :: e :: f :: g :: h :: x :: rest) (position + 6)
          (Char.ofNat high :: read)
  | '\\' :: 'u' :: a :: b :: c :: d :: x :: rest, position, read =>
    match hexQuad? a b c d with
    | none => .error ⟨.unicodeEscape, position + 1⟩
    | some n =>
      let char := if 0xd800 ≤ n ∧ n < 0xe000 then '\ufffd' else Char.ofNat n
      stringRest start (x :: rest) (position + 6) (char :: read)
  | '\\' :: 'u' :: _, position, _ => .error ⟨.unicodeEscape, position + 1⟩
  | '\\' :: c :: rest, position, read =>
    match shortEscape? c with
    | some char => stringRest start rest (position + 2) (char :: read)
    | none => .error ⟨.escape, position⟩
  | c :: rest, position, read =>
    if c = '"' then .ok (String.ofList read.reverse, rest, position + 1)
    else if c.toNat < 0x20 then .error ⟨.controlCharacter, position⟩
    else stringRest start rest (position + 1) (c :: read)

/-- A number token: its text, whether it has a fraction or an exponent, and the rest. -/
structure NumberToken where
  text : List Char
  isFloat : Bool
  rest : List Char

/-- The digits of an exponent, with their mark and sign. -/
def exponentToken? : List Char → Option (List Char × List Char)
  | mark :: rest =>
    if mark = 'e' ∨ mark = 'E' then
      let (sign, rest) :=
        match rest with
        | '+' :: more => (['+'], more)
        | '-' :: more => (['-'], more)
        | more => ([], more)
      let (digits, rest) := rest.span isAsciiDigit
      if digits.isEmpty then none else some (mark :: (sign ++ digits), rest)
    else none
  | [] => none

/-- The unsigned number at the head of a text. -/
def unsignedToken? (cs : List Char) : Option NumberToken :=
  let (whole, rest) :=
    match cs with
    | '0' :: rest => (['0'], rest)
    | _ => cs.span isAsciiDigit
  if whole.isEmpty then none
  else
    let (fraction, rest) :=
      match rest with
      | '.' :: more =>
        let (digits, after) := more.span isAsciiDigit
        if digits.isEmpty then ([], rest) else ('.' :: digits, after)
      | _ => ([], rest)
    match exponentToken? rest with
    | some (exponent, rest) => some ⟨whole ++ fraction ++ exponent, true, rest⟩
    | none => some ⟨whole ++ fraction, !fraction.isEmpty, rest⟩

/-- The number at the head of a text. -/
def numberToken? : List Char → Option NumberToken
  | '-' :: rest => (unsignedToken? rest).map fun t => { t with text := '-' :: t.text }
  | cs => unsignedToken? cs

/-- The value of a number token. -/
def NumberToken.value (t : NumberToken) (position : Nat) : Except Fault Datum :=
  if t.isFloat then .ok (.float ((readFloat? t.text).getD .nan))
  else
    match readInteger t.text with
    | .ok n => .ok (.int n)
    | .error fault => .error ⟨.integer (String.ofList t.text) fault, position⟩

/-- Constants and their values. -/
def constants : List (List Char × Datum) :=
  [("null".toList, .null), ("true".toList, .bool true), ("false".toList, .bool false),
   ("NaN".toList, .float .nan), ("Infinity".toList, .float (.infinite false)),
   ("-Infinity".toList, .float (.infinite true))]

/-- A value that is no string, list or mapping. -/
def scalar (cs : List Char) (position : Nat) : Except Fault (Read Datum) :=
  match constants.find? fun c => c.1.isPrefixOf cs with
  | some (name, value) => .ok (value, cs.drop name.length, position + name.length)
  | none =>
    match numberToken? cs with
    | some t => do
      let value ← t.value position
      return (value, t.rest, position + t.text.length)
    | none => .error ⟨.value, position⟩

mutual

/-- A value. -/
def value : Nat → List Char → Nat → Except Fault (Read Datum)
  | 0, _, position => .error ⟨.value, position⟩
  | fuel + 1, cs, position =>
    match cs with
    | '"' :: rest => do
      let (s, rest, position) ← stringRest position rest (position + 1) []
      return (.text s, rest, position)
    | '[' :: rest =>
      let (rest, position) := skipSpaces rest (position + 1)
      match rest with
      | ']' :: rest => .ok (.list [], rest, position + 1)
      | _ => do
        let (items, rest, position) ← items fuel rest position
        return (.list items, rest, position)
    | '\x7b' :: rest =>
      let (rest, position) := skipSpaces rest (position + 1)
      match rest with
      | '\x7d' :: rest => .ok (.map [], rest, position + 1)
      | _ => do
        let (entries, rest, position) ← entries fuel rest position []
        return (.map entries, rest, position)
    | _ => scalar cs position

/-- The items of a list, up to and with its closing bracket. -/
def items : Nat → List Char → Nat → Except Fault (Read (List Datum))
  | 0, _, position => .error ⟨.value, position⟩
  | fuel + 1, cs, position => do
    let (item, rest, position) ← value fuel cs position
    let (rest, position) := skipSpaces rest position
    match rest with
    | ']' :: rest => return ([item], rest, position + 1)
    | ',' :: rest =>
      let (rest, position) := skipSpaces rest (position + 1)
      let (more, rest, position) ← items fuel rest position
      return (item :: more, rest, position)
    | _ => .error ⟨.comma, position⟩

/-- The entries of a mapping, up to and with its closing brace, after those read so far. -/
def entries : Nat → List Char → Nat → List (Datum × Datum) → Except Fault (Read (List (Datum × Datum)))
  | 0, _, position, _ => .error ⟨.value, position⟩
  | fuel + 1, cs, position, read =>
    match cs with
    | '"' :: rest => do
      let (key, rest, position) ← stringRest position rest (position + 1) []
      let (rest, position) := skipSpaces rest position
      match rest with
      | ':' :: rest =>
        let (rest, position) := skipSpaces rest (position + 1)
        let (item, rest, position) ← value fuel rest position
        let (rest, position) := skipSpaces rest position
        let read := Datum.put (.text key) item read
        match rest with
        | '\x7d' :: rest => return (read, rest, position + 1)
        | ',' :: rest =>
          let (rest, position) := skipSpaces rest (position + 1)
          entries fuel rest position read
        | _ => .error ⟨.comma, position⟩
      | _ => .error ⟨.colon, position⟩
    | _ => .error ⟨.propertyName, position⟩

end

/-- Read JSON text. -/
def read (s : String) : Except Fault Datum :=
  let cs := s.toList
  if cs.head? = some '\ufeff' then .error ⟨.byteOrderMark, 0⟩
  else
    let (start, position) := skipSpaces cs 0
    match value (2 * cs.length + 2) start position with
    | .error fault => .error fault
    | .ok (result, rest, position) =>
      let (rest, position) := skipSpaces rest position
      if rest.isEmpty then .ok result else .error ⟨.extraData, position⟩

/-- The text of a cause. -/
def Cause.message : Cause → String
  | value => "Expecting value"
  | extraData => "Extra data"
  | propertyName => "Expecting property name enclosed in double quotes"
  | colon => "Expecting ':' delimiter"
  | comma => "Expecting ',' delimiter"
  | unterminatedString => "Unterminated string starting at"
  | controlCharacter => "Invalid control character at"
  | escape => "Invalid \\escape"
  | unicodeEscape => "Invalid \\uXXXX escape"
  | byteOrderMark => "Unexpected UTF-8 BOM (decode using utf-8-sig)"
  | integer text fault => fault.message text

/-- The text of a fault in a document: its cause, and its line, column and position. -/
def Fault.message (s : String) (fault : Fault) : String :=
  let before := s.toList.take fault.position
  let line := before.count '\n' + 1
  let column := (before.reverse.takeWhile (· != '\n')).length + 1
  s!"{fault.cause.message}: line {line} column {column} (char {fault.position})"

end FlatRecord.Json
