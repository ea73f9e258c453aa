import FlatRecord.Yaml.Fault

/-!
# Places in a text

A cursor is a place in a text: what is left of it, and the number, the line and the column of the next
character. Line breaks come in several forms; the usual ones count as line feeds.
-/

namespace FlatRecord.Yaml

/-- Whether the character breaks a line. -/
def isBreak (c : Char) : Bool :=
  c = '\n' || c = '\r' || c = '\x85' || c = '\u2028' || c = '\u2029'

/-- Whether the character is a blank within a line. -/
def isGap (c : Char) : Bool := c = ' ' || c = '\t'

/-- Whether a line ends before a character, or at the end of the text. -/
def endsLine : Option Char → Bool
  | none => true
  | some c => isBreak c

/-- Whether a space or the end of a line comes next. -/
def endsWord : Option Char → Bool
  | none => true
  | some c => c = ' ' || isBreak c

/-- Whether a blank or the end of a line comes next. -/
def endsToken : Option Char → Bool
  | none => true
  | some c => isGap c || isBreak c

/-- A place in a text. -/
structure Cursor where
  rest : List Char
  index : Nat
  line : Nat
  column : Nat

namespace Cursor

/-- The beginning of a text. -/
def start (cs : List Char) : Cursor := ⟨cs, 0, 0, 0⟩

/-- The next character. -/
def peek? (c : Cursor) : Option Char := c.rest.head?

/-- The character behind the next one. -/
def second? (c : Cursor) : Option Char := (c.rest.drop 1).head?

/-- Whether the next character is a given one. -/
def sees (ch : Char) (c : Cursor) : Bool := c.peek? == some ch

/-- The place behind the next character. -/
def next (c : Cursor) : Cursor :=
  match c.rest with
  | [] => c
  | ch :: rest =>
    if isBreak ch && !(ch = '\r' && rest.head? = some '\n') then ⟨rest, c.index + 1, c.line + 1, 0⟩
    else if ch = '\ufeff' then ⟨rest, c.index + 1, c.line, c.column⟩
    else ⟨rest, c.index + 1, c.line, c.column + 1⟩

/-- The place behind some more characters. -/
def skip : Nat → Cursor → Cursor
  | 0, c => c
  | n + 1, c => skip n c.next

/-- The characters that satisfy a condition, and the place behind them. -/
def takeWhile (p : Char → Bool) (c : Cursor) : List Char × Cursor :=
  let taken := c.rest.takeWhile p
  (taken, c.skip taken.length)

/-- The place behind the characters that satisfy a condition. -/
def skipWhile (p : Char → Bool) (c : Cursor) : Cursor := (c.takeWhile p).2

/-- The place behind spaces. -/
def skipSpaces (c : Cursor) : Cursor := c.skipWhile (· = ' ')

/-- The place behind a comment, if one comes next. -/
def skipComment (c : Cursor) : Cursor :=
  if c.sees '#' then c.skipWhile fun ch => !isBreak ch else c

/-- The character that a line break stands for, and the place behind it. -/
def lineBreak? (c : Cursor) : Option (Char × Cursor) :=
  match c.rest with
  | '\r' :: '\n' :: _ => some ('\n', c.skip 2)
  | ch :: _ =>
    if isBreak ch then some (if ch = '\u2028' || ch = '\u2029' then ch else '\n', c.next) else none
  | [] => none

/-- The place behind a line break, if one comes next. -/
def skipBreak (c : Cursor) : Cursor :=
  match c.lineBreak? with
  | some (_, c) => c
  | none => c

/-- The place behind the rest of a line that may hold nothing but spaces and a comment. -/
def finishLine? (c : Cursor) : Option Cursor :=
  let c := c.skipSpaces.skipComment
  if endsLine c.peek? then some c.skipBreak else none

/-- Whether three given characters and then a blank or the end of a line come next. -/
def seesMark (mark : List Char) (c : Cursor) : Bool :=
  mark.isPrefixOf c.rest && endsToken (c.rest.drop mark.length).head?

/-- Whether a mark between documents comes next. -/
def seesSeparator (c : Cursor) : Bool := c.seesMark ['-', '-', '-'] || c.seesMark ['.', '.', '.']

end Cursor

end FlatRecord.Yaml
