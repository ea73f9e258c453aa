import FlatRecord.Yaml.Cursor
import FlatRecord.Json.Reader

/-!
# Quoted scalars

A quoted scalar stands between single quotes, where a quote is written twice, or between double quotes,
where a backslash begins an escape. It may go on over lines: blanks around a line break are dropped, a
single break is a space, and of several breaks the first is dropped.
-/

namespace FlatRecord.Yaml

/-- The character that a one-letter escape stands for. -/
def escapeLetters : List (Char × Char) :=
  [('0', '\x00'), ('a', '\x07'), ('b', '\x08'), ('t', '\t'), ('\t', '\t'), ('n', '\n'), ('v', '\x0b'),
   ('f', '\x0c'), ('r', '\r'), ('e', '\x1b'), (' ', ' '), ('"', '"'), ('\\', '\\'), ('/', '/'),
   ('N', '\x85'), ('_', '\xa0'), ('L', '\u2028'), ('P', '\u2029')]

/-- The number of digits that a numeric escape has. -/
def escapeWidth? (c : Char) : Option Nat :=
  if c = 'x' then some 2 else if c = 'u' then some 4 else if c = 'U' then some 8 else none

/-- The number of some hexadecimal digits. -/
def hexNumber? (digits : List Char) : Option Nat :=
  digits.foldlM (fun n d => (Json.hexValue? d).map fun v => 16 * n + v) 0

/-- The character of a number. -/
def codePointChar (n : Nat) : Except Fault Char :=
  if 0x110000 ≤ n then .error .codePoint
  else if 0xd800 ≤ n ∧ n < 0xe000 then .ok '\ufffd'
  else .ok (Char.ofNat n)

/-- The breaks of the blank lines behind a line break, in reverse; none of them may begin with a mark
between documents. -/
def quotedBreaks : Nat → Cursor → List Char → Except Fault (List Char × Cursor)
  | 0, c, breaks => .ok (breaks, c)
  | fuel + 1, c, breaks =>
    if c.seesSeparator then .error .malformed
    else
      let c := c.skipWhile isGap
      match c.lineBreak? with
      | some (b, c) => quotedBreaks fuel c (b :: breaks)
      | none => .ok (breaks, c)

/-- What a line break and the breaks of the blank lines behind it leave, in reverse. -/
def foldBreaks (lineBreak : Char) (breaks : List Char) : List Char :=
  if lineBreak != '\n' then breaks ++ [lineBreak] else if breaks.isEmpty then [' '] else breaks

/-- The blanks and line breaks inside a quoted scalar, in reverse. -/
def quotedBlanks (c : Cursor) : Except Fault (List Char × Cursor) :=
  let (blanks, c) := c.takeWhile isGap
  match c.lineBreak? with
  | some (b, c) => do
    let (breaks, c) ← quotedBreaks (c.rest.length + 1) c []
    return (foldBreaks b breaks, c)
  | none => if c.rest.isEmpty then .error .malformed else .ok (blanks.reverse, c)

/-- The characters that an escape stands for, in reverse; its backslash has been read. -/
def escape (c : Cursor) : Except Fault (List Char × Cursor) :=
  match c.peek? with
  | none => .error .malformed
  | some ch =>
    match escapeLetters.lookup ch, escapeWidth? ch with
    | some char, _ => .ok ([char], c.next)
    | none, some width =>
      let digits := c.next.rest.take width
      match hexNumber? digits with
      | some n =>
        if digits.length < width then .error .malformed
        else do
          let char ← codePointChar n
          return ([char], c.next.skip width)
      | none => .error .malformed
    | none, none =>
      match c.lineBreak? with
      | some (_, c) => quotedBreaks (c.rest.length + 1) c []
      | none => .error .malformed

/-- Read up to and with the closing quote. The text read so far is given in reverse. -/
def quotedRest (double : Bool) : Nat → Cursor → List Char → Except Fault (String × Cursor)
  | 0, _, _ => .error .malformed
  | fuel + 1, c, text =>
    match c.peek? with
    | none => .error .malformed
    | some ch =>
      if isGap ch || isBreak ch then do
        let (blanks, c) ← quotedBlanks c
        quotedRest double fuel c (blanks ++ text)
      else if double then
        if ch = '"' then .ok (String.ofList text.reverse, c.next)
        else if ch = '\\' then do
          let (chars, c) ← escape c.next
          quotedRest double fuel c (chars ++ text)
        else quotedRest double fuel c.next (ch :: text)
      else if ch = '\'' then
        if c.second? = some '\'' then quotedRest double fuel (c.skip 2) ('\'' :: text)
        else .ok (String.ofList text.reverse, c.next)
      else quotedRest double fuel c.next (ch :: text)

/-- Read a quoted scalar whose opening quote has been read. -/
def quotedScalar (double : Bool) (c : Cursor) : Except Fault (String × Cursor) :=
  quotedRest double (c.rest.length + 1) c []

end FlatRecord.Yaml
