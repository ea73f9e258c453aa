import FlatRecord.Yaml.QuotedScalar

/-!
# Plain scalars

A plain scalar is a text without quotes. A colon before a blank and a blank before a hash end it, and
between brackets so do commas and brackets. It goes on over lines that are indented deeper than the node
that holds it; between brackets all lines are.
-/

namespace FlatRecord.Yaml

/-- Whether a plain scalar ends before a character, given the one behind it. -/
def endsPlain (inFlow : Bool) (c : Char) (after : Option Char) : Bool :=
  isGap c || isBreak c ||
    (c = ':' && (endsToken after || (inFlow && after.any fun a => [',', '[', ']', '\x7b', '\x7d'].contains a))) ||
    (inFlow && [',', '?', '[', ']', '\x7b', '\x7d'].contains c)

/-- The characters of a plain scalar up to the next blank, after those read so far in reverse. -/
def plainRun (inFlow : Bool) : List Char → List Char → List Char
  | read, [] => read
  | read, c :: rest =>
    if endsPlain inFlow c rest.head? then read else plainRun inFlow (c :: read) rest

/-- The blanks behind a part of a plain scalar: what they leave in reverse, nothing if the scalar ends
there, and whether a line ends there. -/
structure PlainBlanks where
  text : List Char
  cursor : Cursor
  endsLine : Bool

/-- The breaks of the blank lines behind a line break, in reverse, unless a mark between documents
follows. -/
def plainBreaks : Nat → Cursor → List Char → Option (List Char) × Cursor
  | 0, c, breaks => (some breaks, c)
  | fuel + 1, c, breaks =>
    if c.column = 0 && c.seesSeparator then (none, c)
    else
      let c := c.skipSpaces
      match c.lineBreak? with
      | some (b, c) => plainBreaks fuel c (b :: breaks)
      | none => (some breaks, c)

/-- Read the blanks behind a part of a plain scalar. -/
def plainBlanks (c : Cursor) : PlainBlanks :=
  let (blanks, c) := c.takeWhile (· = ' ')
  match c.lineBreak? with
  | some (b, c) =>
    match plainBreaks (c.rest.length + 1) c [] with
    | (some breaks, c) => ⟨foldBreaks b breaks, c, true⟩
    | (none, c) => ⟨[], c, true⟩
  | none => ⟨blanks, c, false⟩

/-- A plain scalar, the place behind it and the blanks that follow, and whether a line ends in them. -/
structure PlainScalar where
  text : String
  cursor : Cursor
  endsLine : Bool

/-- Read the parts of a plain scalar inside a node of an indentation, after the text read so far in
reverse. -/
def plainParts (inFlow : Bool) (indent : Int) : Nat → Cursor → List Char → PlainScalar
  | 0, c, text => ⟨String.ofList text.reverse, c, false⟩
  | fuel + 1, c, text =>
    let run := plainRun inFlow [] c.rest
    let blanks := plainBlanks (c.skip run.length)
    let after := blanks.cursor
    let text := run ++ text
    if blanks.text.isEmpty || after.sees '#' || (!inFlow && (after.column : Int) < indent + 1) ||
        (plainRun inFlow [] after.rest).isEmpty then
      ⟨String.ofList text.reverse, after, blanks.endsLine⟩
    else plainParts inFlow indent fuel after (blanks.text ++ text)

/-- Read a plain scalar. -/
def plainScalar (inFlow : Bool) (indent : Int) (c : Cursor) : PlainScalar :=
  plainParts inFlow indent (c.rest.length + 1) c []

end FlatRecord.Yaml
