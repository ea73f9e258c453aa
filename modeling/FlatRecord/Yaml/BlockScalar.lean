import FlatRecord.Yaml.Cursor

/-!
# Block scalars

A block scalar is a text of indented lines. Its header says whether the lines are folded, what becomes
of the line breaks at its end, and how deep the lines are indented; without that, the first line that
is not blank tells. Folding puts a space in place of a line break between two lines that begin with no
blank.
-/

namespace FlatRecord.Yaml

/-- What becomes of the line breaks at the end of a block scalar. -/
inductive Chomping where
  /-- They are dropped. -/
  | strip
  /-- One is kept. -/
  | clip
  /-- All are kept. -/
  | keep
  deriving DecidableEq, Repr

/-- What the header of a block scalar says. -/
structure BlockHeader where
  chomping : Chomping
  /-- How much deeper the lines are indented than the node that holds them. -/
  increment : Option Nat

namespace BlockHeader

/-- The chomping of an indicator. -/
def chomping? (c : Char) : Option Chomping :=
  if c = '+' then some .keep else if c = '-' then some .strip else none

/-- The depth of an indicator. -/
def increment? (c : Char) : Option Nat :=
  if '1' ≤ c ∧ c ≤ '9' then some (c.toNat - 0x30) else none

/-- Read the two indicators, which may come in either order, and the rest of the line. -/
def read? (c : Cursor) : Option (BlockHeader × Cursor) := do
  let (header, c) :=
    match c.peek?.bind chomping?, c.peek?.bind increment? with
    | some chomping, _ =>
      let c := c.next
      match c.peek?.bind increment? with
      | some n => (BlockHeader.mk chomping (some n), c.next)
      | none => (⟨chomping, none⟩, c)
    | none, some n =>
      let c := c.next
      match c.peek?.bind chomping? with
      | some chomping => (⟨chomping, some n⟩, c.next)
      | none => (⟨.clip, some n⟩, c)
    | none, none => (⟨.clip, none⟩, c)
  if !endsWord c.peek? then none
  let c ← c.finishLine?
  return (header, c)

end BlockHeader

/-- Line breaks in reverse, and the place behind them. -/
abbrev Breaks := List Char × Cursor

/-- The blank lines before the first line, and the greatest column that their spaces reach. -/
def firstBreaks : Nat → Cursor → List Char → Nat → Breaks × Nat
  | 0, c, breaks, widest => ((breaks, c), widest)
  | fuel + 1, c, breaks, widest =>
    if c.sees ' ' then firstBreaks fuel c.next breaks (max widest c.next.column)
    else
      match c.lineBreak? with
      | some (b, c) => firstBreaks fuel c (b :: breaks) widest
      | none => ((breaks, c), widest)

/-- The place behind the indentation of a line. -/
def skipIndentation (indent : Nat) (c : Cursor) : Cursor :=
  c.skip (min (indent - c.column) (c.rest.takeWhile (· = ' ')).length)

/-- The blank lines before the next line of an indentation. -/
def nextBreaks (indent : Nat) : Nat → Cursor → List Char → Breaks
  | 0, c, breaks => (breaks, c)
  | fuel + 1, c, breaks =>
    let c := skipIndentation indent c
    match c.lineBreak? with
    | some (b, c) => nextBreaks indent fuel c (b :: breaks)
    | none => (breaks, c)

/-- The text of the lines of a block scalar, without the line breaks at its end. -/
structure BlockLines where
  /-- The text in reverse. -/
  text : List Char
  /-- The break of the last line. -/
  lineBreak : List Char
  /-- The breaks of the blank lines behind it, in reverse. -/
  breaks : List Char
  cursor : Cursor

/-- Whether a line of the scalar comes next. -/
def seesLine (indent : Nat) (c : Cursor) : Bool := c.column = indent && !c.rest.isEmpty

/-- What stands between two lines in place of the break between them, before blank lines. -/
def joint (folded : Bool) (lineBreak : Char) (breaks : List Char) (before after : Option Char) :
    List Char :=
  if folded && lineBreak = '\n' && !before.any isGap && !after.any isGap then
    if breaks.isEmpty then [' '] else []
  else [lineBreak]

/-- Read lines from the beginning of one. -/
def blockLines (folded : Bool) (indent : Nat) : Nat → Cursor → List Char → BlockLines
  | 0, c, text => ⟨text, [], [], c⟩
  | fuel + 1, c, text =>
    let (line, after) := c.takeWhile fun ch => !isBreak ch
    let text := line.reverse ++ text
    match after.lineBreak? with
    | none => ⟨text, [], [], after⟩
    | some (b, after) =>
      let (breaks, after) := nextBreaks indent after.rest.length after []
      if seesLine indent after then
        let text := breaks ++ (joint folded b breaks c.peek? after.peek? ++ text)
        blockLines folded indent fuel after text
      else ⟨text, [b], breaks, after⟩

/-- Read a block scalar whose indicator has been read, inside a node of an indentation. -/
def blockScalar (folded : Bool) (indent : Int) (c : Cursor) : Except Fault (String × Cursor) :=
  match BlockHeader.read? c with
  | none => .error .malformed
  | some (header, c) =>
    let least := max 1 (indent + 1).toNat
    let ((breaks, c), width) :=
      match header.increment with
      | some n => (nextBreaks (least + n - 1) (c.rest.length + 1) c [], least + n - 1)
      | none =>
        let (found, widest) := firstBreaks c.rest.length c [] 0
        (found, max least widest)
    let lines :=
      if seesLine width c then blockLines folded width c.rest.length c breaks
      else ⟨[], [], breaks, c⟩
    let text :=
      match header.chomping with
      | .strip => lines.text
      | .clip => lines.lineBreak ++ lines.text
      | .keep => lines.breaks ++ (lines.lineBreak ++ lines.text)
    .ok (String.ofList text.reverse, lines.cursor)

end FlatRecord.Yaml
