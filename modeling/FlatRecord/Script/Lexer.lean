import FlatRecord.Script.TextLiteral
import FlatRecord.Text.Printable

/-!
# Cutting a source text into tokens

`lexemes?` gives the tokens of a source text with their lines, or nothing if the text cannot be cut
into tokens: an unfinished literal, a bracket without its partner, a margin that fits no earlier one,
a character that belongs to no token.

Blanks and comments separate tokens. The end of a line is a token only where a statement may end: not
between brackets, not behind a backslash, and not on a line without tokens. A margin is measured
twice, with tabs that reach to the next multiple of eight columns and with tabs as wide as a blank;
both measures have to agree on which of two lines is indented further.
-/

namespace FlatRecord.Script

open FlatRecord.Text

/-- The width of a margin, with wide and with narrow tabs. -/
structure Margin where
  wide : Nat
  narrow : Nat
  deriving DecidableEq, Repr

/-- What is known at some place of a source text: its line, the brackets that will close those
still open, and the margins of the blocks around it, innermost first. -/
structure Place where
  line : Nat
  pending : List Char
  margins : List Margin

/-- The place at the beginning of a text. -/
def Place.start : Place := ⟨1, [], [⟨0, 0⟩]⟩

/-- The same place some lines further down. -/
def Place.down (p : Place) (lines : Nat) : Place := { p with line := p.line + lines }

/-- The most blocks that may stand inside each other. -/
def maxMargins : Nat := 100

/-- The most brackets that may stand inside each other. -/
def maxBrackets : Nat := 200

/-- Whether a character is a blank between tokens. -/
def isGap (c : Char) : Bool := c = ' ' || c = '\t' || c = '\x0c'

/-- A text in which every line ends with a line feed, the last one included. -/
def normalizeLines (cs : List Char) : List Char :=
  let step (state : List Char × Bool) (c : Char) : List Char × Bool :=
    if c = '\r' then ('\n' :: state.1, true)
    else if c = '\n' ∧ state.2 then (state.1, false)
    else (c :: state.1, false)
  let (reversed, _) := cs.foldl step ([], false)
  (if reversed.head? = some '\n' then reversed else '\n' :: reversed).reverse

/-- A measured margin: its width, the lines that it reaches over, and the text behind it. -/
structure Measured where
  margin : Margin
  lines : Nat
  rest : List Char

/-- Measure the blanks at the head of a line. A backslash joins the next line to them; the width
counts as it was before the first backslash behind a blank. -/
def measure (margin held : Margin) (lines : Nat) : List Char → Option Measured
  | ' ' :: rest => measure ⟨margin.wide + 1, margin.narrow + 1⟩ held lines rest
  | '\t' :: rest => measure ⟨(margin.wide / 8 + 1) * 8, margin.narrow + 1⟩ held lines rest
  | '\x0c' :: rest => measure ⟨0, 0⟩ held lines rest
  | '\\' :: '\n' :: c :: rest =>
    measure margin (if held.wide = 0 then ⟨margin.wide, margin.wide⟩ else held) (lines + 1) (c :: rest)
  | '\\' :: _ => none
  | rest => some ⟨if held.wide = 0 then margin else held, lines, rest⟩

/-- The margins that remain when those wider than some width are left, and how many are left. -/
def leaveMargins (width : Nat) : List Margin → Nat × List Margin
  | m :: rest =>
    if width < m.wide then
      let (left, remaining) := leaveMargins width rest
      (left + 1, remaining)
    else (0, m :: rest)
  | [] => (0, [])

/-- Begin a line with tokens at some margin: the tokens that announce the change, last first, and
the place on the line. -/
def Place.indentTo (p : Place) (margin : Margin) : Option (List Lexeme × Place) :=
  match leaveMargins margin.wide p.margins with
  | (_, []) => none
  | (left, current :: outer) =>
    if current.wide = margin.wide then
      if current.narrow = margin.narrow then
        some (List.replicate left ⟨.dedent, p.line⟩, { p with margins := current :: outer })
      else none
    else if left = 0 ∧ current.narrow < margin.narrow ∧ p.margins.length < maxMargins then
      some ([⟨.indent, p.line⟩], { p with margins := margin :: p.margins })
    else none

/-- The body of a literal up to its closing quote, in reverse, and the text behind the quote. -/
def literalBody (quote : Char) (triple : Bool) (done : List Char) :
    List Char → Option (List Char × List Char)
  | [] => none
  | '\\' :: c :: rest => literalBody quote triple (c :: '\\' :: done) rest
  | ['\\'] => none
  | c :: rest =>
    if c = quote then
      if triple then
        match rest with
        | a :: b :: after =>
          if a = quote ∧ b = quote then some (done, after)
          else literalBody quote triple (c :: done) rest
        | _ => none
      else some (done, rest)
    else if c = '\n' ∧ !triple then none
    else literalBody quote triple (c :: done) rest

/-- A literal from its first quote on: what it stands for, the lines that it goes down, and the text
behind it. -/
def quotedLiteral (flavour : Flavour) (quote : Char) (rest : List Char) :
    Option (Literal × Nat × List Char) := do
  let (triple, inner) :=
    match rest with
    | a :: b :: after => if a = quote ∧ b = quote then (true, after) else (false, rest)
    | _ => (false, rest)
  let (done, after) ← literalBody quote triple [] inner
  let value ← literal? flavour done.reverse
  return (value, done.count '\n', after)

/-- A word, or a literal that begins with one. -/
def wordOrLiteral (p : Place) (cs : List Char) : Option (Lexeme × Place × List Char) :=
  let (word, rest) := cs.span isWordLike
  let plain : Option (Lexeme × Place × List Char) :=
    if word.head?.any isWordStart && word.all isWordContinue then
      some (⟨.word (String.ofList word), p.line⟩, p, rest)
    else none
  match rest with
  | quote :: after =>
    if quote = '\'' ∨ quote = '"' then
      match Flavour.ofWord? word with
      | some flavour =>
        (quotedLiteral flavour quote after).map fun (value, lines, behind) =>
          (⟨.literal value, p.line⟩, p.down lines, behind)
      | none => plain
    else plain
  | [] => plain

/-- An operator, a delimiter or a bracket. -/
def markOrBracket (p : Place) (c : Char) (rest : List Char) : Option (Lexeme × Place × List Char) :=
  let found (width : Nat) : Option (Lexeme × Place × List Char) :=
    some (⟨.mark (String.ofList ((c :: rest).take width)), p.line⟩, p, (c :: rest).drop width)
  if longMarks.contains ((c :: rest).take 3) then found 3
  else if doubleMarks.contains ((c :: rest).take 2) then
    found 2
  else if (c :: rest).take 2 = ['<', '>'] then none
  else
    match brackets.lookup c with
    | some close =>
      if p.pending.length < maxBrackets then
        some (⟨.mark (String.singleton c), p.line⟩, { p with pending := close :: p.pending }, rest)
      else none
    | none =>
      match p.pending with
      | close :: others =>
        if c = close then
          some (⟨.mark (String.singleton c), p.line⟩, { p with pending := others }, rest)
        else if singleMarks.contains c then found 1
        else none
      | [] => if singleMarks.contains c then found 1 else none

/-- The token that begins with a character that is no blank. -/
def token (p : Place) (c : Char) (rest : List Char) : Option (Lexeme × Place × List Char) :=
  if isWordLike c && !isAsciiDigit c || c = '\'' || c = '"' then wordOrLiteral p (c :: rest)
  else if isAsciiDigit c || (c = '.' && rest.head?.any isAsciiDigit) then
    (numeral (c :: rest)).map fun (value, after) => (⟨.number value, p.line⟩, p, after)
  else markOrBracket p c rest

/-- The tokens of a text from some place on, joined to those before it, all in reverse. Each round
takes at least one character, or turns from the beginning of a line to its tokens. -/
def scan : Nat → (fresh : Bool) → Place → List Lexeme → List Char → Option (List Lexeme)
  | 0, _, _, _, _ => none
  | rounds + 1, true, p, done, cs =>
    match measure ⟨0, 0⟩ ⟨0, 0⟩ 0 cs with
    | none => none
    | some measured =>
      let p := p.down measured.lines
      match measured.rest with
      | '\n' :: rest => scan rounds true (p.down 1) done rest
      | '#' :: rest => scan rounds true p done (rest.dropWhile (· ≠ '\n'))
      | rest =>
        match p.indentTo measured.margin with
        | none => none
        | some (moves, p) =>
          if rest.isEmpty then some (moves ++ done) else scan rounds false p (moves ++ done) rest
  | _ + 1, false, _, _, [] => none
  | rounds + 1, false, p, done, c :: rest =>
    if isGap c then scan rounds false p done rest
    else if c = '#' then scan rounds false p done (rest.dropWhile (· ≠ '\n'))
    else if c = '\n' then
      if p.pending.isEmpty then scan rounds true (p.down 1) (⟨.newline, p.line⟩ :: done) rest
      else scan rounds false (p.down 1) done rest
    else if c = '\\' then
      match rest with
      | '\n' :: after => if after.isEmpty then none else scan rounds false (p.down 1) done after
      | _ => none
    else
      match token p c rest with
      | none => none
      | some (lexeme, p, after) => scan rounds false p (lexeme :: done) after

/-- The tokens of a source text. -/
def lexemes? (source : List Char) : Option (List Lexeme) :=
  let text := normalizeLines source
  (scan (2 * text.length + 2) true .start [] text).map List.reverse

end FlatRecord.Script
