import FlatRecord.Yaml.BlockScalar
import FlatRecord.Yaml.Label
import FlatRecord.Yaml.PlainScalar

/-!
# Cutting a text into tokens

Indentation and keys are found out as the text is cut. A node that begins deeper than the ones around it
opens a collection, and one that begins less deep closes some. Whether a node is a key shows only at the
colon behind it, so every node that may be one is kept as a candidate, and the tokens that make it a key
are put before it when the colon comes. A candidate holds for the rest of its line and for a bounded
number of characters.
-/

namespace FlatRecord.Yaml

/-- A node that may turn out to be a key. -/
structure Candidate where
  /-- The number of tokens before it. -/
  before : Nat
  /-- Whether nothing but a key may stand at its place. -/
  required : Bool
  index : Nat
  line : Nat
  column : Nat

/-- The state of cutting a text. -/
structure Lexer where
  cursor : Cursor
  /-- The tokens so far, the last one first. -/
  tokens : List Token
  /-- The number of tokens so far. -/
  count : Nat
  /-- The column of the innermost block collection, or less than zero outside of any. -/
  indent : Int
  /-- The columns of the block collections around it. -/
  outerIndents : List Int
  /-- Whether a key may begin here. -/
  keyAllowed : Bool
  candidate : Option Candidate
  /-- The candidates outside of the brackets that are open, innermost first. -/
  outerCandidates : List (Option Candidate)

namespace Lexer

/-- The state at the beginning of a text. -/
def start (cs : List Char) : Lexer :=
  { cursor := Cursor.start cs, tokens := [], count := 0, indent := -1, outerIndents := [],
    keyAllowed := true, candidate := none, outerCandidates := [] }

/-- Whether a bracket is open. -/
def inFlow (l : Lexer) : Bool := !l.outerCandidates.isEmpty

/-- Add a token. -/
def emit (t : Token) (l : Lexer) : Lexer := { l with tokens := t :: l.tokens, count := l.count + 1 }

/-- Add a token and go behind some characters. -/
def emitBehind (length : Nat) (t : Token) (l : Lexer) : Lexer :=
  { l with cursor := l.cursor.skip length }.emit t

/-- Put a token before the tokens that have been added since there were some number of them. -/
def insertAt (before : Nat) (t : Token) (l : Lexer) : Lexer :=
  let later := l.count - before
  { l with tokens := l.tokens.take later ++ t :: l.tokens.drop later, count := l.count + 1 }

/-- Close block collections that are indented deeper than a column. -/
def closeDeeper (column : Int) (indent : Int) : List Int → Lexer → Lexer
  | [], l => { l with indent, outerIndents := [] }
  | outer :: rest, l =>
    if column < indent then closeDeeper column outer rest (l.emit .blockEnd)
    else { l with indent, outerIndents := outer :: rest }

/-- Close block collections that are indented deeper than a column, unless a bracket is open. -/
def unwind (column : Int) (l : Lexer) : Lexer :=
  if l.inFlow then l else closeDeeper column l.indent l.outerIndents l

/-- Open a block collection at a column, unless one is open there. The answer tells whether. -/
def indentTo (column : Nat) (l : Lexer) : Bool × Lexer :=
  if l.indent < column then
    (true, { l with indent := column, outerIndents := l.indent :: l.outerIndents })
  else (false, l)

/-- Open a block collection at the present column, with its token. -/
def openBlock (t : Token) (l : Lexer) : Lexer :=
  match l.indentTo l.cursor.column with
  | (true, l) => l.emit t
  | (false, l) => l

/-- Give up a candidate, which must not be required. -/
def giveUp : Option Candidate → Except Fault (Option Candidate)
  | some k => if k.required then .error .malformed else .ok none
  | none => .ok none

/-- Give up the candidate inside the innermost bracket. -/
def dropCandidate (l : Lexer) : Except Fault Lexer := do
  let candidate ← giveUp l.candidate
  return { l with candidate }

/-- The number of characters that a key may have. -/
def maxKeyLength : Nat := 1024

/-- Give up a candidate that is on an earlier line or too far back. -/
def expireOne (c : Cursor) (k : Option Candidate) : Except Fault (Option Candidate) :=
  match k with
  | some k =>
    if k.line != c.line || maxKeyLength < c.index - k.index then giveUp (some k) else .ok (some k)
  | none => .ok none

/-- Give up all candidates that are on an earlier line or too far back. -/
def expire (l : Lexer) : Except Fault Lexer := do
  let candidate ← expireOne l.cursor l.candidate
  let outerCandidates ← l.outerCandidates.mapM (expireOne l.cursor)
  return { l with candidate, outerCandidates }

/-- Keep the node that begins here as a candidate, if a key may begin here. -/
def keepCandidate (l : Lexer) : Except Fault Lexer :=
  if l.keyAllowed then do
    let l ← l.dropCandidate
    let c := l.cursor
    let required := !l.inFlow && l.indent = c.column
    return { l with candidate := some ⟨l.count, required, c.index, c.line, c.column⟩ }
  else .ok l

/-- Go to the next token, over blanks, comments and line breaks. -/
def skipGaps : Nat → Lexer → Lexer
  | 0, l => l
  | fuel + 1, l =>
    let c := l.cursor.skipSpaces.skipComment
    match c.lineBreak? with
    | some (_, c) => skipGaps fuel { l with cursor := c, keyAllowed := l.keyAllowed || !l.inFlow }
    | none => { l with cursor := c }

/-- A mark between documents or a directive: it closes everything. -/
def breakOff (l : Lexer) : Except Fault Lexer := do
  let l ← (l.unwind (-1)).dropCandidate
  return { l with keyAllowed := false }

/-- The end of the text. -/
def finish (l : Lexer) : Except Fault (List Token) := do
  let l ← l.breakOff
  return l.tokens.reverse

/-- An opening bracket. -/
def openFlow (t : Token) (l : Lexer) : Except Fault Lexer := do
  let l ← l.keepCandidate
  let l := { l with
    candidate := none, outerCandidates := l.candidate :: l.outerCandidates, keyAllowed := true }
  return l.emitBehind 1 t

/-- A closing bracket. -/
def closeFlow (t : Token) (l : Lexer) : Except Fault Lexer :=
  match l.outerCandidates with
  | [] => .error .malformed
  | candidate :: outerCandidates =>
    .ok ({ l with candidate, outerCandidates, keyAllowed := false }.emitBehind 1 t)

/-- A comma between brackets. -/
def flowEntry (l : Lexer) : Except Fault Lexer := do
  let l ← { l with keyAllowed := true }.dropCandidate
  return l.emitBehind 1 .flowEntry

/-- The mark of an item of a block sequence. -/
def blockEntry (l : Lexer) : Except Fault Lexer := do
  if !l.inFlow && !l.keyAllowed then .error .malformed
  let l := if l.inFlow then l else l.openBlock .blockSequenceStart
  let l ← { l with keyAllowed := true }.dropCandidate
  return l.emitBehind 1 .blockEntry

/-- The mark of a key. -/
def keyMark (l : Lexer) : Except Fault Lexer := do
  if !l.inFlow && !l.keyAllowed then .error .malformed
  let l := if l.inFlow then l else l.openBlock .blockMappingStart
  let l ← { l with keyAllowed := !l.inFlow }.dropCandidate
  return l.emitBehind 1 .key

/-- Make a candidate a key. -/
def promote (k : Candidate) (l : Lexer) : Lexer :=
  let l := { l with candidate := none, keyAllowed := false }.insertAt k.before .key
  if l.inFlow then l
  else
    match l.indentTo k.column with
    | (true, l) => l.insertAt k.before .blockMappingStart
    | (false, l) => l

/-- The mark of a value: the candidate before it is its key. -/
def valueMark (l : Lexer) : Except Fault Lexer :=
  match l.candidate with
  | some k => .ok ((l.promote k).emitBehind 1 .value)
  | none =>
    if l.inFlow then .ok ({ l with keyAllowed := false }.emitBehind 1 .value)
    else if l.keyAllowed then .ok ((l.openBlock .blockMappingStart).emitBehind 1 .value)
    else .error .malformed

/-- A token that begins a node, with the place behind it. -/
def nodeToken (read : Lexer → Except Fault (Token × Cursor)) (l : Lexer) : Except Fault Lexer := do
  let l ← l.keepCandidate
  let (t, c) ← read l
  return { l with keyAllowed := false, cursor := c }.emit t

/-- A directive. -/
def directive (l : Lexer) : Except Fault Lexer := do
  let l ← l.breakOff
  let (d, c) ← readDirective l.cursor.next
  return { l with cursor := c }.emit (.directive d)

/-- A block scalar. -/
def block (folded : Bool) (l : Lexer) : Except Fault Lexer := do
  let l ← { l with keyAllowed := true }.dropCandidate
  let (text, c) ← blockScalar folded l.indent l.cursor.next
  return { l with cursor := c }.emit (.scalar text false)

/-- A plain scalar. -/
def plain (l : Lexer) : Except Fault Lexer := do
  let l ← l.keepCandidate
  let s := plainScalar l.inFlow l.indent l.cursor
  return { l with keyAllowed := s.endsLine, cursor := s.cursor }.emit (.scalar s.text true)

/-- Characters that begin no plain scalar, or only before some others. -/
def indicators : List Char := "-?:,[]\x7b\x7d#&*!|>'\"%@\x60".toList

/-- Whether a plain scalar begins with a character, given the one behind it. -/
def beginsPlain (inFlow : Bool) (c : Char) (after : Option Char) : Bool :=
  (!isGap c && !isBreak c && !indicators.contains c) ||
    (!endsToken after && (c = '-' || (!inFlow && (c = '?' || c = ':'))))

/-- The token that begins with a character. -/
def step (ch : Char) (l : Lexer) : Except Fault Lexer :=
  let c := l.cursor
  let marks := l.inFlow || endsToken c.second?
  if ch = '%' && c.column = 0 then l.directive
  else if c.column = 0 && c.seesMark ['-', '-', '-'] then do
    let l ← l.breakOff
    return l.emitBehind 3 .documentStart
  else if c.column = 0 && c.seesMark ['.', '.', '.'] then do
    let l ← l.breakOff
    return l.emitBehind 3 .documentEnd
  else if ch = '[' then l.openFlow .flowSequenceStart
  else if ch = '\x7b' then l.openFlow .flowMappingStart
  else if ch = ']' then l.closeFlow .flowSequenceEnd
  else if ch = '\x7d' then l.closeFlow .flowMappingEnd
  else if ch = ',' then l.flowEntry
  else if ch = '-' && endsToken c.second? then l.blockEntry
  else if ch = '?' && marks then l.keyMark
  else if ch = ':' && marks then l.valueMark
  else if ch = '*' then
    l.nodeToken fun l => demand ((anchorName? l.cursor.next).map fun r => (.alias r.1, r.2))
  else if ch = '&' then
    l.nodeToken fun l => demand ((anchorName? l.cursor.next).map fun r => (.anchor r.1, r.2))
  else if ch = '!' then l.nodeToken fun l => demand (tag? l.cursor)
  else if ch = '|' && !l.inFlow then l.block false
  else if ch = '>' && !l.inFlow then l.block true
  else if ch = '\'' || ch = '"' then
    l.nodeToken fun l => (quotedScalar (ch = '"') l.cursor.next).map fun r => (.scalar r.1 false, r.2)
  else if beginsPlain l.inFlow ch c.second? then l.plain
  else .error .malformed

/-- Cut the rest of a text into tokens. -/
def run : Nat → Lexer → Except Fault (List Token)
  | 0, _ => .error .malformed
  | fuel + 1, l => do
    let l ← (l.skipGaps (fuel + 1)).expire
    let l := l.unwind l.cursor.column
    match l.cursor.peek? with
    | none => l.finish
    | some ch =>
      let l ← l.step ch
      run fuel l

end Lexer

/-- Whether a text may have the character. -/
def isAllowed (c : Char) : Bool :=
  let n := c.toNat
  n = 0x9 || n = 0xa || n = 0xd || (0x20 ≤ n && n ≤ 0x7e) || n = 0x85 ||
    (0xa0 ≤ n && n ≤ 0xd7ff) || (0xe000 ≤ n && n ≤ 0xfffd) || 0x10000 ≤ n

/-- Cut a text into tokens. A mark of the byte order at its beginning is left out. -/
def tokens (cs : List Char) : Except Fault (List Token) :=
  if cs.all isAllowed then
    let l := Lexer.start cs
    let l := if l.cursor.sees '\ufeff' then { l with cursor := l.cursor.next } else l
    l.run (cs.length + 2)
  else .error .malformed

end FlatRecord.Yaml
