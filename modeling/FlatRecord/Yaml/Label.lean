import FlatRecord.Text.Digit
import FlatRecord.Text.Utf8
import FlatRecord.Yaml.QuotedScalar
import FlatRecord.Yaml.Token

/-!
# Anchors, tags and directives

Anchors and aliases are names behind an indicator. A tag is given in full, by a handle and the rest of
it, or by the rest alone; in it, characters may be escaped by the octets of their UTF-8 form.
-/

namespace FlatRecord.Yaml

open FlatRecord.Text

/-- Whether names of anchors, handles and directives may have the character. -/
def isNameChar (c : Char) : Bool := c.isAlphanum || c = '-' || c = '_'

/-- Whether a tag may have the character as it is. -/
def isTagChar (c : Char) : Bool :=
  c.isAlphanum || "-;/?:@&=+$,_.!~*'()[]".toList.contains c

/-- Whether an anchor or alias ends before a character. -/
def endsAnchor (next : Option Char) : Bool :=
  endsToken next || next.any fun c => ['?', ':', ',', ']', '\x7d', '%', '@', '\x60'].contains c

/-- Read the name of an anchor or alias whose indicator has been read. -/
def anchorName? (c : Cursor) : Option (String × Cursor) :=
  let (name, c) := c.takeWhile isNameChar
  if name.isEmpty || !endsAnchor c.peek? then none else some (String.ofList name, c)

/-- The octets of the escapes at the head of a text, and what is left of it. -/
def escapedOctets? : Nat → List Char → Option (List UInt8 × List Char)
  | 0, _ => none
  | fuel + 1, '%' :: rest =>
    match rest with
    | a :: b :: rest => do
      let n ← hexNumber? [a, b]
      let (octets, rest) ← escapedOctets? fuel rest
      return (n.toUInt8 :: octets, rest)
    | _ => none
  | _ + 1, rest => some ([], rest)

/-- The text of a part of a tag, and the number of characters that it takes. -/
def tagChars? : Nat → List Char → Option (List Char × Nat)
  | 0, _ => none
  | fuel + 1, cs =>
    match cs with
    | '%' :: _ => do
      let (octets, rest) ← escapedOctets? (cs.length + 1) cs
      let decoded ← (decodeUtf8 octets).toOption
      let (more, length) ← tagChars? fuel rest
      return (decoded ++ more, cs.length - rest.length + length)
    | c :: rest =>
      if isTagChar c then do
        let (more, length) ← tagChars? fuel rest
        return (c :: more, length + 1)
      else some ([], 0)
    | [] => some ([], 0)

/-- Read a part of a tag, which may not be empty. -/
def tagText? (c : Cursor) : Option (String × Cursor) := do
  let (text, length) ← tagChars? (c.rest.length + 1) c.rest
  if length = 0 then none else return (String.ofList text, c.skip length)

/-- Read a handle: an exclamation mark, or a name between two of them. -/
def handle? (c : Cursor) : Option (String × Cursor) :=
  if !c.sees '!' then none
  else if c.second? = some ' ' then some ("!", c.next)
  else
    let (name, after) := c.next.takeWhile isNameChar
    if after.sees '!' then some (String.ofList ('!' :: (name ++ ['!'])), after.next) else none

/-- Whether a tag is given by a handle other than a single exclamation mark. -/
def hasHandle (c : Cursor) : Bool :=
  (c.next.rest.takeWhile fun ch => !endsWord (some ch)).contains '!'

/-- Read a tag. -/
def tag? (c : Cursor) : Option (Token × Cursor) := do
  let (token, c) ←
    if c.second? = some '<' then do
      let (suffix, c) ← tagText? (c.skip 2)
      if c.sees '>' then some (Token.tag none suffix, c.next) else none
    else if endsToken c.second? then some (Token.tag none "!", c.next)
    else do
      let (handle, c) ← if hasHandle c then handle? c else some ("!", c.next)
      let (suffix, c) ← tagText? c
      return (Token.tag (some handle) suffix, c)
  if endsWord c.peek? then some (token, c) else none

/-- Read a number of a version. -/
def readVersionNumber (c : Cursor) : Except Fault (Nat × Cursor) :=
  let (digits, c) := c.takeWhile isAsciiDigit
  if digits.isEmpty then .error .malformed
  else if Number.maxIntegerDigits < digits.length then
    .error (.integer 10 (String.ofList digits) (.tooLong digits.length))
  else .ok (Number.digitsNumber (digits.map asciiDigitValue), c)

/-- Read the version of the format. -/
def readVersion (c : Cursor) : Except Fault (Directive × Cursor) := do
  let (major, c) ← readVersionNumber c.skipSpaces
  if !c.sees '.' then .error .malformed
  let (_, c) ← readVersionNumber c.next
  if endsWord c.peek? then return (.version major, c) else .error .malformed

/-- Read a handle and what it stands for. -/
def handleDirective? (c : Cursor) : Option (Directive × Cursor) := do
  let (name, c) ← handle? c.skipSpaces
  if !c.sees ' ' then none
  let (expansion, c) ← tagText? c.skipSpaces
  if endsWord c.peek? then some (.handle name expansion, c) else none

/-- An optional result as one that must be there. -/
def demand {α : Type} : Option α → Except Fault α
  | some a => .ok a
  | none => .error .malformed

/-- Read a directive whose indicator has been read, up to the end of its line. -/
def readDirective (c : Cursor) : Except Fault (Directive × Cursor) := do
  let (name, c) := c.takeWhile isNameChar
  if name.isEmpty || !endsWord c.peek? then .error .malformed
  let (directive, c) ←
    if name = "YAML".toList then readVersion c
    else if name = "TAG".toList then demand (handleDirective? c)
    else .ok (.other, c.skipWhile fun ch => !isBreak ch)
  let c ← demand c.finishLine?
  return (directive, c)

end FlatRecord.Yaml
