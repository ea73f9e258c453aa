import FlatRecord.Json.Reader
import FlatRecord.Number.Arithmetic
import FlatRecord.Yaml.Fault
import FlatRecord.Yaml.Tag

/-!
# The values of scalars

The text of a scalar is read as a value of the type that its tag names. Underscores in numbers do not
count. Numbers with colons are in base sixty. Integers may also be in base two, in base sixteen, and,
behind a zero, in base eight.
-/

namespace FlatRecord.Yaml

open FlatRecord.Number FlatRecord.Text

/-- The value of a digit below a base. -/
def baseDigit? (base : Nat) (c : Char) : Option Nat :=
  ((Json.hexValue? c).orElse fun _ => digitValue? c).filter (· < base)

/-- The letters that mark a base. -/
def baseMarks (base : Nat) : List Char :=
  if base = 2 then ['b', 'B'] else if base = 8 then ['o', 'O'] else ['x', 'X']

/-- A text without the mark of a base at its head. -/
def dropBaseMark (base : Nat) : List Char → List Char
  | '0' :: mark :: rest => if (baseMarks base).contains mark then rest else '0' :: mark :: rest
  | cs => cs

/-- Read an integer in a base that is a power of two. -/
def readBase (base : Nat) (cs : List Char) : Except Fault Int :=
  let (negative, rest) := signed (trim cs)
  let digits := dropBaseMark base rest
  match digits.foldlM (fun n c => (baseDigit? base c).map fun d => base * n + d) 0 with
  | none => .error (.integer base (String.ofList cs) .malformed)
  | some n =>
    if digits.isEmpty then .error (.integer base (String.ofList cs) .malformed)
    else .ok (if negative then -(n : Int) else n)

/-- Read an integer in base ten. -/
def readTens (cs : List Char) : Except Fault Int :=
  (readInteger cs).mapError (Fault.integer 10 (String.ofList cs))

/-- Read an integer without a sign of its own. -/
def unsignedInteger (body : List Char) : Except Fault Int :=
  match body with
  | [] => .error .emptyNumber
  | ['0'] => .ok 0
  | '0' :: 'b' :: digits => readBase 2 digits
  | '0' :: 'x' :: digits => readBase 16 digits
  | '0' :: _ => readBase 8 body
  | _ =>
    if body.contains ':' then do
      let parts ← (splitAt ':' body).mapM readTens
      return parts.foldl (fun n d => 60 * n + d) 0
    else readTens body

/-- The sign at the head of a number, true for a minus sign, and the text after it. -/
def signedBody (cs : List Char) : Except Fault (Bool × List Char) :=
  if cs.isEmpty then .error .emptyNumber else .ok (signed cs)

/-- The value of an integer. -/
def integerValue (s : String) : Except Fault Int := do
  let (negative, body) ← signedBody (s.toList.filter (· != '_'))
  let n ← unsignedInteger body
  return if negative then -n else n

/-- Read a number with a point. -/
def readDouble (cs : List Char) : Except Fault Binary64 :=
  match readFloat? cs with
  | some x => .ok x
  | none => .error (.float (String.ofList cs))

/-- The number whose parts in base sixty are given, the last one first, where the first of them counts
as many times as given. -/
def sexagesimalSum (base : Nat) (sum : Binary64) : List Binary64 → Except Fault Binary64
  | [] => .ok sum
  | part :: rest =>
    let factor := Binary64.ofRatio false base 1
    if factor.isFinite then sexagesimalSum (base * 60) (sum.add (part.mul factor)) rest
    else .error .hugeFactor

/-- Read a number without a sign of its own. -/
def unsignedFloat (body : List Char) : Except Fault Binary64 :=
  if body = ".inf".toList then .ok (.infinite false)
  else if body = ".nan".toList then .ok .nan
  else if body.contains ':' then do
    let parts ← (splitAt ':' body).mapM readDouble
    sexagesimalSum 1 (.zero false) parts.reverse
  else readDouble body

/-- The value of a number with a point. -/
def floatValue (s : String) : Except Fault Binary64 := do
  let (negative, body) ← signedBody (lowerAscii (s.toList.filter (· != '_')))
  let x ← unsignedFloat body
  return if negative then x.negate else x

/-- The microseconds of the digits of a fraction; digits behind the sixth do not count. -/
def fractionMicroseconds (digits : List Char) : Nat :=
  let kept := digits.take 6
  digitsNumber (kept.map asciiDigitValue) * Nat.pow 10 (6 - kept.length)

/-- The date or date-time of some parts. -/
def stampValue (p : StampParts) : Except Fault Datum := do
  match p.clock with
  | none =>
    let date ← (Calendar.Date.make p.year p.month p.day).mapError .calendar
    return .date date
  | some (hour, minute, second) =>
    let offset ←
      match p.offset with
      | none => pure none
      | some minutes => ((Calendar.Offset.make (minutes * 60000000)).mapError Fault.calendar).map some
    let date ← (Calendar.Date.make p.year p.month p.day).mapError .calendar
    let clock ← (Calendar.Clock.make hour minute second (fractionMicroseconds p.fraction)).mapError .calendar
    return .dateTime ⟨date, clock, offset⟩

/-- The value of a word for a truth value. -/
def truthValue (s : String) : Except Fault Datum :=
  let word := s.toLower
  match truthWords.lookup word with
  | some b => .ok (.bool b)
  | none => .error (.truth word)

/-- The number that a character stands for in base sixty-four. -/
def sixBits? (c : Char) : Option Nat :=
  if 'A' ≤ c ∧ c ≤ 'Z' then some (c.toNat - 0x41)
  else if 'a' ≤ c ∧ c ≤ 'z' then some (c.toNat - 0x47)
  else if '0' ≤ c ∧ c ≤ '9' then some (c.toNat + 4)
  else if c = '+' then some 62
  else if c = '/' then some 63
  else none

/-- The octets of groups of four characters, after those read so far in reverse. Of the group that has
begun, the number of characters and their bits are given, and the number of padding characters behind
them. Characters of no meaning are left out; a group may end early where padding fills it. -/
def readGroups : Nat → Nat → Nat → List UInt8 → List Char → Option (List UInt8)
  | 0, _, _, read, [] => some read.reverse
  | _, _, _, _, [] => none
  | count, bits, pads, read, c :: rest =>
    if c = '=' then
      if 2 ≤ count then
        if 4 ≤ count + pads + 1 then some read.reverse
        else readGroups count bits (pads + 1) read rest
      else readGroups count bits pads read rest
    else
      match sixBits? c with
      | none => readGroups count bits pads read rest
      | some n =>
        if count = 0 then readGroups 1 n 0 read rest
        else if count = 1 then readGroups 2 (n % 16) 0 ((bits * 4 + n / 16).toUInt8 :: read) rest
        else if count = 2 then readGroups 3 (n % 4) 0 ((bits * 16 + n / 4).toUInt8 :: read) rest
        else readGroups 0 0 0 ((bits * 64 + n).toUInt8 :: read) rest

/-- The octets of a text in base sixty-four. -/
def binaryValue (s : String) : Except Fault Datum :=
  if s.toList.all fun c => c.toNat < 0x80 then
    match readGroups 0 0 0 [] s.toList with
    | some octets => .ok (.bytes octets)
    | none => .error .malformed
  else .error .malformed

/-- The value of a scalar of a type; collections and keys of special meaning are none. -/
def scalarValue (t : Tag) (s : String) : Except Fault Datum :=
  match t with
  | .null => .ok .null
  | .bool => truthValue s
  | .int => (integerValue s).map .int
  | .float => (floatValue s).map .float
  | .timestamp =>
    match stampParts? s.toList with
    | some parts => stampValue parts
    | none => .error .timestamp
  | .binary => binaryValue s
  | .text => .ok (.text s)
  | _ => .error .malformed

end FlatRecord.Yaml
