import FlatRecord.Calendar.Basic
import FlatRecord.Number.IntegerText

/-!
# ISO 8601 text

Dates are written `2024-02-29` and date-times `2024-02-29T08:15:30.5+05:30`, with six fraction
digits where the microseconds are not zero, and offsets with seconds only where they have some.

Reading is wider: the separators may be left out, a date may be given by week and day of the week,
any character may stand between date and time, minutes and seconds may be missing, a fraction may
have any number of digits and may follow a comma, and `Z` stands for universal time. Text is read
as its UTF-8 bytes, since the length in bytes decides which date form is meant.
-/

namespace FlatRecord.Calendar

open FlatRecord.Number

/-- A number in decimal digits, with zeros before it up to the width. -/
def paddedNumber (width n : Nat) : List Char :=
  let digits := naturalText n
  List.replicate (width - digits.length) '0' ++ digits

/-- A date as text. -/
def Date.isoText (d : Date) : List Char :=
  paddedNumber 4 d.year ++ '-' :: (paddedNumber 2 d.month ++ '-' :: paddedNumber 2 d.day)

/-- A fraction of a second as text; nothing if it is zero. -/
def fractionText (microsecond : Nat) : List Char :=
  if microsecond = 0 then [] else '.' :: paddedNumber 6 microsecond

/-- A time of day as text. -/
def Clock.isoText (c : Clock) : List Char :=
  paddedNumber 2 c.hour ++ ':' :: (paddedNumber 2 c.minute ++ ':' :: (paddedNumber 2 c.second ++
    fractionText c.microsecond))

/-- An offset as text. -/
def Offset.isoText (o : Offset) : List Char :=
  let total := o.microseconds.natAbs
  let seconds := total / 1000000
  let fraction := total % 1000000
  let tail :=
    if seconds % 60 = 0 ∧ fraction = 0 then []
    else ':' :: (paddedNumber 2 (seconds % 60) ++ fractionText fraction)
  (if o.microseconds < 0 then '-' else '+') ::
    (paddedNumber 2 (seconds / 3600) ++ ':' :: (paddedNumber 2 (seconds / 60 % 60) ++ tail))

/-- A date-time as text, with the given character between date and time. -/
def DateTime.textWith (separator : Char) (t : DateTime) : List Char :=
  t.date.isoText ++ separator :: (t.clock.isoText ++
    match t.offset with
    | some o => o.isoText
    | none => [])

/-- A date-time as text. -/
def DateTime.isoText (t : DateTime) : List Char := t.textWith 'T'

/-- Why a text is not read as a date or a date-time. -/
inductive IsoFault where
  /-- The text does not have the form of a date or date-time. -/
  | malformed
  /-- A part of it is out of range. -/
  | outOfRange (part : Part)
  deriving DecidableEq, Repr

/-- The bytes of a text, as numbers. -/
def textBytes (s : String) : List Nat := s.toUTF8.toList.map UInt8.toNat

/-- Whether a byte is an ASCII digit. -/
def isDigitByte (b : Nat) : Bool := 0x30 ≤ b && b ≤ 0x39

/-- A fixed count of digits at the head of the bytes: their number and the rest. -/
def takeNumber : Nat → Nat → List Nat → Option (Nat × List Nat)
  | 0, n, bytes => some (n, bytes)
  | count + 1, n, b :: bytes =>
    if isDigitByte b then takeNumber count (10 * n + (b - 0x30)) bytes else none
  | _ + 1, _, [] => none

/-- The Monday of the first week of a year: the week that holds the first Thursday. -/
def firstMonday (year : Nat) : Nat :=
  let first := dayNumber year 1 1
  let day := weekday first
  if day ≤ 3 then first - day else first + 7 - day

/-- Whether a year has 53 weeks. -/
def hasLongYear (year : Nat) : Bool :=
  let day := weekday (dayNumber year 1 1)
  day = 3 || (day = 2 && isLeapYear year)

/-- The date of a day of a week of a year. -/
def dateOfWeek? (year week day : Nat) : Option (Nat × Nat × Nat) :=
  if week = 0 ∨ 53 < week ∨ (week = 53 ∧ !hasLongYear year) then none
  else if day = 0 ∨ 7 < day then none
  else some (civilOfDayNumber (firstMonday year + (week - 1) * 7 + (day - 1)))

/-- Drop the separator that the text uses, if it uses one. -/
def dropSeparator? (uses : Bool) (bytes : List Nat) : Option (List Nat) :=
  if uses then
    match bytes with
    | 0x2d :: rest => some rest
    | _ => none
  else some bytes

/-- The year, month and day at the head of the bytes. The length decides whether a week date
names a day of the week. -/
def readCivil? (bytes : List Nat) (length : Nat) : Option (Nat × Nat × Nat) := do
  let (year, rest) ← takeNumber 4 0 bytes
  let uses := rest.head? = some 0x2d
  let rest := if uses then rest.drop 1 else rest
  if rest.head? = some 0x57 then
    let (week, rest) ← takeNumber 2 0 (rest.drop 1)
    if bytes.length - rest.length < length then
      let rest ← dropSeparator? uses rest
      let (day, _) ← takeNumber 1 0 rest
      dateOfWeek? year week day
    else dateOfWeek? year week 1
  else
    let (month, rest) ← takeNumber 2 0 rest
    let rest ← dropSeparator? uses rest
    let (day, _) ← takeNumber 2 0 rest
    return (year, month, day)

/-- The date with the given parts. -/
def makeDate (parts : Nat × Nat × Nat) : Except IsoFault Date :=
  (Date.make parts.1 parts.2.1 parts.2.2).mapError .outOfRange

/-- Read a date. -/
def readDate (s : String) : Except IsoFault Date :=
  let bytes := textBytes s
  if bytes.length = 7 ∨ bytes.length = 8 ∨ bytes.length = 10 then
    match readCivil? bytes bytes.length with
    | some parts => makeDate parts
    | none => .error .malformed
  else .error .malformed

/-- The number of bytes of the date at the head of a date-time. -/
def dateLength? (bytes : List Nat) : Option Nat :=
  let length := bytes.length
  let at? (i : Nat) : Nat := bytes.getD i 0
  if length = 7 then some 7
  else if at? 4 = 0x2d then
    if at? 5 = 0x57 then
      if length < 8 then none
      else if 8 < length ∧ at? 8 = 0x2d then
        if length = 9 then none
        else if 10 < length ∧ isDigitByte (at? 10) then some 8
        else some 10
      else some 8
    else some 10
  else if at? 4 = 0x57 then
    let digits := ((bytes.drop 7).takeWhile isDigitByte).length
    let stop := 7 + digits
    if stop < 9 then some stop
    else if stop % 2 = 0 then some 7
    else some 8
  else some 8

/-- The parts of a time of day, and whether text is left after them. -/
structure ClockParts where
  hour : Nat := 0
  minute : Nat := 0
  second : Nat := 0
  microsecond : Nat := 0
  /-- Text is left that is no part of the time. -/
  trailing : Bool := false

/-- A fraction of at most six digits, in microseconds, and whether text is left after its digits.
The bytes up to the end of the time are followed by `after`. -/
def readFraction? (bytes after : List Nat) : Option (Nat × Bool) := do
  let count := min bytes.length 6
  let (n, rest) ← takeNumber count 0 bytes
  let left := (rest ++ after).dropWhile isDigitByte
  return (n * Nat.pow 10 (6 - count), !left.isEmpty)

/-- The hour, minute and second that follow, from the `index`-th of them on. -/
def readClockFrom? (after : List Nat) :
    Nat → Bool → Nat → List Nat → ClockParts → Option ClockParts
  | 0, _, _, bytes, parts => do
    let (microsecond, trailing) ← readFraction? bytes after
    return { parts with microsecond, trailing }
  | fuel + 1, separated, index, bytes, parts => do
    let (n, rest) ← takeNumber 2 0 bytes
    let parts :=
      if index = 0 then { parts with hour := n }
      else if index = 1 then { parts with minute := n }
      else { parts with second := n }
    let next := (rest ++ after).headD 0
    let separated := if index = 0 then next = 0x3a else separated
    if rest.length ≤ 1 then return { parts with trailing := next != 0 }
    else if separated ∧ next = 0x3a then
      readClockFrom? after fuel separated (index + 1) (rest.drop 1) parts
    else if next = 0x2e ∨ next = 0x2c then
      let (microsecond, trailing) ← readFraction? (rest.drop 1) after
      return { parts with microsecond, trailing }
    else if separated then none
    else readClockFrom? after fuel separated (index + 1) rest parts

/-- Read a time of day that is followed by `after`. -/
def readClock? (bytes after : List Nat) : Option ClockParts :=
  readClockFrom? after 3 true 0 bytes {}

/-- Whether a byte begins an offset. -/
def startsOffset (b : Nat) : Bool := b = 0x2b || b = 0x2d || b = 0x5a

/-- Read a time of day and its offset, in microseconds, if there is one. -/
def readClockAndOffset? (bytes : List Nat) : Option (ClockParts × Option Int) := do
  let (clock, zone) := bytes.span fun b => !startsOffset b
  let parts ← readClock? clock zone
  match zone with
  | [] => if parts.trailing then none else return (parts, none)
  | 0x5a :: rest => if rest.isEmpty then return (parts, some 0) else none
  | sign :: rest =>
    let distance ← readClock? rest []
    if distance.trailing then none
    else
      let seconds := (distance.hour * 60 + distance.minute) * 60 + distance.second
      let total : Int := if seconds = 0 then 0 else seconds * 1000000 + distance.microsecond
      return (parts, some (if sign = 0x2d then -total else total))

/-- The number of bytes of the character that a byte begins. -/
def characterLength (b : Nat) : Nat :=
  if b < 0x80 then 1
  else if b / 16 = 0xe then 3
  else if b / 16 = 0xf then 4
  else 2

/-- The parts of a date-time: date, time of day and offset. -/
def readMoment? (bytes : List Nat) : Option ((Nat × Nat × Nat) × ClockParts × Option Int) := do
  let length ← dateLength? bytes
  let civil ← readCivil? bytes length
  match bytes.drop length with
  | [] => return (civil, {}, none)
  | separator :: rest =>
    let (clock, offset) ← readClockAndOffset? ((separator :: rest).drop (characterLength separator))
    return (civil, clock, offset)

/-- Read a date-time. -/
def readDateTime (s : String) : Except IsoFault DateTime :=
  if s.length < 7 then .error .malformed
  else
    match readMoment? (textBytes s) with
    | none => .error .malformed
    | some (civil, parts, offset) => do
      let offset ←
        match offset with
        | none => pure none
        | some n => ((Offset.make n).mapError IsoFault.outOfRange).map some
      let date ← makeDate civil
      let clock ← (Clock.make parts.hour parts.minute parts.second parts.microsecond).mapError
        IsoFault.outOfRange
      return ⟨date, clock, offset⟩

end FlatRecord.Calendar
