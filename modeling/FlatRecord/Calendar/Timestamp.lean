import FlatRecord.Calendar.Iso

/-!
# Timestamps

Timestamps are a narrow form of date and date-time text: a date has ten characters, a date-time adds
one of a few separators, a time of day with a colon between hour and minute, and an offset of whole
minutes. A whole number stands for the seconds since the start of 1970, or for milliseconds if it is
large. Every fault tells which part of the text is wrong.
-/

namespace FlatRecord.Calendar

/-- What is wrong with a timestamp. -/
inductive StampFault where
  | tooShort
  | trailing
  | separator
  | yearDigit
  | monthDigit
  | dayDigit
  | dateSeparator
  | timeSeparator
  | hourDigit
  | minuteDigit
  | secondDigit
  | fraction
  | zoneSign
  | zoneHour
  | zoneMinute
  | year
  | month
  | day
  | hour
  | minute
  | second
  | zone
  | zoneMinuteRange
  | tooEarly
  | tooLate
  | inexactDate
  deriving DecidableEq, Repr

/-- The text of the fault. -/
def StampFault.message : StampFault → String
  | tooShort => "input is too short"
  | trailing => "unexpected extra characters at the end of the input"
  | separator => "invalid datetime separator, expected `T`, `t`, `_` or space"
  | yearDigit => "invalid character in year"
  | monthDigit => "invalid character in month"
  | dayDigit => "invalid character in day"
  | dateSeparator => "invalid date separator, expected `-`"
  | timeSeparator => "invalid time separator, expected `:`"
  | hourDigit => "invalid character in hour"
  | minuteDigit => "invalid character in minute"
  | secondDigit => "invalid character in second"
  | fraction => "second fraction value is missing"
  | zoneSign => "invalid timezone sign"
  | zoneHour => "invalid timezone hour"
  | zoneMinute => "invalid timezone minute"
  | year => "year value is outside expected range"
  | month => "month value is outside expected range of 1-12"
  | day => "day value is outside expected range"
  | hour => "hour value is outside expected range of 0-23"
  | minute => "minute value is outside expected range of 0-59"
  | second => "second value is outside expected range of 0-59"
  | zone => "timezone offset must be less than 24 hours"
  | zoneMinuteRange => "timezone minute value is outside expected range of 0-59"
  | tooEarly => "dates before 1600 are not supported as unix timestamps"
  | tooLate => "dates after 9999 are not supported as unix timestamps"
  | inexactDate => "dates given as unix timestamps must have zero time"

/-- A number of exactly so many digits. -/
def stampNumber (fault : StampFault) : Nat → Nat → List Nat → Except StampFault (Nat × List Nat)
  | 0, n, bytes => .ok (n, bytes)
  | _ + 1, _, [] => .error .tooShort
  | count + 1, n, b :: bytes =>
    if isDigitByte b then stampNumber fault count (10 * n + (b - 0x30)) bytes else .error fault

/-- A byte that must be the given one. -/
def stampMark (fault : StampFault) (mark : Nat) : List Nat → Except StampFault (List Nat)
  | b :: bytes => if b = mark then .ok bytes else .error fault
  | [] => .error fault

/-- The fault of a part that is out of range. -/
def StampFault.ofPart : Part → StampFault
  | .year _ => .year
  | .month => .month
  | .day => .day
  | .hour => .hour
  | .minute => .minute
  | .second => .second
  | .offset _ => .zone

/-- The date at the head of the bytes. -/
def stampDate (bytes : List Nat) : Except StampFault (Date × List Nat) := do
  if bytes.length < 10 then .error .tooShort
  let (year, bytes) ← stampNumber .yearDigit 4 0 bytes
  let bytes ← stampMark .dateSeparator 0x2d bytes
  let (month, bytes) ← stampNumber .monthDigit 2 0 bytes
  let bytes ← stampMark .dateSeparator 0x2d bytes
  let (day, bytes) ← stampNumber .dayDigit 2 0 bytes
  let date ← (Date.make year month day).mapError StampFault.ofPart
  return (date, bytes)

/-- The fraction of a second at the head of the bytes, in microseconds; further digits are
dropped. -/
def stampFraction (bytes : List Nat) : Except StampFault (Nat × List Nat) :=
  match bytes with
  | mark :: rest =>
    if mark = 0x2e ∨ mark = 0x2c then
      let digits := rest.takeWhile isDigitByte
      if digits.isEmpty then .error .fraction
      else
        let kept := digits.take 6
        let n := kept.foldl (fun n b => 10 * n + (b - 0x30)) 0
        .ok (n * Nat.pow 10 (6 - kept.length), rest.drop digits.length)
    else .ok (0, bytes)
  | [] => .ok (0, [])

/-- The seconds and microseconds at the head of the bytes, if a colon introduces them. -/
def stampSeconds (bytes : List Nat) : Except StampFault ((Nat × Nat) × List Nat) :=
  match bytes with
  | 0x3a :: rest => do
    let (second, rest) ← stampNumber .secondDigit 2 0 rest
    if 59 < second then .error .second
    let (microsecond, rest) ← stampFraction rest
    return ((second, microsecond), rest)
  | bytes => .ok ((0, 0), bytes)

/-- The time of day at the head of the bytes. -/
def stampClock (bytes : List Nat) : Except StampFault (Clock × List Nat) := do
  if bytes.length < 5 then .error .tooShort
  let (hour, bytes) ← stampNumber .hourDigit 2 0 bytes
  let bytes ← stampMark .timeSeparator 0x3a bytes
  let (minute, bytes) ← stampNumber .minuteDigit 2 0 bytes
  if 23 < hour then .error .hour
  if 59 < minute then .error .minute
  let ((second, microsecond), bytes) ← stampSeconds bytes
  let clock ← (Clock.make hour minute second microsecond).mapError StampFault.ofPart
  return (clock, bytes)

/-- The minutes of an offset, with or without a colon before them. -/
def stampZoneMinutes (bytes : List Nat) : Except StampFault (Nat × List Nat) :=
  match bytes with
  | 0x3a :: rest => stampNumber .zoneMinute 2 0 rest
  | [] => .error .zoneMinute
  | bytes => stampNumber .zoneMinute 2 0 bytes

/-- An offset behind its sign. -/
def stampDistance (negative : Bool) (bytes : List Nat) :
    Except StampFault (Option Offset × List Nat) := do
  let (hours, bytes) ← stampNumber .zoneHour 2 0 bytes
  let (minutes, bytes) ← stampZoneMinutes bytes
  if 59 < minutes then .error .zoneMinuteRange
  let distance : Int := (hours * 60 + minutes) * 60 * 1000000
  let offset ← (Offset.make (if negative then -distance else distance)).mapError StampFault.ofPart
  return (some offset, bytes)

/-- The offset at the head of the bytes, if there is one. -/
def stampOffset (bytes : List Nat) : Except StampFault (Option Offset × List Nat) :=
  match bytes with
  | [] => .ok (none, [])
  | 0x5a :: rest => .ok (some Offset.utc, rest)
  | 0x7a :: rest => .ok (some Offset.utc, rest)
  | 0x2b :: rest => stampDistance false rest
  | 0x2d :: rest => stampDistance true rest
  | 0xe2 :: 0x88 :: 0x92 :: rest => stampDistance true rest
  | _ => .error .zoneSign

/-- No bytes may be left. -/
def stampEnd {α : Type} (step : α × List Nat) : Except StampFault α :=
  if step.2.isEmpty then .ok step.1 else .error .trailing

/-- The separators between date and time. -/
def isStampSeparator (b : Nat) : Bool := b = 0x54 || b = 0x74 || b = 0x20 || b = 0x5f

/-- Read a date-time from text. -/
def stampMoment (bytes : List Nat) : Except StampFault DateTime := do
  let (date, bytes) ← stampDate bytes
  match bytes with
  | [] => .error .separator
  | mark :: rest =>
    if isStampSeparator mark then do
      let (clock, rest) ← stampClock rest
      let offset ← (stampOffset rest) >>= stampEnd
      return ⟨date, clock, offset⟩
    else .error .separator

/-- The whole number that a text is. -/
def stampInteger? (bytes : List Nat) : Option Int :=
  let (negative, digits) :=
    match bytes with
    | 0x2d :: rest => (true, rest)
    | 0x2b :: rest => (false, rest)
    | bytes => (false, bytes)
  if digits.isEmpty || !digits.all isDigitByte then none
  else
    let n : Nat := digits.foldl (fun n b => 10 * n + (b - 0x30)) 0
    some (if negative then -(n : Int) else n)

/-- The greatest number that stands for seconds; greater ones stand for milliseconds. -/
def secondsLimit : Nat := 20000000000

/-- The number of the first day of 1970. -/
def epochDay : Nat := 719163

/-- The seconds and microseconds that a whole number stands for. -/
def stampParts (n : Int) : Int × Nat :=
  if n.natAbs ≤ secondsLimit then (n, 0)
  else (n.fdiv 1000, (n.fmod 1000).toNat * 1000)

/-- The date-time in universal time that a whole number stands for. -/
def momentOfNumber (n : Int) : Except StampFault DateTime := do
  let (seconds, microsecond) := stampParts n
  if seconds < -11676096000 then .error .tooEarly
  if 253402300799 < seconds then .error .tooLate
  let days := seconds.fdiv 86400
  let rest := (seconds.fmod 86400).toNat
  let (year, month, day) := civilOfDayNumber (days + epochDay).toNat
  let date ← (Date.make year month day).mapError StampFault.ofPart
  let clock ← (Clock.make (rest / 3600) (rest / 60 % 60) (rest % 60) microsecond).mapError
    StampFault.ofPart
  return ⟨date, clock, some Offset.utc⟩

/-- Whether a time of day is midnight. -/
def Clock.isMidnight (c : Clock) : Bool := c.microseconds = 0

/-- The date that a whole number stands for; it must be the start of a day. -/
def dateOfNumber (n : Int) : Except StampFault Date := do
  let t ← momentOfNumber n
  if (stampParts n).1.fmod 86400 = 0 then return t.date else .error .inexactDate

/-- Read a date from text or from a number in it. -/
def readStampDate (s : String) : Except StampFault Date :=
  let bytes := textBytes s
  match stampDate bytes >>= stampEnd, stampInteger? bytes with
  | .ok d, _ => .ok d
  | .error _, some n => dateOfNumber n
  | .error fault, none => .error fault

/-- Read a date-time from text or from a number in it. -/
def readStampMoment (s : String) : Except StampFault DateTime :=
  let bytes := textBytes s
  match stampMoment bytes, stampInteger? bytes with
  | .ok t, _ => .ok t
  | .error _, some n => momentOfNumber n
  | .error fault, none => .error fault

end FlatRecord.Calendar
