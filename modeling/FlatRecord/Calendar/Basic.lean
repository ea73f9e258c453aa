/-!
# Dates and times

Dates of the proleptic Gregorian calendar from year 1 to year 9999, times of day to the
microsecond, and offsets from universal time of less than a day. A date-time may lack an offset.
-/

namespace FlatRecord.Calendar

/-- Whether a year has a leap day. -/
def isLeapYear (year : Nat) : Bool :=
  year % 4 = 0 && (year % 100 != 0 || year % 400 = 0)

/-- The number of days of a month. -/
def daysInMonth (year month : Nat) : Nat :=
  if month = 2 then (if isLeapYear year then 29 else 28)
  else if month = 4 ∨ month = 6 ∨ month = 9 ∨ month = 11 then 30
  else 31

/-- A day of the calendar. -/
structure Date where
  year : Nat
  month : Nat
  day : Nat
  year_pos : 1 ≤ year
  year_le : year ≤ 9999
  month_pos : 1 ≤ month
  month_le : month ≤ 12
  day_pos : 1 ≤ day
  day_le : day ≤ daysInMonth year month
  deriving DecidableEq

/-- A time of day. -/
structure Clock where
  hour : Nat
  minute : Nat
  second : Nat
  microsecond : Nat
  hour_lt : hour < 24
  minute_lt : minute < 60
  second_lt : second < 60
  microsecond_lt : microsecond < 1000000
  deriving DecidableEq

/-- Microseconds in a day. -/
def dayMicroseconds : Nat := 86400000000

/-- The distance from universal time, in microseconds. -/
structure Offset where
  microseconds : Int
  lt_day : microseconds.natAbs < dayMicroseconds
  deriving DecidableEq

/-- No distance from universal time. -/
def Offset.utc : Offset := ⟨0, by decide⟩

/-- A date with a time of day and, where it is known, the distance from universal time. -/
structure DateTime where
  date : Date
  clock : Clock
  offset : Option Offset
  deriving DecidableEq

/-- The parts that can be out of range when a date or time is put together. -/
inductive Part where
  | year (given : Int)
  | month
  | day
  | hour
  | minute
  | second
  | offset (microseconds : Int)
  deriving DecidableEq, Repr

/-- The date with the given parts, or the first part out of range. -/
def Date.make (year : Int) (month day : Nat) : Except Part Date :=
  if hy : 1 ≤ year.toNat ∧ year.toNat ≤ 9999 then
    if hm : 1 ≤ month ∧ month ≤ 12 then
      if hd : 1 ≤ day ∧ day ≤ daysInMonth year.toNat month then
        .ok ⟨year.toNat, month, day, hy.1, hy.2, hm.1, hm.2, hd.1, hd.2⟩
      else .error .day
    else .error .month
  else .error (.year year)

/-- The time of day with the given parts, or the first part out of range. -/
def Clock.make (hour minute second microsecond : Nat) : Except Part Clock :=
  if hh : hour < 24 then
    if hm : minute < 60 then
      if hs : second < 60 then
        .ok ⟨hour, minute, second, microsecond % 1000000, hh, hm, hs,
          Nat.mod_lt _ (by decide)⟩
      else .error .second
    else .error .minute
  else .error .hour

/-- The offset of the given size, which must be less than a day. -/
def Offset.make (microseconds : Int) : Except Part Offset :=
  if h : microseconds.natAbs < dayMicroseconds then .ok ⟨microseconds, h⟩
  else .error (.offset microseconds)

/-- Days before the first day of a year, counted from the first day of year 1. -/
def daysBeforeYear (year : Nat) : Nat :=
  (year - 1) * 365 + (year - 1) / 4 - (year - 1) / 100 + (year - 1) / 400

/-- Days before the first day of a month, in its year. -/
def daysBeforeMonth (year : Nat) : Nat → Nat
  | 0 => 0
  | 1 => 0
  | month + 1 => daysBeforeMonth year month + daysInMonth year month

/-- The number of a day, counting from one for the first day of year 1. -/
def dayNumber (year month day : Nat) : Nat :=
  daysBeforeYear year + daysBeforeMonth year month + day

/-- The month and day of a day of a year, counting days from zero. -/
def monthAndDay (year : Nat) : Nat → Nat → Nat → Nat × Nat
  | 0, month, rest => (month, rest + 1)
  | fuel + 1, month, rest =>
    if rest < daysInMonth year month then (month, rest + 1)
    else monthAndDay year fuel (month + 1) (rest - daysInMonth year month)

/-- The year, month and day of a day number. -/
def civilOfDayNumber (number : Nat) : Nat × Nat × Nat :=
  let n := number - 1
  let n400 := n / 146097
  let r400 := n % 146097
  let n100 := min (r400 / 36524) 3
  let r100 := r400 - n100 * 36524
  let n4 := r100 / 1461
  let r4 := r100 % 1461
  let n1 := min (r4 / 365) 3
  let dayOfYear := r4 - n1 * 365
  let year := n400 * 400 + n100 * 100 + n4 * 4 + n1 + 1
  let (month, day) := monthAndDay year 11 1 dayOfYear
  (year, month, day)

/-- The day of the week, zero for Monday. -/
def weekday (number : Nat) : Nat := (number + 6) % 7

/-- The number of a date's day. -/
def Date.number (d : Date) : Nat := dayNumber d.year d.month d.day

/-- The microseconds since midnight. -/
def Clock.microseconds (c : Clock) : Nat :=
  ((c.hour * 60 + c.minute) * 60 + c.second) * 1000000 + c.microsecond

/-- The microseconds since the start of year 1 on the local clock. -/
def DateTime.localMicroseconds (t : DateTime) : Int :=
  (t.date.number : Int) * dayMicroseconds + t.clock.microseconds

/-- The microseconds since the start of year 1 in universal time, where the offset is known. -/
def DateTime.instant? (t : DateTime) : Option Int :=
  t.offset.map fun o => t.localMicroseconds - o.microseconds

/-- Two date-times agree if both lack an offset and show the same time, or if both are the same
instant. -/
def DateTime.agrees (s t : DateTime) : Bool :=
  match s.instant?, t.instant? with
  | some a, some b => a = b
  | none, none => s.localMicroseconds = t.localMicroseconds
  | _, _ => false

end FlatRecord.Calendar
