import FlatRecord.Calendar.Timestamp
import FlatRecord.Proofs.Calendar.CalendarText
import FlatRecord.Proofs.Outcome

/-!
# ISO text as timestamps

The text of a date is a timestamp of the date. The text of a date-time is a timestamp of the
date-time, unless its offset has seconds: then it is no timestamp at all.
-/

namespace FlatRecord.Calendar

open FlatRecord.Number

/-- A text of ASCII digits is read as its number. -/
theorem stampNumber_append (fault : StampFault) {cs : List Char} (digits : IsDigits cs) (n : Nat)
    (rest : List Nat) : stampNumber fault cs.length n (cs.map Char.toNat ++ rest) =
      .ok (Nat.ofDigitChars 10 cs n, rest) := by
  induction cs generalizing n with
  | nil => rfl
  | cons c cs ih =>
    obtain ⟨digit, digits⟩ := List.forall_mem_cons.1 digits
    rw [List.length_cons, List.map_cons, List.cons_append, stampNumber,
      if_pos (isDigitByte_toNat digit), ih digits]
    rfl

/-- A padded number is read as the number. -/
theorem stampNumber_paddedNumber (fault : StampFault) {width n : Nat} (positive : 0 < width)
    (small : n < 10 ^ width) (rest : List Nat) :
    stampNumber fault width 0 ((paddedNumber width n).map Char.toNat ++ rest) = .ok (n, rest) := by
  have read := stampNumber_append fault (isDigits_paddedNumber width n) 0 rest
  rwa [length_paddedNumber positive small,
    show Nat.ofDigitChars 10 (paddedNumber width n) 0 = n from textNumber_paddedNumber width n] at read

/-- Two digits are read as their number. -/
theorem stampNumber_two (fault : StampFault) {n : Nat} (small : n < 100) (rest : List Nat) :
    stampNumber fault 2 0 ((paddedNumber 2 n).map Char.toNat ++ rest) = .ok (n, rest) :=
  stampNumber_paddedNumber fault (by decide) small rest

/-- A mark is read as one. -/
theorem stampMark_cons (fault : StampFault) (mark : Nat) (rest : List Nat) :
    stampMark fault mark (mark :: rest) = .ok rest := if_pos rfl

/-- The text of a date is read as the date. -/
theorem stampDate_isoText (d : Date) (rest : List Nat) :
    stampDate (d.isoText.map Char.toNat ++ rest) = .ok (d, rest) := by
  have year : d.year < 10 ^ 4 := Nat.lt_of_le_of_lt d.year_le (by decide)
  have month : d.month < 100 := Nat.lt_of_le_of_lt d.month_le (by decide)
  have long : ¬ (d.isoText.map Char.toNat ++ rest).length < 10 := by
    have first := length_paddedNumber (by decide : 0 < 4) year
    have second := length_paddedNumber (by decide : 0 < 2) month
    have third := length_paddedNumber (by decide : 0 < 2) d.day_lt
    simp only [Date.isoText, List.length_append, List.length_map, List.length_cons]
    omega
  unfold stampDate
  rw [if_neg long]
  simp only [Date.isoText, List.map_append, List.map_cons, List.append_assoc, List.cons_append,
    stampNumber_paddedNumber _ (by decide : 0 < 4) year, stampNumber_two _ month,
    stampNumber_two _ d.day_lt, ok_bind, stampMark_cons, Char.reduceToNat, d.make_eq_ok]
  rfl

/-- What may follow a time of day: no digit, and no mark of a fraction. -/
def EndsClock (rest : List Nat) : Prop :=
  ∀ b ∈ rest.head?, isDigitByte b = false ∧ b ≠ 0x2e ∧ b ≠ 0x2c

/-- The text of a fraction of a second is read as the fraction. -/
theorem stampFraction_fractionText {microsecond : Nat} (small : microsecond < 1000000)
    {rest : List Nat} (ends : EndsClock rest) :
    stampFraction ((fractionText microsecond).map Char.toNat ++ rest) = .ok (microsecond, rest) := by
  unfold fractionText
  split
  · rename_i zero
    subst zero
    cases rest with
    | nil => rfl
    | cons b rest =>
      obtain ⟨-, point, comma⟩ := ends b rfl
      exact if_neg (by simp [point, comma])
  · have digits := isDigits_paddedNumber 6 microsecond
    have length := length_paddedNumber (by decide : 0 < 6) small
    have number := textNumber_paddedNumber 6 microsecond
    generalize paddedNumber 6 microsecond = cs at digits length number
    have bytes : ∀ b ∈ cs.map Char.toNat, isDigitByte b = true := by
      intro b mem
      obtain ⟨c, among, rfl⟩ := List.mem_map.1 mem
      exact isDigitByte_toNat (digits c among)
    have taken : (cs.map Char.toNat ++ rest).takeWhile isDigitByte = cs.map Char.toNat := by
      rw [List.takeWhile_append_of_pos bytes]
      cases rest with
      | nil => simp
      | cons b rest => simp [(ends b rfl).1]
    have filled : (cs.map Char.toNat).isEmpty = false := by
      cases cs with
      | nil => simp at length
      | cons c cs => rfl
    have folded : (cs.map Char.toNat).foldl (fun n b => 10 * n + (b - 0x30)) 0 = microsecond := by
      rw [List.foldl_map, ← number, textNumber, Nat.ofDigitChars_eq_foldl]
      rfl
    have whole : (cs.map Char.toNat).take 6 = cs.map Char.toNat :=
      List.take_of_length_le (by simp [length])
    have behind : (cs.map Char.toNat ++ rest).drop 6 = rest :=
      List.drop_left' (by simp [length])
    rw [List.map_cons, List.cons_append, stampFraction, if_pos (.inl rfl)]
    simp only [taken, filled, whole, folded, behind, List.length_map, length]
    simp

/-- The text of a time of day is read as the time of day. -/
theorem stampClock_isoText (c : Clock) {rest : List Nat} (ends : EndsClock rest) :
    stampClock (c.isoText.map Char.toNat ++ rest) = .ok (c, rest) := by
  have hour : c.hour < 100 := c.hour_lt.trans (by decide)
  have minute : c.minute < 100 := c.minute_lt.trans (by decide)
  have second : c.second < 100 := c.second_lt.trans (by decide)
  have long : ¬ (c.isoText.map Char.toNat ++ rest).length < 5 := by
    have first := length_paddedNumber (by decide : 0 < 2) hour
    have next := length_paddedNumber (by decide : 0 < 2) minute
    simp only [Clock.isoText, List.length_append, List.length_map, List.length_cons]
    omega
  have seconds : stampSeconds (0x3a :: ((paddedNumber 2 c.second).map Char.toNat ++
      ((fractionText c.microsecond).map Char.toNat ++ rest))) =
        .ok ((c.second, c.microsecond), rest) := by
    simp only [stampSeconds, stampNumber_two _ second, ok_bind,
      stampFraction_fractionText c.microsecond_lt ends]
    rw [if_neg (by have := c.second_lt; omega)]
    rfl
  unfold stampClock
  rw [if_neg long]
  simp only [Clock.isoText, List.map_append, List.map_cons, List.append_assoc, List.cons_append,
    stampNumber_two _ hour, stampNumber_two _ minute, ok_bind, stampMark_cons, Char.reduceToNat]
  rw [if_neg (by have := c.hour_lt; omega), if_neg (by have := c.minute_lt; omega)]
  simp only [seconds, ok_bind, c.make_eq_ok]
  rfl

/-- The hours and minutes of an offset, before some rest. -/
private theorem stampDistance_append {n : Nat} (small : n < dayMicroseconds) (negative : Bool)
    (rest : List Nat) : ∃ o : Offset,
      stampDistance negative ((paddedNumber 2 (n / 1000000 / 3600)).map Char.toNat ++ 0x3a ::
        ((paddedNumber 2 (n / 1000000 / 60 % 60)).map Char.toNat ++ rest)) = .ok (some o, rest) ∧
      (n / 1000000 % 60 = 0 → n % 1000000 = 0 →
        o.microseconds = if negative then -(n : Int) else n) := by
  unfold dayMicroseconds at small
  have hours : n / 1000000 / 3600 < 100 := by omega
  have minutes : n / 1000000 / 60 % 60 < 100 := by omega
  let distance : Int := ((n / 1000000 / 3600 : Nat) * 60 + (n / 1000000 / 60 % 60 : Nat)) * 60 *
    1000000
  have within : (if negative then -distance else distance).natAbs < dayMicroseconds := by
    unfold dayMicroseconds
    cases negative <;> simp only [distance, Bool.false_eq_true, if_true, if_false] <;> omega
  refine ⟨⟨_, within⟩, ?_, fun seconds fraction => ?_⟩
  · have made : Offset.make (if negative then -distance else distance) = .ok ⟨_, within⟩ :=
      dif_pos within
    unfold stampDistance
    simp only [stampNumber_two _ hours, ok_bind, stampZoneMinutes, stampNumber_two _ minutes]
    rw [if_neg (by omega)]
    show (do
      let offset ← (Offset.make (if negative then -distance else distance)).mapError
        StampFault.ofPart
      return (some offset, rest) : Except StampFault (Option Offset × List Nat)) = _
    rw [made]
    rfl
  · cases negative <;> simp only [distance, Bool.false_eq_true, if_true, if_false] <;> omega

/-- The text of an offset is read as the offset, but not to its end if it has seconds. -/
theorem stampOffset_isoText (o : Offset) : (stampOffset (o.isoText.map Char.toNat) >>= stampEnd) =
    if o.isMinutes then .ok (some o) else .error .trailing := by
  obtain ⟨n, small⟩ := o
  let tail : List Char :=
    if n.natAbs / 1000000 % 60 = 0 ∧ n.natAbs % 1000000 = 0 then []
    else ':' :: (paddedNumber 2 (n.natAbs / 1000000 % 60) ++ fractionText (n.natAbs % 1000000))
  obtain ⟨o, distance, whole⟩ := stampDistance_append small (decide (n < 0)) (tail.map Char.toNat)
  have begun : stampOffset ((Offset.mk n small).isoText.map Char.toNat) =
      .ok (some o, tail.map Char.toNat) := by
    rw [← distance, Offset.isoText]
    by_cases negative : n < 0
    · simp only [negative, if_true, decide_true, List.map_cons, List.map_append]
      rfl
    · simp only [negative, if_false, decide_false, List.map_cons, List.map_append]
      rfl
  rw [begun, ok_bind, stampEnd]
  by_cases minutes : n.natAbs / 1000000 % 60 = 0 ∧ n.natAbs % 1000000 = 0
  · have same := whole minutes.1 minutes.2
    obtain ⟨m, small'⟩ := o
    obtain rfl : m = n := by
      rw [show m = _ from same]
      by_cases negative : n < 0 <;>
        simp only [negative, decide_true, decide_false, if_true, if_false, Bool.false_eq_true] <;>
        omega
    have wholly : (Offset.mk m small').isMinutes = true := decide_eq_true (by dsimp only; omega)
    simp [tail, minutes, wholly]
  · have partly : (Offset.mk n small).isMinutes = false := decide_eq_false (by dsimp only; omega)
    simp [tail, minutes, partly]

/-- The text of an offset does not go on with the time of day. -/
private theorem endsClock_offset (offset : Option Offset) :
    EndsClock ((offset.elim [] Offset.isoText).map Char.toNat) := by
  cases offset with
  | none => rintro _ ⟨⟩
  | some o =>
    simp only [EndsClock, Option.elim_some, Offset.isoText, List.map_cons]
    by_cases negative : o.microseconds < 0
    · simp [negative, isDigitByte]
    · simp [negative, isDigitByte]

/-- The text of a date-time is read as the date-time, but not to its end if its offset has seconds. -/
theorem stampMoment_isoText (t : DateTime) : stampMoment (t.isoText.map Char.toNat) =
    if t.hasMinuteOffset then .ok t else .error .trailing := by
  unfold stampMoment
  rw [t.isoText_eq, List.map_append, stampDate_isoText, ok_bind, List.map_cons, List.map_append]
  have separator : isStampSeparator ('T'.toNat) = true := rfl
  simp only [separator, if_true, stampClock_isoText _ (endsClock_offset t.offset), ok_bind]
  obtain ⟨date, clock, offset⟩ := t
  cases offset with
  | none => rfl
  | some o =>
    simp only [Option.elim_some, stampOffset_isoText, DateTime.hasMinuteOffset, Option.all_some]
    by_cases minutes : o.isMinutes
    · simp only [minutes, if_true]
      rfl
    · simp only [minutes]
      rfl

/-- Bytes that begin with a digit but hold something else are no whole number. -/
private theorem stampInteger?_eq_none {b : Nat} {bytes : List Nat} (first : isDigitByte b)
    (other : ∃ x ∈ bytes, isDigitByte x = false) : stampInteger? (b :: bytes) = none := by
  unfold stampInteger?
  split
  rename_i digits shape
  split at shape
  · rename_i start
    obtain ⟨rfl, -⟩ := List.cons_eq_cons.1 start
    exact absurd first (by decide)
  · rename_i start
    obtain ⟨rfl, -⟩ := List.cons_eq_cons.1 start
    exact absurd first (by decide)
  · obtain ⟨-, rfl⟩ := Prod.mk.inj shape
    rw [if_pos]
    simpa [first] using other

/-- A text that begins with a date is no whole number. -/
private theorem stampInteger?_isoText (d : Date) (rest : List Nat) :
    stampInteger? (d.isoText.map Char.toNat ++ rest) = none := by
  have digits := isDigits_paddedNumber 4 d.year
  have length := length_paddedNumber (by decide : 0 < 4) (Nat.lt_of_le_of_lt d.year_le (by decide))
  obtain ⟨c, cs, text⟩ := List.exists_cons_of_ne_nil
    (l := paddedNumber 4 d.year) fun empty => by simp [empty] at length
  have byte := isDigitByte_toNat (digits c (by simp [text]))
  rw [Date.isoText, text]
  exact stampInteger?_eq_none byte ⟨'-'.toNat, by simp, rfl⟩

/-- The text of a date is a timestamp of the date. -/
theorem readStampDate_isoText (d : Date) : readStampDate (String.ofList d.isoText) = .ok d := by
  have read := stampDate_isoText d []
  rw [List.append_nil] at read
  unfold readStampDate
  simp only [(isCalendarText_date d).textBytes_eq, read, ok_bind]
  rfl

private theorem stampInteger?_dateTime (t : DateTime) :
    stampInteger? (t.isoText.map Char.toNat) = none := by
  rw [t.isoText_eq, List.map_append]
  exact stampInteger?_isoText t.date _

/-- The text of a date-time is a timestamp of the date-time, unless its offset has seconds. -/
theorem readStampMoment_isoText (t : DateTime) : readStampMoment (String.ofList t.isoText) =
    if t.hasMinuteOffset then .ok t else .error .trailing := by
  unfold readStampMoment
  simp only [(isCalendarText_dateTime t).textBytes_eq, stampInteger?_dateTime, stampMoment_isoText]
  cases t.hasMinuteOffset <;> rfl

/-- The text of a date-time is no timestamp of a date. -/
theorem readStampDate_dateTime (t : DateTime) :
    readStampDate (String.ofList t.isoText) = .error .trailing := by
  unfold readStampDate
  simp only [(isCalendarText_dateTime t).textBytes_eq, stampInteger?_dateTime]
  rw [t.isoText_eq, List.map_append, stampDate_isoText, ok_bind]
  rfl

end FlatRecord.Calendar
