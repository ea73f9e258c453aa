import FlatRecord.Proofs.Calendar.CalendarText
import FlatRecord.Proofs.Outcome

/-!
# ISO text read back

The text of a date is read as the date. A date and a time of day with no offset, with `Z` or with an offset
behind them are read as that date-time. Only an offset of less than a second is not read as itself but as
none, so no date-time that has been read has such an offset, and its text is read as the same date-time again.
-/

namespace FlatRecord.Calendar

open FlatRecord.Number

/-- Digits at the head of the bytes are read as their number. -/
private theorem takeNumber_append {cs : List Char} (digits : IsDigits cs) (n : Nat) (rest : List Nat) :
    takeNumber cs.length n (cs.map Char.toNat ++ rest) = some (Nat.ofDigitChars 10 cs n, rest) := by
  induction cs generalizing n with
  | nil => rfl
  | cons c cs ih =>
    obtain ⟨digit, digits⟩ := List.forall_mem_cons.1 digits
    rw [List.length_cons, List.map_cons, List.cons_append, takeNumber,
      if_pos (isDigitByte_toNat digit), ih digits]
    rfl

/-- A padded number is read as the number. -/
private theorem takeNumber_paddedNumber {width n : Nat} (positive : 0 < width) (small : n < 10 ^ width)
    (rest : List Nat) : takeNumber width 0 ((paddedNumber width n).map Char.toNat ++ rest) =
      some (n, rest) := by
  have read := takeNumber_append (isDigits_paddedNumber width n) 0 rest
  rwa [length_paddedNumber positive small,
    show Nat.ofDigitChars 10 (paddedNumber width n) 0 = n from textNumber_paddedNumber width n] at read

/-- Two digits are read as their number. -/
private theorem takeNumber_two {n : Nat} (small : n < 100) (rest : List Nat) :
    takeNumber 2 0 ((paddedNumber 2 n).map Char.toNat ++ rest) = some (n, rest) :=
  takeNumber_paddedNumber (by decide) small rest

/-- Two digits are not nothing. -/
private theorem paddedNumber_ne_nil {n : Nat} (small : n < 100) :
    (paddedNumber 2 n).map Char.toNat ≠ [] := by
  have length := length_paddedNumber (by decide : 0 < 2) small
  exact List.ne_nil_of_length_pos (by rw [List.length_map, length]; decide)

section Date

variable (d : Date)

theorem Date.year_lt : d.year < 10 ^ 4 := Nat.lt_of_le_of_lt d.year_le (by decide)

theorem Date.month_lt : d.month < 100 := Nat.lt_of_le_of_lt d.month_le (by decide)

theorem Date.length_isoText : d.isoText.length = 10 := by
  have year := length_paddedNumber (by decide : 0 < 4) d.year_lt
  have month := length_paddedNumber (by decide : 0 < 2) d.month_lt
  have day := length_paddedNumber (by decide : 0 < 2) d.day_lt
  simp only [isoText, List.length_append, List.length_cons]
  omega

/-- The bytes of a month do not begin as those of a week do. -/
private theorem Date.month_cons : ∃ b bs, (paddedNumber 2 d.month).map Char.toNat = b :: bs ∧
    b ≠ 0x57 := by
  obtain ⟨b, bs, bytes⟩ := List.exists_cons_of_ne_nil (paddedNumber_ne_nil d.month_lt)
  refine ⟨b, bs, bytes, ?_⟩
  obtain ⟨c, mem, rfl⟩ := List.mem_map.1 (bytes ▸ List.mem_cons_self)
  have bounds := toNat_of_isDigit (isDigits_paddedNumber 2 d.month c mem)
  omega

/-- The date at the head of the bytes. -/
private theorem readCivil?_isoText (rest : List Nat) (length : Nat) :
    readCivil? (d.isoText.map Char.toNat ++ rest) length = some (d.year, d.month, d.day) := by
  obtain ⟨b, bs, bytes, apart⟩ := d.month_cons
  have month := takeNumber_two d.month_lt
  unfold readCivil?
  simp only [Date.isoText, List.map_append, List.map_cons, List.append_assoc, List.cons_append,
    takeNumber_paddedNumber (by decide : 0 < 4) d.year_lt, Option.bind_eq_bind, Option.bind_some,
    List.head?_cons, Char.reduceToNat, decide_true, if_true, List.drop_succ_cons, List.drop_zero]
  simp only [bytes, List.cons_append, List.head?_cons, Option.some.injEq, apart, if_false] at month ⊢
  simp only [month, Option.bind_some, dropSeparator?, if_true, takeNumber_two d.day_lt]
  rfl

/-- The text of a date is read as the date. -/
theorem readDate_isoText : readDate (String.ofList d.isoText) = .ok d := by
  have length : (d.isoText.map Char.toNat).length = 10 := by rw [List.length_map, d.length_isoText]
  have civil := readCivil?_isoText d [] 10
  rw [List.append_nil] at civil
  unfold readDate
  simp only [(isCalendarText_date d).textBytes_eq, length, civil, makeDate, Date.make_eq_ok]
  rfl

/-- The length of the date at the head of the bytes of a date-time. -/
private theorem dateLength?_isoText (rest : List Nat) :
    dateLength? (d.isoText.map Char.toNat ++ rest) = some 10 := by
  obtain ⟨b, bs, bytes, apart⟩ := d.month_cons
  have year := length_paddedNumber (by decide : 0 < 4) d.year_lt
  have length : (d.isoText.map Char.toNat ++ rest).length ≠ 7 := by
    rw [List.length_append, List.length_map, d.length_isoText]
    omega
  have shape : d.isoText.map Char.toNat ++ rest = (paddedNumber 4 d.year).map Char.toNat ++
      0x2d :: b :: (bs ++ 0x2d :: ((paddedNumber 2 d.day).map Char.toNat ++ rest)) := by
    simp [Date.isoText, bytes]
  unfold dateLength?
  simp only [length, if_false]
  rw [shape]
  have behind {i : Nat} (le : 4 ≤ i) (bytes : List Nat) :
      ((paddedNumber 4 d.year).map Char.toNat ++ bytes).getD i 0 = bytes.getD (i - 4) 0 := by
    rw [List.getD_eq_getElem?_getD, List.getElem?_append_right (by rwa [List.length_map, year]),
      List.length_map, year, List.getD_eq_getElem?_getD]
  rw [behind (by decide), behind (by decide)]
  simp [apart]

end Date

/-- The parts of a time of day with the hour, the minute or the second that was read. -/
private def ClockParts.put (parts : ClockParts) (index n : Nat) : ClockParts :=
  if index = 0 then { parts with hour := n }
  else if index = 1 then { parts with minute := n }
  else { parts with second := n }

section Clock

variable (after : List Nat) {n : Nat} (small : n < 100) (fuel index : Nat) (parts : ClockParts)

include small in
/-- A number with a colon behind it is read, and after it what the colon leads to. -/
private theorem readClockFrom?_colon (separated : Bool) (separates : index = 0 ∨ separated)
    {more : List Nat} (filled : more ≠ []) : readClockFrom? after (fuel + 1) separated index
      ((paddedNumber 2 n).map Char.toNat ++ 0x3a :: more) parts =
        readClockFrom? after fuel true (index + 1) more (parts.put index n) := by
  have long : more.length ≠ 0 := by simpa using filled
  rw [readClockFrom?]
  simp [takeNumber_two small, long, ClockParts.put]
  obtain rfl | rfl := separates <;> simp

include small in
/-- A number at the end of the bytes is the last part. -/
private theorem readClockFrom?_last (separated : Bool) : readClockFrom? after (fuel + 1) separated index
      ((paddedNumber 2 n).map Char.toNat) parts =
        some { parts.put index n with trailing := after.headD 0 != 0 } := by
  have number := takeNumber_two small []
  rw [List.append_nil] at number
  rw [readClockFrom?]
  simp [number, ClockParts.put]

include small in
/-- A number with a fraction behind it is the last part. -/
private theorem readClockFrom?_fraction {microsecond : Nat} (tiny : microsecond < 10 ^ 6) :
    readClockFrom? after (fuel + 1) true index
      ((paddedNumber 2 n).map Char.toNat ++ 0x2e :: (paddedNumber 6 microsecond).map Char.toNat) parts =
        some { parts.put index n with microsecond, trailing := !(after.dropWhile isDigitByte).isEmpty } := by
  have length := length_paddedNumber (by decide : 0 < 6) tiny
  have fraction := takeNumber_paddedNumber (by decide) tiny []
  rw [List.append_nil] at fraction
  rw [readClockFrom?]
  simp [takeNumber_two small, readFraction?, length, fraction, ClockParts.put]

end Clock

/-- The time of day at the head of the bytes, before what shows the offset. -/
private theorem readClock?_isoText (c : Clock) (after : List Nat) : ∃ trailing,
    readClock? (c.isoText.map Char.toNat) after =
      some ⟨c.hour, c.minute, c.second, c.microsecond, trailing⟩ ∧ (after = [] → trailing = false) := by
  have hour : c.hour < 100 := c.hour_lt.trans (by decide)
  have minute : c.minute < 100 := c.minute_lt.trans (by decide)
  have second : c.second < 100 := c.second_lt.trans (by decide)
  have filled (bytes : List Nat) : (paddedNumber 2 c.second).map Char.toNat ++ bytes ≠ [] :=
    List.append_ne_nil_of_left_ne_nil (paddedNumber_ne_nil second) bytes
  have begun : readClock? (c.isoText.map Char.toNat) after = readClockFrom? after 1 true 2
      ((paddedNumber 2 c.second).map Char.toNat ++ (fractionText c.microsecond).map Char.toNat)
      ((ClockParts.put {} 0 c.hour).put 1 c.minute) := by
    rw [← readClockFrom?_colon after minute 1 1 _ true (.inr rfl) (filled _),
      ← readClockFrom?_colon after hour 2 0 _ true (.inl rfl) (by simp)]
    simp [readClock?, Clock.isoText]
  rw [begun, fractionText]
  -- Without a fraction the text ends with the second, and what follows is left over.
  split_ifs with whole
  · refine ⟨after.headD 0 != 0, ?_, by rintro rfl; rfl⟩
    rw [List.map_nil, List.append_nil, readClockFrom?_last after second, whole]
    rfl
  · exact ⟨_, readClockFrom?_fraction after second 0 2 _ c.microsecond_lt, by rintro rfl; rfl⟩

/-- Hours and minutes are read as such. -/
private theorem readClock?_pair {hour minute : Nat} (first : hour < 100) (second : minute < 100) :
    readClock? ((paddedNumber 2 hour).map Char.toNat ++ 0x3a :: (paddedNumber 2 minute).map Char.toNat)
      [] = some { hour, minute } := by
  rw [readClock?, readClockFrom?_colon [] first 2 0 _ true (.inl rfl) (paddedNumber_ne_nil second),
    readClockFrom?_last [] second]
  rfl

/-- No byte of a time of day begins an offset. -/
private theorem startsOffset_clock (c : Clock) :
    ∀ b ∈ c.isoText.map Char.toNat, startsOffset b = false := by
  have number (width n : Nat) : ∀ d ∈ paddedNumber width n, startsOffset d.toNat = false := by
    intro d mem
    have bounds := toNat_of_isDigit (isDigits_paddedNumber width n d mem)
    simp only [startsOffset, Bool.or_eq_false_iff, decide_eq_false_iff_not]
    omega
  have fraction : ∀ d ∈ fractionText c.microsecond, startsOffset d.toNat = false := by
    unfold fractionText
    split_ifs
    · exact List.forall_mem_nil _
    · exact List.forall_mem_cons.2 ⟨rfl, number 6 _⟩
  rw [List.forall_mem_map]
  simp only [Clock.isoText, List.forall_mem_append, List.forall_mem_cons]
  exact ⟨number 2 _, rfl, number 2 _, rfl, number 2 _, fraction⟩

/-- A text that shows an offset: nothing where there is none, `Z` for universal time, or a sign with the hours
and the minutes, or with a whole time of day that is not over within the first second. -/
inductive ShowsOffset : List Char → Option Offset → Prop where
  | none : ShowsOffset [] none
  | zero : ShowsOffset ['Z'] (some .utc)
  | signed (negative : Bool) {hours minutes : Nat} {o : Offset} (small : hours < 100)
      (small' : minutes < 100)
      (size : o.microseconds = if negative then -((hours * 60 + minutes : Nat) * 60000000 : Int)
        else (hours * 60 + minutes : Nat) * 60000000) :
      ShowsOffset ((if negative then '-' else '+') ::
        (paddedNumber 2 hours ++ ':' :: paddedNumber 2 minutes)) (some o)
  | exact (negative : Bool) {c : Clock} {o : Offset} (long : 1000000 ≤ c.microseconds)
      (size : o.microseconds = if negative then -(c.microseconds : Int) else c.microseconds) :
      ShowsOffset ((if negative then '-' else '+') :: c.isoText) (some o)

namespace ShowsOffset

variable {zone : List Char} {offset : Option Offset} (shows : ShowsOffset zone offset)
include shows

theorem isCalendarText : IsCalendarText zone := by
  cases shows with
  | none => exact List.forall_mem_nil _
  | zero => exact .cons (by decide) (List.forall_mem_nil _)
  | signed =>
    refine .cons (by split <;> decide) ?_
    exact (IsCalendarText.padded 2 _).append (.cons (by decide) (.padded 2 _))
  | exact => exact .cons (by split <;> decide) (isCalendarText_clock _)

/-- The time of day and the offset. -/
private theorem readClockAndOffset?_eq (c : Clock) : ∃ trailing,
    readClockAndOffset? ((c.isoText ++ zone).map Char.toNat) =
      some (⟨c.hour, c.minute, c.second, c.microsecond, trailing⟩, offset.map Offset.microseconds) := by
  obtain ⟨trailing, clock, last⟩ := readClock?_isoText c (zone.map Char.toNat)
  refine ⟨trailing, ?_⟩
  have inside : ∀ b ∈ c.isoText.map Char.toNat, !startsOffset b := by
    simpa using startsOffset_clock c
  have outside : ∀ b ∈ (zone.map Char.toNat).head?, (!startsOffset b) = false := by
    cases shows with
    | none => rintro _ ⟨⟩
    | zero =>
      rintro _ ⟨⟩
      rfl
    | signed negative | exact negative =>
      cases negative <;> (rintro _ ⟨⟩; rfl)
  unfold readClockAndOffset?
  rw [List.map_append, Number.span_append inside outside]
  simp only [clock, Option.bind_eq_bind, Option.bind_some]
  cases shows with
  | none => simp [last rfl]
  | zero => rfl
  | @signed negative hours minutes o small small' size =>
    have pair := readClock?_pair small small'
    cases negative with
    | true =>
      rw [if_pos rfl] at size
      simp [pair]
      split_ifs <;> omega
    | false =>
      rw [if_neg Bool.false_ne_true] at size
      simp [pair]
      split_ifs <;> omega
  | @exact negative distance o long size =>
    obtain ⟨_, pair, ended⟩ := readClock?_isoText distance []
    obtain rfl := ended rfl
    have tiny := distance.microsecond_lt
    unfold Clock.microseconds at long size
    cases negative with
    | true =>
      rw [if_pos rfl] at size
      simp [pair]
      split_ifs <;> omega
    | false =>
      rw [if_neg Bool.false_ne_true] at size
      simp [pair]
      split_ifs <;> omega

/-- A date and a time of day are read with the offset that is shown behind them. -/
theorem readDateTime_eq (d : Date) (c : Clock) :
    readDateTime (String.ofList (d.isoText ++ 'T' :: (c.isoText ++ zone))) = .ok ⟨d, c, offset⟩ := by
  have text := isCalendarText_moment d c shows.isCalendarText
  obtain ⟨trailing, clock⟩ := shows.readClockAndOffset?_eq c
  have long : ¬ (String.ofList (d.isoText ++ 'T' :: (c.isoText ++ zone))).length < 7 := by
    simp only [String.length_ofList, List.length_append, d.length_isoText]
    omega
  have whole : readMoment? ((d.isoText ++ 'T' :: (c.isoText ++ zone)).map Char.toNat) =
      some ((d.year, d.month, d.day), ⟨c.hour, c.minute, c.second, c.microsecond, trailing⟩,
        offset.map Offset.microseconds) := by
    unfold readMoment?
    have length : (d.isoText.map Char.toNat).length = 10 := by rw [List.length_map, d.length_isoText]
    rw [List.map_append, dateLength?_isoText, List.map_cons]
    simp only [Option.bind_eq_bind, Option.bind_some, readCivil?_isoText, List.drop_left' length]
    show (readClockAndOffset? ((c.isoText ++ zone).map Char.toNat)).bind _ = _
    rw [clock]
    rfl
  unfold readDateTime
  rw [if_neg long, text.textBytes_eq, whole]
  simp only [makeDate, Date.make_eq_ok, Clock.make_eq_ok]
  cases offset with
  | none => rfl
  | some o =>
    have made : Offset.make o.microseconds = .ok o := dif_pos o.lt_day
    simp only [Option.map_some, made]
    rfl

end ShowsOffset

/-- Whether an offset is none or at least a second. A shorter one is read as none. -/
def Offset.IsReadable (o : Offset) : Prop := o.microseconds = 0 ∨ 1000000 ≤ o.microseconds.natAbs

/-- The text of an offset shows it, unless it is shorter than a second. -/
theorem Offset.IsReadable.showsOffset_isoText {o : Offset} (readable : o.IsReadable) :
    ShowsOffset o.isoText (some o) := by
  obtain ⟨n, small⟩ := o
  have small' : n.natAbs < 86400000000 := small
  have readable : n = 0 ∨ 1000000 ≤ n.natAbs := readable
  have sign : (if n < 0 then '-' else '+') = if decide (n < 0) then '-' else '+' := by simp
  have signed (total : Nat) (same : total = n.natAbs) :
      n = if decide (n < 0) then -(total : Int) else total := by
    by_cases negative : n < 0 <;> simp [negative] <;> omega
  unfold isoText
  dsimp only
  rw [sign]
  by_cases minutes : n.natAbs / 1000000 % 60 = 0 ∧ n.natAbs % 1000000 = 0
  · rw [if_pos minutes, List.append_nil]
    refine .signed (decide (n < 0)) ?_ ?_ ?_
    · omega
    · omega
    · have size := signed ((n.natAbs / 1000000 / 3600 * 60 + n.natAbs / 1000000 / 60 % 60) * 60000000)
        (by omega)
      rw [Nat.cast_mul] at size
      exact size
  · let distance : Clock := ⟨n.natAbs / 1000000 / 3600, n.natAbs / 1000000 / 60 % 60,
      n.natAbs / 1000000 % 60, n.natAbs % 1000000, by omega, by omega, by omega, by omega⟩
    have size : distance.microseconds = n.natAbs := by
      simp only [Clock.microseconds, distance]
      omega
    rw [if_neg minutes]
    exact .exact (decide (n < 0)) (c := distance) (o := ⟨n, small⟩) (by omega) (signed _ size)

/-- The text of a date-time is read as the date-time, unless its offset is shorter than a second. -/
theorem readDateTime_isoText {t : DateTime} (readable : ∀ o ∈ t.offset, o.IsReadable) :
    readDateTime (String.ofList t.isoText) = .ok t := by
  obtain ⟨d, c, offset⟩ := t
  rw [DateTime.isoText_eq]
  cases offset with
  | none => exact ShowsOffset.none.readDateTime_eq d c
  | some o => exact (readable o rfl).showsOffset_isoText.readDateTime_eq d c

/-- An offset behind a time of day is not read as less than a second. -/
private theorem readable_of_readClockAndOffset? {bytes : List Nat} {parts : ClockParts} {n : Int}
    (read : readClockAndOffset? bytes = some (parts, some n)) : n = 0 ∨ 1000000 ≤ n.natAbs := by
  unfold readClockAndOffset? at read
  simp only [Option.bind_eq_bind, Option.bind_eq_some_iff] at read
  obtain ⟨c, -, read⟩ := read
  split at read
  · split at read <;> simp at read
  · split at read
    · obtain ⟨-, rfl⟩ : c = parts ∧ 0 = n := by simpa using read
      exact .inl rfl
    · simp at read
  · obtain ⟨distance, -, read⟩ := Option.bind_eq_some_iff.1 read
    split at read
    · simp at read
    · simp only [Option.pure_def, Option.some.injEq, Prod.mk.injEq] at read
      obtain ⟨-, rfl⟩ := read
      split_ifs <;> omega

/-- No offset of less than a second is read. -/
theorem isReadable_of_readDateTime {s : String} {t : DateTime} (read : readDateTime s = .ok t) :
    ∀ o ∈ t.offset, o.IsReadable := by
  unfold readDateTime at read
  split at read
  · cases read
  split at read
  · cases read
  rename_i civil parts offset moment
  cases offset with
  | none =>
    obtain ⟨zone, none, read⟩ := bind_eq_ok.1 read
    obtain ⟨d, -, read⟩ := bind_eq_ok.1 read
    obtain ⟨c, -, read⟩ := bind_eq_ok.1 read
    obtain rfl := Except.ok.inj none
    obtain rfl := Except.ok.inj read
    rintro o ⟨⟩
  | some n =>
    have readable : n = 0 ∨ 1000000 ≤ n.natAbs := by
      unfold readMoment? at moment
      simp only [Option.bind_eq_bind, Option.bind_eq_some_iff] at moment
      obtain ⟨length, -, civil', -, moment⟩ := moment
      split at moment
      · simp at moment
      · obtain ⟨⟨c, zone⟩, shown, moment⟩ := Option.bind_eq_some_iff.1 moment
        obtain ⟨-, rfl, rfl⟩ : civil' = civil ∧ c = parts ∧ zone = some n := by simpa using moment
        exact readable_of_readClockAndOffset? shown
    obtain ⟨zone, made, read⟩ := bind_eq_ok.1 read
    obtain ⟨d, -, read⟩ := bind_eq_ok.1 read
    obtain ⟨c, -, read⟩ := bind_eq_ok.1 read
    obtain rfl := Except.ok.inj read
    rintro o ⟨⟩
    obtain ⟨_, made, ⟨⟩⟩ := map_eq_ok.1 made
    rw [← toOption_eq_some, toOption_mapError, toOption_eq_some] at made
    unfold Offset.make at made
    split at made
    · obtain rfl := Except.ok.inj made
      exact readable
    · cases made

end FlatRecord.Calendar
