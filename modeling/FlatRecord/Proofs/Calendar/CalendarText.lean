import FlatRecord.Calendar.Iso
import FlatRecord.Proofs.Number.NumberParts

/-!
# Text of dates and times

The characters of which dates and times are written are ASCII and none is a blank, so a reader meets their
codes, digit by digit. Numbers are padded to the width of their place.
-/

namespace FlatRecord.Calendar

open FlatRecord.Number FlatRecord.Text

/-- The bytes of a byte array from some place on. -/
private theorem toList_loop (bytes : ByteArray) (i : Nat) (done : List UInt8) :
    ByteArray.toList.loop bytes i done = done.reverse ++ bytes.data.toList.drop i := by
  fun_induction ByteArray.toList.loop bytes i done with
  | case1 i done within ih =>
    have length : i < bytes.data.size := within
    have byte : bytes.get! i = bytes.data.toList[i] := by
      rw [Array.getElem_toList]
      exact getElem!_pos bytes.data i length
    have onward : bytes.data.toList.drop i = bytes.data.toList[i] :: bytes.data.toList.drop (i + 1) :=
      List.drop_eq_getElem_cons length
    rw [ih, List.reverse_cons, List.append_assoc, List.singleton_append, byte, onward]
  | case2 i done behind =>
    have length : bytes.data.toList.length ≤ i := Nat.le_of_not_lt behind
    rw [List.drop_eq_nil_of_le length, List.append_nil]

/-- The bytes of an ASCII text are the codes of its characters. -/
theorem textBytes_ofList {cs : List Char} (ascii : ∀ c ∈ cs, c.toNat < 0x80) :
    textBytes (String.ofList cs) = cs.map Char.toNat := by
  have whole : (String.ofList cs).toUTF8.toList = cs.flatMap String.utf8EncodeChar := by
    rw [ByteArray.toList, toList_loop, List.reverse_nil, List.nil_append, List.drop_zero]
    show (String.ofList cs).toByteArray.data.toList = _
    rw [String.toByteArray_ofList, List.utf8Encode, List.toList_data_toByteArray]
  rw [textBytes, whole]
  clear whole
  induction cs with
  | nil => rfl
  | cons c cs ih =>
    obtain ⟨first, others⟩ := List.forall_mem_cons.1 ascii
    have size : c.utf8Size = 1 := by
      have small : c.val ≤ 0x7f := by
        rw [UInt32.le_iff_toNat_le]
        exact Nat.le_of_lt_succ first
      simp [Char.utf8Size, small]
    have byte : c.val.toUInt8.toNat = c.toNat := by
      rw [UInt32.toNat_toUInt8]
      exact Nat.mod_eq_of_lt (Nat.lt_trans first (by decide))
    rw [List.flatMap_cons, List.map_append, ih others, String.utf8EncodeChar_eq_singleton size,
      List.map_singleton, byte, List.map_cons, List.singleton_append]

/-- The code of a digit is the byte of one. -/
theorem isDigitByte_toNat {c : Char} (digit : c.isDigit) : isDigitByte c.toNat = true := by
  simpa [isDigitByte, Char.isDigit, UInt32.le_iff_toNat_le] using digit

section Padded

variable {width n : Nat}

theorem isDigits_paddedNumber (width n : Nat) : IsDigits (paddedNumber width n) :=
  (IsDigits.replicate_zero _).append (.naturalText n)

theorem textNumber_paddedNumber (width n : Nat) : textNumber (paddedNumber width n) = n := by
  rw [paddedNumber, textNumber_append, textNumber_zeros, Nat.zero_mul, Nat.zero_add,
    textNumber_naturalText]

theorem length_paddedNumber (positive : 0 < width) (small : n < 10 ^ width) :
    (paddedNumber width n).length = width := by
  have few : (naturalText n).length ≤ width :=
    (Nat.length_toDigits_le_iff (by decide) positive).2 small
  rw [paddedNumber, List.length_append, List.length_replicate]
  omega

end Padded

/-- The parts of a date make the date. -/
theorem Date.make_eq_ok (d : Date) : Date.make d.year d.month d.day = .ok d := by
  obtain ⟨year, month, day, y, y', m, m', d, d'⟩ := d
  simp only [Date.make, Int.toNat_natCast]
  rw [dif_pos ⟨y, y'⟩, dif_pos ⟨m, m'⟩, dif_pos ⟨d, d'⟩]

theorem Date.day_lt (d : Date) : d.day < 100 := by
  have days : d.day ≤ 31 := by
    refine d.day_le.trans ?_
    unfold daysInMonth
    split_ifs <;> decide
  omega

/-- The parts of a time of day make the time of day. -/
theorem Clock.make_eq_ok (c : Clock) :
    Clock.make c.hour c.minute c.second c.microsecond = .ok c := by
  obtain ⟨hour, minute, second, microsecond, h, m, s, u⟩ := c
  simp only [Clock.make]
  rw [dif_pos h, dif_pos m, dif_pos s]
  simp only [Nat.mod_eq_of_lt u]

/-- Whether an offset is a whole number of minutes. -/
def Offset.isMinutes (o : Offset) : Bool := o.microseconds % 60000000 = 0

/-- Whether a date-time has no offset, or one that is a whole number of minutes. -/
def DateTime.hasMinuteOffset (t : DateTime) : Bool := t.offset.all Offset.isMinutes

/-- The parts of the text of a date-time. -/
theorem DateTime.isoText_eq (t : DateTime) : t.isoText = t.date.isoText ++ 'T' ::
    (t.clock.isoText ++ t.offset.elim [] Offset.isoText) := by
  rw [DateTime.isoText, DateTime.textWith]
  cases t.offset <;> rfl

/-- The characters of a text are those of dates and times. -/
def IsCalendarText (cs : List Char) : Prop :=
  ∀ c ∈ cs, c.isDigit ∨ c ∈ ['-', ':', '.', '+', 'T', 'Z']

namespace IsCalendarText

variable {cs ds : List Char}

theorem of_isDigits (digits : IsDigits cs) : IsCalendarText cs := fun c mem => .inl (digits c mem)

theorem append (first : IsCalendarText cs) (second : IsCalendarText ds) : IsCalendarText (cs ++ ds) :=
  List.forall_mem_append.2 ⟨first, second⟩

theorem cons {c : Char} (first : c ∈ ['-', ':', '.', '+', 'T', 'Z']) (second : IsCalendarText cs) :
    IsCalendarText (c :: cs) :=
  List.forall_mem_cons.2 ⟨.inr first, second⟩

theorem padded (width n : Nat) : IsCalendarText (paddedNumber width n) :=
  of_isDigits (isDigits_paddedNumber width n)

/-- Two numbers with a mark between them. -/
theorem pair {c : Char} (mark : c ∈ ['-', ':', '.', '+', 'T', 'Z']) (first second : Nat)
    (text : IsCalendarText cs) :
    IsCalendarText (paddedNumber 2 first ++ c :: (paddedNumber 2 second ++ cs)) :=
  (padded 2 first).append (.cons mark ((padded 2 second).append text))

/-- The characters are ASCII, and none is a blank. -/
private theorem plain (text : IsCalendarText cs) {c : Char} (mem : c ∈ cs) :
    isBlank c = false ∧ c.toNat < 0x80 := by
  obtain digit | mark := text c mem
  · obtain ⟨blank, -, -, ascii⟩ := InNumber.plain (.inl digit)
    exact ⟨blank, ascii⟩
  · simp only [List.mem_cons, List.not_mem_nil, or_false] at mark
    obtain rfl | rfl | rfl | rfl | rfl | rfl := mark <;> decide

/-- The bytes of the text are the codes of its characters. -/
theorem textBytes_eq (text : IsCalendarText cs) : textBytes (String.ofList cs) = cs.map Char.toNat :=
  textBytes_ofList fun _ mem => (text.plain mem).2

/-- Trimming leaves the text alone. -/
theorem trimmed_eq (text : IsCalendarText cs) : trimmed (String.ofList cs) = String.ofList cs := by
  rw [trimmed, String.toList_ofList, trim_eq fun _ mem => (text.plain mem).1]

end IsCalendarText

theorem isCalendarText_fraction (n : Nat) : IsCalendarText (fractionText n) := by
  unfold fractionText
  split
  · exact List.forall_mem_nil _
  · exact .cons (by decide) (.padded 6 n)

theorem isCalendarText_date (d : Date) : IsCalendarText d.isoText :=
  (IsCalendarText.padded 4 d.year).append (.cons (by decide)
    ((IsCalendarText.padded 2 d.month).append (.cons (by decide) (.padded 2 d.day))))

theorem isCalendarText_clock (c : Clock) : IsCalendarText c.isoText :=
  (IsCalendarText.padded 2 _).append (.cons (by decide)
    (.pair (by decide) _ _ (isCalendarText_fraction _)))

theorem isCalendarText_offset (o : Offset) : IsCalendarText o.isoText := by
  unfold Offset.isoText
  refine .cons (by split <;> decide) (.pair (by decide) _ _ ?_)
  split
  · exact List.forall_mem_nil _
  · exact .cons (by decide) ((IsCalendarText.padded 2 _).append (isCalendarText_fraction _))

/-- A date, a time of day and what shows the offset are text of dates and times. -/
theorem isCalendarText_moment (d : Date) (c : Clock) {zone : List Char} (text : IsCalendarText zone) :
    IsCalendarText (d.isoText ++ 'T' :: (c.isoText ++ zone)) :=
  (isCalendarText_date d).append (.cons (by decide) ((isCalendarText_clock c).append text))

theorem isCalendarText_dateTime (t : DateTime) : IsCalendarText t.isoText := by
  rw [t.isoText_eq]
  refine isCalendarText_moment t.date t.clock ?_
  cases t.offset with
  | none => exact List.forall_mem_nil _
  | some o => exact isCalendarText_offset o

end FlatRecord.Calendar
