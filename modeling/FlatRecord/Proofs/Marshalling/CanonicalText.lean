import FlatRecord.Proofs.Marshalling.ShownValues
import FlatRecord.Proofs.Rendering.Refinement

/-!
# Canonical text converted back

The canonical text of a value, as XML documents show it, converts to the value again. Only decimals lose
something: their digits are written out without an exponent, so what they convert to has the same value but
maybe another exponent.
-/

namespace FlatRecord

open FlatRecord.Calendar FlatRecord.Number FlatRecord.Text

/-- The text of an integer holds no blanks. -/
theorem Number.trimmed_integerText (n : Int) :
    trimmed (String.ofList (integerText n)) = String.ofList (integerText n) := by
  rw [trimmed, String.toList_ofList, trim_eq fun c mem => (inNumber_integerText n c mem).plain.1]

/-- The text of a finite double precision number holds no blanks and is read as the number. -/
private theorem Number.readFloat?_floatText {x : Binary64} (finite : x.isFinite) :
    trim (floatText x) = floatText x ∧ readFloat? (floatText x) = some x := by
  cases x with
  | finite negative m e canonical =>
    obtain ⟨p, plain, -, -, text, value⟩ := magnitudeText_parts .plain m e
    have layout : floatText (.finite negative m e canonical) =
        Decimal.withSign negative (p.text 'e') := by
      rw [← text]
      rfl
    rw [layout]
    refine ⟨trim_eq fun c mem => (plain.inNumber (.inl rfl) negative c mem).plain.1, ?_⟩
    rw [plain.readFloat?_text (.inl rfl), value, ofScaled_shortestDigits_signed negative canonical]
  | _ => cases finite

namespace Carrier

theorem toInteger_integerText {n : Int} (short : (naturalText n.natAbs).length ≤ maxIntegerDigits) :
    toInteger (.text (String.ofList (integerText n))) = .ok (.int n) := by
  simp only [toInteger, trimmed_integerText, String.toList_ofList, readInteger_integerText short]
  rfl

/-- A double precision number has a text of its own, the non-number and the infinities included. -/
theorem toFloat_floatForm (x : Binary64) :
    toFloat (.text (String.ofList (Xml.floatForm x))) = .ok (.float x) := by
  cases x with
  | nan => with_unfolding_all rfl
  | infinite negative => cases negative <;> with_unfolding_all rfl
  | finite negative m e canonical =>
    obtain ⟨trims, read⟩ := readFloat?_floatText (x := .finite negative m e canonical) rfl
    simp only [toFloat, Xml.floatForm, trimmed, String.toList_ofList, trims, read]

theorem toBoolean_canonicalText (b : Bool) :
    toBoolean (.text (String.ofList (Datum.bool b).canonicalText)) = .ok (.bool b) := by
  cases b <;> with_unfolding_all rfl

theorem toDateTime_isoText {t : DateTime} (readable : ∀ o ∈ t.offset, o.IsReadable) :
    toDateTime (.text (String.ofList t.isoText)) = .ok (.dateTime t) := by
  simp only [toDateTime, (isCalendarText_dateTime t).trimmed_eq, readDateTime_isoText readable]
  rfl

/-- A decimal with its digits written out converts to a decimal of the same value. -/
theorem toDecimal_plainText {d : Decimal} (within : d.InRange) : ∃ e : Decimal,
    toDecimal (.text (String.ofList d.plainText)) = .ok (.decimal e) ∧ e.isFinite ∧
      e.value = d.value := by
  obtain ⟨e, read, finite, same⟩ := Decimal.read_plainText within
  refine ⟨e, ?_, finite, same⟩
  simp only [toDecimal, String.toList_ofList, decimalOf, read]
  exact if_pos finite

end Carrier

/-- A date-time that conversion gives has no offset of less than a second. -/
theorem Kind.Gives.isReadable {kind : Kind} {t : DateTime} (gives : kind.Gives (.dateTime t)) :
    ∀ o ∈ t.offset, o.IsReadable := by
  have carried := gives.holds.carried
  obtain ⟨⟨u, converted⟩, -⟩ := gives.exists_converted
  cases carrier : kind.carrier <;> rw [carrier] at carried converted <;>
    first | exact absurd carried id | skip
  cases u <;> simp only [Carrier.coerce, Carrier.toDateTime, reduceCtorEq] at converted
  obtain ⟨given, read, same⟩ := map_mapError_eq_ok converted
  obtain rfl := Datum.dateTime.inj same
  exact isReadable_of_readDateTime read

/-- A value restores another one if it is that value or, for a decimal, a finite decimal of its number. -/
def Datum.Restores : Datum → Datum → Prop
  | .decimal e, .decimal d => e.isFinite ∧ e.value = d.value
  | w, v => w = v

/-- A text of digits with at most a point and a sign. -/
def IsPlainDecimal (text : List Char) : Prop := ∀ c ∈ text, c.isDigit ∨ c = '.' ∨ c = '-'

/-- The canonical text of a value converts to a value that restores it. -/
theorem Kind.Gives.exists_coerce_canonicalText {kind : Kind} {v : Datum} (gives : kind.Gives v) :
    ∃ w, kind.carrier.coerce (.text (String.ofList v.canonicalText)) = .ok w ∧ w.Restores v := by
  have carried := gives.holds.carried
  cases carrier : kind.carrier <;> rw [carrier] at carried <;> cases v <;>
    (try exact carried.elim)
  all_goals simp only [Carrier.coerce, Datum.canonicalText]
  case text.text s =>
    rw [String.ofList_toList]
    exact ⟨.text s, rfl, rfl⟩
  case integer.int n =>
    rw [Carrier.toInteger_integerText gives.holds.length_naturalText_le]
    exact ⟨.int n, rfl, rfl⟩
  case float.float x => exact ⟨.float x, Carrier.toFloat_floatForm x, rfl⟩
  case boolean.bool b => exact ⟨.bool b, Carrier.toBoolean_canonicalText b, rfl⟩
  case date.date d => exact ⟨.date d, Carrier.toDate_isoText d, rfl⟩
  case dateTime.dateTime t => exact ⟨.dateTime t, Carrier.toDateTime_isoText gives.isReadable, rfl⟩
  case decimal.decimal d =>
    obtain ⟨e, read, restores⟩ := Carrier.toDecimal_plainText gives.inRange
    exact ⟨.decimal e, read, restores⟩

/-- A value that restores another one is within the same bounds. -/
theorem Datum.Restores.checkBounds_eq {kind : Kind} {v w : Datum} (restores : w.Restores v)
    (within : kind.checkBounds v = .ok v) : kind.checkBounds w = .ok w := by
  cases v with
  | decimal d =>
    cases w with
    | decimal e =>
      unfold Kind.checkBounds
      split
      · contradiction
      · rfl
    | _ => cases restores
  | _ =>
    cases w <;> cases restores
    exact within

/-- Every value that conversion to a kind gives has a canonical text, if it is not a text with characters
that cannot stand in a document, and the text converts to the kind again, to the same value. Of a decimal,
the text shows the digits without an exponent, and what it converts to is the same number. -/
theorem Kind.coerce_valueText {kind : Kind} {v : Datum} (gives : kind.Gives v)
    (legal : v.isRepresentable) (field : String) :
    ∃ text w, Xml.valueText field v = .ok text ∧
      kind.coerce (.text (String.ofList text)) = .ok w ∧ w.Restores v ∧
      ∀ d, v = .decimal d → IsPlainDecimal text := by
  have shown : Xml.valueText field v = .ok v.canonicalText := by
    rw [Kind.Holds.valueText_eq (.inr gives.holds), legal]
    rfl
  obtain ⟨w, converted, restores⟩ := gives.exists_coerce_canonicalText
  refine ⟨v.canonicalText, w, shown, ?_, restores, ?_⟩
  · rw [Kind.coerce, converted, ok_bind, restores.checkBounds_eq gives.exists_converted.2]
  · rintro d rfl
    exact Decimal.mem_plainText gives.inRange.isFinite

/-- The date-time `2024-02-29T23:59:59.000001-05:30:15.000250`. -/
def Calendar.DateTime.lateOnLeapDay : DateTime :=
  ⟨⟨2024, 2, 29, by decide, by decide, by decide, by decide, by decide, by decide⟩,
    ⟨23, 59, 59, 1, by decide, by decide, by decide, by decide⟩, some ⟨-19815000250, by decide⟩⟩

/-- A date-time is read back with the microseconds of its offset, and minus fifteen hundred, given with
an exponent, without it. -/
theorem Kind.coerce_valueText_moment :
    (∃ text w, Xml.valueText "at" (.dateTime .lateOnLeapDay) = .ok text ∧
      Kind.dateTime.coerce (.text (String.ofList text)) = .ok w ∧
      w.Restores (.dateTime .lateOnLeapDay)) ∧
    ∃ text w, Xml.valueText "amount" (.decimal (.finite true 15 2)) = .ok text ∧
      Kind.decimal.coerce (.text (String.ofList text)) = .ok w ∧
      w.Restores (.decimal (.finite true 15 2)) ∧ IsPlainDecimal text := by
  constructor
  · have gives : Kind.dateTime.Gives (.dateTime .lateOnLeapDay) :=
      ⟨.text "2024-02-29T23:59:59.000001-05:30:15.000250", by with_unfolding_all rfl⟩
    obtain ⟨text, w, shown, converted, restores, -⟩ := Kind.coerce_valueText gives rfl "at"
    exact ⟨text, w, shown, converted, restores⟩
  · have gives : Kind.decimal.Gives (.decimal (.finite true 15 2)) :=
      ⟨.text "-1.5E+3", by with_unfolding_all rfl⟩
    obtain ⟨text, w, shown, converted, restores, plain⟩ :=
      Kind.coerce_valueText gives rfl "amount"
    exact ⟨text, w, shown, converted, restores, plain _ rfl⟩

end FlatRecord
