import FlatRecord.Marshalling.JsonDocument
import FlatRecord.Proofs.Calendar.IsoText
import FlatRecord.Proofs.Json.Objects
import FlatRecord.Proofs.Scalar.Coerced

/-!
# Shown values converted back

What the JSON document of a record shows of a value converts to the value again. Two sorts of values are
not shown in full: null stands in place of a number that is not finite, and the seconds of an offset are
left out.
-/

namespace FlatRecord

open FlatRecord.Calendar FlatRecord.Number

namespace JsonDocument

variable {t : DateTime} (minutes : t.hasMinuteOffset)
include minutes

end JsonDocument

/-- A value of a kind is shown as a scalar. -/
theorem Kind.Holds.exists_shown {kind : Kind} {v : Datum} (holds : kind.Holds v) :
    ∃ u, JsonDocument.shown? v = some u ∧ Json.IsScalar u := by
  have carried := holds.carried
  cases v with
  | int n => exact ⟨_, rfl, holds.length_naturalText_le⟩
  | null | bool | float | text | date | dateTime | decimal => exact ⟨_, rfl, trivial⟩
  | bytes | list | map | set => cases carrier : kind.carrier <;> rw [carrier] at carried <;> cases carried

namespace Carrier

theorem toDate_isoText (d : Date) : toDate (.text (String.ofList d.isoText)) = .ok (.date d) := by
  simp only [toDate, (isCalendarText_date d).trimmed_eq, readDate_isoText]
  rfl

end Carrier

end FlatRecord
