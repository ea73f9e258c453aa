import FlatRecord.Proofs.Datum.TextKeys
import FlatRecord.Proofs.Json.JsonForms
import FlatRecord.Proofs.Json.WrittenData

/-!
# Objects in JSON text

The document of a mapping from texts to scalars is read as the mapping, in either layout, but for the
numbers that are not finite: a document has null in place of those.
-/

namespace FlatRecord.Json

open FlatRecord.Number FlatRecord.Text

/-- Whether a value is a scalar of JSON. Integers must not have too many digits to be read. -/
def IsScalar : Datum → Prop
  | .null | .bool _ | .float _ | .text _ => True
  | .int n => (naturalText n.natAbs).length ≤ maxIntegerDigits
  | _ => False

theorem IsScalar.hasJsonForm {v : Datum} (scalar : IsScalar v) : v.hasJsonForm = true := by
  cases v with
  | null | bool | int | float | text => rfl
  | _ => exact scalar.elim

/-- The text of a scalar means what a document shows of it. -/
theorem IsScalar.meaning_eq {v : Datum} (scalar : IsScalar v) : meaning v = .ok (shownScalar v) := by
  cases v with
  | null | bool | float | text => rfl
  | int n => exact if_neg (Nat.not_lt.2 scalar)
  | _ => exact scalar.elim

/-- The entries of a mapping from texts to scalars mean that their values are put in order. -/
private theorem entriesMeaning_eq {es : List (String × Datum)} (scalars : ∀ e ∈ es, IsScalar e.2)
    (read : List (Datum × Datum)) :
    entriesMeaning (es.map fun e => (.text e.1, e.2)) read =
      .ok ((es.map fun e => (Datum.text e.1, shownScalar e.2)).foldl
        (fun read e => Datum.put e.1 e.2 read) read) := by
  induction es generalizing read with
  | nil => rfl
  | cons e es ih =>
    obtain ⟨first, others⟩ := List.forall_mem_cons.1 scalars
    rw [List.map_cons, entriesMeaning, first.meaning_eq, ok_bind, ih others]
    rfl

private theorem entriesHaveJsonForm_eq {es : List (String × Datum)} (scalars : ∀ e ∈ es, IsScalar e.2) :
    Datum.entriesHaveJsonForm (es.map fun e => (.text e.1, e.2)) = true := by
  induction es with
  | nil => rfl
  | cons e es ih =>
    obtain ⟨first, others⟩ := List.forall_mem_cons.1 scalars
    rw [List.map_cons, Datum.entriesHaveJsonForm, first.hasJsonForm, ih others]
    rfl

/-- The document of a mapping from texts to scalars is read as the mapping with the scalars that it
shows. -/
theorem read_write_map {es : List (String × Datum)} (scalars : ∀ e ∈ es, IsScalar e.2)
    (distinct : (es.map Prod.fst).Nodup) (layout : Layout) : ∃ cs,
      write (.document layout) 0 (.map (es.map fun e => (.text e.1, e.2))) = .ok cs ∧
        read (String.ofList cs) = .ok (.map (es.map fun e => (.text e.1, shownScalar e.2))) := by
  have form : (Datum.map (es.map fun e => (.text e.1, e.2))).hasJsonForm = true :=
    entriesHaveJsonForm_eq scalars
  rw [← isSome_write (.document layout) 0, ← exists_ok_iff_isSome] at form
  obtain ⟨cs, written⟩ := form
  refine ⟨cs, written, ?_⟩
  have put : (es.map fun e => (Datum.text e.1, shownScalar e.2)).foldl
      (fun es e => Datum.put e.1 e.2 es) [] =
        [] ++ es.map fun e => (.text e.1, shownScalar e.2) :=
    Datum.foldl_put_map distinct (by simp)
  have means := entriesMeaning_eq scalars []
  rw [put, List.nil_append] at means
  obtain ⟨entries, meant, same⟩ | ⟨cause, position, fails, -, -⟩ := read_write_entries written
  · rw [same, ← Except.ok.inj (means.symm.trans meant)]
  · cases means.symm.trans fails

end FlatRecord.Json
