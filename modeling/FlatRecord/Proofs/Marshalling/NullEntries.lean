import FlatRecord.Proofs.Marshalling.RoundTrip

/-!
# Nulls in JSON documents

A JSON document of a record has null for two sorts of values: for null, and for the numbers that are not
finite. An XML document names such a number, so what it shows of the record is more than what the JSON
document does.
-/

namespace FlatRecord

open FlatRecord.Number

/-- A double precision number that is an infinity or no number. -/
def Datum.IsNonFinite (v : Datum) : Prop := ∃ x, v = .float x ∧ x.isFinite = false

/-- What is shown of a value is null for null and for the numbers that are not finite. -/
theorem JsonDocument.shownScalar_eq_null_iff {v u : Datum} (shown : shown? v = some u) :
    Json.shownScalar u = .null ↔ v = .null ∨ v.IsNonFinite := by
  cases v with
  | null | bool | int | float | text | date | dateTime | decimal =>
    obtain rfl := Option.some.inj shown
    simp [Json.shownScalar, Datum.IsNonFinite]
  | bytes | list | map | set =>
    simp only [shown?, Option.map_eq_some_iff] at shown
    obtain ⟨parts, -, rfl⟩ := shown
    simp [Json.shownScalar, Datum.IsNonFinite]

/-- The names of the numbers that are not finite, as XML documents show them. -/
theorem Datum.IsNonFinite.valueText_mem {v : Datum} (special : v.IsNonFinite) (field : String) :
    ∃ name ∈ ["NaN", "INF", "-INF"], Xml.valueText field v = .ok name.toList := by
  obtain ⟨x, rfl, infinite⟩ := special
  cases x with
  | nan => exact ⟨"NaN", by decide, rfl⟩
  | infinite negative =>
    cases negative with
    | false => exact ⟨"INF", by decide, rfl⟩
    | true => exact ⟨"-INF", by decide, rfl⟩
  | finite => cases infinite

/-- A descriptor of readings, whose level may be no number. -/
def Descriptor.reading : Descriptor where
  typeName := "Reading"
  space := "lab"
  fields := [⟨"level", "double", false, .null⟩, ⟨"note", "string", false, .null⟩]
  description := none

/-- A document for a reading whose level is no number. -/
def Descriptor.readingEntries : Document := [(.text "level", .text " NaN ")]

theorem Descriptor.validate_reading : Descriptor.reading.submission.validate = .ok .reading := by
  with_unfolding_all rfl

namespace Artifact

/-- A reading to which the document has been bound. -/
private theorem exists_populates_reading : ∃ a,
    Cache.build 0 "" Descriptor.reading.qualifiedName Descriptor.reading.moduleText = .ok a ∧
      a.Implements .reading ∧
      a.Populates (Descriptor.reading.holding a.serial 0 Descriptor.readingEntries) := by
  have builds := (Submission.validate_eq_ok Descriptor.validate_reading).1.exists_build
    ⟨⟨by decide, by decide⟩, by decide⟩ (by decide) (by decide) (by decide +kernel) 0 ""
  exact exists_populates Descriptor.validate_reading builds (by decide) (by with_unfolding_all decide) _

/-- Every populated instance of the class of an accepted descriptor has a JSON document, which is an object
with an entry for each field. The entry of a field is null exactly if the value of the field is null or a
number that is not finite. Such a number is lost: the XML document shows its name. -/
theorem field?_marshal_json_eq_null_iff {s : Submission} {d : Descriptor} {source : String}
    (valid : s.validate = .ok d) (rendered : s.source = .ok source) {serial : Nat} {hash : String}
    {a : Artifact} (built : Cache.build serial hash d.qualifiedName source = .ok a) {i : Instance}
    (populated : a.Populates i) (pretty : Bool) :
    ∃ text entries, i.marshal .json pretty = .ok text ∧ Json.read text = .ok (.map entries) ∧
      entries.map Prod.fst = d.fields.map (fun f => .text f.name) ∧
      ∀ f ∈ d.fields, ∃ v shown, i.get f.getterName = .ok v ∧
        Datum.field? entries f.name = some shown ∧ (shown = .null ↔ v = .null ∨ v.IsNonFinite) ∧
        (v.IsNonFinite →
          ∃ name ∈ ["NaN", "INF", "-INF"], Xml.valueText f.name v = .ok name.toList) := by
  have implements := implements_of_build valid rendered built
  have known := implements.valid
  obtain ⟨document, holds⟩ := implements.exists_holding populated
  obtain ⟨text, marshalled, read⟩ := known.exists_marshal_json document a.serial i.identity pretty
  rw [← holds] at marshalled
  refine ⟨text, _, marshalled, read, by rw [List.map_map]; rfl, fun f mem => ?_⟩
  have entry : Datum.field?
      (d.fields.map fun g => (.text g.name, Json.shownScalar (g.shown document))) f.name =
        some (Json.shownScalar (f.shown document)) := Datum.field?_map known.nodup_name mem
  refine ⟨f.value document, _, ?_, entry, ?_, fun special => special.valueText_mem f.name⟩
  · rw [holds]
    exact implements.get_holding mem a.serial i.identity document
  · exact JsonDocument.shownScalar_eq_null_iff
      (FieldSpec.shown?_value (known.fields f mem) document).1

/-- The level of a reading is no number and its note is null. The document shows both as null. -/
theorem field?_marshal_json_reading : ∃ a, Cache.build 0 "" Descriptor.reading.qualifiedName
    Descriptor.reading.moduleText = .ok a ∧ ∃ i text entries, a.Populates i ∧
      i.marshal .json true = .ok text ∧ Json.read text = .ok (.map entries) ∧
      Datum.field? entries "level" = some .null ∧ Datum.field? entries "note" = some .null := by
  have valid := Descriptor.validate_reading
  obtain ⟨a, built, implements, populated⟩ := exists_populates_reading
  obtain ⟨text, entries, marshalled, read, -, each⟩ := field?_marshal_json_eq_null_iff valid
    (Submission.source_of_validate valid) built populated true
  have level : Descriptor.reading.fields[0] ∈ Descriptor.reading.fields := List.getElem_mem _
  have note : Descriptor.reading.fields[1] ∈ Descriptor.reading.fields := List.getElem_mem _
  obtain ⟨v, shown, got, found, null, -⟩ := each _ level
  obtain ⟨w, shown', got', found', null', -⟩ := each _ note
  obtain rfl : .float .nan = v :=
    Except.ok.inj ((implements.get_holding level _ _ _).symm.trans got)
  obtain rfl : .null = w := Except.ok.inj ((implements.get_holding note _ _ _).symm.trans got')
  obtain rfl := null.2 (.inr ⟨_, rfl, rfl⟩)
  obtain rfl := null'.2 (.inl rfl)
  exact ⟨a, built, _, text, entries, populated, marshalled, read, found, found'⟩

/-- A value that is not null, and that XML shows, is null in JSON. -/
theorem marshal_json_loses_number : Descriptor.reading.submission.validate = .ok .reading ∧
    ∃ a, Cache.build 0 "" Descriptor.reading.qualifiedName Descriptor.reading.moduleText = .ok a ∧
    ∃ i text entries, a.Populates i ∧ i.get "getLevel" = .ok (.float .nan) ∧
      i.marshal .xml false = .ok "<Reading><level>NaN</level><note /></Reading>" ∧
      i.marshal .json false = .ok text ∧ Json.read text = .ok (.map entries) ∧
      Datum.field? entries "level" = some .null := by
  obtain ⟨a, built, implements, populated⟩ := exists_populates_reading
  have level : Descriptor.reading.fields[0] ∈ Descriptor.reading.fields := List.getElem_mem _
  obtain ⟨text, marshalled, read⟩ :=
    implements.valid.exists_marshal_json Descriptor.readingEntries a.serial 0 false
  refine ⟨Descriptor.validate_reading, a, built, _, text, _, populated,
    implements.get_holding level _ _ _, ?_, marshalled, read, by with_unfolding_all rfl⟩
  rw [Instance.marshal, implements.valid.document_eq_interpret rfl rfl]
  with_unfolding_all rfl

end Artifact

end FlatRecord
