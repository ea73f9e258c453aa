import FlatRecord.Marshalling
import FlatRecord.Proofs.Marshalling.ShownValues
import FlatRecord.Proofs.Rendering.Populated

/-!
# JSON documents bound back

The JSON document of a record is an object with an entry for each field. Bound to a new record of the same
class it gives every field the value that the first record has, if the document shows that value in full.
-/

namespace FlatRecord

variable {d : Descriptor}

/-- What a JSON document shows of the value of a field. -/
def FieldSpec.shown (f : FieldSpec) (document : Document) : Datum :=
  (JsonDocument.shown? (f.value document)).getD .null

namespace FieldSpec

variable {f : FieldSpec} (valid : f.IsValid) (document : Document)
include valid

theorem shown?_value : JsonDocument.shown? (f.value document) = some (f.shown document) ∧
    Json.IsScalar (f.shown document) := by
  obtain null | holds := valid.value_holds document
  · rw [shown, null]
    exact ⟨rfl, trivial⟩
  · obtain ⟨u, same, scalar⟩ := holds.exists_shown
    rw [shown, same]
    exact ⟨rfl, scalar⟩

end FieldSpec

namespace Descriptor

/-- What the JSON document of a record shows: the names of the fields, in order, with what is shown of their
values. -/
def shown (d : Descriptor) (document : Document) : List (String × Datum) :=
  d.fields.map fun f => (f.name, f.shown document)

variable (valid : d.IsValid) (document : Document)
include valid

theorem IsValid.entry_fieldOf {f : FieldSpec} (mem : f ∈ d.fields) (serial identity : Nat) :
    JsonDocument.entry (d.holding serial identity document) (Generation.fieldOf f.planned) =
      .ok (.text f.name, f.shown document) := by
  have held : (d.holding serial identity document).values.lookup (Generation.fieldOf f.planned).attr =
      some (f.value document) := valid.lookup_held mem document
  have shown := (FieldSpec.shown?_value (valid.fields f mem) document).1
  unfold JsonDocument.entry
  rw [held, Option.getD_some, shown]
  rfl

/-- The JSON document of a record is read as what it shows. -/
theorem IsValid.exists_marshal_json (serial identity : Nat) (pretty : Bool) : ∃ text,
    (d.holding serial identity document).marshal .json pretty = .ok text ∧
      Json.read text =
        .ok (.map (d.fields.map fun f => (.text f.name, Json.shownScalar (f.shown document)))) := by
  have entries : (d.holding serial identity document).record.fields.mapM
      (JsonDocument.entry (d.holding serial identity document)) =
        .ok ((d.shown document).map fun e => (.text e.1, e.2)) := by
    show ((d.fields.map FieldSpec.planned).map Generation.fieldOf).mapM _ = _
    rw [List.map_map, shown, List.map_map]
    exact mapM_map_eq_pure fun f mem => valid.entry_fieldOf document mem serial identity
  have scalars : ∀ e ∈ d.shown document, Json.IsScalar e.2 :=
    List.forall_mem_map.2 fun f mem => (FieldSpec.shown?_value (valid.fields f mem) document).2
  have distinct : ((d.shown document).map Prod.fst).Nodup := by
    rw [shown, List.map_map]
    exact valid.nodup_name
  obtain ⟨cs, written, read⟩ := Json.read_write_map scalars distinct
    (if pretty then .indented else .compact)
  refine ⟨String.ofList cs, ?_, ?_⟩
  · show JsonDocument.document pretty (d.holding serial identity document) = _
    unfold JsonDocument.document
    rw [entries, ok_bind]
    dsimp only
    rw [written]
    rfl
  · rw [read, shown, List.map_map]
    rfl

end Descriptor

end FlatRecord
