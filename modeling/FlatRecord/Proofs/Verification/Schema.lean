import FlatRecord.Proofs.Datum.TextKeys
import FlatRecord.Proofs.Rendering.Bound
import FlatRecord.Verification

/-!
# Schemas of generated classes

The schema of a generated class is valid, whatever the names, the description and the defaults of the
descriptor are: it has a title, the properties in the order of the fields, and a name for the XML
element. The property of a field says which types its values have.
-/

namespace FlatRecord

open FlatRecord.Execution

namespace Metaschema

/-- A mapping is a valid schema if its entries hold what their keywords demand. -/
theorem fault?_schema_eq_none {depth : Nat} {entries : List (Datum × Datum)}
    (valid : ∀ e ∈ entries, ∃ key, e.1 = .text key ∧
      ∀ rule, (key, rule) ∈ keywords → fault? depth rule e.2 = none) :
    fault? (depth + 1) .schema (.map entries) = none := by
  rw [fault?]
  refine List.findSome?_eq_none_iff.2 fun k mem => ?_
  cases found : Datum.field? entries k.1 with
  | none => rfl
  | some v =>
    have among := Datum.mem_of_field? (fun e mem => (valid e mem).imp fun _ h => h.1) found
    obtain ⟨key, named, fits⟩ := valid _ among
    obtain rfl : k.1 = key := by simpa using named
    exact fits k.2 mem

/-- A text is what a keyword for texts demands. -/
theorem fault?_text (depth : Nat) (s : String) : fault? depth .text (.text s) = none := by
  cases depth <;> rfl

/-- The name of a type is what the keyword for types demands. -/
theorem fault?_types (depth : Nat) {name : String} (known : name ∈ typeNames) :
    fault? depth .types (.text name) = none := by
  cases depth with
  | zero => rfl
  | succ depth =>
    have listed : isTypes (.text name) = true := List.contains_iff_mem.2 known
    exact if_pos listed

/-- A schema of one type is valid. -/
theorem fault?_ofType (depth : Nat) {name : String} (known : name ∈ typeNames) :
    fault? depth .schema (Schema.ofType name) = none := by
  cases depth with
  | zero => rfl
  | succ depth =>
    refine fault?_schema_eq_none fun e mem => ?_
    obtain rfl := List.mem_singleton.1 mem
    refine ⟨"type", rfl, fun rule keyword => ?_⟩
    obtain rfl : rule = .types :=
      (by decide : ∀ k ∈ keywords, k.1 = "type" → k.2 = .types) _ keyword rfl
    exact fault?_types depth known

/-- What a choice of types adds to a schema is what the keywords demand. -/
theorem fault?_ofChoices (depth : Nat) {names : List String} (known : ∀ n ∈ names, n ∈ typeNames) :
    ∀ e ∈ Schema.ofChoices (names.map Schema.ofType), ∃ key, e.1 = .text key ∧
      ∀ rule, (key, rule) ∈ keywords → fault? depth rule e.2 = none := by
  match names, known with
  | [], _ => exact fun e mem => absurd mem List.not_mem_nil
  | [name], known =>
    intro e mem
    obtain rfl := List.mem_singleton.1 mem
    refine ⟨"type", rfl, fun rule keyword => ?_⟩
    obtain rfl : rule = .types :=
      (by decide : ∀ k ∈ keywords, k.1 = "type" → k.2 = .types) _ keyword rfl
    exact fault?_types depth (known name (.head _))
  | first :: second :: rest, known =>
    intro e mem
    obtain rfl := List.mem_singleton.1 mem
    refine ⟨"anyOf", rfl, fun rule keyword => ?_⟩
    obtain rfl : rule = .schemas :=
      (by decide : ∀ k ∈ keywords, k.1 = "anyOf" → k.2 = .schemas) _ keyword rfl
    cases depth with
    | zero => rfl
    | succ depth =>
      refine List.findSome?_eq_none_iff.2 fun option among => ?_
      obtain ⟨name, listed, rfl⟩ : ∃ n ∈ first :: second :: rest, Schema.ofType n = option :=
        List.mem_map.1 among
      exact fault?_ofType depth (known name listed)

/-- Entries lie below a mapping that has some. -/
theorem entriesDepth_pos {entries : List (Datum × Datum)} (nonempty : entries ≠ []) :
    0 < entriesDepth entries := by
  match entries, nonempty with
  | (k, v) :: rest, _ =>
    have positive : 0 < depth v := by
      unfold depth
      split <;> exact Nat.succ_pos _
    rw [entriesDepth]
    exact Nat.lt_of_lt_of_le positive (Nat.le_max_left _ _)

end Metaschema

namespace Schema

/-- The schemas of a carrier are those of the types of its kinds. -/
theorem ofCarrier_eq (kind : Kind) :
    ofCarrier kind.carrier = (Verification.kindTypes kind).map ofType := by
  cases kind <;> rfl

/-- A schema of one type names it. -/
theorem types_ofType (depth : Nat) (name : String) : types (depth + 1) (ofType name) = [name] := by
  simp [types, ofType, declaredTypes, chosenTypes]

/-- A schema that chooses between types names them, whatever else it says. -/
theorem types_ofChoices (depth : Nat) (names : List String) {others : List (Datum × Datum)}
    (silent : ∀ key ∈ ["type", "anyOf", "oneOf"], Datum.field? others key = none) :
    types (depth + 2) (.map (ofChoices (names.map ofType) ++ others)) = names := by
  have declared := silent "type" (by decide)
  have chosen := silent "anyOf" (by decide)
  have exclusive := silent "oneOf" (by decide)
  match names with
  | [] => simp [types, ofChoices, declaredTypes, chosenTypes, declared, chosen, exclusive]
  | [name] =>
    simp [types, ofChoices, ofType, declaredTypes, chosenTypes, chosen, exclusive]
  | first :: second :: rest =>
    have each : ((first :: second :: rest).map ofType).flatMap (types (depth + 1)) =
        first :: second :: rest := by
      rw [List.flatMap_map]
      simp [types_ofType]
    have several : ofChoices ((first :: second :: rest).map ofType) =
        [(.text "anyOf", .list ((first :: second :: rest).map ofType))] := rfl
    rw [several, List.singleton_append, types, Datum.field?_cons, Datum.field?_cons,
      Datum.field?_cons, declared, exclusive]
    simpa [declaredTypes, chosenTypes] using each

end Schema

namespace Generation

/-- The names of the types of a field. -/
def typeNames (kind : Kind) (required : Bool) : List String :=
  Verification.kindTypes kind ++ if required then [] else ["null"]

variable (f : FieldPlan)

/-- The property of a field. -/
def propertyOf (f : FieldPlan) : List (Datum × Datum) :=
  Schema.ofChoices ((typeNames f.kind f.required).map Schema.ofType) ++
    [(.text "title", .text f.name), (.text "xml", .map [(.text "name", .text f.name)])]

/-- What a field adds to its schema, as does a class, is the name of its XML element. -/
theorem added_xmlObject (name : String) : Schema.added (some (xmlObject name)) =
    [(.text "xml", .map [(.text "name", .text name)])] := rfl

/-- The schema of the field of a generated class. -/
theorem ofField_fieldOf : Schema.ofField (fieldOf f) = .map (propertyOf f) := by
  have choices : Schema.choices (fieldShape f) = (typeNames f.kind f.required).map Schema.ofType := by
    unfold fieldShape typeNames
    cases f.required with
    | true =>
      show Schema.ofCarrier f.kind.carrier = _
      rw [Schema.ofCarrier_eq]
      simp
    | false =>
      show Schema.ofCarrier f.kind.carrier ++ [Schema.ofType "null"] = _
      rw [Schema.ofCarrier_eq]
      simp
  unfold Schema.ofField
  show Datum.map (Schema.putAll (Schema.ofChoices (Schema.choices (fieldShape f)) ++ _)
    (Schema.added (some (xmlObject f.name)))) = _
  rw [choices, added_xmlObject, Schema.putAll, List.foldl_cons, List.foldl_nil, Datum.put_of_fresh,
    List.append_assoc]
  · rfl
  · obtain ⟨name, kind, required, default⟩ := f
    cases kind <;> cases required <;>
      simp [typeNames, Verification.kindTypes, Schema.ofChoices, Schema.ofType]

/-- The types of a field are types that schemas know. -/
theorem mem_typeNames (kind : Kind) (required : Bool) :
    ∀ n ∈ typeNames kind required, n ∈ Metaschema.typeNames := by
  cases kind <;> cases required <;> decide

/-- The property of a field is a valid schema. -/
theorem fault?_propertyOf (depth : Nat) :
    Metaschema.fault? depth .schema (.map (propertyOf f)) = none := by
  cases depth with
  | zero => rfl
  | succ depth =>
    refine Metaschema.fault?_schema_eq_none fun e mem => ?_
    obtain chosen | rest := List.mem_append.1 mem
    · exact Metaschema.fault?_ofChoices depth (mem_typeNames f.kind f.required) e chosen
    obtain rfl | rest := List.mem_cons.1 rest
    · refine ⟨"title", rfl, fun rule keyword => ?_⟩
      obtain rfl : rule = .text :=
        (by decide : ∀ k ∈ Metaschema.keywords, k.1 = "title" → k.2 = .text) _ keyword rfl
      exact Metaschema.fault?_text depth f.name
    · obtain rfl := List.mem_singleton.1 rest
      refine ⟨"xml", rfl, fun rule keyword => ?_⟩
      exact absurd keyword ((by decide : ∀ k ∈ Metaschema.keywords, k.1 ≠ "xml") _ · rfl)

/-- The property of a field names the types of the field. -/
theorem types_propertyOf :
    Schema.types (Metaschema.depth (.map (propertyOf f)) + 1) (.map (propertyOf f)) =
      typeNames f.kind f.required := by
  have nonempty : propertyOf f ≠ [] := List.append_ne_nil_of_right_ne_nil _ (List.cons_ne_nil _ _)
  have positive := Metaschema.entriesDepth_pos nonempty
  obtain ⟨depth, deep⟩ : ∃ depth, Metaschema.depth (.map (propertyOf f)) + 1 = depth + 2 :=
    ⟨Metaschema.entriesDepth (propertyOf f), by rw [Metaschema.depth]⟩
  rw [deep]
  refine Schema.types_ofChoices depth (typeNames f.kind f.required) fun key among => ?_
  simp only [List.mem_cons, List.not_mem_nil, or_false] at among
  obtain rfl | rfl | rfl := among <;> simp

/-- The property of a field gives the name of its XML element. -/
theorem xmlName_propertyOf : Schema.xmlName (propertyOf f) = .text f.name := by
  have found : Datum.field? (propertyOf f) "xml" = some (.map [(.text "name", .text f.name)]) := by
    obtain ⟨name, kind, required, default⟩ := f
    cases kind <;> cases required <;>
      simp [propertyOf, typeNames, Verification.kindTypes, Schema.ofChoices, Schema.ofType]
  unfold Schema.xmlName
  rw [found]
  simp

end Generation

namespace Descriptor

/-- The properties of a generated class: one for each field, in order. -/
def properties (d : Descriptor) : List (Datum × Datum) :=
  d.fields.map fun f => (.text f.name, .map (Generation.propertyOf f.planned))

/-- The schema of a generated class. -/
def schema (d : Descriptor) : List (Datum × Datum) :=
  (d.record.documentation.toList.map fun s => (Datum.text "description", Datum.text s)) ++
    [(.text "properties", .map d.properties), (.text "title", .text d.typeName),
      (.text "type", .text "object"), (.text "xml", .map [(.text "name", .text d.typeName)])]

/-- The schema of a generated class has a property for each field. -/
theorem IsValid.ofRecord_record {d : Descriptor} (valid : d.IsValid) :
    Schema.ofRecord d.record = d.schema := by
  have properties : Schema.putAll [] (d.record.fields.map fun f =>
      (.text f.documentName, Schema.ofField f)) = d.properties := by
    have made : d.record.fields = (d.fields.map FieldSpec.planned).map Generation.fieldOf := rfl
    have each : (d.record.fields.map fun f => (Datum.text f.documentName, Schema.ofField f)) =
        d.properties := by
      rw [made, List.map_map, List.map_map]
      refine List.map_congr_left fun f _ => ?_
      exact congrArg (Prod.mk (Datum.text f.name)) (Generation.ofField_fieldOf f.planned)
    rw [each]
    exact Datum.foldl_put_map valid.nodup_name nofun
  unfold Schema.ofRecord
  dsimp only
  rw [properties]
  show Schema.putAll _ (Schema.added (some (Generation.xmlObject d.typeName))) = _
  rw [Generation.added_xmlObject, Schema.putAll, List.foldl_cons, List.foldl_nil, Datum.put_of_fresh,
    List.append_assoc]
  · rfl
  · cases d.record.documentation <;> simp

variable (d : Descriptor)

/-- What a key of the schema leads to, unless the key is that of the description. -/
theorem field?_schema {key : String} (other : key ≠ "description") :
    Datum.field? d.schema key = Datum.field?
      [(.text "properties", .map d.properties), (.text "title", .text d.typeName),
        (.text "type", .text "object"), (.text "xml", .map [(.text "name", .text d.typeName)])]
      key := by
  unfold schema
  cases d.record.documentation with
  | none => rfl
  | some text =>
    rw [Option.toList_some, List.map_singleton, List.singleton_append, Datum.field?_cons,
      if_neg other]

/-- The schema of a generated class is valid. -/
theorem schemaFault?_schema : Metaschema.schemaFault? (.map d.schema) = none := by
  refine Metaschema.fault?_schema_eq_none fun e mem => ?_
  generalize Metaschema.depth (.map d.schema) = depth
  obtain described | rest := List.mem_append.1 mem
  · obtain ⟨text, -, rfl⟩ := List.mem_map.1 described
    refine ⟨"description", rfl, fun rule keyword => ?_⟩
    obtain rfl : rule = .text :=
      (by decide : ∀ k ∈ Metaschema.keywords, k.1 = "description" → k.2 = .text) _ keyword rfl
    exact Metaschema.fault?_text depth text
  simp only [List.mem_cons, List.not_mem_nil, or_false] at rest
  obtain rfl | rfl | rfl | rfl := rest
  · refine ⟨"properties", rfl, fun rule keyword => ?_⟩
    obtain rfl : rule = .schemaMap :=
      (by decide : ∀ k ∈ Metaschema.keywords, k.1 = "properties" → k.2 = .schemaMap) _ keyword rfl
    cases depth with
    | zero => rfl
    | succ depth =>
      refine List.findSome?_eq_none_iff.2 fun property among => ?_
      obtain ⟨f, -, rfl⟩ := List.mem_map.1 among
      exact Generation.fault?_propertyOf f.planned depth
  · refine ⟨"title", rfl, fun rule keyword => ?_⟩
    obtain rfl : rule = .text :=
      (by decide : ∀ k ∈ Metaschema.keywords, k.1 = "title" → k.2 = .text) _ keyword rfl
    exact Metaschema.fault?_text depth d.typeName
  · refine ⟨"type", rfl, fun rule keyword => ?_⟩
    obtain rfl : rule = .types :=
      (by decide : ∀ k ∈ Metaschema.keywords, k.1 = "type" → k.2 = .types) _ keyword rfl
    exact Metaschema.fault?_types depth (by decide)
  · refine ⟨"xml", rfl, fun rule keyword => ?_⟩
    exact absurd keyword ((by decide : ∀ k ∈ Metaschema.keywords, k.1 ≠ "xml") _ · rfl)

end Descriptor

end FlatRecord
