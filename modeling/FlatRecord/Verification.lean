import FlatRecord.Cache
import FlatRecord.Descriptor.Basic
import FlatRecord.Verification.Metaschema

/-!
# Verification

A compiled record is compared with the descriptor that it should be the record of, by way of the JSON
schema of the record class: the title, the XML names, the fields in order, and the types of each
field. A report lists the differences.
-/

namespace FlatRecord

open FlatRecord.Execution

namespace Schema

/-- A schema of one type. -/
def ofType (name : String) : Datum := .map [(.text "type", .text name)]

/-- The schema of the values of a carrier. -/
def ofCarrier : Carrier → List Datum
  | .text => [ofType "string"]
  | .integer => [ofType "integer"]
  | .float => [ofType "number"]
  | .boolean => [ofType "boolean"]
  | .date => [ofType "string"]
  | .dateTime => [ofType "string"]
  | .decimal => [ofType "number", ofType "string"]

/-- The schemas one of which holds of the values that a shape accepts; none if all values are
accepted. -/
def choices : Shape → List Datum
  | .anything => []
  | .null => [ofType "null"]
  | .scalar carrier _ => ofCarrier carrier
  | .nullable inner => choices inner ++ [ofType "null"]

/-- The entries of a schema for a choice. -/
def ofChoices : List Datum → List (Datum × Datum)
  | [] => []
  | [.map entries] => entries
  | several => [(.text "anyOf", .list several)]

/-- The entries that are added to a schema. -/
def added (extra : Option Object) : List (Datum × Datum) :=
  match extra.bind Object.datum? with
  | some (.map entries) => entries
  | _ => []

/-- A mapping with entries put into it. -/
def putAll (entries more : List (Datum × Datum)) : List (Datum × Datum) :=
  more.foldl (fun es e => Datum.put e.1 e.2 es) entries

/-- The schema of a field. -/
def ofField (f : Field) : Datum :=
  .map (putAll (ofChoices (choices f.shape) ++ [(.text "title", .text f.documentName)])
    (added f.extra))

/-- The schema of a record class. -/
def ofRecord (c : RecordClass) : List (Datum × Datum) :=
  let properties := putAll [] (c.fields.map fun f => (.text f.documentName, ofField f))
  let documentation := c.documentation.toList.map fun s => (Datum.text "description", Datum.text s)
  putAll (documentation ++ [(.text "properties", .map properties), (.text "title", .text c.title),
    (.text "type", .text "object")]) (added c.extra)

mutual

/-- The types that a schema names, in the schemas that it chooses between as well. -/
def types : Nat → Datum → List String
  | 0, _ => []
  | depth + 1, .map entries =>
    declaredTypes (Datum.field? entries "type") ++
      chosenTypes depth (Datum.field? entries "anyOf") ++
      chosenTypes depth (Datum.field? entries "oneOf")
  | _, _ => []

/-- The types that the schemas of a choice name. -/
def chosenTypes (depth : Nat) (choice : Option Datum) : List String :=
  match choice with
  | some (.list options) => options.flatMap (types depth)
  | _ => []

/-- The types that the keyword for types names. -/
def declaredTypes (declared : Option Datum) : List String :=
  match declared with
  | some (.text s) => [s]
  | some (.list items) => items.filterMap Datum.text?
  | _ => []

end

/-- The XML name that a schema gives; null if it gives none. -/
def xmlName (entries : List (Datum × Datum)) : Datum :=
  match Datum.field? entries "xml" with
  | some (.map binding) => (Datum.field? binding "name").getD .null
  | _ => .null

end Schema

/-- A difference between a descriptor and a compiled record. -/
structure Mismatch where
  path : String
  expected : Datum
  actual : Datum

/-- The differences between a descriptor and a compiled record. -/
structure VerificationReport where
  qualifiedName : String
  checked : Nat
  mismatches : List Mismatch

namespace Verification

/-- The written form of a value in at most `limit` characters, or as many as the end of the text
leaves if there is no such room. -/
def shortWritten (limit : Int) (v : Datum) : String :=
  let cs := v.written
  if (cs.length : Int) ≤ limit then String.ofList cs
  else
    let cut := limit - 3
    let kept := if 0 ≤ cut then cut.toNat else (cs.length + cut).toNat
    String.ofList (cs.take kept ++ "...".toList)

/-- The number of characters of a value in a report. -/
def reportWidth : Int := 160

/-- Compare two values at a path. -/
def compare (path : String) (expected actual : Datum) : List Mismatch :=
  if expected.same actual then [] else [⟨path, expected, actual⟩]

/-- Names in alphabetical order, each once. -/
def sortedNames (names : List String) : Datum :=
  .list ((names.eraseDups.mergeSort fun a b => decide (a ≤ b)).map .text)

/-- The types that the schema of a kind names. -/
def kindTypes : Kind → List String
  | .string => ["string"]
  | .int32 => ["integer"]
  | .int64 => ["integer"]
  | .float32 => ["number"]
  | .float64 => ["number"]
  | .boolean => ["boolean"]
  | .date => ["string"]
  | .dateTime => ["string"]
  | .decimal => ["number", "string"]

/-- Compare a field with its schema. -/
def verifyField (f : FieldSpec) (schema : List (Datum × Datum)) : List Mismatch :=
  let path := "$.properties." ++ f.name
  let types :=
    match f.kind? with
    | some kind =>
      let expected := kindTypes kind ++ if f.required then [] else ["null"]
      let depth := Metaschema.depth (.map schema) + 1
      compare (path ++ ".type") (sortedNames expected)
        (sortedNames (Schema.types depth (.map schema)))
    | none => []
  types ++ compare (path ++ ".xml.name") (.text f.name) (Schema.xmlName schema)

/-- The properties of a schema. -/
def properties (schema : List (Datum × Datum)) : List (Datum × Datum) :=
  match Datum.field? schema "properties" with
  | some (.map entries) => entries
  | _ => []

/-- Compare a descriptor with the schema of a record. -/
def verifySchema (d : Descriptor) (schema : List (Datum × Datum)) : List Mismatch :=
  let fault :=
    match Metaschema.schemaFault? (.map schema) with
    | some message => [⟨"$", .text "valid JSON Schema", .text message⟩]
    | none => []
  let fields := properties schema
  fault ++ compare "$.title" (.text d.typeName) ((Datum.field? schema "title").getD .null) ++
    compare "$.xml.name" (.text d.typeName) (Schema.xmlName schema) ++
    compare "$.properties" (.list (d.fields.map fun f => .text f.name))
      (.list (fields.map Prod.fst)) ++
    d.fields.flatMap fun f =>
      match Datum.field? fields f.name with
      | some (.map entries) => verifyField f entries
      | _ => []

/-- The lines of a difference. -/
def mismatchLines (m : Mismatch) : List String :=
  ["- path: " ++ m.path, "  expected: " ++ shortWritten reportWidth m.expected,
   "  actual: " ++ shortWritten reportWidth m.actual]

end Verification

/-- Compare a compiled record with a descriptor. -/
def Artifact.verify (a : Artifact) (d : Descriptor) : VerificationReport :=
  ⟨d.qualifiedName, d.fields.length, Verification.verifySchema d (Schema.ofRecord a.record)⟩

/-- The text of a report. -/
def VerificationReport.text (r : VerificationReport) : String :=
  "\n".intercalate
    ([s!"Verified {r.qualifiedName}: {toString r.checked} fields",
      s!"Mismatches: {toString r.mismatches.length}"] ++
      r.mismatches.flatMap Verification.mismatchLines)

end FlatRecord
