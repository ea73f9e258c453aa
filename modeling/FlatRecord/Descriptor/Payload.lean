import FlatRecord.Descriptor.Basic

/-!
# Payloads

A descriptor arrives as a mapping with text keys. The shape of the mapping is checked strictly: each
part under one of its keys and of the right type, and no other keys. All faults of a payload are
reported together, each with the path to its place.
-/

namespace FlatRecord.Payload

/-- What is wrong at one place of a payload. -/
inductive Complaint where
  | missing
  | extra
  | string
  | boolean
  | integer
  | number
  | list
  | fieldMapping
  deriving DecidableEq, Repr

/-- The name of the complaint. -/
def Complaint.code : Complaint → String
  | missing => "missing"
  | extra => "extra_forbidden"
  | string => "string_type"
  | boolean => "bool_type"
  | integer => "int_type"
  | number => "float_type"
  | list => "list_type"
  | fieldMapping => "model_type"

/-- The text of the complaint. -/
def Complaint.message : Complaint → String
  | missing => "Field required"
  | extra => "Extra inputs are not permitted"
  | string => "Input should be a valid string"
  | boolean => "Input should be a valid boolean"
  | integer => "Input should be a valid integer"
  | number => "Input should be a valid number"
  | list => "Input should be a valid list"
  | fieldMapping => "Input should be a valid dictionary or instance of _FieldPayload"

/-- A complaint with the path to the place it is about. -/
structure Detail where
  path : List String
  complaint : Complaint

/-- The path in one text. -/
def Detail.pathText (d : Detail) : String := ".".intercalate d.path

/-- Why a payload is no descriptor. -/
inductive Fault where
  /-- The payload is not a mapping. -/
  | notMapping (typeName : String)
  /-- The payload does not have the required shape. -/
  | malformed (details : List Detail)

/-- The text of the fault; the details of a malformed payload are given apart. -/
def Fault.message : Fault → String
  | notMapping typeName => s!"Type descriptor must be a mapping, got {typeName}"
  | malformed _ => "Malformed type descriptor"

/-- What was found for a part, and what is wrong with it. -/
abbrev Checked (α : Type) := Except (List Detail) α

/-- The first of the keys that the mapping has, with its value. -/
def findKey? (entries : List (Datum × Datum)) : List String → Option (String × Datum)
  | [] => none
  | key :: rest =>
    match Datum.field? entries key with
    | some v => some (key, v)
    | none => findKey? entries rest

/-- A part that must be present under one of its keys. -/
def requiredPart {α : Type} (path : List String) (entries : List (Datum × Datum))
    (keys : List String) (check : List String → Datum → Checked α) : Checked α :=
  match findKey? entries keys with
  | some (key, v) => check (path ++ [key]) v
  | none => .error [⟨path ++ keys.take 1, .missing⟩]

/-- A part that may be absent. -/
def optionalPart {α : Type} (path : List String) (entries : List (Datum × Datum))
    (keys : List String) (absent : α) (check : List String → Datum → Checked α) : Checked α :=
  match findKey? entries keys with
  | some (key, v) => check (path ++ [key]) v
  | none => .ok absent

/-- A text. -/
def checkText (path : List String) : Datum → Checked String
  | .text s => .ok s
  | _ => .error [⟨path, .string⟩]

/-- A text or null. -/
def checkOptionalText (path : List String) : Datum → Checked (Option String)
  | .null => .ok none
  | .text s => .ok (some s)
  | _ => .error [⟨path, .string⟩]

/-- A truth value. -/
def checkBoolean (path : List String) : Datum → Checked Bool
  | .bool b => .ok b
  | _ => .error [⟨path, .boolean⟩]

/-- A default: null or a scalar, as text. -/
def checkDefault (path : List String) : Datum → Checked Datum
  | .null => .ok .null
  | .text s => .ok (.text s)
  | .bool b => .ok (.text (if b then "true" else "false"))
  | .int n => .ok (.text (Number.integerString n))
  | .float x => .ok (.text (Number.floatString x))
  | _ =>
    .error [⟨path ++ ["bool"], .boolean⟩, ⟨path ++ ["int"], .integer⟩,
      ⟨path ++ ["float"], .number⟩, ⟨path ++ ["str"], .string⟩]

/-- Complaints about the keys of a mapping that no part was read from. -/
def extraKeys (path : List String) (entries : List (Datum × Datum)) (used : List String) :
    List Detail :=
  (entries.filter fun e =>
    match e.1 with
    | .text key => !used.contains key
    | _ => true).map fun e => ⟨path ++ [e.1.displayString], .extra⟩

/-- The keys that were used for parts. -/
def usedKeys (entries : List (Datum × Datum)) (parts : List (List String)) : List String :=
  parts.filterMap fun keys => (findKey? entries keys).map Prod.fst

/-- The complaints of a part. -/
def complaints {α : Type} : Checked α → List Detail
  | .ok _ => []
  | .error details => details

/-- The keys of a field's default. -/
def defaultKeys : List String := ["defaultValue", "default_value"]

/-- The keys of the type name. -/
def typeNameKeys : List String := ["typeName", "className", "type_name"]

/-- The keys of the namespace. -/
def spaceKeys : List String := ["namespace", "packageName"]

/-- A field declaration. -/
def checkField (path : List String) : Datum → Checked FieldSpec
  | .map entries =>
    let name := requiredPart path entries ["name"] checkText
    let typeName := requiredPart path entries ["type"] checkText
    let required := optionalPart path entries ["required"] false checkBoolean
    let default := optionalPart path entries defaultKeys .null checkDefault
    let extra := extraKeys path entries
      (usedKeys entries [["name"], ["type"], ["required"], defaultKeys])
    match name, typeName, required, default, extra with
    | .ok name, .ok typeName, .ok required, .ok default, [] =>
      .ok ⟨name, typeName, required, default⟩
    | _, _, _, _, _ =>
      .error (complaints name ++ complaints typeName ++ complaints required ++
        complaints default ++ extra)
  | _ => .error [⟨path, .fieldMapping⟩]

/-- Field declarations, from the given index on. -/
def checkFieldsFrom (path : List String) : Nat → List Datum → Checked (List FieldSpec)
  | _, [] => .ok []
  | index, item :: rest =>
    let first := checkField (path ++ [toString index]) item
    let others := checkFieldsFrom path (index + 1) rest
    match first, others with
    | .ok f, .ok fs => .ok (f :: fs)
    | _, _ => .error (complaints first ++ complaints others)

/-- A list of field declarations. -/
def checkFields (path : List String) : Datum → Checked (List FieldSpec)
  | .list items => checkFieldsFrom path 0 items
  | _ => .error [⟨path, .list⟩]

/-- Whether a field declaration gives an integer as its default that has too many digits to be written as
text. -/
def givesUnwritable : Datum → Bool
  | .map entries =>
    match findKey? entries defaultKeys with
    | some (_, v) => v.isUnwritable
    | none => false
  | _ => false

/-- Whether some field declaration does. -/
def hasUnwritableDefault (entries : List (Datum × Datum)) : Bool :=
  match findKey? entries ["fields"] with
  | some (_, .list items) => items.any givesUnwritable
  | _ => false

/-- The descriptor that a payload declares. -/
def read : Datum → Except Fault Descriptor
  | .map entries =>
    let typeName := requiredPart [] entries typeNameKeys checkText
    let space := requiredPart [] entries spaceKeys checkText
    let fields := requiredPart [] entries ["fields"] checkFields
    let description := optionalPart [] entries ["description"] none checkOptionalText
    let extra := extraKeys [] entries
      (usedKeys entries [typeNameKeys, spaceKeys, ["fields"], ["description"]])
    match typeName, space, fields, description, extra with
    | .ok typeName, .ok space, .ok fields, .ok description, [] =>
      .ok ⟨typeName, space, fields, description⟩
    | _, _, _, _, _ =>
      .error (.malformed (complaints typeName ++ complaints space ++ complaints fields ++
        complaints description ++ extra))
  | other => .error (.notMapping other.typeName)

/-- Why a payload is not parsed. -/
inductive Refusal where
  /-- The payload is no descriptor. -/
  | fault (fault : Fault)
  /-- The integer of a default has too many digits to be written as text. -/
  | unwritableInteger

/-- Parse a payload: it is read as a descriptor, and the defaults become texts. -/
def parse : Datum → Except Refusal Descriptor
  | .map entries => do
    let d ← (read (.map entries)).mapError .fault
    if hasUnwritableDefault entries then .error .unwritableInteger else return d
  | other => .error (.fault (.notMapping other.typeName))

end FlatRecord.Payload
