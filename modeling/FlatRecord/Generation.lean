import FlatRecord.Descriptor.Basic
import FlatRecord.Script.Printer

/-!
# Generation

The record module of a descriptor: imports of what its fields need, its namespace, and one class with
a field, a getter and a setter for each declared field, and with text form, equality and hash code.

A plan is what generation reads off a submission. Not every submission has one: field types must be
known, defaults must convert and names must be texts.
-/

namespace FlatRecord

open FlatRecord.Script

/-- Why a submission has no record module. -/
inductive GenerationFault where
  /-- The fields are given by a value that has no items. -/
  | notIterable (typeName : String)
  /-- The fields are given by a value whose items are no declarations. -/
  | foreignField (typeName : String)
  /-- A field type is of a type that is never looked up. -/
  | unhashableType (typeName : String)
  /-- A field type is not one of the known ones. -/
  | unknownType (field typeName : Datum)
  /-- A field name is no text. -/
  | fieldNameNotText (typeName : String)
  /-- A default does not convert. -/
  | coercion (fault : CoercionFault)
  /-- The type name is no text. -/
  | typeNameNotText (typeName : String)

namespace GenerationFault

/-- The text of the fault. -/
def message : GenerationFault → String
  | notIterable typeName => s!"{Text.quoted typeName} object is not iterable"
  | foreignField typeName => s!"{Text.quoted typeName} object has no attribute 'type'"
  | unhashableType typeName => s!"unhashable type: {Text.quoted typeName}"
  | unknownType field typeName =>
    s!"Field {field.displayString} has non-whitelisted type {typeName.writtenString}"
  | fieldNameNotText "bytes" =>
    "startswith first arg must be bytes or a tuple of bytes, not str"
  | fieldNameNotText typeName => s!"{Text.quoted typeName} object has no attribute 'startswith'"
  | coercion fault => fault.message
  | typeNameNotText typeName => s!"can only concatenate str (not \"{typeName}\") to str"

end GenerationFault

/-- The type of a value with the module it comes from. -/
def Datum.fullTypeName : Datum → String
  | .date _ => "datetime.date"
  | .dateTime _ => "datetime.datetime"
  | .decimal _ => "decimal.Decimal"
  | other => other.typeName

/-- What generation needs of a field: the default is converted, and null stands for none. -/
structure FieldPlan where
  name : String
  kind : Kind
  required : Bool
  default : Datum

/-- What generation needs of a submission. -/
structure RecordPlan where
  typeName : String
  /-- The namespace and the type name with a dot between them. -/
  title : String
  space : Datum
  description : Datum
  fields : List FieldPlan

namespace Generation

/-- The kind of a submitted field type. -/
def fieldKind (f : SubmittedField) : Except GenerationFault Kind :=
  match f.typeName with
  | .list _ => .error (.unhashableType "list")
  | .map _ => .error (.unhashableType "dict")
  | .text name =>
    match Kind.resolve? name with
    | some kind => .ok kind
    | none => .error (.unknownType f.name f.typeName)
  | other => .error (.unknownType f.name other)

/-- The default of a field, converted to its kind. -/
def plannedDefault (kind : Kind) : Datum → Except GenerationFault Datum
  | .null => .ok .null
  | value => (kind.coerce value).mapError .coercion

/-- The plan of a field. -/
def planField (f : SubmittedField) (kind : Kind) : Except GenerationFault FieldPlan :=
  match f.name with
  | .text name => do
    let default ← plannedDefault kind f.default
    return ⟨name, kind, f.required.isTruthy, default⟩
  | other => .error (.fieldNameNotText other.fullTypeName)

/-- The declarations of a submission. -/
def declarations : SubmittedFields → Except GenerationFault (List SubmittedField)
  | .listed fields => .ok fields
  | .other value =>
    match value with
    | .text s => if s.isEmpty then .ok [] else .error (.foreignField "str")
    | .bytes bs => if bs.isEmpty then .ok [] else .error (.foreignField "int")
    | .list [] => .ok []
    | .list (x :: _) => .error (.foreignField x.fullTypeName)
    | .map [] => .ok []
    | .map ((k, _) :: _) => .error (.foreignField k.fullTypeName)
    | other => .error (.notIterable other.fullTypeName)

/-- The plan of a submission. -/
def plan (s : Submission) : Except GenerationFault RecordPlan := do
  let fields ← declarations s.fields
  let kinds ← fields.mapM fieldKind
  let plans ← (fields.zip kinds).mapM fun p => planField p.1 p.2
  match s.typeName with
  | .text name =>
    return ⟨name, s.space.displayString ++ "." ++ name, s.space, s.description, plans⟩
  | other => .error (.typeNameNotText other.fullTypeName)

/-- A name that is read. -/
def read (id : String) : Expr := .name id .load

/-- A literal. -/
def literal (v : Datum) : Expr := .constant (.datum v)

/-- A text literal. -/
def textLiteral (s : String) : Expr := literal (.text s)

/-- An assignment to a name. -/
def assignName (target : String) (value : Expr) : Stmt := .assign 0 [.name target .store] value

/-- A call of a named function. -/
def callName (callee : String) (args : List Expr) (keywords : List (String × Expr)) : Expr :=
  .call (read callee) args (keywords.map fun k => .mk 0 (some k.1) k.2)

/-- A mapping with one text key. -/
def singleton (key : String) (value : Expr) : Expr := .dict [some (textLiteral key)] [value]

/-- The mapping that gives the name of an XML element. -/
def xmlBinding (name : String) : Expr := singleton "xml" (singleton "name" (textLiteral name))

/-- An attribute of an instance. -/
def attributeOf (owner attr : String) : Expr := .member (read owner) attr .load

/-- The annotation of a carrier. -/
def carrierHint : Carrier → Expr
  | .date => attributeOf "datetime" "date"
  | .dateTime => attributeOf "datetime" "datetime"
  | .decimal => attributeOf "decimal" "Decimal"
  | carrier => read carrier.name

/-- The annotation of a kind: its carrier, with the bounds of integers. -/
def kindHint (kind : Kind) : Expr :=
  let base := carrierHint kind.carrier
  match kind.bounds? with
  | none => base
  | some (low, high) =>
    .subscript (read "Annotated")
      (.tuple [base, callName "Field" [] [("ge", literal (.int low)), ("le", literal (.int high))]]
        .load) .load

/-- The annotation of a field, which may be unset unless it is required. -/
def hint (f : FieldPlan) : Expr :=
  let base := kindHint f.kind
  if f.required then base else .subscript (read "Optional") base .load

/-- The literal that stands for a default: dates and decimals are written as text. -/
def defaultLiteral : Datum → Datum
  | .date d => .text (String.ofList d.isoText)
  | .dateTime t => .text (String.ofList t.isoText)
  | .decimal d => .text d.string
  | v => v

/-- Whether a default is written as text and has to be converted back. -/
def isTextDefault : Datum → Kind → Bool
  | .null, _ => false
  | _, kind => kind = .date || kind = .dateTime || kind = .decimal

/-- The declaration of a field. -/
def fieldStatement (f : FieldPlan) : Stmt :=
  let keywords := [("alias", textLiteral f.name), ("json_schema_extra", xmlBinding f.name)] ++
    if isTextDefault f.default f.kind then [("validate_default", literal (.bool true))] else []
  .annotated 0 (.name (Naming.attributeName f.name) .store) (hint f)
    (some (callName "Field" [literal (defaultLiteral f.default)] keywords)) true

/-- A method whose first parameter is the instance. -/
def method (name : String) (params : List Param) (body : List Stmt) (returns : Expr) : Stmt :=
  .functionDef 0 name (.mk [] (.mk 0 "self" none :: params) none [] [] none []) body [] (some returns)

/-- The constructor, which takes no arguments. -/
def constructor : Stmt :=
  method "__init__" []
    [.expr 0 (.call (.member (.call (read "super") [] []) "__init__" .load) [] [])] (literal .null)

/-- The getter of a field. -/
def getter (f : FieldPlan) : Stmt :=
  method (Naming.getterName f.name) []
    [.ret 0 (some (attributeOf "self" (Naming.attributeName f.name)))] (hint f)

/-- The setter of a field. -/
def setter (f : FieldPlan) : Stmt :=
  method (Naming.setterName f.name) [.mk 0 "value" (some (hint f))]
    [.assign 0 [.member (read "self") (Naming.attributeName f.name) .store] (read "value")]
    (literal .null)

/-- The pieces of the text form of fields, each after the given beginning. -/
def textPieces : String → List FieldPlan → List Expr
  | _, [] => []
  | beginning, f :: rest =>
    textLiteral (beginning ++ f.name ++ "=") ::
      callName "str" [attributeOf "self" (Naming.attributeName f.name)] [] :: textPieces ", " rest

/-- Pieces of text joined from left to right. -/
def joined : List Expr → Expr
  | [] => textLiteral ""
  | first :: rest => rest.foldl (fun left right => .binary left .add right) first

/-- The text form: the type name and, in braces, every field with its value. -/
def textMethod (plan : RecordPlan) : Stmt :=
  method "__str__" []
    [.ret 0 (some (joined (textPieces (plan.typeName ++ "\x7b") plan.fields ++
      [textLiteral "\x7d"])))] (read "str")

/-- The values of all fields of an instance. -/
def attributeTuple (owner : String) (fields : List FieldPlan) : Expr :=
  .tuple (fields.map fun f => attributeOf owner (Naming.attributeName f.name)) .load

/-- Equality: instances of the same class are equal if all their fields are. -/
def equalityMethod (plan : RecordPlan) : Stmt :=
  method "__eq__" [.mk 0 "other" (some (read "object"))]
    [.branch 0 (.compare (read "self") [.same] [read "other"]) [.ret 0 (some (literal (.bool true)))]
      [],
     .branch 0 (.unary .not (callName "isinstance" [read "other", read plan.typeName] []))
      [.ret 0 (some (literal (.bool false)))] [],
     .ret 0 (some (.compare (attributeTuple "self" plan.fields) [.equal]
      [attributeTuple "other" plan.fields]))] (read "bool")

/-- The hash code, which depends on all fields. -/
def hashMethod (plan : RecordPlan) : Stmt :=
  method "__hash__" [] [.ret 0 (some (callName "hash" [attributeTuple "self" plan.fields] []))]
    (read "int")

/-- The settings of the class. -/
def settings (plan : RecordPlan) : Stmt :=
  assignName "model_config" (callName "ConfigDict" []
    [("title", textLiteral plan.typeName), ("validate_assignment", literal (.bool true)),
     ("json_schema_extra", xmlBinding plan.typeName)])

/-- The documentation of the class, if its description is not empty. -/
def documentation (plan : RecordPlan) : List Stmt :=
  if plan.description.isTruthy then [.expr 0 (literal plan.description)] else []

/-- The class. -/
def recordClass (plan : RecordPlan) : Stmt :=
  .classDef 0 plan.typeName [read "BaseModel"] []
    (documentation plan ++ settings plan :: (plan.fields.map fieldStatement ++ constructor ::
      (plan.fields.flatMap (fun f => [getter f, setter f]) ++
        [textMethod plan, equalityMethod plan, hashMethod plan]))) []

/-- Whether some field has one of the carriers. -/
def needs (plan : RecordPlan) (carriers : List Carrier) : Bool :=
  plan.fields.any fun f => carriers.contains f.kind.carrier

/-- An import of names from a module; nothing if there are none. -/
def importNames (module : String) (names : List String) : List Stmt :=
  if names.isEmpty then []
  else [.importFrom 0 (some module) (names.map fun n => ⟨n, none⟩) 0]

/-- The imports: only what the fields need, and the parts that every class is made of. -/
def imports (plan : RecordPlan) : List Stmt :=
  (if needs plan [.date, .dateTime] then [.importModules 0 [⟨"datetime", none⟩]] else []) ++
  (if needs plan [.decimal] then [.importModules 0 [⟨"decimal", none⟩]] else []) ++
  importNames "typing"
    ((if needs plan [.integer] then ["Annotated"] else []) ++
      if plan.fields.any (fun f => !f.required) then ["Optional"] else []) ++
  importNames "pydantic" ["BaseModel", "ConfigDict", "Field"]

/-- The record module of a plan. -/
def module (plan : RecordPlan) : Module :=
  ⟨.expr 0 (textLiteral s!"Generated record type {plan.title}.") :: (imports plan ++
    [assignName "__namespace__" (literal plan.space),
     assignName "__all__" (.list [textLiteral plan.typeName] .load),
     recordClass plan])⟩

end Generation

/-- The source text of a submission's record module. -/
def Submission.source (s : Submission) : Except GenerationFault String :=
  (Generation.plan s).map fun plan => String.ofList (Generation.module plan).print

/-- The source text of a descriptor's record module. -/
def Descriptor.source (d : Descriptor) : Except GenerationFault String := d.submission.source

end FlatRecord
