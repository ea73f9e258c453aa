import FlatRecord.Descriptor.Basic

/-!
# Validation

A submission becomes a descriptor if its names are identifiers and no keywords, its field types are
known, its defaults convert, the members that its class would have do not collide, and its sizes are
within limits. The first violation found is reported.
-/

namespace FlatRecord

open FlatRecord.Text

/-- The names that validation looks at. -/
inductive NameRole where
  | typeName
  | fieldName
  deriving DecidableEq, Repr

/-- What a name is called at the start of a message. -/
def NameRole.title : NameRole → String
  | typeName => "Type name"
  | fieldName => "Field name"

/-- What a name is called inside a message. -/
def NameRole.words : NameRole → String
  | typeName => "type name"
  | fieldName => "field name"

/-- Why a submission is no descriptor. -/
inductive Violation where
  /-- Nothing was submitted. -/
  | missing
  /-- A name is empty or no text. -/
  | emptyName (role : NameRole)
  | longName (role : NameRole) (length : Nat)
  | malformedName (role : NameRole) (name : String)
  | keywordName (role : NameRole) (name : String)
  /-- The type has the name of an import of every generated module. -/
  | importedName (name : String)
  | emptySpace
  | longSpace (length : Nat)
  | malformedSegment (space segment : String)
  | keywordSegment (space segment : String)
  | noFields
  | tooManyFields (count : Nat)
  /-- The fields are given by a value that has no length. -/
  | unsizedFields (typeName : String)
  /-- The fields are given by a value whose items are no declarations. -/
  | foreignFields (typeName : String)
  | duplicateField (name : String)
  | emptyType (field : String)
  | unknownType (typeName field : String)
  | badDefault (value : Datum) (typeName field : String) (fault : CoercionFault)
  | nonFiniteDefault (value : Datum) (field : String)
  | collidingMembers (names : List String)
  | descriptionNotText
  | longDescription (length : Nat)

namespace Violation

/-- The text of the violation. -/
def message : Violation → String
  | missing => "Type descriptor is missing"
  | emptyName role => s!"{role.title} must not be empty"
  | longName role length => s!"{role.title} is too long ({length} > 255 characters)"
  | malformedName role name =>
    s!"Invalid {role.words} {quoted name}: must start with a letter or underscore and " ++
      "contain only letters, digits and underscores"
  | keywordName role name => s!"{role.title} {quoted name} is a reserved keyword"
  | importedName name =>
    s!"Type name {quoted name} collides with a name the generated module imports"
  | emptySpace => "Namespace must not be empty"
  | longSpace length => s!"Namespace is too long ({length} > 255 characters)"
  | malformedSegment space segment =>
    s!"Invalid namespace {quoted space}: segment {quoted segment} is not an identifier"
  | keywordSegment space segment =>
    s!"Invalid namespace {quoted space}: segment {quoted segment} is a reserved keyword"
  | noFields => "At least one field must be declared"
  | tooManyFields count => s!"Too many fields declared ({count} > 100)"
  | unsizedFields typeName => s!"object of type {quoted typeName} has no len()"
  | foreignFields typeName => s!"{quoted typeName} object has no attribute 'name'"
  | duplicateField name => s!"Duplicate field name: {name}"
  | emptyType field => s!"Field type must not be empty for field {quoted field}"
  | unknownType typeName field =>
    s!"Type {quoted typeName} is not allowed for field {quoted field}. Allowed types: " ++
      ", ".intercalate Kind.typeNames
  | badDefault value typeName field fault =>
    s!"Default value {value.writtenString} is not a valid {typeName} for field " ++
      s!"{quoted field}: {fault.message}"
  | nonFiniteDefault value field =>
    s!"Default value {value.writtenString} for field {quoted field} must be finite"
  | collidingMembers names =>
    "Fields produce conflicting generated member names: " ++ ", ".intercalate names
  | descriptionNotText => "Description must be text"
  | longDescription length => s!"Description is too long ({length} > 4096 characters)"

end Violation

namespace Submission

/-- The greatest length of a name. -/
def maxNameLength : Nat := 255

/-- The greatest number of fields. -/
def maxFields : Nat := 100

/-- The greatest length of a description. -/
def maxDescriptionLength : Nat := 4096

/-- A value that is a text with more than blanks in it. -/
def meaningfulText? : Datum → Option String
  | .text s => if (trim s.toList).isEmpty then none else some s
  | _ => none

/-- Check the name of a type or a field. -/
def validateName (role : NameRole) (value : Datum) : Except Violation String :=
  match meaningfulText? value with
  | none => .error (.emptyName role)
  | some name =>
    if maxNameLength < name.length then .error (.longName role name.length)
    else if !Naming.isIdentifier name then .error (.malformedName role name)
    else if Naming.isReserved name then .error (.keywordName role name)
    else .ok name

/-- Check the name of the type. -/
def validateTypeName (value : Datum) : Except Violation String := do
  let name ← validateName .typeName value
  if Naming.moduleNames.contains name then .error (.importedName name) else return name

/-- Check the segments of a namespace. -/
def validateSegments (space : String) : List String → Except Violation Unit
  | [] => .ok ()
  | segment :: rest =>
    if !Naming.isIdentifier segment then .error (.malformedSegment space segment)
    else if Naming.isReserved segment then .error (.keywordSegment space segment)
    else validateSegments space rest

/-- Check the namespace. -/
def validateSpace (value : Datum) : Except Violation String :=
  match meaningfulText? value with
  | none => .error .emptySpace
  | some space =>
    if maxNameLength < space.length then .error (.longSpace space.length)
    else (validateSegments space (Naming.segments space)).map fun _ => space

/-- Check the default of a field. -/
def validateDefault (kind : Kind) (typeName field : String) (value : Datum) :
    Except Violation Unit :=
  match value with
  | .null => .ok ()
  | _ =>
    match kind.coerce value with
    | .error fault => .error (.badDefault value typeName field fault)
    | .ok (.float x) => if x.isFinite then .ok () else .error (.nonFiniteDefault value field)
    | .ok _ => .ok ()

/-- Check one field, given the names of the fields before it. -/
def validateField (used : List String) (f : SubmittedField) : Except Violation FieldSpec := do
  let name ← validateName .fieldName f.name
  if used.contains name then .error (.duplicateField name)
  else
    match meaningfulText? f.typeName with
    | none => .error (.emptyType name)
    | some typeName =>
      match Kind.resolve? typeName with
      | none => .error (.unknownType typeName name)
      | some kind => do
        validateDefault kind typeName name f.default
        return ⟨name, typeName, f.required.isTruthy, f.default⟩

/-- Check fields one after the other. -/
def validateEach (used : List String) : List SubmittedField → Except Violation (List FieldSpec)
  | [] => .ok []
  | f :: rest => do
    let spec ← validateField used f
    let specs ← validateEach (spec.name :: used) rest
    return spec :: specs

/-- The members that a field gives its class. -/
def memberNames (f : FieldSpec) : List String := [f.attributeName, f.getterName, f.setterName]

/-- Names that occur more than once, in alphabetical order. -/
def repeatedNames (names : List String) : List String :=
  ((names.filter fun n => 1 < names.count n).eraseDups).mergeSort fun a b => decide (a ≤ b)

/-- Check the declarations of fields. -/
def validateListed (fields : List SubmittedField) : Except Violation (List FieldSpec) :=
  if fields.isEmpty then .error .noFields
  else if maxFields < fields.length then .error (.tooManyFields fields.length)
  else do
    let specs ← validateEach [] fields
    let repeated := repeatedNames (specs.flatMap memberNames)
    if repeated.isEmpty then return specs else .error (.collidingMembers repeated)

/-- What is wrong with fields that are given by something other than a list. -/
def foreignFields (value : Datum) : Violation :=
  let sized (length : Nat) (itemType : String) : Violation :=
    if maxFields < length then .tooManyFields length else .foreignFields itemType
  if !value.isTruthy then .noFields
  else
    match value with
    | .text s => sized s.length "str"
    | .bytes bs => sized bs.length "int"
    | .list xs => sized xs.length ((xs.head?.map Datum.typeName).getD "")
    | .map es => sized es.length ((es.head?.map fun e => e.1.typeName).getD "")
    | other => .unsizedFields other.typeName

/-- Check the fields. -/
def validateFields : SubmittedFields → Except Violation (List FieldSpec)
  | .listed fields => validateListed fields
  | .other value => .error (foreignFields value)

/-- Check the description. -/
def validateDescription : Datum → Except Violation (Option String)
  | .null => .ok none
  | .text s =>
    if maxDescriptionLength < s.length then .error (.longDescription s.length) else .ok (some s)
  | _ => .error .descriptionNotText

/-- Check a submission. -/
def validate (s : Submission) : Except Violation Descriptor := do
  let typeName ← validateTypeName s.typeName
  let space ← validateSpace s.space
  let fields ← validateFields s.fields
  let description ← validateDescription s.description
  return ⟨typeName, space, fields, description⟩

end Submission

/-- Check a submission that may be missing. -/
def validateSubmission : Option Submission → Except Violation Descriptor
  | none => .error .missing
  | some s => s.validate

end FlatRecord
