import FlatRecord.Marshalling.ElementTree
import FlatRecord.Naming
import FlatRecord.Record.Instance

/-!
# XML documents of records

A record is one element with an element for each field, in order. The elements have the names that
the schemas of the class and of its fields give them, or else the name of the type and the names of
the fields. An element without text is closed at once. In pretty documents every field stands on a
line of its own; the text of fields is never touched.
-/

namespace FlatRecord

open FlatRecord.Number FlatRecord.Calendar FlatRecord.Text FlatRecord.Execution

/-- Why a record has no document. -/
inductive MarshalFault where
  /-- There is no record. -/
  | missing
  /-- The value is no record. -/
  | notRecord (typeName : String)
  /-- An element cannot have the name. -/
  | invalidName (name : String)
  /-- A decimal number is not finite. -/
  | nonFinite (field : String) (value : Decimal)
  /-- A text holds characters that cannot be represented. -/
  | illegalCharacters (field : String)
  /-- Values of the type cannot be represented. -/
  | unsupported (field typeName : String)
  /-- An integer has too many digits to be written. -/
  | unwritableInteger
  /-- A byte string is no text. -/
  | undecodable (className : String)

/-- The text of the fault. -/
def MarshalFault.message : MarshalFault → String
  | missing => "Instance must not be None"
  | notRecord typeName => "Cannot marshal " ++ typeName ++ ": not a record instance"
  | invalidName name => quoted name ++ " is not a valid XML element name"
  | nonFinite field value => "Field " ++ field ++ " holds a non-finite decimal " ++ value.string
  | illegalCharacters field => "Field " ++ field ++ " contains characters XML cannot represent"
  | unsupported field typeName =>
    "Field " ++ field ++ " holds unsupported " ++ typeName ++ " value"
  | unwritableInteger => unwritableMessage
  | undecodable className =>
    "Failed to render " ++ className ++
      " as JSON: Error serializing to JSON: invalid utf-8 sequence of 1 bytes from index 0"

namespace Xml

/-- Whether an element name may begin with the character. -/
def isInitial (c : Char) : Bool := c.isAlpha || c = '_'

/-- Whether an element name may go on with the character. -/
def isFollowing (c : Char) : Bool := c.isAlphanum || c = '_' || c = '.' || c = '-'

/-- Whether characters are an element name. A line feed at the very end goes unnoticed. -/
def isName (name : String) : Bool :=
  match Naming.dropFinalLineFeed name.toList with
  | [] => false
  | c :: rest => isInitial c && rest.all isFollowing

/-- The name that schema entries give an element. -/
def givenName? (extra : Option Object) : Option String :=
  ((extra.bind (Object.entry? "xml")).bind (Object.entry? "name")).bind Object.text?

/-- The name of an element: the one that schema entries give, or else the given one. -/
def elementName (extra : Option Object) (default : String) : Except MarshalFault String :=
  let name := (givenName? extra).getD default
  if isName name then .ok name else .error (.invalidName name)

/-- Whether a character can stand in a document. -/
def isLegal (c : Char) : Bool :=
  c = '\t' || c = '\n' || c = '\r' || (0x20 ≤ c.toNat && c.toNat ≤ 0xd7ff) ||
    (0xe000 ≤ c.toNat && c.toNat ≤ 0xfffd) || 0x10000 ≤ c.toNat

/-- The text of a double precision number. -/
def floatForm : Binary64 → List Char
  | .nan => "NaN".toList
  | .infinite negative => if negative then "-INF".toList else "INF".toList
  | x => floatText x

/-- The text of a value: none for null. -/
def valueText (field : String) (v : Datum) : Except MarshalFault (List Char) :=
  match v with
  | .null => .ok []
  | .bool b => .ok (if b then "true".toList else "false".toList)
  | .int n => if isUnwritable n then .error .unwritableInteger else .ok (integerText n)
  | .float x => .ok (floatForm x)
  | .decimal d => if d.isFinite then .ok d.plainText else .error (.nonFinite field d)
  | .date d => .ok d.isoText
  | .dateTime t => .ok t.isoText
  | .text s => if s.toList.all isLegal then .ok s.toList else .error (.illegalCharacters field)
  | other => .error (.unsupported field other.typeName)

/-- The name of a field in messages and, unless its schema entries give another one, of its
element. -/
def fieldName (f : Field) : String :=
  match f.otherName with
  | some name => if name.isEmpty then f.attr else name
  | none => f.attr

/-- The element of a field. -/
def fieldElement (i : Instance) (f : Field) : Except MarshalFault Element := do
  let name ← elementName f.extra (fieldName f)
  let text ← valueText (fieldName f) ((i.values.lookup f.attr).getD .null)
  return .node name text [] []

/-- The document of a record. -/
def document (pretty : Bool) (i : Instance) : Except MarshalFault String := do
  let name ← elementName i.record.extra i.record.name
  let fields ← i.record.fields.mapM (fieldElement i)
  let root := Element.node name [] fields []
  return String.ofList (if pretty then root.indented 0 else root).markup

end Xml

end FlatRecord
