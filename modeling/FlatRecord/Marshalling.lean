import FlatRecord.Marshalling.JsonDocument

/-!
# Marshalling

A record is written as an XML or a JSON document.
-/

namespace FlatRecord

/-- The formats of documents. -/
inductive OutputFormat where
  | xml
  | json
  deriving DecidableEq, Repr

namespace OutputFormat

/-- The name of the format. -/
def name : OutputFormat → String
  | xml => "xml"
  | json => "json"

/-- The format of a name. -/
def ofName? : String → Option OutputFormat
  | "xml" => some xml
  | "json" => some json
  | _ => none

end OutputFormat

/-- The document of a record. -/
def Instance.marshal (i : Instance) (format : OutputFormat) (pretty : Bool) :
    Except MarshalFault String :=
  match format with
  | .xml => Xml.document pretty i
  | .json => JsonDocument.document pretty i

/-- Why a value that is no record has no document. -/
def MarshalFault.ofValue : Datum → MarshalFault
  | .null => .missing
  | v => .notRecord v.typeName

end FlatRecord
