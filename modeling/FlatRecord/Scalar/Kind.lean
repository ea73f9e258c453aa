import FlatRecord.Datum.Basic

/-!
# Scalar kinds

The closed list of kinds a record field may have. Each kind has a carrier, the type of its values,
and the integer kinds have bounds. Descriptors name a kind by one of several synonyms.
-/

namespace FlatRecord

/-- The types of field values. -/
inductive Carrier where
  | text
  | integer
  | float
  | boolean
  | date
  | dateTime
  | decimal
  deriving DecidableEq, Repr

/-- The name of the carrier in generated source. -/
def Carrier.name : Carrier → String
  | text => "str"
  | integer => "int"
  | float => "float"
  | boolean => "bool"
  | date => "date"
  | dateTime => "datetime"
  | decimal => "Decimal"

/-- The kinds of record fields. -/
inductive Kind where
  | string
  | int32
  | int64
  | float32
  | float64
  | boolean
  | date
  | dateTime
  | decimal
  deriving DecidableEq, Repr

namespace Kind

/-- All kinds. -/
def all : List Kind :=
  [string, int32, int64, float32, float64, boolean, date, dateTime, decimal]

/-- The name of the kind in messages. -/
def name : Kind → String
  | string => "string"
  | int32 => "int32"
  | int64 => "int64"
  | float32 => "float32"
  | float64 => "float64"
  | boolean => "boolean"
  | date => "date"
  | dateTime => "datetime"
  | decimal => "decimal"

/-- The kind with the given name. -/
def ofName? (name : String) : Option Kind := all.find? fun k => k.name = name

/-- The type of the kind's values. -/
def carrier : Kind → Carrier
  | string => .text
  | int32 => .integer
  | int64 => .integer
  | float32 => .float
  | float64 => .float
  | boolean => .boolean
  | date => .date
  | dateTime => .dateTime
  | decimal => .decimal

/-- The least and the greatest value, for kinds with bounds. -/
def bounds? : Kind → Option (Int × Int)
  | int32 => some (-2147483648, 2147483647)
  | int64 => some (-9223372036854775808, 9223372036854775807)
  | _ => none

/-- The type names that descriptors may use, with the kinds they stand for. -/
def synonyms : List (String × Kind) :=
  [("string", string), ("String", string), ("str", string),
   ("int", int32), ("integer", int32), ("Integer", int32),
   ("long", int64), ("Long", int64),
   ("float", float32), ("Float", float32),
   ("double", float64), ("Double", float64),
   ("boolean", boolean), ("Boolean", boolean), ("bool", boolean),
   ("date", date), ("LocalDate", date),
   ("datetime", dateTime), ("LocalDateTime", dateTime),
   ("decimal", decimal), ("BigDecimal", decimal)]

/-- The kind that a type name stands for. -/
def resolve? (typeName : String) : Option Kind :=
  (synonyms.find? fun entry => entry.1 = typeName).map Prod.snd

/-- The type names of all kinds in alphabetical order, capitals first. -/
def typeNames : List String :=
  (synonyms.map Prod.fst).mergeSort fun a b => decide (a ≤ b)

end Kind

end FlatRecord
