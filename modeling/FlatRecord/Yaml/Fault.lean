import FlatRecord.Scalar.Coercion

/-!
# Faults of YAML texts

A text is malformed if it is no document of the format, or if it asks for a value that does not exist.
Other faults concern one scalar: its form says what it should be, and it is not.
-/

namespace FlatRecord.Yaml

open FlatRecord.Number FlatRecord.Text

/-- Why a text has no value. -/
inductive Fault where
  /-- The text is no document, or a node of it has no value. -/
  | malformed
  /-- An escape gives a number that no character has. -/
  | codePoint
  /-- A part of a date or of a date-time is out of range. -/
  | calendar (part : Calendar.Part)
  /-- A text is no integer in a base. -/
  | integer (base : Nat) (text : String) (fault : IntegerFault)
  /-- A text is no number. -/
  | float (text : String)
  /-- A number has no digits at all. -/
  | emptyNumber
  /-- A part of a number in base sixty counts more often than any double precision number says. -/
  | hugeFactor
  /-- A word is no truth value. -/
  | truth (word : String)
  /-- A text is neither a date nor a date-time. -/
  | timestamp
  deriving DecidableEq

/-- The text of the fault. -/
def Fault.message : Fault → String
  | malformed => "not a YAML document"
  | codePoint => "chr() arg not in range(0x110000)"
  | calendar part => part.message
  | integer base text fault =>
    if base = 10 || fault != .malformed then fault.message text
    else
      "invalid literal for int() with base " ++ String.ofList (naturalText base) ++ ": " ++
        String.ofList ((quote text.toList).take 200)
  | float text => "could not convert string to float: " ++ quoted text
  | emptyNumber => "string index out of range"
  | hugeFactor => "int too large to convert to float"
  | truth word => quoted word
  | timestamp => "'NoneType' object has no attribute 'groupdict'"

end FlatRecord.Yaml
