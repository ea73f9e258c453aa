import FlatRecord.Datum.Written
import FlatRecord.Scalar.Kind
import FlatRecord.Text.Uppercase

/-!
# Coercion

The values that a document gives for a field are converted to the field's carrier. Scalars convert
where their text or number has a meaning in the carrier; dates and date-times are read from text
alone. Integers must lie within the bounds of their kind.
-/

namespace FlatRecord

open FlatRecord.Number FlatRecord.Calendar FlatRecord.Text

/-- Why a value does not convert. -/
inductive CoercionFault where
  /-- Values of the type have no meaning in the carrier. -/
  | type (carrier : Carrier) (typeName : String)
  /-- Truth values are no decimals. -/
  | boolAsDecimal
  /-- An infinity or non-number is no integer. -/
  | nonFiniteInteger (value : Binary64)
  /-- The text is not an integer. -/
  | integerText (text : String) (fault : IntegerFault)
  /-- An integer has too many digits to be written. -/
  | unwritableInteger
  /-- The text is not a number. -/
  | floatText (text : String)
  /-- The integer is beyond the double precision numbers. -/
  | hugeInteger
  /-- The text is not a truth value. -/
  | booleanText (text : String)
  /-- The text is not a date or date-time, or has a part out of range. -/
  | calendar (text : String) (fault : IsoFault)
  /-- The text is not a decimal, or its exponent is out of range. -/
  | decimalText (fault : Decimal.Fault)
  /-- The decimal is an infinity or a non-number. -/
  | nonFiniteDecimal (value : Datum)
  /-- The integer is less than the kind's least one. -/
  | belowMinimum (kind : Kind) (value minimum : Int)
  /-- The integer is greater than the kind's greatest one. -/
  | aboveMaximum (kind : Kind) (value maximum : Int)

/-- What a part out of range is said to be. -/
def Calendar.Part.message : Part → String
  | .year given => s!"year {integerString given} is out of range"
  | .month => "month must be in 1..12"
  | .day => "day is out of range for month"
  | .hour => "hour must be in 0..23"
  | .minute => "minute must be in 0..59"
  | .second => "second must be in 0..59"
  | .offset n =>
    "offset must be a timedelta strictly between -timedelta(hours=24) and timedelta(hours=24), " ++
      "not " ++ String.ofList (Datum.writtenSpan n) ++ "."

/-- What a text that is not a date or date-time is said to be. -/
def Calendar.IsoFault.message (text : String) : IsoFault → String
  | .malformed => "Invalid isoformat string: " ++ quoted text
  | .outOfRange part => part.message

/-- What is said where an integer has too many digits to be written. -/
def unwritableMessage : String :=
  "Exceeds the limit (4300 digits) for integer string conversion; " ++
    "use sys.set_int_max_str_digits() to increase the limit"

/-- What a text that is not an integer is said to be. -/
def Number.IntegerFault.message (text : String) : IntegerFault → String
  | .malformed =>
    "invalid literal for int() with base 10: " ++ String.ofList ((quote text.toList).take 200)
  | .tooLong digits =>
    "Exceeds the limit (4300 digits) for integer string conversion: value has " ++
      String.ofList (naturalText digits) ++
      " digits; use sys.set_int_max_str_digits() to increase the limit"

namespace CoercionFault

/-- What a value of a type without meaning in the carrier is said to be. -/
def typeMessage (typeName : String) : Carrier → String
  | .text => s!"Cannot convert {typeName} to text"
  | .integer => s!"Cannot convert {typeName} to an integer"
  | .float => s!"Cannot convert {typeName} to a float"
  | .boolean => s!"Cannot convert {typeName} to a boolean"
  | .date => s!"Dates must be ISO-8601 text, got {typeName}"
  | .dateTime => s!"Date-times must be ISO-8601 text, got {typeName}"
  | .decimal => s!"Cannot convert {typeName} to a decimal"

/-- The text of the fault. -/
def message : CoercionFault → String
  | type carrier typeName => typeMessage typeName carrier
  | boolAsDecimal => "Cannot convert a boolean to a decimal"
  | nonFiniteInteger x => s!"Cannot convert non-finite number {floatString x} to an integer"
  | integerText text fault => fault.message text
  | unwritableInteger => unwritableMessage
  | floatText text => "could not convert string to float: " ++ quoted text
  | hugeInteger => "int too large to convert to float"
  | booleanText text => "Cannot parse boolean from " ++ quoted text
  | calendar text fault => fault.message text
  | decimalText .malformed => "[<class 'decimal.ConversionSyntax'>]"
  | decimalText .outOfRange => "[<class 'decimal.InvalidOperation'>]"
  | nonFiniteDecimal value => "Decimal value must be finite, got " ++ value.writtenString
  | belowMinimum kind value minimum =>
    s!"{integerString value} is below the {kind.name} minimum {integerString minimum}"
  | aboveMaximum kind value maximum =>
    s!"{integerString value} is above the {kind.name} maximum {integerString maximum}"

end CoercionFault

namespace Carrier

/-- An integer as text, unless it has too many digits. -/
def integerAsText (n : Int) : Except CoercionFault String :=
  if isUnwritable n then .error .unwritableInteger else .ok (integerString n)

/-- Convert to text. -/
def toText : Datum → Except CoercionFault Datum
  | .text s => .ok (.text s)
  | .bool b => .ok (.text (if b then "true" else "false"))
  | .int n => (integerAsText n).map .text
  | .float x => .ok (.text (floatString x))
  | other => .error (.type .text other.typeName)

/-- Convert to an integer. -/
def toInteger : Datum → Except CoercionFault Datum
  | .bool b => .ok (.int (if b then 1 else 0))
  | .int n => .ok (.int n)
  | .float x =>
    match x.truncate? with
    | some n => .ok (.int n)
    | none => .error (.nonFiniteInteger x)
  | .text s =>
    let inner := trimmed s
    ((readInteger inner.toList).mapError (.integerText inner)).map .int
  | other => .error (.type .integer other.typeName)

/-- Convert to a double precision number. -/
def toFloat : Datum → Except CoercionFault Datum
  | .bool b => .ok (.float (Binary64.ofRatio false (if b then 1 else 0) 1))
  | .int n =>
    match Binary64.ofInt? n with
    | some x => .ok (.float x)
    | none => .error .hugeInteger
  | .float x => .ok (.float x)
  | .text s =>
    let inner := trimmed s
    match readFloat? inner.toList with
    | some x => .ok (.float x)
    | none => .error (.floatText inner)
  | other => .error (.type .float other.typeName)

/-- Convert to a truth value. -/
def toBoolean : Datum → Except CoercionFault Datum
  | .bool b => .ok (.bool b)
  | .int n => .ok (.bool (n != 0))
  | .float x => .ok (.bool x.isNonzero)
  | .text s =>
    let word := (trim s.toList).map asciiLowercase
    if word = "true".toList then .ok (.bool true)
    else if word = "false".toList then .ok (.bool false)
    else .error (.booleanText s)
  | other => .error (.type .boolean other.typeName)

/-- Convert to a date. -/
def toDate : Datum → Except CoercionFault Datum
  | .text s =>
    let inner := trimmed s
    ((readDate inner).mapError (.calendar inner)).map .date
  | other => .error (.type .date other.typeName)

/-- Convert to a date-time. -/
def toDateTime : Datum → Except CoercionFault Datum
  | .text s =>
    let inner := trimmed s
    ((readDateTime inner).mapError (.calendar inner)).map .dateTime
  | other => .error (.type .dateTime other.typeName)

/-- Read a finite decimal from the text of a value. -/
def decimalOf (value : Datum) (cs : List Char) : Except CoercionFault Datum := do
  let d ← (Decimal.read cs).mapError .decimalText
  if d.isFinite then return .decimal d else .error (.nonFiniteDecimal value)

/-- Convert to a decimal. Numbers are converted by their shortest text. -/
def toDecimal : Datum → Except CoercionFault Datum
  | .bool _ => .error .boolAsDecimal
  | .int n => do
    let s ← integerAsText n
    decimalOf (.int n) s.toList
  | .float x => decimalOf (.float x) (floatText x)
  | .text s => decimalOf (.text s) s.toList
  | other => .error (.type .decimal other.typeName)

/-- Convert a value to the carrier. -/
def coerce : Carrier → Datum → Except CoercionFault Datum
  | text => toText
  | integer => toInteger
  | float => toFloat
  | boolean => toBoolean
  | date => toDate
  | dateTime => toDateTime
  | decimal => toDecimal

end Carrier

namespace Kind

/-- Check an integer against the bounds of the kind. -/
def checkBounds (kind : Kind) (value : Datum) : Except CoercionFault Datum :=
  match kind.bounds?, value with
  | some (low, high), .int n =>
    if n < low then
      .error (if isUnwritable n then .unwritableInteger else .belowMinimum kind n low)
    else if high < n then
      .error (if isUnwritable n then .unwritableInteger else .aboveMaximum kind n high)
    else .ok (.int n)
  | _, v => .ok v

/-- Convert a value to the kind. -/
def coerce (kind : Kind) (value : Datum) : Except CoercionFault Datum := do
  let converted ← kind.carrier.coerce value
  kind.checkBounds converted

end Kind

end FlatRecord
