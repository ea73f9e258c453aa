import FlatRecord.Calendar.Timestamp
import FlatRecord.Record.Shape

/-!
# Acceptance

What a field accepts, and the value that it keeps: values of its carrier, and values of other
carriers that stand for one without loss. Numbers are then checked against the bounds of the field.
A value that is not accepted meets an objection, which has a code and a text.
-/

namespace FlatRecord

open FlatRecord.Number FlatRecord.Calendar FlatRecord.Text

/-- Why a value is not accepted. -/
inductive Objection where
  | missing
  | unknownAttribute (name : String)
  | notNull
  | string
  | stringUnicode
  | integer
  | integerText
  | integerSize
  | fractional
  | nonFinite
  | number
  | numberText
  | boolean
  | booleanText
  | date
  | dateText (fault : StampFault)
  | inexactDate
  | dateTime
  | dateTimeText (fault : StampFault)
  | decimal
  | decimalText
  | aboveGreatest (bound : Datum)
  | notBelow (bound : Datum)
  | belowLeast (bound : Datum)
  | notAbove (bound : Datum)

namespace Objection

/-- The code of the objection. -/
def code : Objection → String
  | missing => "missing"
  | unknownAttribute _ => "no_such_attribute"
  | notNull => "none_required"
  | string => "string_type"
  | stringUnicode => "string_unicode"
  | integer => "int_type"
  | integerText => "int_parsing"
  | integerSize => "int_parsing_size"
  | fractional => "int_from_float"
  | nonFinite => "finite_number"
  | number => "float_type"
  | numberText => "float_parsing"
  | boolean => "bool_type"
  | booleanText => "bool_parsing"
  | date => "date_type"
  | dateText _ => "date_from_datetime_parsing"
  | inexactDate => "date_from_datetime_inexact"
  | dateTime => "datetime_type"
  | dateTimeText _ => "datetime_from_date_parsing"
  | decimal => "decimal_type"
  | decimalText => "decimal_parsing"
  | aboveGreatest _ => "less_than_equal"
  | notBelow _ => "less_than"
  | belowLeast _ => "greater_than_equal"
  | notAbove _ => "greater_than"

/-- A bound as messages give it: a whole number without a point. -/
def boundText (bound : Datum) : String :=
  match bound with
  | .float x =>
    match x.truncate? with
    | some n =>
      if Datum.same (.int n) (.float x) then integerString n else floatString x
    | none => floatString x
  | v => v.displayString

/-- The text of the objection. -/
def message : Objection → String
  | missing => "Field required"
  | unknownAttribute name => "Object has no attribute '" ++ name ++ "'"
  | notNull => "Input should be None"
  | string => "Input should be a valid string"
  | stringUnicode => "Input should be a valid string, unable to parse raw data as a unicode string"
  | integer => "Input should be a valid integer"
  | integerText => "Input should be a valid integer, unable to parse string as an integer"
  | integerSize => "Unable to parse input string as an integer, exceeded maximum size"
  | fractional => "Input should be a valid integer, got a number with a fractional part"
  | nonFinite => "Input should be a finite number"
  | number => "Input should be a valid number"
  | numberText => "Input should be a valid number, unable to parse string as a number"
  | boolean => "Input should be a valid boolean"
  | booleanText => "Input should be a valid boolean, unable to interpret input"
  | date => "Input should be a valid date"
  | dateText fault => "Input should be a valid date or datetime, " ++ fault.message
  | inexactDate => "Datetimes provided to dates should have zero time - e.g. be exact dates"
  | dateTime => "Input should be a valid datetime"
  | dateTimeText fault => "Input should be a valid datetime or date, " ++ fault.message
  | decimal => "Decimal input should be an integer, float, string or Decimal object"
  | decimalText => "Input should be a valid decimal"
  | aboveGreatest bound => "Input should be less than or equal to " ++ boundText bound
  | notBelow bound => "Input should be less than " ++ boundText bound
  | belowLeast bound => "Input should be greater than or equal to " ++ boundText bound
  | notAbove bound => "Input should be greater than " ++ boundText bound

end Objection

namespace Acceptance

/-- The text that a text or a byte string holds. -/
def textOf? : Datum → Option String
  | .text s => some s
  | .bytes bs => String.fromUTF8? ⟨bs.toArray⟩
  | _ => none

/-- Accept a text. -/
def text (v : Datum) : Except Objection Datum :=
  match v with
  | .text s => .ok (.text s)
  | .bytes _ =>
    match textOf? v with
    | some s => .ok (.text s)
    | none => .error .stringUnicode
  | _ => .error .string

/-- Drop a point and the zeros behind it, if nothing else stands behind it. -/
def dropZeroFraction (cs : List Char) : List Char :=
  let (whole, rest) := cs.span fun c => c != '.'
  match rest with
  | '.' :: zeros => if !zeros.isEmpty && zeros.all (· = '0') && !whole.isEmpty then whole else cs
  | _ => cs

/-- The digits of an integer in text: ASCII digits with single underscores between them. -/
def integerDigits? (cs : List Char) : Option (List Nat) :=
  if cs.all fun c => isAsciiDigit c || c = '_' then groupedDigits? cs else none

/-- Read an integer from text. -/
def integerOfText (s : String) : Except Objection Datum :=
  let (negative, rest) := signed (trim s.toList)
  match integerDigits? (dropZeroFraction rest) with
  | none => .error .integerText
  | some digits =>
    if maxIntegerDigits < digits.length then .error .integerSize
    else
      let n := digitsNumber digits
      .ok (.int (if negative then -(n : Int) else n))

/-- The least and the greatest integer of a machine word. -/
def isWord (n : Int) : Bool := -9223372036854775808 ≤ n && n ≤ 9223372036854775807

/-- An integer of equal value. -/
def integerOfFloat (x : Binary64) : Except Objection Int :=
  match x.truncate? with
  | none => .error .nonFinite
  | some n =>
    if !Datum.same (.int n) (.float x) then .error .fractional
    else if isWord n then .ok n
    else .error .integerText

/-- The integer of a decimal number, if it is whole. -/
def integerOfDecimal : Decimal → Except Objection Int
  | .finite negative coefficient exponent =>
    match Exact.make negative coefficient exponent with
    | .finite negative c e =>
      if e < 0 then .error .fractional
      else
        let n := c * Nat.pow 10 e.natAbs
        .ok (if negative then -(n : Int) else n)
    | _ => .error .nonFinite
  | _ => .error .nonFinite

/-- Accept an integer. -/
def integer (v : Datum) : Except Objection Datum :=
  match v with
  | .int n => .ok (.int n)
  | .bool b => .ok (.int (if b then 1 else 0))
  | .float x => (integerOfFloat x).map .int
  | .decimal d => (integerOfDecimal d).map .int
  | v =>
    match textOf? v with
    | some s => integerOfText s
    | none => .error .integer

/-- The double precision number nearest to a decimal number. -/
def floatOfDecimal : Decimal → Option Binary64
  | .finite negative coefficient exponent => some (Binary64.ofScaled negative coefficient exponent)
  | .infinite negative => some (.infinite negative)
  | .nan _ signalling _ => if signalling then none else some .nan

/-- Accept a double precision number. -/
def number (v : Datum) : Except Objection Datum :=
  match v with
  | .float x => .ok (.float x)
  | .bool b => .ok (.float (Binary64.ofRatio false (if b then 1 else 0) 1))
  | .int n =>
    match Binary64.ofInt? n with
    | some x => .ok (.float x)
    | none => .error .number
  | .decimal d =>
    match floatOfDecimal d with
    | some x => .ok (.float x)
    | none => .error .number
  | v =>
    match textOf? v with
    | some s =>
      match readFloat? s.toList with
      | some x => .ok (.float x)
      | none => .error .numberText
    | none => .error .number

/-- Texts that stand for truth values, in lower case. -/
def truthWords : List (String × Bool) :=
  [("0", false), ("off", false), ("f", false), ("false", false), ("n", false), ("no", false),
   ("1", true), ("on", true), ("t", true), ("true", true), ("y", true), ("yes", true)]

/-- The truth value of an integer. -/
def booleanOfInteger (n : Int) : Except Objection Datum :=
  if n = 0 then .ok (.bool false) else if n = 1 then .ok (.bool true) else .error .booleanText

/-- Accept a truth value. -/
def boolean (v : Datum) : Except Objection Datum :=
  match v with
  | .bool b => .ok (.bool b)
  | .int n => if isWord n then booleanOfInteger n else .error .boolean
  | .float x =>
    match integerOfFloat x with
    | .ok n => booleanOfInteger n
    | .error _ => .error .boolean
  | .decimal d =>
    match (floatOfDecimal d).map integerOfFloat with
    | some (.ok n) => booleanOfInteger n
    | _ => .error .boolean
  | v =>
    match textOf? v with
    | some s =>
      match truthWords.lookup (String.ofList (lowerAscii s.toList)) with
      | some b => .ok (.bool b)
      | none => .error .booleanText
    | none => .error .boolean

/-- The start of a day. -/
def midnight (d : Date) : DateTime :=
  ⟨d, ⟨0, 0, 0, 0, by decide, by decide, by decide, by decide⟩, none⟩

/-- The day of a date-time that shows midnight. -/
def dayOf (t : DateTime) : Except Objection Datum :=
  if t.clock.isMidnight then .ok (.date t.date) else .error .inexactDate

/-- The whole number of seconds that a number stands for. -/
def seconds? : Datum → Option Int
  | .int n => if isWord n then some n else none
  | .float x =>
    match integerOfFloat x with
    | .ok n => some n
    | .error _ => none
  | .decimal d =>
    match (floatOfDecimal d).map integerOfFloat with
    | some (.ok n) => some n
    | _ => none
  | _ => none

/-- Accept a date. -/
def date (v : Datum) : Except Objection Datum :=
  match v with
  | .date d => .ok (.date d)
  | .dateTime t => dayOf t
  | v =>
    match textOf? v, seconds? v with
    | some s, _ =>
      match readStampDate s with
      | .ok d => .ok (.date d)
      | .error _ =>
        match readStampMoment s with
        | .ok t => dayOf t
        | .error fault => .error (.dateText fault)
    | none, some n =>
      match momentOfNumber n with
      | .ok t => dayOf t
      | .error fault => .error (.dateText fault)
    | none, none => .error .date

/-- Accept a date-time. -/
def dateTime (v : Datum) : Except Objection Datum :=
  match v with
  | .dateTime t => .ok (.dateTime t)
  | .date d => .ok (.dateTime (midnight d))
  | v =>
    match textOf? v, seconds? v with
    | some s, _ =>
      match readStampMoment s with
      | .ok t => .ok (.dateTime t)
      | .error _ =>
        match readStampDate s with
        | .ok d => .ok (.dateTime (midnight d))
        | .error fault => .error (.dateTimeText fault)
    | none, some n =>
      match momentOfNumber n with
      | .ok t => .ok (.dateTime t)
      | .error fault => .error (.dateTimeText fault)
    | none, none => .error .dateTime

/-- Accept a finite decimal number. -/
def finiteDecimal (d : Decimal) : Except Objection Datum :=
  if d.isFinite then .ok (.decimal d) else .error .nonFinite

/-- Read a finite decimal number. -/
def decimalOfText (cs : List Char) : Except Objection Datum :=
  match Decimal.read cs with
  | .ok d => finiteDecimal d
  | .error _ => .error .decimalText

/-- Accept a decimal number. -/
def decimal (v : Datum) : Except Objection Datum :=
  match v with
  | .decimal d => finiteDecimal d
  | .int n => decimalOfText (integerText n)
  | .float x => decimalOfText (floatText x)
  | .text s => decimalOfText s.toList
  | _ => .error .decimal

/-- Accept a value of a carrier. -/
def carrier : Carrier → Datum → Except Objection Datum
  | .text => text
  | .integer => integer
  | .float => number
  | .boolean => boolean
  | .date => date
  | .dateTime => dateTime
  | .decimal => decimal

/-- Whether a value is less than another one. -/
def less (v w : Datum) : Bool :=
  match v.exactValue?, w.exactValue? with
  | some a, some b => a.less b
  | _, _ => false

/-- A bound that a value must keep, if there is one. -/
def keep (bound : Option Datum) (holds : Datum → Bool) (objection : Datum → Objection) :
    Except Objection Unit :=
  match bound with
  | some b => if holds b then .ok () else .error (objection b)
  | none => .ok ()

/-- Check a number against bounds. -/
def within (limits : Limits) (v : Datum) : Except Objection Datum := do
  keep limits.greatest (fun b => !less b v) .aboveGreatest
  keep limits.below (fun b => less v b) .notBelow
  keep limits.least (fun b => !less v b) .belowLeast
  keep limits.above (fun b => less b v) .notAbove
  return v

end Acceptance

/-- The value that a field of the shape keeps for a value that is stored in it. -/
def Shape.accept : Shape → Datum → Except Objection Datum
  | .anything, v => .ok v
  | .null, v =>
    match v with
    | .null => .ok .null
    | _ => .error .notNull
  | .scalar carrier limits, v => do
    let accepted ← Acceptance.carrier carrier v
    Acceptance.within limits accepted
  | .nullable inner, v =>
    match v with
    | .null => .ok .null
    | v => inner.accept v

end FlatRecord
