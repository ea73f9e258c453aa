import FlatRecord.Datum.Basic

/-!
# Written data

The written form of a value in the scripting language: what source text and messages show for it.
The display form differs from it for texts, which stand without quotes, and for decimals, dates and
date-times, which stand as plain text.
-/

namespace FlatRecord.Datum

open FlatRecord.Number FlatRecord.Calendar FlatRecord.Text

/-- Texts with the given text between each two of them. -/
def joinWith (separator : List Char) : List (List Char) → List Char
  | [] => []
  | [x] => x
  | x :: rest => x ++ separator ++ joinWith separator rest

/-- A named part of a time span, unless it is zero. -/
def spanPart (name : String) (n : Int) : List (List Char) :=
  if n = 0 then [] else [name.toList ++ '=' :: integerText n]

/-- A time span: whole days, which alone may be negative, seconds and microseconds. -/
def writtenSpan (microseconds : Int) : List Char :=
  let days := microseconds / 86400000000
  let rest := microseconds % 86400000000
  let parts := spanPart "days" days ++ spanPart "seconds" (rest / 1000000) ++
    spanPart "microseconds" (rest % 1000000)
  "datetime.timedelta(".toList ++
    (if parts.isEmpty then ['0'] else joinWith ", ".toList parts) ++ [')']

/-- A distance from universal time. -/
def writtenOffset (o : Offset) : List Char :=
  if o.microseconds = 0 then "datetime.timezone.utc".toList
  else "datetime.timezone(".toList ++ writtenSpan o.microseconds ++ [')']

/-- A date. -/
def writtenDate (d : Date) : List Char :=
  "datetime.date(".toList ++
    joinWith ", ".toList [naturalText d.year, naturalText d.month, naturalText d.day] ++ [')']

/-- A date-time; seconds and microseconds are left out where they are zero. -/
def writtenDateTime (t : DateTime) : List Char :=
  let c := t.clock
  let seconds := if c.second = 0 ∧ c.microsecond = 0 then [] else [naturalText c.second]
  let micros := if c.microsecond = 0 then [] else [naturalText c.microsecond]
  let zone := match t.offset with
    | some o => ["tzinfo=".toList ++ writtenOffset o]
    | none => []
  "datetime.datetime(".toList ++
    joinWith ", ".toList
      ([naturalText t.date.year, naturalText t.date.month, naturalText t.date.day,
        naturalText c.hour, naturalText c.minute] ++ seconds ++ micros ++ zone) ++ [')']

mutual

/-- The written form of a value. -/
def written : Datum → List Char
  | null => "None".toList
  | bool b => if b then "True".toList else "False".toList
  | int n => integerText n
  | float x => floatText x
  | text s => quote s.toList
  | bytes bs => quoteBytes bs
  | date d => writtenDate d
  | dateTime t => writtenDateTime t
  | decimal d => "Decimal('".toList ++ d.text ++ "')".toList
  | list xs => '[' :: (writtenItems xs ++ [']'])
  | map es => '\x7b' :: (writtenEntries es ++ ['\x7d'])
  | set [] => "set()".toList
  | set xs => '\x7b' :: (writtenItems xs ++ ['\x7d'])

/-- The written items of a list. -/
def writtenItems : List Datum → List Char
  | [] => []
  | [x] => written x
  | x :: rest => written x ++ ',' :: ' ' :: writtenItems rest

/-- The written entries of a mapping. -/
def writtenEntries : List (Datum × Datum) → List Char
  | [] => []
  | [(k, v)] => written k ++ ':' :: ' ' :: written v
  | (k, v) :: rest => written k ++ ':' :: ' ' :: (written v ++ ',' :: ' ' :: writtenEntries rest)

end

/-- The written form of a value, as a string. -/
def writtenString (v : Datum) : String := String.ofList v.written

/-- Whether the value is an integer with too many digits to be written as text. -/
def isUnwritable : Datum → Bool
  | int n => Number.isUnwritable n
  | _ => false

/-- The display form of a value. -/
def display : Datum → List Char
  | text s => s.toList
  | date d => d.isoText
  | dateTime t => t.textWith ' '
  | decimal d => d.text
  | other => other.written

/-- The display form of a value, as a string. -/
def displayString (v : Datum) : String := String.ofList v.display

end FlatRecord.Datum
