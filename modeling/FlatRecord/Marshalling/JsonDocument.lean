import FlatRecord.Json.Writer
import FlatRecord.Marshalling.Xml

/-!
# JSON documents of records

A record is an object with an entry for each field, under the name of the field in documents. Dates
and date-times are ISO text, with `Z` for universal time and other offsets in whole minutes; decimals
are text with the digits they have, and sets are lists.
-/

namespace FlatRecord.JsonDocument

open FlatRecord.Calendar FlatRecord.Number

/-- An offset as text, without its seconds. -/
def offsetText (o : Offset) : List Char :=
  let seconds := o.microseconds.fdiv 1000000
  if seconds = 0 then ['Z']
  else
    let minutes := (seconds.tdiv 60).natAbs
    (if seconds < 0 then '-' else '+') ::
      (paddedNumber 2 (minutes / 60) ++ ':' :: paddedNumber 2 (minutes % 60))

/-- A date-time as text. -/
def dateTimeText (t : DateTime) : List Char :=
  t.date.isoText ++ 'T' :: (t.clock.isoText ++
    match t.offset with
    | some o => offsetText o
    | none => [])

mutual

/-- A value in terms of what JSON can show; none if a byte string is no text. -/
def shown? : Datum → Option Datum
  | .date d => some (.text (String.ofList d.isoText))
  | .dateTime t => some (.text (String.ofList (dateTimeText t)))
  | .decimal d => some (.text d.string)
  | .bytes bs => (String.fromUTF8? ⟨bs.toArray⟩).map .text
  | .list items | .set items => (shownItems? items).map .list
  | .map entries => (shownEntries? entries).map .map
  | v => some v

/-- The items of a list in terms of what JSON can show. -/
def shownItems? : List Datum → Option (List Datum)
  | [] => some []
  | x :: rest => do
    let v ← shown? x
    let vs ← shownItems? rest
    return v :: vs

/-- The entries of a mapping in terms of what JSON can show. -/
def shownEntries? : List (Datum × Datum) → Option (List (Datum × Datum))
  | [] => some []
  | (k, v) :: rest => do
    let key ← shown? k
    let value ← shown? v
    let more ← shownEntries? rest
    return (key, value) :: more

end

/-- The entry of a field. -/
def entry (i : Instance) (f : Field) : Except MarshalFault (Datum × Datum) :=
  match shown? ((i.values.lookup f.attr).getD .null) with
  | some v => .ok (.text f.documentName, v)
  | none => .error (.undecodable i.record.name)

/-- The document of a record. -/
def document (pretty : Bool) (i : Instance) : Except MarshalFault String := do
  let entries ← i.record.fields.mapM (entry i)
  let style := Json.Style.document (if pretty then .indented else .compact)
  match Json.write style 0 (.map entries) with
  | .ok cs => return String.ofList cs
  | .error typeName => .error (.unsupported i.record.name typeName)

end FlatRecord.JsonDocument
