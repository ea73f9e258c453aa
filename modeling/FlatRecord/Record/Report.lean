import FlatRecord.Record.Acceptance

/-!
# Reports

A report lists the values that a record did not accept: for each one its place, the objection, and
the value with its type. Long values are cut in the middle.
-/

namespace FlatRecord

/-- A value that was not accepted. -/
structure Complaint where
  place : String
  objection : Objection
  input : Datum

/-- The values that a record of the given title did not accept. -/
structure Report where
  title : String
  complaints : List Complaint

namespace Report

/-- The number of characters up to which a value is shown in full. -/
def inputWidth : Nat := 50

/-- The written form of a value, with its middle left out if it is long. -/
def inputText (v : Datum) : String :=
  let cs := v.written
  if cs.length ≤ inputWidth then String.ofList cs
  else String.ofList (cs.take 25 ++ "...".toList ++ cs.drop (cs.length - 24))

/-- The text of one complaint. -/
def complaintText (c : Complaint) : String :=
  "\n" ++ c.place ++ "\n  " ++ c.objection.message ++ " [type=" ++ c.objection.code ++
    ", input_value=" ++ inputText c.input ++ ", input_type=" ++ c.input.typeName ++ "]"

/-- The text of a report. -/
def message (r : Report) : String :=
  let count := r.complaints.length
  toString count ++ (if count = 1 then " validation error for " else " validation errors for ") ++
    r.title ++ String.join (r.complaints.map complaintText)

end Report

end FlatRecord
