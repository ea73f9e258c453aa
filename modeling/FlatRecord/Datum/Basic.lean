import FlatRecord.Calendar.Iso
import FlatRecord.Number.Exact
import FlatRecord.Text.Quoted

/-!
# Data

A `Datum` is a value that a document, a descriptor or a record field holds: a scalar, a list, a
mapping in the order in which its keys were first given, or a set. Mappings may have keys of any
type.
-/

namespace FlatRecord

open FlatRecord.Number FlatRecord.Calendar

/-- A value of a document or of a record field. -/
inductive Datum where
  | null
  | bool (value : Bool)
  | int (value : Int)
  | float (value : Binary64)
  | text (value : String)
  | bytes (value : List UInt8)
  | date (value : Date)
  | dateTime (value : DateTime)
  | decimal (value : Decimal)
  | list (items : List Datum)
  | map (entries : List (Datum × Datum))
  | set (items : List Datum)
  deriving Inhabited

namespace Datum

/-- The name of the value's type, as messages give it. -/
def typeName : Datum → String
  | null => "NoneType"
  | bool _ => "bool"
  | int _ => "int"
  | float _ => "float"
  | text _ => "str"
  | bytes _ => "bytes"
  | date _ => "date"
  | dateTime _ => "datetime"
  | decimal _ => "Decimal"
  | list _ => "list"
  | map _ => "dict"
  | set _ => "set"

/-- The value as a text, if it is one. -/
def text? : Datum → Option String
  | text s => some s
  | _ => none

/-- Whether a condition on the value holds: zeros, empty texts and containers and null do not. -/
def isTruthy : Datum → Bool
  | null => false
  | bool b => b
  | int n => n != 0
  | float x => x.isNonzero
  | text s => !s.isEmpty
  | bytes bs => !bs.isEmpty
  | date _ => true
  | dateTime _ => true
  | decimal (.finite _ c _) => c != 0
  | decimal _ => true
  | list xs => !xs.isEmpty
  | map es => !es.isEmpty
  | set xs => !xs.isEmpty

/-- The exact value of a number; truth values count as zero and one. -/
def exactValue? : Datum → Option Exact
  | bool b => some (Exact.ofInt (if b then 1 else 0))
  | int n => some (Exact.ofInt n)
  | float x => some (Exact.ofFloat x)
  | decimal d => some (Exact.ofDecimal d)
  | _ => none

mutual

/-- Equality of value. Numbers of different types may be equal; mappings are equal whatever the
order of their keys. -/
def same : Datum → Datum → Bool
  | null, other => match other with
    | null => true
    | _ => false
  | text s, other => match other with
    | text t => s == t
    | _ => false
  | bytes s, other => match other with
    | bytes t => s == t
    | _ => false
  | date s, other => match other with
    | date t => s = t
    | _ => false
  | dateTime s, other => match other with
    | dateTime t => s.agrees t
    | _ => false
  | list xs, other => match other with
    | list ys => sameItems xs ys
    | _ => false
  | map es, other => match other with
    | map fs => es.length == fs.length && sameEntries es fs
    | _ => false
  | set xs, other => match other with
    | set ys => xs.length == ys.length && sameMembers xs ys
    | _ => false
  | bool b, other => match other.exactValue? with
    | some y => (Exact.ofInt (if b then 1 else 0)).agrees y
    | none => false
  | int n, other => match other.exactValue? with
    | some y => (Exact.ofInt n).agrees y
    | none => false
  | float x, other => match other.exactValue? with
    | some y => (Exact.ofFloat x).agrees y
    | none => false
  | decimal d, other => match other.exactValue? with
    | some y => (Exact.ofDecimal d).agrees y
    | none => false

/-- Equality of lists, item by item. -/
def sameItems : List Datum → List Datum → Bool
  | [], [] => true
  | x :: xs, y :: ys => same x y && sameItems xs ys
  | _, _ => false

/-- Whether every item has an equal one among the others. -/
def sameMembers : List Datum → List Datum → Bool
  | [], _ => true
  | x :: rest, others => others.any (same x) && sameMembers rest others

/-- Whether every entry has an equal one among the others. -/
def sameEntries : List (Datum × Datum) → List (Datum × Datum) → Bool
  | [], _ => true
  | (k, v) :: rest, others =>
    (others.any fun e => same k e.1 && same v e.2) && sameEntries rest others

end

/-- The value of a key of a mapping. -/
def lookup? (entries : List (Datum × Datum)) (key : Datum) : Option Datum :=
  (entries.find? fun e => key.same e.1).map Prod.snd

/-- The value of a text key of a mapping. -/
def field? (entries : List (Datum × Datum)) (key : String) : Option Datum :=
  lookup? entries (.text key)

/-- Set the value of a key: a known key keeps its place, a new one comes last. -/
def put (key value : Datum) : List (Datum × Datum) → List (Datum × Datum)
  | [] => [(key, value)]
  | (k, v) :: rest =>
    if key.same k then (k, value) :: rest else (k, v) :: put key value rest

/-- The mapping of a sequence of entries: a repeated key keeps its first place and takes its last
value. -/
def ofEntries (entries : List (Datum × Datum)) : List (Datum × Datum) :=
  entries.foldl (fun es e => put e.1 e.2 es) []

/-- A value whose equality decides whether two hash codes are the same. Non-numbers have hash codes
of their own. -/
inductive HashKey where
  | null
  | number (code : Int)
  | text (value : String)
  | bytes (value : List UInt8)
  | date (value : Date)
  | wallTime (microseconds : Int)
  | instant (microseconds : Int)
  | nan
  deriving DecidableEq

/-- Why a value has no hash code. -/
inductive Unhashable where
  /-- Values of the type have none. -/
  | type (name : String)
  /-- A signalling non-number has none. -/
  | signalling
  deriving DecidableEq, Repr

/-- What the hash code of a value depends on. -/
def hashKey : Datum → Except Unhashable HashKey
  | null => .ok .null
  | text s => .ok (if s.isEmpty then .number 0 else .text s)
  | bytes bs => .ok (if bs.isEmpty then .number 0 else .bytes bs)
  | date d => .ok (.date d)
  | dateTime t =>
    match t.instant? with
    | some n => .ok (.instant n)
    | none => .ok (.wallTime t.localMicroseconds)
  | decimal (.nan _ true _) => .error .signalling
  | list _ => .error (.type "list")
  | map _ => .error (.type "dict")
  | set _ => .error (.type "set")
  | number =>
    match number.exactValue?.bind Exact.hashCode? with
    | some n => .ok (.number n)
    | none => .ok .nan

/-- Whether two hash codes are the same. -/
def HashKey.agrees : HashKey → HashKey → Bool
  | .nan, _ => false
  | _, .nan => false
  | a, b => a = b

end Datum

end FlatRecord
