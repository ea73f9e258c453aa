import FlatRecord.Execution.TypeSource

/-!
# Shapes

The shape of a field says which values it accepts: those of one carrier within bounds, null besides
them, null alone, or anything.
-/

namespace FlatRecord

open FlatRecord.Execution

/-- Bounds of numbers. -/
structure Limits where
  /-- No value is greater. -/
  greatest : Option Datum := none
  /-- Every value is less. -/
  below : Option Datum := none
  /-- No value is less. -/
  least : Option Datum := none
  /-- Every value is greater. -/
  above : Option Datum := none

/-- No bounds. -/
def Limits.free : Limits := {}

/-- Bounds that hold together; where both give the same bound, the second one counts. -/
def Limits.and (first second : Limits) : Limits :=
  ⟨second.greatest.or first.greatest, second.below.or first.below, second.least.or first.least,
    second.above.or first.above⟩

/-- The values that a field accepts. -/
inductive Shape where
  | anything
  | null
  | scalar (carrier : Carrier) (limits : Limits)
  | nullable (inner : Shape)

namespace Shape

/-- The number that a setting gives. -/
def limit? (settings : Bindings) (name : String) : Option Datum :=
  match settings.lookup name with
  | some (.datum (.int n)) => some (.int n)
  | some (.datum (.float x)) => some (.float x)
  | some (.datum (.bool b)) => some (.int (if b then 1 else 0))
  | _ => none

/-- The bounds that the settings of a field give. -/
def limitsOf (settings : Bindings) : Limits :=
  ⟨limit? settings "le", limit? settings "lt", limit? settings "ge", limit? settings "gt"⟩

/-- The settings in the notes on a type, later ones last. -/
def noteSettings (notes : List Object) : Bindings :=
  notes.foldl (fun settings note =>
    match note with
    | .field more => more.foldl (fun s e => bindName e.1 e.2 s) settings
    | _ => settings) []

/-- A shape with bounds on its numbers. -/
def limited (limits : Limits) : Shape → Shape
  | scalar carrier l => scalar carrier (l.and limits)
  | nullable inner => nullable (limited limits inner)
  | s => s

/-- Whether an object is the type of null. -/
def isNullType : Object → Bool
  | .type .null => true
  | _ => false

/-- The shape of a type. -/
def ofType : Nat → Object → Except Fault Shape
  | 0, o => .error (.unsupportedType o)
  | depth + 1, o =>
    match o with
    | .type .null => .ok .null
    | .type .object => .ok .anything
    | .type .base => .ok .anything
    | .type .settings => .ok .anything
    | .type (.record ..) => .ok .anything
    | .type name =>
      match name.carrier? with
      | some carrier => .ok (.scalar carrier .free)
      | none => .error (.unsupportedType o)
    | .annotated base notes => (ofType depth base).map (limited (limitsOf (noteSettings notes)))
    | .union members => do
      let inner ← (members.filter fun m => !isNullType m).mapM (ofType depth)
      let shape :=
        match inner with
        | [one] => one
        | _ => .anything
      return if members.any isNullType then .nullable shape else shape
    | o => .error (.unsupportedType o)

end Shape

end FlatRecord
