import FlatRecord.Record.Class

/-!
# Setters

A setter is a method of a record class with one parameter besides the instance whose annotation
gives a carrier, alone or with null. Methods with other annotations are no setters, nor are those
whose annotations name something unknown.
-/

namespace FlatRecord

open FlatRecord.Execution

/-- A setter of a record class. -/
structure Setter where
  name : String
  carrier : Carrier
  nullable : Bool
  method : Method

namespace Setter

/-- The carrier of a type, and whether null belongs to the type as well. -/
def carrierOf? : Object → Option (Carrier × Bool)
  | .type name => name.carrier?.map fun c => (c, false)
  | .union members =>
    match members.filter fun m => !Shape.isNullType m with
    | [.type name] => name.carrier?.map fun c => (c, true)
    | _ => none
  | _ => none

/-- The types that annotations give; none if one of them has no meaning. -/
def hintTypes (globals : Bindings) : Bindings → Except Fault (Option Bindings)
  | [] => .ok (some [])
  | (name, hint) :: rest =>
    match bareTypeOfHint (.module globals) hint with
    | .ok type => do
      let others ← hintTypes globals rest
      return others.map fun types => (name, type) :: types
    | .error fault => if fault.isUnresolved then .ok none else .error fault

/-- The carrier of a method's parameter besides the instance. -/
def parameterCarrier? (m : Method) (types : Bindings) : Option (Carrier × Bool) :=
  match m.parameters with
  | [_, parameter] => (types.lookup parameter).bind carrierOf?
  | _ => none

/-- The setter that a method is. -/
def ofMethod? (globals : Bindings) (m : Method) : Except Fault (Option Setter) :=
  if RecordClass.isHidden m.name || m.parameters.length != 2 then .ok none
  else do
    let types ← hintTypes globals m.hints
    return types.bind fun types =>
      (parameterCarrier? m types).map fun c => ⟨m.name, c.1, c.2, m⟩

/-- The setters of a record class, in the order of its methods. -/
def collect (globals : Bindings) (c : RecordClass) : Except Fault (List Setter) :=
  (c.methods.mapM (ofMethod? globals)).map fun setters => setters.filterMap id

end Setter

end FlatRecord
