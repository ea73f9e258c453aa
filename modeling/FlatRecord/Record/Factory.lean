import FlatRecord.Record.Class

/-!
# Defaults that are made

A field without a default can name a factory, which is called whenever an instance needs the value.
A factory is a type or a function. It is called without arguments, unless it has one parameter: then
it is called with the values that the instance has so far.
-/

namespace FlatRecord

open FlatRecord.Execution

namespace Factory

/-- What a type makes without arguments: the value that stands for nothing, where the type has
one. -/
def ofType : TypeName → Except Fault Object
  | .boolean => .ok (.datum (.bool false))
  | .integer => .ok (.datum (.int 0))
  | .float => .ok (.datum (.float (Number.Binary64.zero false)))
  | .decimal => .ok (.datum (.decimal (.finite false 0 0)))
  | .date => .error (.argumentCount "function missing required argument 'year' (pos 1)")
  | .dateTime => .error (.argumentCount "function missing required argument 'year' (pos 1)")
  | .parent => .error .outsideClass
  | name => applyCall (.type name) [] []

/-- What a factory makes. -/
def make : Object → Except Fault Object
  | .type name => ofType name
  | .function .hash => applyCall (.function .hash) [.map []] []
  | o => applyCall o [] []

end Factory

/-- The object that a field starts with: its default, or what its factory makes. -/
def Field.initial? (f : Field) : Except Fault (Option Object) :=
  match f.default, f.factory with
  | some o, _ => .ok (some o)
  | none, some factory => (Factory.make factory).map some
  | none, none => .ok none

end FlatRecord
