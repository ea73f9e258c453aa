import FlatRecord.Execution.ClassBody

/-!
# Types in source text

An annotation may give a type, or a part of one, by source text. The text is read in a scope when the
type is needed, and what it evaluates to may again hold source text.
-/

namespace FlatRecord.Execution

/-- Read the source texts in a type. Each text that is read may hold shorter ones, so the number of
characters bounds the depth. -/
def resolveType (scope : Scope) : Nat → Object → Except Fault Object
  | 0, o => .ok o
  | depth + 1, o =>
    match o with
    | .forward source => do
      let e ← checkTypeSource source
      let value ← evaluate scope e
      let type ← asType "Forward references must evaluate to types." value
      resolveType scope depth type
    | .union members => (members.mapM (resolveType scope depth)).map unionOf
    | .annotated base notes => (resolveType scope depth base).map fun t => .annotated t notes
    | o => .ok o

/-- The type that an annotation gives. -/
def typeOfHint (scope : Scope) (hint : Object) : Except Fault Object :=
  match hint with
  | .datum .null => .ok (.type .null)
  | .datum (.text source) => do
    let _ ← checkTypeSource source
    resolveType scope (source.length + 2) (.forward source)
  | o => resolveType scope (o.written.length + 2) o

/-- The type without the notes on it. -/
def withoutNotes : Nat → Object → Object
  | 0, o => o
  | depth + 1, o =>
    match o with
    | .annotated base _ => withoutNotes depth base
    | .union members => unionOf (members.map (withoutNotes depth))
    | o => o

/-- The type that an annotation gives, without notes. -/
def bareTypeOfHint (scope : Scope) (hint : Object) : Except Fault Object :=
  (typeOfHint scope hint).map fun t => withoutNotes (t.written.length + 1) t

end FlatRecord.Execution
