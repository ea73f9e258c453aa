import FlatRecord.Script.Tree

/-!
# Targets

An expression on the left of an assignment is a target: a name, a member, a part, or a sequence of
targets. Targets are read as expressions first and turned into targets once the assignment shows.
-/

namespace FlatRecord.Script

/-- The name of the construct that unpacks an iterable. -/
def starred : String := "Starred"

mutual

/-- The expression as a target of some use, if it can be one. Only what is stored can be unpacked. -/
def Expr.target? (use : Use) : Expr → Option Expr
  | .name id _ => some (.name id use)
  | .member owner attr _ => some (.member owner attr use)
  | .subscript owner index _ => some (.subscript owner index use)
  | .tuple items _ => (Expr.targets? use items).map fun items => .tuple items use
  | .list items _ => (Expr.targets? use items).map fun items => .list items use
  | .foreign construct [.expr inner] =>
    if construct = starred ∧ use = .store then
      (inner.target? use).map fun inner => .foreign construct [.expr inner]
    else none
  | _ => none

/-- The expressions as targets. -/
def Expr.targets? (use : Use) : List Expr → Option (List Expr)
  | [] => some []
  | e :: rest => do
    let first ← e.target? use
    let others ← Expr.targets? use rest
    return first :: others

end

/-- Whether the expression is a single target: no sequence of targets. -/
def Expr.isSingleTarget : Expr → Bool
  | .name .. => true
  | .member .. => true
  | .subscript .. => true
  | _ => false

end FlatRecord.Script
