import FlatRecord.Script.Tree

/-!
# Methods of records

A record class has methods of six kinds, and the body of a method has exactly one form for its kind:
the constructor, reading and storing of an attribute, the text form, equality and the hash code.
`Behaviour.ofBody?` recognises the forms, so that a method can be run from what it says instead of
from its statements.
-/

namespace FlatRecord

open FlatRecord.Script

/-- A part of a text form. -/
inductive TextPart where
  | text (value : String)
  | attribute (name : String)
  deriving DecidableEq, Repr

/-- What a method does. -/
inductive Behaviour where
  /-- Construct the instance as every record does. -/
  | construct
  /-- Return an attribute. -/
  | read (name : String)
  /-- Store the argument in an attribute. -/
  | store (name : String)
  /-- Return parts joined to one text. -/
  | spell (parts : List TextPart)
  /-- Compare attributes of the instance with those of another one of the class. -/
  | equal (mine theirs : List String)
  /-- Return the hash code of attributes. -/
  | digest (names : List String)
  deriving DecidableEq, Repr

namespace Behaviour

/-- Whether an expression is the given name. -/
def isName (id : String) : Expr → Bool
  | .name other _ => other == id
  | _ => false

/-- The member that an expression takes of the given name. -/
def memberOf? (owner : String) : Expr → Option String
  | .member e attr _ => if isName owner e then some attr else none
  | _ => none

/-- The members of the given name that a tuple consists of. -/
def membersOf? (owner : String) : Expr → Option (List String)
  | .tuple items _ => items.mapM (memberOf? owner)
  | _ => none

/-- Whether an expression is `super()`. -/
def isSuper : Expr → Bool
  | .call callee [] [] => isName "super" callee
  | _ => false

/-- Whether a statement is a documentation text. -/
def isDocumentation : Stmt → Bool
  | .expr _ (.constant (.datum (.text _))) => true
  | _ => false

/-- Whether statements do nothing but return a truth value. -/
def returnsTruth (value : Bool) : List Stmt → Bool
  | [.ret _ (some (.constant (.datum (.bool b))))] => b == value
  | _ => false

/-- The constructor's form. -/
def construct? : List Stmt → Option Behaviour
  | [.expr _ (.call (.member owner "__init__" _) [] [])] =>
    if isSuper owner then some .construct else none
  | _ => none

/-- The form of a method that returns an attribute. -/
def read? : List Stmt → Option Behaviour
  | [.ret _ (some e)] => (memberOf? "self" e).map .read
  | _ => none

/-- The form of a method that stores its argument. -/
def store? (parameter : String) : List Stmt → Option Behaviour
  | [.assign _ [target] value] =>
    if isName parameter value then (memberOf? "self" target).map .store else none
  | _ => none

/-- A part of a text form: a text, or the text of an attribute. -/
def textPart? : Expr → Option TextPart
  | .constant (.datum (.text s)) => some (.text s)
  | .call callee [arg] [] => if isName "str" callee then (memberOf? "self" arg).map .attribute else none
  | _ => none

/-- The parts of a sum, in reverse. -/
def textParts? : Expr → Option (List TextPart)
  | .binary left .add right => do
    let last ← textPart? right
    let others ← textParts? left
    return last :: others
  | e => (textPart? e).map fun p => [p]

/-- The form of a text form's method. -/
def spell? : List Stmt → Option Behaviour
  | [.ret _ (some e)] => (textParts? e).map fun parts => .spell parts.reverse
  | _ => none

/-- Whether an expression asks if the parameter is the instance itself. -/
def asksIdentity (parameter : String) : Expr → Bool
  | .compare left [.same] (right :: _) => isName "self" left && isName parameter right
  | _ => false

/-- Whether an expression asks if the parameter is no instance of the class. -/
def asksForeignness (parameter className : String) : Expr → Bool
  | .unary .not (.call callee [arg, type] []) =>
    isName "isinstance" callee && isName parameter arg && isName className type
  | _ => false

/-- The form of equality. -/
def equal? (parameter className : String) : List Stmt → Option Behaviour
  | [.branch _ identity ifSame [], .branch _ foreign ifForeign [],
      .ret _ (some (.compare left [.equal] (right :: _)))] =>
    if returnsTruth true ifSame && asksIdentity parameter identity &&
        returnsTruth false ifForeign && asksForeignness parameter className foreign then do
      let mine ← membersOf? "self" left
      let theirs ← membersOf? parameter right
      return .equal mine theirs
    else none
  | _ => none

/-- The form of the hash code. -/
def digest? : List Stmt → Option Behaviour
  | [.ret _ (some (.call callee [arg] []))] =>
    if isName "hash" callee then (membersOf? "self" arg).map .digest else none
  | _ => none

/-- What a method of a class does, from its name, its parameters behind `self` and its body. The name
and the number of parameters decide which form the body must have. -/
def ofBody? (className name : String) (parameters : List String) (body : List Stmt) :
    Option Behaviour :=
  let body :=
    match body with
    | s :: rest => if isDocumentation s then rest else body
    | [] => []
  match name, parameters with
  | "__init__", [] => construct? body
  | "__str__", [] => spell? body
  | "__eq__", [p] => equal? p className body
  | "__hash__", [] => digest? body
  | "__init__", _ => none
  | "__str__", _ => none
  | "__eq__", _ => none
  | "__hash__", _ => none
  | _, [] => read? body
  | _, [p] => store? p body
  | _, _ => none

end Behaviour

end FlatRecord
