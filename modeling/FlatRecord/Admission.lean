import FlatRecord.Admission.Method
import FlatRecord.Text.Quoted

/-!
# Admission of record modules

Source text may come from anywhere, so a module is looked at before it is run. A record module has
imports from a short list, assignments to two names, and a single class derived from `BaseModel`
whose members are assignments and methods of the forms in `Behaviour`. All constructs, names, members
and calls in it are among those that generated modules use.

`Module.admit` gives the name of the class, or the first reason why the module is rejected: the
statements are looked at in order, then every node of the tree, level by level.
-/

namespace FlatRecord

open FlatRecord.Script FlatRecord.Text

/-- Why a module is rejected. -/
inductive Rejection where
  | severalClasses
  | noClass
  | moduleStatement (line : Nat)
  | moduleAssignment (line : Nat)
  | importedModule (name : String)
  | importSource (name : Option String)
  | importedName (name : String) (source : Option String)
  | decoratedClass (name : String)
  | foreignBase (name : String)
  | classStatement (name : String) (line : Nat)
  | decoratedMethod (name : String)
  | methodSignature (name : String)
  | methodReceiver (name : String)
  | methodBody (name : String)
  /-- An operator where none is allowed; `place` says where. -/
  | operator (place : String)
  | construct (name : String)
  | constant (typeName : String)
  | reservedName (name : String)
  | reference (name : String)
  | member (name : String)
  | unpackedArguments
  | superArguments
  | callTarget
  deriving DecidableEq, Repr

/-- A name in quotes, or the word for none. -/
def quotedOrNone : Option String → String
  | some s => quoted s
  | none => "None"

/-- The message of a rejection. -/
def Rejection.message : Rejection → String
  | severalClasses => "Record source must define exactly one class"
  | noClass => "Record source does not define a class"
  | moduleStatement line => "Unexpected module-level statement on line " ++ toString line
  | moduleAssignment line => "Unexpected module-level assignment on line " ++ toString line
  | importedModule name => "Import of " ++ quoted name ++ " is not allowed"
  | importSource name => "Import from " ++ quotedOrNone name ++ " is not allowed"
  | importedName name source =>
    "Import of " ++ quoted name ++ " from " ++ quotedOrNone source ++ " is not allowed"
  | decoratedClass name => "Class " ++ name ++ " must not use decorators or keywords"
  | foreignBase name => "Class " ++ name ++ " must derive from BaseModel only"
  | classStatement name line =>
    "Unexpected statement in class " ++ name ++ " on line " ++ toString line
  | decoratedMethod name => "Method " ++ name ++ " must not use decorators"
  | methodSignature name => "Method " ++ name ++ " has an unsupported signature"
  | methodReceiver name => "Method " ++ name ++ " must take self as its first argument"
  | methodBody name => "Body of method " ++ name ++ " is not a generated record method"
  | operator place => "Operator expression in " ++ place ++ " is not allowed"
  | construct name => "Construct " ++ name ++ " is not allowed"
  | constant typeName => "Constant of type " ++ typeName ++ " is not allowed"
  | reservedName name => "Name " ++ quoted name ++ " is not allowed"
  | reference name => "Reference to name " ++ quoted name ++ " is not allowed"
  | member name => "Attribute access ." ++ name ++ " is not allowed"
  | unpackedArguments => "Keyword unpacking in calls is not allowed"
  | superArguments => "super() must be called without arguments"
  | callTarget => "Call target is not allowed"

namespace Admission

/-- The modules that names may be imported from, with these names. -/
def importableNames : List (String × List String) :=
  [("typing", ["Annotated", "Optional"]), ("pydantic", ["BaseModel", "ConfigDict", "Field"])]

/-- The modules that may be imported, with the members that may be used. -/
def moduleMembers : List (String × List String) :=
  [("datetime", ["date", "datetime"]), ("decimal", ["Decimal"])]

/-- The names that may be called. -/
def callable : List String := ["ConfigDict", "Field", "hash", "isinstance", "str", "super"]

/-- The names that may be used, apart from that of the class. -/
def usable : List String :=
  ["Annotated", "BaseModel", "ConfigDict", "Field", "Optional", "bool", "datetime", "decimal",
   "float", "hash", "int", "isinstance", "object", "other", "self", "str", "super", "value"]

/-- The names with two underscores on either side that may be declared. -/
def specialNames : List String :=
  ["__all__", "__eq__", "__hash__", "__init__", "__namespace__", "__str__"]

/-- Refuse a module for a reason unless a condition holds. -/
def require (condition : Bool) (reason : Rejection) : Except Rejection Unit :=
  if condition then .ok () else .error reason

/-- Whether a name begins and ends with two underscores. -/
def isSpecial (name : String) : Bool :=
  "__".toList.isPrefixOf name.toList && "__".toList.isSuffixOf name.toList

/-- Whether a name may be declared. -/
def isDeclarable (name : String) : Bool := !isSpecial name || specialNames.contains name

/-- Whether a node is an operator with its two operands. -/
def isOperation : Node → Bool
  | .expr (.binary ..) => true
  | _ => false

/-- No operator stands in an expression. -/
def withoutOperators (place : String) (e : Expr) : Except Rejection Unit :=
  require (!(Node.walk (.expr e)).any isOperation) (.operator place)

/-- Check an import of modules. -/
def importModules (names : List Alias) : Except Rejection Unit :=
  names.forM fun a =>
    require (a.rename.isNone && (moduleMembers.lookup a.name).isSome) (.importedModule a.name)

/-- Check an import of names. -/
def importFrom (source : Option String) (names : List Alias) (level : Nat) :
    Except Rejection Unit :=
  match source.bind fun s => importableNames.lookup s, level with
  | some allowed, 0 =>
    names.forM fun a =>
      require (a.rename.isNone && allowed.contains a.name) (.importedName a.name source)
  | _, _ => .error (.importSource source)

/-- Whether a parameter list has nothing but plain parameters without defaults. -/
def isPlain : Params → Bool
  | .mk [] _ none [] _ none [] => true
  | _ => false

/-- Check a method of a class. -/
def method (className name : String) (params : Params) (body : List Stmt) (decorators : List Expr)
    (returns : Option Expr) : Except Rejection Unit := do
  require decorators.isEmpty (.decoratedMethod name)
  require (isPlain params) (.methodSignature name)
  require ((params.args.head?.map Param.name) == some "self") (.methodReceiver name)
  let place := "method " ++ name
  returns.toList.forM (withoutOperators place)
  params.args.forM fun p => p.hint.toList.forM (withoutOperators place)
  let parameters := params.args.tail.map Param.name
  require (Behaviour.ofBody? className name parameters body).isSome (.methodBody name)

/-- No operator stands in a member of a class. -/
def memberWithoutOperators (className : String) (s : Stmt) : Except Rejection Unit :=
  require (!(Node.walk (.stmt s)).any isOperation) (.operator ("class " ++ className))

/-- Check a member of a class. -/
def classMember (className : String) (s : Stmt) : Except Rejection Unit :=
  match s with
  | .functionDef _ name params body decorators returns =>
    method className name params body decorators returns
  | .assign .. => memberWithoutOperators className s
  | .annotated .. => memberWithoutOperators className s
  | s => require (Behaviour.isDocumentation s) (.classStatement className s.line)

/-- Check a class. -/
def recordClass (name : String) (bases : List Expr) (keywords : List Keyword) (body : List Stmt)
    (decorators : List Expr) : Except Rejection Unit := do
  require (isDeclarable name) (.reservedName name)
  require (decorators.isEmpty && keywords.isEmpty) (.decoratedClass name)
  require (match bases with
    | [base] => Behaviour.isName "BaseModel" base
    | _ => false) (.foreignBase name)
  body.forM (classMember name)

/-- Check an assignment outside of the class. -/
def moduleAssignment (line : Nat) (targets : List Expr) (value : Expr) : Except Rejection Unit := do
  require (match targets with
    | [target] => Behaviour.isName "__namespace__" target || Behaviour.isName "__all__" target
    | _ => false) (.moduleAssignment line)
  withoutOperators "module" value

/-- Check a statement of a module; the answer is the name of the class if there has been one. -/
def moduleStatement (found : Option String) (s : Stmt) : Except Rejection (Option String) := do
  match s with
  | .classDef _ name bases keywords body decorators =>
    require found.isNone .severalClasses
    recordClass name bases keywords body decorators
    return some name
  | .importModules _ names => importModules names
  | .importFrom _ source names level => importFrom source names level
  | .assign line targets value => moduleAssignment line targets value
  | s => require (Behaviour.isDocumentation s) (.moduleStatement s.line)
  return found

/-- Whether a node's construct is one of those that records are made of. -/
def isFamiliar : Node → Bool
  | .expr (.foreign ..) => false
  | .stmt (.foreign ..) => false
  | .use .delete => false
  | .unaryOp .plus => false
  | .unaryOp .invert => false
  | .binaryOp op => op == .add
  | .compareOp (.other _) => false
  | .mark _ => false
  | .group .. => false
  | _ => true

/-- The name of the type of a constant that records do not use. -/
def foreignConstant? : Constant → Option String
  | .datum (.bytes _) => some "bytes"
  | .datum _ => none
  | .complex _ => some "complex"
  | .ellipsis => some "ellipsis"

/-- Whether a member may be taken of an expression. -/
def isMember (owner : Expr) (attr : String) : Bool :=
  match owner with
  | .name id _ => ((moduleMembers.lookup id).getD []).contains attr
  | e => Behaviour.isSuper e && attr == "__init__"

/-- Whether an expression is the instance or the one that it is compared with. -/
def isInstance (e : Expr) : Bool := Behaviour.isName "self" e || Behaviour.isName "other" e

/-- Check the target and the arguments of a call. -/
def callNode (callee : Expr) (args : List Expr) (keywords : List Keyword) :
    Except Rejection Unit := do
  require (keywords.all fun k => k.name.isSome) .unpackedArguments
  match callee with
  | .name id _ =>
    require (callable.contains id) .callTarget
    require (id != "super" || (args.isEmpty && keywords.isEmpty)) .superArguments
  | .member owner attr _ => require (attr == "__init__" && Behaviour.isSuper owner) .callTarget
  | _ => .error .callTarget

/-- Check one node of a module whose class has the given name. -/
def node (className : String) (n : Node) : Except Rejection Unit := do
  require (isFamiliar n) (.construct n.construct)
  match n with
  | .expr (.constant c) =>
    match foreignConstant? c with
    | some typeName => .error (.constant typeName)
    | none => return ()
  | .expr (.name id .load) => require (usable.contains id || id == className) (.reference id)
  | .expr (.name id _) => require (isDeclarable id) (.reservedName id)
  | .expr (.member owner attr _) =>
    if isInstance owner then require (isDeclarable attr) (.reservedName attr)
    else require (isMember owner attr) (.member attr)
  | .expr (.call callee args keywords) => callNode callee args keywords
  | .stmt (.functionDef _ name _ _ _ _) => require (isDeclarable name) (.reservedName name)
  | .param p => require (isDeclarable p.name) (.reservedName p.name)
  | _ => return ()

end Admission

/-- Admit a module: the name of its class, or why it is rejected. -/
def Script.Module.admit (m : Module) : Except Rejection String := do
  match ← m.body.foldlM Admission.moduleStatement none with
  | none => .error .noClass
  | some name =>
    m.walk.forM (Admission.node name)
    return name

end FlatRecord
