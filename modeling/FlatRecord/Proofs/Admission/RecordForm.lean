import FlatRecord.Admission
import FlatRecord.Generation
import FlatRecord.Proofs.Script.Nodes

/-!
# The form of record modules

What a record module may be made of, in terms of the tree alone: the statements around its class, the
members of the class, the six forms that the body of a method can have, and which functions are
called, which members are taken and where operators stand anywhere in the tree. `IsRecordModule` puts
this together. The definitions describe trees and check nothing.
-/

namespace FlatRecord.Admission

open FlatRecord.Script
open FlatRecord.Generation (read literal textLiteral attributeOf)

/-- The names that may be imported, with the modules that they come from. -/
def importable : List (String × String) :=
  [("typing", "Annotated"), ("typing", "Optional"), ("pydantic", "BaseModel"),
   ("pydantic", "ConfigDict"), ("pydantic", "Field")]

/-- Whether a node is a definition or an import. -/
def isDefinition : Node → Bool
  | .stmt (.classDef ..) => true
  | .stmt (.functionDef ..) => true
  | .stmt (.importModules ..) => true
  | .stmt (.importFrom ..) => true
  | _ => false

/-- No definition and no import stands in a node. -/
abbrev DefinesNothing (n : Node) : Prop := n.Each fun inner => isDefinition inner = false

/-- No definition and no import stands inside of a statement. -/
def DefinesNothingInside (s : Stmt) : Prop := ∀ n ∈ Node.parts (.stmt s), DefinesNothing n

/-- No operator with two operands stands in a node. -/
abbrev IsPlain (n : Node) : Prop := n.Each fun inner => isOperation inner = false

/-- A documentation text, or none. -/
inductive IsDocumentation : List Stmt → Prop where
  | none : IsDocumentation []
  | text (line : Nat) (s : String) : IsDocumentation [.expr line (textLiteral s)]

/-- A statement beside the class of a module. -/
inductive IsHeader : Stmt → Prop where
  | documentation (line : Nat) (s : String) : IsHeader (.expr line (textLiteral s))
  | modules {line : Nat} {names : List Alias}
      (listed : ∀ a ∈ names, a.rename = none ∧ (a.name = "datetime" ∨ a.name = "decimal")) :
      IsHeader (.importModules line names)
  | names {line : Nat} {source : String} {names : List Alias}
      (listed : ∀ a ∈ names, a.rename = none ∧ (source, a.name) ∈ importable) :
      IsHeader (.importFrom line (some source) names 0)
  | assignment {line : Nat} {target : String} {value : Expr}
      (listed : target = "__namespace__" ∨ target = "__all__") :
      IsHeader (.assign line [.name target .store] value)

/-- A part of a text form: a text, or the text of an attribute. -/
inductive IsTextPart : Expr → Prop where
  | text (s : String) : IsTextPart (textLiteral s)
  | attribute (attr : String) : IsTextPart (.call (read "str") [attributeOf "self" attr] [])

/-- A text form: parts, joined to one text from left to right. -/
inductive IsTextSum : Expr → Prop where
  | part {e : Expr} (only : IsTextPart e) : IsTextSum e
  | join {left right : Expr} (first : IsTextSum left) (last : IsTextPart right) :
      IsTextSum (.binary left .add right)

/-- The names of the methods that do not read or store an attribute. -/
def namedMethods : List String := ["__init__", "__str__", "__eq__", "__hash__"]

/-- `super()`. -/
def superCall : Expr := .call (read "super") [] []

/-- The attributes of an instance, as a tuple. -/
def attributesOf (owner : String) (attrs : List String) : Expr :=
  .tuple (attrs.map (attributeOf owner)) .load

/-- The statements that a method of a class consists of, given the class, the method's name and its
parameters behind `self`. -/
inductive IsTemplate (className : String) : String → List String → List Stmt → Prop where
  | construct {line : Nat} : IsTemplate className "__init__" []
      [.expr line (.call (.member superCall "__init__" .load) [] [])]
  | spell {line : Nat} {e : Expr} (sum : IsTextSum e) : IsTemplate className "__str__" []
      [.ret line (some e)]
  | equal {same yes foreign no line : Nat} (other : String) (mine theirs : List String) :
      IsTemplate className "__eq__" [other]
      [.branch same (.compare (read "self") [.same] [read other])
          [.ret yes (some (literal (.bool true)))] [],
        .branch foreign (.unary .not (.call (read "isinstance") [read other, read className] []))
          [.ret no (some (literal (.bool false)))] [],
        .ret line (some (.compare (attributesOf "self" mine) [.equal] [attributesOf other theirs]))]
  | digest {line : Nat} (attrs : List String) : IsTemplate className "__hash__" []
      [.ret line (some (.call (read "hash") [attributesOf "self" attrs] []))]
  | read {line : Nat} {name : String} (attr : String) (ordinary : name ∉ namedMethods) :
      IsTemplate className name [] [.ret line (some (attributeOf "self" attr))]
  | store {line : Nat} {name : String} (parameter attr : String) (ordinary : name ∉ namedMethods) :
      IsTemplate className name [parameter]
      [.assign line [.member (Generation.read "self") attr .store] (Generation.read parameter)]

/-- A method of a class: undecorated, with plain parameters of which the first is `self`, no default,
and a body of the form that its name and parameters ask for, behind a documentation text at most. -/
inductive IsMethod (className : String) : Stmt → Prop where
  | mk {line receiverLine : Nat} {name : String} {receiverHint : Option Expr} {others : List Param}
      {notes body : List Stmt} {returns : Option Expr} (documentation : IsDocumentation notes)
      (template : IsTemplate className name (others.map Param.name) body) :
      IsMethod className (.functionDef line name
        (.mk [] (.mk receiverLine "self" receiverHint :: others) none [] [] none [])
        (notes ++ body) [] returns)

/-- A member of a class. -/
inductive IsMember (className : String) : Stmt → Prop where
  | documentation (line : Nat) (s : String) : IsMember className (.expr line (textLiteral s))
  | assignment {line : Nat} {targets : List Expr} {value : Expr} :
      IsMember className (.assign line targets value)
  | annotated {line : Nat} {target hint : Expr} {value : Option Expr} {simple : Bool} :
      IsMember className (.annotated line target hint value simple)
  | method {s : Stmt} (h : IsMethod className s) : IsMember className s

/-- Operators stand nowhere in a member of a class but in the sum that the method for the text form
returns, and join parts of a text form there. -/
inductive JoinsTextOnly : Stmt → Prop where
  | plain {s : Stmt} (h : IsPlain (.stmt s)) : JoinsTextOnly s
  | textForm {line at_line : Nat} {params : Params} {notes : List Stmt} {decorators : List Expr}
      {returns : Option Expr} {sum : Expr} (signature : IsPlain (.params params))
      (documentation : IsDocumentation notes) (marks : ∀ e ∈ decorators, IsPlain (.expr e))
      (result : ∀ e ∈ returns, IsPlain (.expr e))
      (joins : ∀ left op right, Node.Below (.expr (.binary left op right)) (.expr sum) →
        IsTextSum (.binary left op right)) :
      JoinsTextOnly (.functionDef line "__str__" params (notes ++ [.ret at_line (some sum)])
        decorators returns)

/-- A call of one of six functions, or of the constructor of the base class. Arguments that are not
given by position have names. -/
inductive IsCall : Expr → List Expr → List Keyword → Prop where
  | function {id : String} {args : List Expr} {keywords : List Keyword}
      (listed : id ∈ ["ConfigDict", "Field", "hash", "isinstance", "str"])
      (named : ∀ k ∈ keywords, k.name.isSome) : IsCall (read id) args keywords
  | super : IsCall (read "super") [] []
  | constructor {args : List Expr} {keywords : List Keyword}
      (named : ∀ k ∈ keywords, k.name.isSome) :
      IsCall (.member superCall "__init__" .load) args keywords

/-- A member that is taken: an attribute of one of the two instances, a type of one of the two
modules, or the constructor of the base class. -/
inductive IsAccess : Expr → String → Prop where
  | instance {owner attr : String} (known : owner = "self" ∨ owner = "other")
      (free : isDeclarable attr) : IsAccess (read owner) attr
  | date : IsAccess (read "datetime") "date"
  | dateTime : IsAccess (read "datetime") "datetime"
  | decimal : IsAccess (read "decimal") "Decimal"
  | constructor : IsAccess superCall "__init__"

/-- A module with one class of the given name and members, and statements before and behind it. -/
structure IsRecordModule (m : Module) (className : String) (before body after : List Stmt) :
    Prop where
  layout : ∃ line, m.body =
    before ++ .classDef line className [read "BaseModel"] [] body [] :: after
  headers : ∀ s ∈ before ++ after, IsHeader s
  members : ∀ s ∈ body, IsMember className s
  definitions : ∀ s ∈ before ++ body ++ after, DefinesNothingInside s
  operators : ∀ s ∈ before ++ after, IsPlain (.stmt s)
  joins : ∀ s ∈ body, JoinsTextOnly s
  calls : ∀ callee args keywords,
    .expr (.call callee args keywords) ∈ m.walk → IsCall callee args keywords
  accesses : ∀ owner attr use, .expr (.member owner attr use) ∈ m.walk → IsAccess owner attr

end FlatRecord.Admission
