import FlatRecord.Datum.Written

/-!
# Syntax trees of record modules

The source text of a record type is a module of the scripting language. The trees have a constructor
for every construct that a record module is made of. Any other construct of the language is `foreign`:
an expression keeps the construct's name and its parts, a statement only the name.

`Node` is any place in a tree. `Node.walk` lists a node and everything below it, level by level.
-/

namespace FlatRecord.Script

open FlatRecord.Number

/-- What an expression that can stand on the left of an assignment is used for. -/
inductive Use where
  | load
  | store
  | delete
  deriving DecidableEq, Repr

/-- The values of literals. -/
inductive Constant where
  | datum (value : Datum)
  | complex (imaginary : Binary64)
  | ellipsis

/-- Operators with one operand. -/
inductive UnaryOp where
  | minus
  | not
  | plus
  | invert
  deriving DecidableEq, Repr

/-- Operators with two operands; the arithmetic ones that records never use keep their names. -/
inductive BinaryOp where
  | add
  | union
  | other (construct : String)
  deriving DecidableEq, Repr

/-- Comparisons; those that records never use keep their names. -/
inductive CompareOp where
  | equal
  | same
  | other (construct : String)
  deriving DecidableEq, Repr

/-- A name that an import binds, and the name it is bound to if that is another one. -/
structure Alias where
  name : String
  rename : Option String
  deriving DecidableEq, Repr

mutual

/-- Expressions. -/
inductive Expr where
  | constant (value : Constant)
  | name (id : String) (use : Use)
  | member (owner : Expr) (attr : String) (use : Use)
  | subscript (owner index : Expr) (use : Use)
  | list (items : List Expr) (use : Use)
  | tuple (items : List Expr) (use : Use)
  /-- A key is missing where another mapping is unpacked. -/
  | dict (keys : List (Option Expr)) (values : List Expr)
  | call (callee : Expr) (args : List Expr) (keywords : List Keyword)
  | unary (op : UnaryOp) (operand : Expr)
  | binary (left : Expr) (op : BinaryOp) (right : Expr)
  | compare (left : Expr) (ops : List CompareOp) (rights : List Expr)
  | foreign (construct : String) (parts : List Node)

/-- Named arguments of a call; the name is missing where a mapping is unpacked. -/
inductive Keyword where
  | mk (line : Nat) (name : Option String) (value : Expr)

/-- Parameters. -/
inductive Param where
  | mk (line : Nat) (name : String) (hint : Option Expr)

/-- Parameter lists. -/
inductive Params where
  | mk (positional args : List Param) (rest : Option Param) (named : List Param)
      (namedDefaults : List (Option Expr)) (mapping : Option Param) (defaults : List Expr)

/-- Statements, with the line each begins on. -/
inductive Stmt where
  | expr (line : Nat) (value : Expr)
  | assign (line : Nat) (targets : List Expr) (value : Expr)
  | annotated (line : Nat) (target hint : Expr) (value : Option Expr) (simple : Bool)
  | importModules (line : Nat) (names : List Alias)
  | importFrom (line : Nat) (module : Option String) (names : List Alias) (level : Nat)
  | classDef (line : Nat) (name : String) (bases : List Expr) (keywords : List Keyword)
      (body : List Stmt) (decorators : List Expr)
  | functionDef (line : Nat) (name : String) (params : Params) (body : List Stmt)
      (decorators : List Expr) (returns : Option Expr)
  | ret (line : Nat) (value : Option Expr)
  | branch (line : Nat) (test : Expr) (body otherwise : List Stmt)
  | foreign (line : Nat) (construct : String)

/-- Any place in a tree. -/
inductive Node where
  | expr (e : Expr)
  | stmt (s : Stmt)
  | keyword (k : Keyword)
  | param (p : Param)
  | params (ps : Params)
  | alias (a : Alias)
  | use (u : Use)
  | unaryOp (op : UnaryOp)
  | binaryOp (op : BinaryOp)
  | compareOp (op : CompareOp)
  /-- A construct without parts that records never use. -/
  | mark (construct : String)
  /-- A construct with parts that is neither an expression nor a statement. -/
  | group (construct : String) (parts : List Node)

end

instance : Inhabited Expr := ⟨.constant .ellipsis⟩

/-- A module. -/
structure Module where
  body : List Stmt

namespace Keyword

/-- The line that the argument stands on. -/
def line : Keyword → Nat
  | mk line _ _ => line

/-- The name of the argument. -/
def name : Keyword → Option String
  | mk _ name _ => name

/-- The value of the argument. -/
def value : Keyword → Expr
  | mk _ _ value => value

end Keyword

namespace Param

/-- The line that the parameter stands on. -/
def line : Param → Nat
  | mk line _ _ => line

/-- The name of the parameter. -/
def name : Param → String
  | mk _ name _ => name

/-- The annotation of the parameter. -/
def hint : Param → Option Expr
  | mk _ _ hint => hint

end Param

namespace Params

/-- Parameters that can only be given by position. -/
def positional : Params → List Param
  | mk positional .. => positional

/-- Plain parameters. -/
def args : Params → List Param
  | mk _ args .. => args

/-- The parameter that takes the remaining positions. -/
def rest : Params → Option Param
  | mk _ _ rest .. => rest

/-- Parameters that can only be given by name. -/
def named : Params → List Param
  | mk _ _ _ named .. => named

/-- The parameter that takes the remaining names. -/
def mapping : Params → Option Param
  | mk _ _ _ _ _ mapping _ => mapping

/-- Defaults of the last plain parameters. -/
def defaults : Params → List Expr
  | mk _ _ _ _ _ _ defaults => defaults

/-- All parameters in the order of the parameter list. -/
def all : Params → List Param
  | mk positional args rest named _ mapping _ =>
    positional ++ args ++ rest.toList ++ named ++ mapping.toList

end Params

/-- The line that a statement begins on. -/
def Stmt.line : Stmt → Nat
  | .expr line _ => line
  | .assign line _ _ => line
  | .annotated line .. => line
  | .importModules line _ => line
  | .importFrom line .. => line
  | .classDef line .. => line
  | .functionDef line .. => line
  | .ret line _ => line
  | .branch line .. => line
  | .foreign line .. => line

/-- The name of a use. -/
def Use.construct : Use → String
  | load => "Load"
  | store => "Store"
  | delete => "Del"

/-- The name of an operator. -/
def UnaryOp.construct : UnaryOp → String
  | minus => "USub"
  | not => "Not"
  | plus => "UAdd"
  | invert => "Invert"

/-- The name of an operator. -/
def BinaryOp.construct : BinaryOp → String
  | add => "Add"
  | union => "BitOr"
  | other construct => construct

/-- The name of a comparison. -/
def CompareOp.construct : CompareOp → String
  | equal => "Eq"
  | same => "Is"
  | other construct => construct

/-- The name of an expression's construct. -/
def Expr.construct : Expr → String
  | .constant _ => "Constant"
  | .name .. => "Name"
  | .member .. => "Attribute"
  | .subscript .. => "Subscript"
  | .list .. => "List"
  | .tuple .. => "Tuple"
  | .dict .. => "Dict"
  | .call .. => "Call"
  | .unary .. => "UnaryOp"
  | .binary .. => "BinOp"
  | .compare .. => "Compare"
  | .foreign construct _ => construct

/-- The name of a statement's construct. -/
def Stmt.construct : Stmt → String
  | .expr .. => "Expr"
  | .assign .. => "Assign"
  | .annotated .. => "AnnAssign"
  | .importModules .. => "Import"
  | .importFrom .. => "ImportFrom"
  | .classDef .. => "ClassDef"
  | .functionDef .. => "FunctionDef"
  | .ret .. => "Return"
  | .branch .. => "If"
  | .foreign _ construct => construct

/-- The name of a node's construct. -/
def Node.construct : Node → String
  | .expr e => e.construct
  | .stmt s => s.construct
  | .keyword _ => "keyword"
  | .param _ => "arg"
  | .params _ => "arguments"
  | .alias _ => "alias"
  | .use u => u.construct
  | .unaryOp op => op.construct
  | .binaryOp op => op.construct
  | .compareOp op => op.construct
  | .mark construct => construct
  | .group construct _ => construct

/-- The parts of an expression, in order. -/
def Expr.parts : Expr → List Node
  | .constant _ => []
  | .name _ use => [.use use]
  | .member owner _ use => [.expr owner, .use use]
  | .subscript owner index use => [.expr owner, .expr index, .use use]
  | .list items use => items.map .expr ++ [.use use]
  | .tuple items use => items.map .expr ++ [.use use]
  | .dict keys values => keys.filterMap (·.map .expr) ++ values.map .expr
  | .call callee args keywords => .expr callee :: (args.map .expr ++ keywords.map .keyword)
  | .unary op operand => [.unaryOp op, .expr operand]
  | .binary left op right => [.expr left, .binaryOp op, .expr right]
  | .compare left ops rights =>
    .expr left :: (ops.map .compareOp ++ rights.map .expr)
  | .foreign _ parts => parts

/-- The parts of a parameter list, in order. -/
def Params.parts : Params → List Node
  | .mk positional args rest named namedDefaults mapping defaults =>
    positional.map .param ++ args.map .param ++ rest.toList.map .param ++ named.map .param ++
      namedDefaults.filterMap (·.map .expr) ++ mapping.toList.map .param ++ defaults.map .expr

/-- The parts of a statement, in order. -/
def Stmt.parts : Stmt → List Node
  | .expr _ value => [.expr value]
  | .assign _ targets value => targets.map .expr ++ [.expr value]
  | .annotated _ target hint value _ =>
    .expr target :: .expr hint :: value.toList.map .expr
  | .importModules _ names => names.map .alias
  | .importFrom _ _ names _ => names.map .alias
  | .classDef _ _ bases keywords body decorators =>
    bases.map .expr ++ keywords.map .keyword ++ body.map .stmt ++ decorators.map .expr
  | .functionDef _ _ params body decorators returns =>
    .params params :: (body.map .stmt ++ decorators.map .expr ++ returns.toList.map .expr)
  | .ret _ value => value.toList.map .expr
  | .branch _ test body otherwise =>
    .expr test :: (body.map .stmt ++ otherwise.map .stmt)
  | .foreign .. => []

/-- The parts of a node, in order. -/
def Node.parts : Node → List Node
  | .expr e => e.parts
  | .stmt s => s.parts
  | .keyword k => [.expr k.value]
  | .param p => p.hint.toList.map .expr
  | .params ps => ps.parts
  | .alias _ => []
  | .use _ => []
  | .unaryOp _ => []
  | .binaryOp _ => []
  | .compareOp _ => []
  | .mark _ => []
  | .group _ parts => parts

/-- The size of a node, as a bound for what is below it. -/
noncomputable def Node.size : Node → Nat
  | .expr e => sizeOf e
  | .stmt s => sizeOf s
  | .keyword k => sizeOf k
  | .param p => sizeOf p
  | .params ps => sizeOf ps
  | .group _ parts => sizeOf parts
  | _ => 1

/-- The sizes of nodes, added up. -/
noncomputable def Node.sizes : List Node → Nat
  | [] => 0
  | n :: rest => n.size + Node.sizes rest

@[simp]
private theorem sizes_nil : Node.sizes [] = 0 := rfl

@[simp]
private theorem sizes_cons (n : Node) (rest : List Node) :
    Node.sizes (n :: rest) = n.size + Node.sizes rest := rfl

@[simp]
private theorem sizes_append (xs ys : List Node) :
    Node.sizes (xs ++ ys) = Node.sizes xs + Node.sizes ys := by
  induction xs with
  | nil => simp
  | cons x xs ih => simp [ih, Nat.add_assoc]

/-- Parts that are wrapped as nodes are smaller than their list, taken together. -/
private theorem sizes_map_lt {α : Type} [SizeOf α] (wrap : α → Node)
    (size : ∀ a, (wrap a).size ≤ sizeOf a) (xs : List α) :
    Node.sizes (xs.map wrap) < sizeOf xs := by
  induction xs with
  | nil => simp
  | cons x xs ih => have := size x; simp; omega

/-- The same for a part that may be missing. -/
private theorem sizes_option_lt {α : Type} [SizeOf α] (wrap : α → Node)
    (size : ∀ a, (wrap a).size ≤ sizeOf a) (x : Option α) :
    Node.sizes (x.toList.map wrap) < sizeOf x := by
  cases x with
  | none => simp
  | some x => have := size x; simp; omega

/-- The same for parts of which some are missing. -/
private theorem sizes_options_lt (xs : List (Option Expr)) :
    Node.sizes (xs.filterMap (·.map Node.expr)) < sizeOf xs := by
  induction xs with
  | nil => simp
  | cons x xs ih => cases x <;> simp [Node.size] at ih ⊢ <;> omega

/-- The same for parts that are nodes already. -/
private theorem sizes_lt (xs : List Node) : Node.sizes xs < sizeOf xs := by
  induction xs with
  | nil => simp
  | cons x xs ih => cases x <;> simp [Node.size] <;> omega

/-- The parts of an expression are smaller than it, taken together. -/
theorem Expr.sizes_parts_lt (e : Expr) : Node.sizes e.parts < sizeOf e := by
  have exprs := sizes_map_lt Node.expr (fun _ => Nat.le_refl _)
  cases e with
  | constant _ => simp [parts] <;> omega
  | name _ use => cases use <;> simp [parts, Node.size] <;> omega
  | member _ _ use => cases use <;> simp [parts, Node.size] <;> omega
  | subscript _ _ use => cases use <;> simp [parts, Node.size] <;> omega
  | list items use => have := exprs items; cases use <;> simp [parts, Node.size] at * <;> omega
  | tuple items use => have := exprs items; cases use <;> simp [parts, Node.size] at * <;> omega
  | dict keys values =>
    have := exprs values
    have := sizes_options_lt keys
    simp [parts] at *
    omega
  | call callee args keys =>
    have := exprs args
    have := sizes_map_lt Node.keyword (fun _ => Nat.le_refl _) keys
    simp [parts, Node.size] at *
    omega
  | unary op _ => cases op <;> simp [parts, Node.size] <;> omega
  | binary _ op _ => cases op <;> simp [parts, Node.size] <;> omega
  | compare _ comparisons rights =>
    have := exprs rights
    have := sizes_map_lt Node.compareOp (fun op => by cases op <;> simp [Node.size]) comparisons
    simp [parts, Node.size] at *
    omega
  | foreign _ items => have := sizes_lt items; simp [parts] at *; omega

/-- The parts of a parameter list are smaller than it, taken together. -/
theorem Params.sizes_parts_lt (ps : Params) : Node.sizes ps.parts < sizeOf ps := by
  have params := sizes_map_lt Node.param (fun _ => Nat.le_refl _)
  have param := sizes_option_lt Node.param (fun _ => Nat.le_refl _)
  cases ps with
  | mk positional args rest named namedDefaults mapping defaults =>
    have := params positional
    have := params args
    have := param rest
    have := params named
    have := sizes_options_lt namedDefaults
    have := param mapping
    have := sizes_map_lt Node.expr (fun _ => Nat.le_refl _) defaults
    simp [parts] at *
    omega

/-- The parts of a statement are smaller than it, taken together. -/
theorem Stmt.sizes_parts_lt (s : Stmt) : Node.sizes s.parts < sizeOf s := by
  have exprs := sizes_map_lt Node.expr (fun _ => Nat.le_refl _)
  have expr := sizes_option_lt Node.expr (fun _ => Nat.le_refl _)
  have stmts := sizes_map_lt Node.stmt (fun _ => Nat.le_refl _)
  have aliases := sizes_map_lt Node.alias (fun a => by cases a; simp [Node.size] <;> omega)
  cases s with
  | expr _ value => simp [parts, Node.size] <;> omega
  | assign _ targets value => have := exprs targets; simp [parts, Node.size] at *; omega
  | annotated _ target hint value simple =>
    have := expr value
    simp [parts, Node.size] at *
    omega
  | importModules _ names => have := aliases names; simp [parts] at *; omega
  | importFrom _ _ names _ => have := aliases names; simp [parts] at *; omega
  | classDef _ _ bases keywords body decorators =>
    have := exprs bases
    have := sizes_map_lt Node.keyword (fun _ => Nat.le_refl _) keywords
    have := stmts body
    have := exprs decorators
    simp [parts] at *
    omega
  | functionDef _ _ params body decorators returns =>
    have := stmts body
    have := exprs decorators
    have := expr returns
    simp [parts, Node.size] at *
    omega
  | ret _ value => have := expr value; simp [parts] at *; omega
  | branch _ test body otherwise =>
    have := stmts body
    have := stmts otherwise
    simp [parts, Node.size] at *
    omega
  | foreign _ _ => simp [parts] <;> omega

/-- The parts of a node are smaller than the node, taken together. -/
theorem Node.sizes_parts_lt (n : Node) : Node.sizes n.parts < n.size := by
  cases n with
  | expr e => exact e.sizes_parts_lt
  | stmt s => exact s.sizes_parts_lt
  | keyword k => cases k; simp [parts, Keyword.value, size] <;> omega
  | param p =>
    cases p with
    | mk _ _ hint =>
      have := sizes_option_lt Node.expr (fun _ => Nat.le_refl _) hint
      simp [parts, Param.hint, size] at *
      omega
  | params ps => exact ps.sizes_parts_lt
  | group _ items => exact sizes_lt items
  | _ => simp [parts, size]

/-- The nodes one level further down. -/
def Node.nextLevel (level : List Node) : List Node := level.flatMap Node.parts

/-- One level further down, nodes are smaller, taken together. -/
theorem Node.sizes_nextLevel_lt (level : List Node) (h : level ≠ []) :
    Node.sizes (Node.nextLevel level) < Node.sizes level := by
  have le (rest : List Node) : Node.sizes (rest.flatMap Node.parts) ≤ Node.sizes rest := by
    induction rest with
    | nil => simp
    | cons n rest ih => have := n.sizes_parts_lt; simp; omega
  match level, h with
  | n :: rest, _ =>
    have := n.sizes_parts_lt
    have := le rest
    simp [nextLevel]
    omega

/-- The nodes of a level, then those below them, level by level. -/
def Node.walkLevel (level : List Node) : List Node :=
  if _ : level = [] then [] else level ++ walkLevel (Node.nextLevel level)
termination_by Node.sizes level
decreasing_by exact Node.sizes_nextLevel_lt level (by assumption)

/-- A node and everything below it, level by level. -/
def Node.walk (n : Node) : List Node := Node.walkLevel [n]

/-- Everything in a module, level by level. -/
def Module.walk (m : Module) : List Node := Node.walkLevel (m.body.map .stmt)

end FlatRecord.Script
