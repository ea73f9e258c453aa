import FlatRecord.Script.Tree

/-!
# Printing record modules

The source text of a tree. A module, class or function that begins with a documentation text shows it
between triple quotes; every other text is quoted. An empty line stands before each class and each
function. A construct that records never use has no printed form and leaves no text.
-/

namespace FlatRecord.Script

open FlatRecord.Number FlatRecord.Text

/-- A double precision literal. Infinity is written as a number that is too large. -/
def floatLiteral : Binary64 → List Char
  | .nan => "(1e309-1e309)".toList
  | .infinite negative => if negative then "-1e309".toList else "1e309".toList
  | x => floatText x

/-- A literal. -/
def Constant.print : Constant → List Char
  | .datum (.float x) => floatLiteral x
  | .datum v => v.written
  | .complex x => floatLiteral x ++ ['j']
  | .ellipsis => "...".toList

/-- An operator with one operand. -/
def UnaryOp.print : UnaryOp → List Char
  | minus => ['-']
  | plus => ['+']
  | invert => ['~']
  | not => "not ".toList

/-- An operator with two operands. -/
def BinaryOp.print : BinaryOp → List Char
  | add => " + ".toList
  | union => " | ".toList
  | other _ => []

/-- A comparison. -/
def CompareOp.print : CompareOp → List Char
  | equal => " == ".toList
  | same => " is ".toList
  | other _ => []

/-- Pieces with commas between them. -/
def separated (pieces : List (List Char)) : List Char := Datum.joinWith [',', ' '] pieces

/-- The items of a tuple; a single item has a comma after it. -/
def tupleItems : List (List Char) → List Char
  | [x] => x ++ [',']
  | pieces => separated pieces

/-- Comparisons after the first operand, from operators and operands. -/
def comparisonPieces (ops : List CompareOp) (rights : List (List Char)) : List Char :=
  (ops.zip rights).flatMap fun p => p.1.print ++ p.2

mutual

/-- An expression. -/
def Expr.print : Expr → List Char
  | .constant value => value.print
  | .name id _ => id.toList
  | .member owner attr _ => owner.print ++ '.' :: attr.toList
  | .subscript owner (.tuple items _) _ =>
    let pieces := Expr.printEach items
    let inner := if pieces.isEmpty then ['(', ')'] else tupleItems pieces
    owner.print ++ '[' :: (inner ++ [']'])
  | .subscript owner index _ => owner.print ++ '[' :: (index.print ++ [']'])
  | .list items _ => '[' :: (separated (Expr.printEach items) ++ [']'])
  | .tuple items _ => '(' :: (tupleItems (Expr.printEach items) ++ [')'])
  | .dict keys values =>
    let pieces := (Expr.printKeys keys).zip (Expr.printEach values)
    '\x7b' :: (separated (pieces.map fun p => p.1 ++ p.2) ++ ['\x7d'])
  | .call callee args keywords =>
    callee.print ++ '(' ::
      (separated (Expr.printEach args ++ Expr.printKeywords keywords) ++ [')'])
  | .unary op operand => op.print ++ operand.print
  | .binary left op right => left.print ++ op.print ++ right.print
  | .compare left ops rights => left.print ++ comparisonPieces ops (Expr.printEach rights)
  | .foreign _ _ => []

/-- Expressions, each printed. -/
def Expr.printEach : List Expr → List (List Char)
  | [] => []
  | x :: rest => x.print :: Expr.printEach rest

/-- Keys of a mapping, each with the colon after it. -/
def Expr.printKeys : List (Option Expr) → List (List Char)
  | [] => []
  | some k :: rest => (k.print ++ [':', ' ']) :: Expr.printKeys rest
  | none :: rest => ['*', '*'] :: Expr.printKeys rest

/-- Named arguments, each printed. -/
def Expr.printKeywords : List Keyword → List (List Char)
  | [] => []
  | .mk _ (some label) value :: rest =>
    (label.toList ++ '=' :: value.print) :: Expr.printKeywords rest
  | .mk _ none value :: rest => ('*' :: '*' :: value.print) :: Expr.printKeywords rest

end

/-- A parameter with its annotation. -/
def Param.print : Param → List Char
  | .mk _ name none => name.toList
  | .mk _ name (some hint) => name.toList ++ ':' :: ' ' :: hint.print

/-- Plain parameters. -/
def Params.print (ps : Params) : List Char :=
  separated (ps.args.map Param.print)

/-- The beginning of a line at a depth of four blanks for each level. -/
def indentation (depth : Nat) : List Char := List.replicate (4 * depth) ' '

/-- The name of a module that names are imported from. -/
def importSource (module : Option String) (level : Nat) : List Char :=
  List.replicate level '.' ++ (module.getD "").toList

/-- An imported name. -/
def Alias.print (a : Alias) : List Char :=
  a.name.toList ++ match a.rename with
    | some n => " as ".toList ++ n.toList
    | none => []

mutual

/-- A statement, each of its lines ended by a line feed. -/
def Stmt.print (depth : Nat) : Stmt → List Char
  | .expr _ value => indentation depth ++ value.print ++ ['\n']
  | .assign _ targets value =>
    indentation depth ++ targets.flatMap (fun t => t.print ++ " = ".toList) ++ value.print ++ ['\n']
  | .annotated _ target hint value _ =>
    indentation depth ++ target.print ++ ':' :: ' ' :: hint.print ++
      (match value with
        | some v => " = ".toList ++ v.print
        | none => []) ++ ['\n']
  | .importModules _ names =>
    indentation depth ++ "import ".toList ++
      separated (names.map Alias.print) ++ ['\n']
  | .importFrom _ module names level =>
    indentation depth ++ "from ".toList ++ importSource module level ++ " import ".toList ++
      separated (names.map Alias.print) ++ ['\n']
  | .classDef _ name bases _ body _ =>
    '\n' :: indentation depth ++ "class ".toList ++ name.toList ++
      (if bases.isEmpty then [] else '(' :: (separated (Expr.printEach bases) ++ [')'])) ++
      ':' :: '\n' :: Stmt.printBody (depth + 1) body
  | .functionDef _ name params body _ returns =>
    '\n' :: indentation depth ++ "def ".toList ++ name.toList ++
      '(' :: (params.print ++ ')' ::
        ((match returns with
          | some r => " -> ".toList ++ r.print
          | none => []) ++ ':' :: '\n' :: Stmt.printBody (depth + 1) body))
  | .ret _ value =>
    indentation depth ++ "return".toList ++
      (match value with
        | some v => ' ' :: v.print
        | none => []) ++ ['\n']
  | .branch _ test body _ =>
    indentation depth ++ "if ".toList ++ test.print ++ ':' :: '\n' ::
      Stmt.printAll (depth + 1) body
  | .foreign .. => []

/-- Statements one after the other. -/
def Stmt.printAll (depth : Nat) : List Stmt → List Char
  | [] => []
  | s :: rest => s.print depth ++ Stmt.printAll depth rest

/-- Statements of which the first may be a documentation text. -/
def Stmt.printBody (depth : Nat) : List Stmt → List Char
  | [] => []
  | .expr _ (.constant (.datum (.text s))) :: rest =>
    indentation depth ++ quoteDoc s.toList ++ '\n' :: Stmt.printAll depth rest
  | s :: rest => s.print depth ++ Stmt.printAll depth rest

end

/-- The source text of a module. -/
def Module.print (m : Module) : List Char := Stmt.printBody 0 m.body

end FlatRecord.Script
