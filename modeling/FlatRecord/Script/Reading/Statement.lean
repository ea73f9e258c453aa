import FlatRecord.Script.Reading.Expression
import FlatRecord.Script.Reading.Pattern

/-!
# Reading statements

The grammar of statements. Simple statements stand on one line, with semicolons between them; a
compound statement has a block, which is either the rest of its line or the indented lines below it.

Records consist of imports, assignments, one class, its methods and the few statements in these. Of
all other statements only the name of the construct is kept.
-/

namespace FlatRecord.Script

open Parse

namespace Statement

/-- The operators of an assignment that changes its target's value. -/
def augmentedMarks : List String :=
  ["+=", "-=", "*=", "/=", "//=", "%=", "@=", "&=", "|=", "^=", "<<=", ">>=", "**="]

/-- A value on the right of an assignment. -/
def assignedValue (inner : Inner) : Parse Expr := do
  if ← word? "yield" then inner.yielded else inner.starExpressions

/-- Further targets and the value of an assignment, from behind its first equals sign on. -/
def assignment (inner : Inner) (line : Nat) : Nat → List Expr → Parse Stmt
  | 0, _ => failure
  | rounds + 1, targets => do
    let e ← assignedValue inner
    if ← mark? "=" then
      match e.target? .store with
      | some target => assignment inner line rounds (target :: targets)
      | none => failure
    else return .assign line targets.reverse e

/-- A statement that begins with an expression. -/
def expressionStatement (inner : Inner) (line : Nat) : Parse Stmt := do
  let bare ← nameAndMark ":"
  let e ← inner.starExpressions
  if ← mark? ":" then
    if !e.isSingleTarget then failure
    let hint ← inner.expression
    let value ← if ← mark? "=" then some <$> assignedValue inner else pure none
    match e.target? .store with
    | some target => return .annotated line target hint value bare
    | none => failure
  else if ← mark? "=" then
    match e.target? .store with
    | some target => assignment inner line inner.bound [target]
    | none => failure
  else if ← takeIf fun t => augmentedMarks.any fun m => t.isMark m then
    if !e.isSingleTarget then failure
    let _ ← assignedValue inner
    return .foreign line "AugAssign"
  else return .expr line e

/-- The value of `return`, the word itself already read. -/
def returned (inner : Inner) (line : Nat) : Parse Stmt := do
  if ← ahead Token.beginsExpression then
    let e ← inner.starExpressions
    return .ret line (some e)
  else return .ret line none

/-- The name that an import is bound to, if it is another one. -/
def rename : Parse (Option String) := do
  if ← word? "as" then some <$> name else return none

/-- A name with dots in it. -/
def dottedName (inner : Inner) : Parse String := do
  let parts ← go inner.bound
  return ".".intercalate parts
where
  /-- The names between the dots. -/
  go : Nat → Parse (List String)
    | 0 => failure
    | rounds + 1 => do
      let first ← name
      if ← mark? "." then
        let others ← go rounds
        return first :: others
      else return [first]

/-- A module that is imported. -/
def importedModule (inner : Inner) : Parse Alias := do
  let id ← dottedName inner
  let other ← rename
  return ⟨id, other⟩

/-- A name that is imported from a module. -/
def importedName : Parse Alias := do
  let id ← name
  let other ← rename
  return ⟨id, other⟩

/-- The dots before the name of a module. -/
def levelDots : Nat → Parse Nat
  | 0 => failure
  | rounds + 1 => do
    if ← mark? "..." then
      let more ← levelDots rounds
      return more + 3
    else if ← mark? "." then
      let more ← levelDots rounds
      return more + 1
    else return 0

/-- An import of names, the word `from` already read. -/
def importFrom (inner : Inner) (line : Nat) : Parse Stmt := do
  let level ← levelDots inner.bound
  let named ← ahead fun t => t.name?.isSome
  if !named && level = 0 then failure
  let module ← if named then some <$> dottedName inner else pure none
  word "import"
  if ← mark? "*" then return .importFrom line module [⟨"*", none⟩] level
  else if ← mark? "(" then
    let first ← importedName
    let (names, _) ← commaItems importedName (fun t => t.name?.isSome) inner.bound [first]
    mark ")"
    return .importFrom line module names level
  else
    let names ← commaSeparated importedName inner.bound
    return .importFrom line module names level

/-- A target of `del`. -/
def deleted (inner : Inner) : Parse Unit := do
  let e ← inner.expression
  if (e.target? .delete).isNone then failure

/-- A statement of one of the constructs that records never use and that begin with a keyword. -/
def keywordStatement (inner : Inner) (line : Nat) (keyword : String) : Parse Stmt := do
  match keyword with
  | "pass" => return .foreign line "Pass"
  | "break" => return .foreign line "Break"
  | "continue" => return .foreign line "Continue"
  | "raise" =>
    if ← ahead Token.beginsExpression then
      let _ ← inner.expression
      if ← word? "from" then
        let _ ← inner.expression
    return .foreign line "Raise"
  | "global" =>
    let _ ← commaSeparated name inner.bound
    return .foreign line "Global"
  | "nonlocal" =>
    let _ ← commaSeparated name inner.bound
    return .foreign line "Nonlocal"
  | "del" =>
    deleted inner
    let _ ← commaItems (deleted inner) Token.beginsExpression inner.bound [()]
    return .foreign line "Delete"
  | "assert" =>
    let _ ← inner.expression
    if ← mark? "," then
      let _ ← inner.expression
    return .foreign line "Assert"
  | "yield" =>
    let e ← inner.yielded
    return .expr line e
  | _ => failure

/-- A simple statement. -/
def simple (inner : Inner) : Parse Stmt := do
  let line ← line
  if ← word? "return" then returned inner line
  else if ← word? "import" then
    let names ← commaSeparated (importedModule inner) inner.bound
    return .importModules line names
  else if ← word? "from" then importFrom inner line
  else if ← ahead Token.beginsExpression then expressionStatement inner line
  else
    let keyword ← take fun
      | .word w => some w
      | _ => none
    keywordStatement inner line keyword

/-- Simple statements up to the end of the line. -/
def simpleLine (inner : Inner) : Nat → Parse (List Stmt)
  | 0 => failure
  | rounds + 1 => do
    let first ← simple inner
    if ← mark? ";" then
      if ← takeIf fun t => t matches .newline then return [first]
      else
        let others ← simpleLine inner rounds
        return first :: others
    else
      newline
      return [first]

/-- Statements up to the end of an indented block. -/
def blockLines (statement : Parse (List Stmt)) : Nat → Parse (List Stmt)
  | 0 => failure
  | rounds + 1 => do
    let first ← statement
    if ← takeIf fun t => t matches .dedent then return first
    else
      let others ← blockLines statement rounds
      return first ++ others

/-- The block of a compound statement, from its colon on. -/
def block (inner : Inner) (statement : Parse (List Stmt)) : Parse (List Stmt) := do
  mark ":"
  if ← takeIf fun t => t matches .newline then
    take fun t => if t matches .indent then some () else none
    blockLines statement inner.bound
  else simpleLine inner inner.bound

/-- The branches behind the first one of a conditional statement. -/
def otherBranches (inner : Inner) (body : Parse (List Stmt)) : Nat → Parse (List Stmt)
  | 0 => failure
  | rounds + 1 => do
    let line ← line
    if ← word? "elif" then
      let test ← inner.named
      let first ← body
      let others ← otherBranches inner body rounds
      return [.branch line test first others]
    else if ← word? "else" then body
    else return []

/-- The block behind `else`, if there is one. -/
def elseBlock (body : Parse (List Stmt)) : Parse Unit := do
  if ← word? "else" then
    let _ ← body

/-- Handlers of exceptions; they either all have a star or all have none. The answer counts them. -/
def handlers (inner : Inner) (body : Parse (List Stmt)) (starred : Bool) : Nat → Parse Nat
  | 0 => failure
  | rounds + 1 => do
    if ← word? "except" then
      if starred then mark "*"
      if starred || !(← ahead (·.isMark ":")) then
        let _ ← inner.expression
        let _ ← rename
      let _ ← body
      let others ← handlers inner body starred rounds
      return others + 1
    else return 0

/-- Whether the word `except` and a star come next. -/
def atStarredHandler : Parse Bool := fun ts =>
  match ts with
  | first :: second :: _ => some (first.token.isWord "except" && second.token.isMark "*", ts)
  | _ => some (false, ts)

/-- A statement with handlers, the word `try` already read. -/
def attempt (inner : Inner) (body : Parse (List Stmt)) (line : Nat) : Parse Stmt := do
  let _ ← body
  let starred ← atStarredHandler
  let count ← handlers inner body starred inner.bound
  if 0 < count then elseBlock body
  if ← word? "finally" then
    let _ ← body
  else if count = 0 then failure
  return .foreign line (if starred then "TryStar" else "Try")

/-- One of the managers of a `with` statement. -/
def manager (inner : Inner) : Parse Unit := do
  let _ ← inner.expression
  if ← word? "as" then
    let e ← inner.starOr inner.bitOr
    if (e.target? .store).isNone then failure

/-- The managers of a `with` statement: between parentheses, or without them. -/
def managers (inner : Inner) : Parse Unit := fun ts =>
  let enclosed : Parse Unit := do
    mark "("
    manager inner
    let _ ← commaItems (manager inner) Token.beginsExpression inner.bound [()]
    mark ")"
    if !(← ahead (·.isMark ":")) then failure
  let plain : Parse Unit := do
    let _ ← commaSeparated (manager inner) inner.bound
  match enclosed ts with
  | some r => some r
  | none => plain ts

/-- A loop over the items of an iterable, the word `for` already read. -/
def loop (inner : Inner) (body : Parse (List Stmt)) (line : Nat) (construct : String) :
    Parse Stmt := do
  let _ ← inner.loopTargets
  word "in"
  let _ ← inner.starExpressions
  let _ ← body
  elseBlock body
  return .foreign line construct

/-- A function, the word `def` already read. -/
def function (inner : Inner) (body : Parse (List Stmt)) (line : Nat) (decorators : List Expr) :
    Parse Stmt := do
  let id ← name
  mark "("
  let params ← inner.parameters true ")"
  mark ")"
  let returns ← if ← mark? "->" then some <$> inner.expression else pure none
  let statements ← body
  return .functionDef line id params statements decorators returns

/-- A class, the word `class` already read. -/
def classOf (inner : Inner) (body : Parse (List Stmt)) (line : Nat) (decorators : List Expr) :
    Parse Stmt := do
  let id ← name
  let (bases, keywords) ← if ← mark? "(" then inner.arguments else pure ([], [])
  let statements ← body
  return .classDef line id bases keywords statements decorators

/-- What may follow the word `async` before a statement. -/
def asynchronous (inner : Inner) (body : Parse (List Stmt)) (line : Nat) : Parse Stmt := do
  if ← word? "def" then
    let _ ← function inner body line []
    return .foreign line "AsyncFunctionDef"
  else if ← word? "with" then
    managers inner
    let _ ← body
    return .foreign line "AsyncWith"
  else
    word "for"
    loop inner body line "AsyncFor"

/-- Decorators, each on a line of its own. -/
def decorators (inner : Inner) : Nat → Parse (List Expr)
  | 0 => failure
  | rounds + 1 => do
    if ← mark? "@" then
      let first ← inner.named
      newline
      let others ← decorators inner rounds
      return first :: others
    else return []

/-- A function or a class behind decorators. -/
def decorated (inner : Inner) (body : Parse (List Stmt)) : Parse Stmt := do
  let marks ← decorators inner inner.bound
  let line ← line
  if ← word? "def" then function inner body line marks
  else if ← word? "class" then classOf inner body line marks
  else
    word "async"
    word "def"
    let _ ← function inner body line marks
    return .foreign line "AsyncFunctionDef"

/-- The cases of a `match` statement up to the end of its block. -/
def cases (inner : Inner) (body : Parse (List Stmt)) : Nat → Parse Unit
  | 0 => failure
  | rounds + 1 => do
    word "case"
    Pattern.patterns inner.bound
    if ← word? "if" then
      let _ ← inner.named
    let _ ← body
    if ← takeIf fun t => t matches .dedent then return ()
    else cases inner body rounds

/-- A `match` statement. -/
def matchStatement (inner : Inner) (body : Parse (List Stmt)) : Parse Stmt := do
  let line ← line
  word "match"
  let first ← inner.starOr inner.named
  let items ← commaItems (inner.starOr inner.named) Token.beginsExpression inner.bound [first]
  if first.construct = starred && items.1.length = 1 && !items.2 then failure
  mark ":"
  newline
  take fun t => if t matches .indent then some () else none
  cases inner body inner.bound
  return .foreign line "Match"

/-- A compound statement that begins with a keyword. -/
def compound (inner : Inner) (body : Parse (List Stmt)) : Parse Stmt := do
  let line ← line
  if ← word? "def" then function inner body line []
  else if ← word? "class" then classOf inner body line []
  else if ← word? "if" then
    let test ← inner.named
    let first ← body
    let others ← otherBranches inner body inner.bound
    return .branch line test first others
  else if ← word? "for" then loop inner body line "For"
  else if ← word? "while" then
    let _ ← inner.named
    let _ ← body
    elseBlock body
    return .foreign line "While"
  else if ← word? "try" then attempt inner body line
  else if ← word? "with" then
    managers inner
    let _ ← body
    return .foreign line "With"
  else if ← word? "async" then asynchronous inner body line
  else decorated inner body

/-- Whether a compound statement begins with the token. -/
def beginsCompound : Token → Bool
  | .word w => ["def", "class", "if", "for", "while", "try", "with", "async"].contains w
  | .mark t => t == "@"
  | _ => false

/-- One compound statement, or a line of simple ones, from a reader for the statements of inner
blocks. The word `match` may also be a name. -/
def statementWith (inner : Inner) (statement : Parse (List Stmt)) : Parse (List Stmt) := do
  if ← ahead beginsCompound then
    let s ← compound inner (block inner statement)
    return [s]
  else if ← ahead (·.isWord "match") then
    (do let s ← matchStatement inner (block inner statement); return [s]) <|>
      simpleLine inner inner.bound
  else simpleLine inner inner.bound

/-- The statement, or the line of simple statements, of some level of nesting. -/
def statement (inner : Inner) : Nat → Parse (List Stmt)
  | 0 => failure
  | n + 1 => fun ts => statementWith inner (fun inside => statement inner n inside) ts

/-- Statements up to the end of the text. -/
def statements (inner : Inner) : Nat → Parse (List Stmt)
  | 0 => failure
  | rounds + 1 => fun ts =>
    match ts with
    | [] => some ([], [])
    | _ => (do
        let first ← statement inner inner.bound
        let others ← statements inner rounds
        return first ++ others : Parse (List Stmt)) ts

end Statement

/-- Why a source text is no module. -/
inductive SyntaxFault where
  /-- The text holds a null character. -/
  | nullCharacter
  /-- The text is not in the language. -/
  | malformed
  deriving DecidableEq, Repr

/-- The module that a source text holds. -/
def Module.read (source : List Char) : Except SyntaxFault Module :=
  if source.contains '\x00' then .error .nullCharacter
  else
    match lexemes? source with
    | none => .error .malformed
    | some ts =>
      let bound := source.length + 10
      match Statement.statements (Inner.level bound) bound ts with
      | some (body, []) => .ok ⟨body⟩
      | _ => .error .malformed

/-- The expression that a text holds, if it holds nothing else. -/
def Expr.read? (source : List Char) : Option Expr :=
  match lexemes? source with
  | none => none
  | some ts =>
    let inner := Inner.level (source.length + 10)
    let reader : Parse Expr := do
      let first ← inner.expression
      let items ← commaItems inner.expression Token.beginsExpression inner.bound [first]
      return Inner.tupleUnless items
    match reader ts with
    | some (e, rest) => if rest.all fun t => t.token matches .newline then some e else none
    | none => none

end FlatRecord.Script
