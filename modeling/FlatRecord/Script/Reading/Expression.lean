import FlatRecord.Script.Lexer
import FlatRecord.Script.Reading.Step
import FlatRecord.Script.Reading.Target

/-!
# Reading expressions

The grammar of expressions, from the weakest binding to the strongest: conditional expressions and
functions without a name, `or`, `and`, `not`, comparisons, the binary operators, signs, powers,
awaited values, and what is built from an atom by members, calls and parts.

The readers of one level of nesting are built from those of the next level, `Inner`, which they call
between brackets and behind prefix operators. A source text of `n` characters has at most `n` levels,
so the readers of level `n` read it whatever it holds.
-/

namespace FlatRecord.Script

open Parse

/-- The readers of expressions inside an expression, and a bound for the number of items. -/
structure Inner where
  bound : Nat
  expression : Parse Expr
  named : Parse Expr
  starExpressions : Parse Expr
  disjunction : Parse Expr
  inversion : Parse Expr
  bitOr : Parse Expr
  factor : Parse Expr

namespace Inner

/-- Readers that fail. -/
def failing : Inner :=
  ⟨0, failure, failure, failure, failure, failure, failure, failure⟩

/-- An expression or, behind a star, an iterable that is unpacked. -/
def starOr (inner : Inner) (item : Parse Expr) : Parse Expr := do
  if ← mark? "*" then
    let e ← inner.bitOr
    return .foreign starred [.expr e]
  else item

/-- A single expression, or the tuple of several. -/
def tupleUnless (items : List Expr × Bool) : Expr :=
  match items with
  | ([e], false) => e
  | (es, _) => .tuple es .load

/-- Names, members and parts that a loop assigns to, up to the word `in`. -/
def loopTargets (inner : Inner) : Parse Expr := do
  let first ← inner.starOr inner.bitOr
  let items ← commaItems (inner.starOr inner.bitOr) Token.beginsExpression inner.bound [first]
  match (tupleUnless items).target? .store with
  | some target => return target
  | none => failure

/-- The loops of a comprehension. -/
def comprehension (inner : Inner) : Nat → Parse (List Node)
  | 0 => failure
  | rounds + 1 => do
    let _ ← word? "async"
    word "for"
    let target ← inner.loopTargets
    word "in"
    let source ← inner.disjunction
    let conditions ← conditionsOf rounds
    let this : Node := .group "comprehension" (.expr target :: .expr source :: conditions)
    if ← ahead fun t => t.isWord "for" || t.isWord "async" then
      let others ← comprehension inner rounds
      return this :: others
    else return [this]
where
  /-- The conditions of a loop. -/
  conditionsOf : Nat → Parse (List Node)
    | 0 => failure
    | rounds + 1 => do
      if ← word? "if" then
        let condition ← inner.disjunction
        let others ← conditionsOf rounds
        return .expr condition :: others
      else return []

/-- Whether a comprehension's loops come next. -/
def atComprehension : Parse Bool := ahead fun t => t.isWord "for" || t.isWord "async"

/-- The value of `yield`, the word itself already read. -/
def yielded (inner : Inner) : Parse Expr := do
  if ← word? "from" then
    let e ← inner.expression
    return .foreign "YieldFrom" [.expr e]
  else if ← ahead Token.beginsExpression then
    let e ← inner.starExpressions
    return .foreign "Yield" [.expr e]
  else return .foreign "Yield" []

/-- What stands between parentheses: nothing, a single expression, or a tuple. -/
def parenthesized (inner : Inner) : Parse Expr := do
  if ← mark? ")" then return .tuple [] .load
  if ← word? "yield" then
    let e ← inner.yielded
    mark ")"
    return e
  let first ← inner.starOr inner.named
  if ← atComprehension then
    if first.construct = starred then failure
    let loops ← inner.comprehension inner.bound
    mark ")"
    return .foreign "GeneratorExp" (.expr first :: loops)
  let items ← commaItems (inner.starOr inner.named) Token.beginsExpression inner.bound [first]
  mark ")"
  match items with
  | ([e], false) => if e.construct = starred then failure else return e
  | (es, _) => return .tuple es .load

/-- What stands between square brackets where a value is expected. -/
def listDisplay (inner : Inner) : Parse Expr := do
  if ← mark? "]" then return .list [] .load
  let first ← inner.starOr inner.named
  if ← atComprehension then
    if first.construct = starred then failure
    let loops ← inner.comprehension inner.bound
    mark "]"
    return .foreign "ListComp" (.expr first :: loops)
  let (items, _) ← commaItems (inner.starOr inner.named) Token.beginsExpression inner.bound [first]
  mark "]"
  return .list items .load

/-- An entry of a mapping: a key with its value, or another mapping that is unpacked. -/
def entry (inner : Inner) : Parse (Option Expr × Expr) := do
  if ← mark? "**" then
    let e ← inner.bitOr
    return (.none, e)
  else
    let key ← inner.expression
    mark ":"
    let value ← inner.expression
    return (some key, value)

/-- Further entries of a mapping, up to the closing brace. -/
def mapping (inner : Inner) (first : Option Expr × Expr) : Parse Expr := do
  let begins (t : Token) := t.beginsExpression || t.isMark "**"
  let (entries, _) ← commaItems inner.entry begins inner.bound [first]
  mark "\x7d"
  return .dict (entries.map Prod.fst) (entries.map Prod.snd)

/-- What stands between braces. -/
def braced (inner : Inner) : Parse Expr := do
  if ← mark? "\x7d" then return .dict [] []
  if ← ahead (·.isMark "**") then
    let first ← inner.entry
    inner.mapping first
  else
    let walrus ← nameAndMark ":="
    let first ← inner.starOr inner.named
    if !walrus && first.construct != starred && (← mark? ":") then
      let value ← inner.expression
      if ← atComprehension then
        let loops ← inner.comprehension inner.bound
        mark "\x7d"
        return .foreign "DictComp" (.expr first :: .expr value :: loops)
      else inner.mapping (some first, value)
    else if ← atComprehension then
      if first.construct = starred then failure
      let loops ← inner.comprehension inner.bound
      mark "\x7d"
      return .foreign "SetComp" (.expr first :: loops)
    else
      let (items, _) ← commaItems (inner.starOr inner.named) Token.beginsExpression inner.bound
        [first]
      mark "\x7d"
      return .foreign "Set" (items.map .expr)

/-- Neighbouring literals. -/
def literalsFrom : Nat → Parse (List Literal)
  | 0 => failure
  | rounds + 1 => do
    let first ← take fun
      | .literal value => some value
      | _ => .none
    if ← ahead fun t => match t with
        | .literal _ => true
        | _ => false then
      let others ← literalsFrom rounds
      return first :: others
    else return [first]

/-- The text of a literal that is one. -/
def plainText? : Literal → Option String
  | .text s => some s
  | _ => .none

/-- The bytes of a literal that has them. -/
def plainBytes? : Literal → Option (List UInt8)
  | .bytes bs => some bs
  | _ => .none

/-- The expression in a replacement field. -/
def field (inner : Inner) (source : List Char) : Parse Node := fun ts =>
  match lexemes? ('(' :: source ++ [')']) with
  | .none => .none
  | some inside => (inner.starExpressions inside).map fun r =>
    (.expr (.foreign "FormattedValue" [.expr r.1]), ts)

/-- The expressions in the replacement fields of a literal. -/
def fieldsOf (inner : Inner) : Literal → Parse (List Node)
  | .format fields => fields.mapM inner.field
  | _ => return []

/-- The value of neighbouring literals. Texts and bytes do not mix. -/
def joinLiterals (inner : Inner) (items : List Literal) : Parse Expr :=
  match items.mapM plainText? with
  | some texts => return .constant (.datum (.text (String.join texts)))
  | .none =>
    match items.mapM plainBytes? with
    | some parts => return .constant (.datum (.bytes parts.flatten))
    | .none =>
      if items.any fun i => (plainBytes? i).isSome then failure
      else do
        let fields ← items.mapM inner.fieldsOf
        return .foreign "JoinedStr" fields.flatten

/-- The constant that a keyword stands for. -/
def keywordConstant? (word : String) : Option Constant :=
  match word with
  | "None" => some (.datum .null)
  | "True" => some (.datum (.bool true))
  | "False" => some (.datum (.bool false))
  | _ => .none

/-- An atom: a name, a constant, or anything between brackets. -/
def atom (inner : Inner) : Parse Expr := do
  if ← mark? "(" then inner.parenthesized
  else if ← mark? "[" then inner.listDisplay
  else if ← mark? "\x7b" then inner.braced
  else if ← mark? "..." then return .constant .ellipsis
  else if ← ahead fun t => match t with
      | .literal _ => true
      | _ => false then
    let items ← literalsFrom inner.bound
    inner.joinLiterals items
  else
    take fun
      | .number value => some (.constant value)
      | .word w =>
        match keywordConstant? w with
        | some value => some (.constant value)
        | .none => (Token.name? (.word w)).map fun id => .name id .load
      | _ => .none

/-- The arguments of a call as they are read: those by position and those by name, in reverse, and
whether a named one or an unpacked mapping has been read. -/
structure Arguments where
  args : List Expr
  keywords : List Keyword
  named : Bool
  unpacked : Bool

/-- Read one argument. One by position comes before those by name, an unpacked iterable before
unpacked mappings. -/
def argument (inner : Inner) (given : Arguments) : Parse Arguments := do
  let line ← line
  if ← mark? "**" then
    let e ← inner.expression
    return { given with keywords := .mk line .none e :: given.keywords, named := true, unpacked := true }
  else if ← mark? "*" then
    if given.unpacked then failure
    let e ← inner.expression
    return { given with args := .foreign starred [.expr e] :: given.args }
  else if ← nameAndMark "=" then
    let label ← name
    mark "="
    let e ← inner.expression
    return { given with keywords := .mk line (some label) e :: given.keywords, named := true }
  else
    if given.named then failure
    let e ← inner.named
    return { given with args := e :: given.args }

/-- Read arguments up to the closing parenthesis. -/
def argumentsFrom (inner : Inner) : Nat → Arguments → Parse Arguments
  | 0, _ => failure
  | rounds + 1, given => do
    if ← mark? ")" then return given
    let given ← inner.argument given
    if ← mark? "," then argumentsFrom inner rounds given
    else
      mark ")"
      return given

/-- The arguments of a call, the opening parenthesis already read, in order. -/
def arguments (inner : Inner) : Parse (List Expr × List Keyword) := do
  let given ← argumentsFrom inner inner.bound ⟨[], [], false, false⟩
  return (given.args.reverse, given.keywords.reverse)

/-- The call of an expression, the opening parenthesis already read. A comprehension may be the only
argument. -/
def call (inner : Inner) (callee : Expr) : Parse Expr := do
  let unplain ← ahead fun t => t.isMark ")" || t.isMark "*" || t.isMark "**"
  if unplain || (← nameAndMark "=") then
    let (args, keywords) ← inner.arguments
    return .call callee args keywords
  else
    let first ← inner.named
    if ← atComprehension then
      let loops ← inner.comprehension inner.bound
      mark ")"
      return .call callee [.foreign "GeneratorExp" (.expr first :: loops)] []
    else if ← mark? "," then
      let given ← argumentsFrom inner inner.bound ⟨[first], [], false, false⟩
      return .call callee given.args.reverse given.keywords.reverse
    else
      mark ")"
      return .call callee [first] []

/-- One of the bounds of a range, which may be missing. -/
def rangeBound (inner : Inner) : Parse (List Node) := do
  if ← ahead fun t => t.beginsExpression && !t.isMark "*" then
    let e ← inner.expression
    return [.expr e]
  else return []

/-- The rest of a range, its first colon already read. -/
def range (inner : Inner) (lower : List Node) : Parse Expr := do
  let upper ← inner.rangeBound
  if ← mark? ":" then
    let step ← inner.rangeBound
    return .foreign "Slice" (lower ++ upper ++ step)
  else return .foreign "Slice" (lower ++ upper)

/-- One index: an expression, a range, or an iterable that is unpacked. -/
def index (inner : Inner) : Parse Expr := do
  if ← mark? "*" then
    let e ← inner.expression
    return .foreign starred [.expr e]
  else if ← mark? ":" then inner.range []
  else
    let walrus ← nameAndMark ":="
    let e ← inner.named
    if !walrus && (← mark? ":") then inner.range [.expr e] else return e

/-- What stands between square brackets behind a value. -/
def indices (inner : Inner) : Parse Expr := do
  let begins (t : Token) := t.beginsExpression || t.isMark ":"
  let first ← inner.index
  let items ← commaItems inner.index begins inner.bound [first]
  mark "]"
  match items with
  | ([e], false) => if e.construct = starred then return .tuple [e] .load else return e
  | (es, _) => return .tuple es .load

/-- Members, calls and parts of an expression. -/
def trailers (inner : Inner) : Nat → Expr → Parse Expr
  | 0, _ => failure
  | rounds + 1, e => do
    if ← mark? "." then
      let attr ← name
      trailers inner rounds (.member e attr .load)
    else if ← mark? "(" then
      let e ← inner.call e
      trailers inner rounds e
    else if ← mark? "[" then
      let i ← inner.indices
      trailers inner rounds (.subscript e i .load)
    else return e

/-- An atom with its members, calls and parts. -/
def primary (inner : Inner) : Parse Expr := do
  let e ← inner.atom
  inner.trailers inner.bound e

/-- A primary that may be awaited, and its power. -/
def power (inner : Inner) : Parse Expr := do
  let awaits ← word? "await"
  let e ← inner.primary
  let base := if awaits then .foreign "Await" [.expr e] else e
  if ← mark? "**" then
    let exponent ← inner.factor
    return .binary base (.other "Pow") exponent
  else return base

/-- A sign. -/
def sign? : Token → Option UnaryOp
  | .mark "-" => some .minus
  | .mark "+" => some .plus
  | .mark "~" => some .invert
  | _ => .none

/-- A power behind signs. -/
def signed (inner : Inner) : Parse Expr := do
  if ← ahead fun t => (sign? t).isSome then
    let op ← take sign?
    let e ← inner.factor
    return .unary op e
  else inner.power

/-- Further operands of operators that bind from the left. -/
def chain (operand : Parse Expr) (operator? : Token → Option BinaryOp) : Nat → Expr → Parse Expr
  | 0, _ => failure
  | rounds + 1, left => do
    if ← ahead fun t => (operator? t).isSome then
      let op ← take operator?
      let right ← operand
      chain operand operator? rounds (.binary left op right)
    else return left

/-- Operands with operators between them that bind from the left. -/
def leftToRight (inner : Inner) (operand : Parse Expr) (operator? : Token → Option BinaryOp) :
    Parse Expr := do
  let first ← operand
  chain operand operator? inner.bound first

/-- The operator that a token is, by a table. -/
def operatorIn (table : List (String × BinaryOp)) : Token → Option BinaryOp
  | .mark t => table.lookup t
  | _ => .none

/-- Products. -/
def product (inner : Inner) : Parse Expr :=
  inner.leftToRight inner.signed (operatorIn [("*", .other "Mult"), ("/", .other "Div"),
    ("//", .other "FloorDiv"), ("%", .other "Mod"), ("@", .other "MatMult")])

/-- Sums. -/
def sum (inner : Inner) : Parse Expr :=
  inner.leftToRight inner.product (operatorIn [("+", .add), ("-", .other "Sub")])

/-- Shifted values. -/
def shifted (inner : Inner) : Parse Expr :=
  inner.leftToRight inner.sum (operatorIn [("<<", .other "LShift"), (">>", .other "RShift")])

/-- Bitwise intersections. -/
def bitAnd (inner : Inner) : Parse Expr :=
  inner.leftToRight inner.shifted (operatorIn [("&", .other "BitAnd")])

/-- Bitwise differences. -/
def bitXor (inner : Inner) : Parse Expr :=
  inner.leftToRight inner.bitAnd (operatorIn [("^", .other "BitXor")])

/-- Bitwise unions, also of types. -/
def union (inner : Inner) : Parse Expr :=
  inner.leftToRight inner.bitXor (operatorIn [("|", .union)])

/-- A comparison, if one comes next. -/
def comparison? : Parse (Option CompareOp) := fun ts =>
  match ts with
  | ⟨.mark t, _⟩ :: rest =>
    match [("==", CompareOp.equal), ("!=", .other "NotEq"), ("<", .other "Lt"), ("<=", .other "LtE"),
        (">", .other "Gt"), (">=", .other "GtE")].lookup t with
    | some op => some (some op, rest)
    | .none => some (.none, ts)
  | ⟨.word "not", _⟩ :: ⟨.word "in", _⟩ :: rest => some (some (.other "NotIn"), rest)
  | ⟨.word "in", _⟩ :: rest => some (some (.other "In"), rest)
  | ⟨.word "is", _⟩ :: ⟨.word "not", _⟩ :: rest => some (some (.other "IsNot"), rest)
  | ⟨.word "is", _⟩ :: rest => some (some .same, rest)
  | _ => some (.none, ts)

/-- Further operands of a comparison. -/
def comparisons (inner : Inner) : Nat → Parse (List CompareOp × List Expr)
  | 0 => failure
  | rounds + 1 => do
    match ← comparison? with
    | some op =>
      let right ← inner.union
      let (ops, rights) ← comparisons inner rounds
      return (op :: ops, right :: rights)
    | .none => return ([], [])

/-- Comparisons. -/
def comparison (inner : Inner) : Parse Expr := do
  let left ← inner.union
  match ← inner.comparisons inner.bound with
  | ([], _) => return left
  | (ops, rights) => return .compare left ops rights

/-- Negations. -/
def negation (inner : Inner) : Parse Expr := do
  if ← word? "not" then
    let e ← inner.inversion
    return .unary .not e
  else inner.comparison

/-- Further operands of a word that joins conditions. -/
def joinedBy (text : String) (operand : Parse Expr) : Nat → Parse (List Expr)
  | 0 => failure
  | rounds + 1 => do
    if ← word? text then
      let e ← operand
      let others ← joinedBy text operand rounds
      return e :: others
    else return []

/-- Conditions that a word joins. -/
def joined (inner : Inner) (text construct : String) (operand : Parse Expr) : Parse Expr := do
  let first ← operand
  match ← joinedBy text operand inner.bound with
  | [] => return first
  | others => return .foreign "BoolOp" (.mark construct :: (first :: others).map .expr)

/-- Conjunctions. -/
def conjunctions (inner : Inner) : Parse Expr := inner.joined "and" "And" inner.negation

/-- Disjunctions. -/
def disjunctions (inner : Inner) : Parse Expr := inner.joined "or" "Or" inner.conjunctions

/-- A parameter with its annotation, if annotations are allowed. -/
def parameter (inner : Inner) (hinted starHint : Bool) : Parse Param := do
  let line ← line
  let id ← name
  if hinted then
    if ← mark? ":" then
      let e ← if starHint then inner.starOr inner.expression else inner.expression
      return .mk line id (some e)
    else return .mk line id .none
  else return .mk line id .none

/-- Parameters as they are read, in reverse. -/
structure Parameters where
  positional : List Param
  args : List Param
  defaults : List Expr
  rest : Option Param
  named : List Param
  namedDefaults : List (Option Expr)
  mapping : Option Param

/-- The parameter list that has been read. -/
def Parameters.params (given : Parameters) : Params :=
  .mk given.positional.reverse given.args.reverse given.rest given.named.reverse
    given.namedDefaults.reverse given.mapping given.defaults.reverse

/-- Parameters behind the star: those that are given by name, and the one that takes all others. -/
def namedParameters (inner : Inner) (hinted : Bool) (close : String) :
    Nat → Parameters → Parse Parameters
  | 0, _ => failure
  | rounds + 1, given => do
    if ← ahead (·.isMark close) then return given
    if ← mark? "**" then
      let p ← inner.parameter hinted false
      let _ ← mark? ","
      return { given with mapping := some p }
    let p ← inner.parameter hinted false
    let value ← if ← mark? "=" then some <$> inner.expression else pure .none
    let given :=
      { given with named := p :: given.named, namedDefaults := value :: given.namedDefaults }
    if ← mark? "," then namedParameters inner hinted close rounds given else return given

/-- Parameters up to the closing token, which is not read. One without a default does not follow one
with a default, and a lone star is followed by a name. -/
def parametersFrom (inner : Inner) (hinted : Bool) (close : String) :
    Nat → Parameters → Parse Parameters
  | 0, _ => failure
  | rounds + 1, given => do
    if ← ahead (·.isMark close) then return given
    if ← mark? "**" then
      let p ← inner.parameter hinted false
      let _ ← mark? ","
      return { given with mapping := some p }
    if ← mark? "*" then
      if ← mark? "," then
        if ← ahead fun t => t.name?.isSome then
          namedParameters inner hinted close inner.bound given
        else failure
      else
        let p ← inner.parameter hinted true
        let given := { given with rest := some p }
        if ← mark? "," then namedParameters inner hinted close inner.bound given else return given
    else if ← mark? "/" then
      if given.args.isEmpty || !given.positional.isEmpty then failure
      let given := { given with positional := given.args, args := [] }
      if ← mark? "," then parametersFrom inner hinted close rounds given else return given
    else
      let p ← inner.parameter hinted false
      let given := { given with args := p :: given.args }
      let given ←
        if ← mark? "=" then
          let e ← inner.expression
          pure { given with defaults := e :: given.defaults }
        else if given.defaults.isEmpty then pure given
        else failure
      if ← mark? "," then parametersFrom inner hinted close rounds given else return given

/-- A parameter list up to the closing token, which is not read. -/
def parameters (inner : Inner) (hinted : Bool) (close : String) : Parse Params := do
  let given ← inner.parametersFrom hinted close inner.bound ⟨[], [], [], .none, [], [], .none⟩
  return given.params

/-- A function without a name, the word before it already read. -/
def lambda (inner : Inner) : Parse Expr := do
  let ps ← inner.parameters false ":"
  mark ":"
  let body ← inner.expression
  return .foreign "Lambda" [.params ps, .expr body]

/-- Conditional expressions and functions without a name. -/
def conditional (inner : Inner) : Parse Expr := do
  if ← word? "lambda" then inner.lambda
  else
    let e ← inner.disjunctions
    if ← word? "if" then
      let test ← inner.disjunction
      word "else"
      let otherwise ← inner.expression
      return .foreign "IfExp" [.expr test, .expr e, .expr otherwise]
    else return e

/-- An expression, or one that is given a name on the way. -/
def assigned (inner : Inner) : Parse Expr := do
  if ← nameAndMark ":=" then
    let id ← name
    mark ":="
    let e ← inner.expression
    return .foreign "NamedExpr" [.expr (.name id .store), .expr e]
  else inner.conditional

/-- Expressions with commas between them. -/
def tuples (inner : Inner) : Parse Expr := do
  let first ← inner.starOr inner.conditional
  let items ← commaItems (inner.starOr inner.conditional) Token.beginsExpression inner.bound [first]
  return tupleUnless items

end Inner

/-- The readers of expressions of a level. -/
def Inner.level : Nat → Inner
  | 0 => .failing
  | n + 1 =>
    { bound := n + 1
      expression := fun ts => (Inner.level n).conditional ts
      named := fun ts => (Inner.level n).assigned ts
      starExpressions := fun ts => (Inner.level n).tuples ts
      disjunction := fun ts => (Inner.level n).disjunctions ts
      inversion := fun ts => (Inner.level n).negation ts
      bitOr := fun ts => (Inner.level n).union ts
      factor := fun ts => (Inner.level n).signed ts }

end FlatRecord.Script
