import FlatRecord.Script.Reading.Step

/-!
# Reading patterns

The patterns of a `match` statement. Records hold none, so all that matters about a pattern is
whether it is one.
-/

namespace FlatRecord.Script.Pattern

open Parse

/-- Whether a token is a number, and whether it is an imaginary one. -/
def number? : Token → Option Bool
  | .number (.complex _) => some true
  | .number _ => some false
  | _ => none

/-- A number that may have a sign, or a sum of a real and an imaginary number. -/
def number : Parse Unit := do
  let _ ← mark? "-"
  let _ ← take number?
  if ← ahead fun t => t.isMark "+" || t.isMark "-" then
    let _ ← takeIf fun _ => true
    let imaginary ← take number?
    if !imaginary then failure

/-- Neighbouring text literals. -/
def literals : Nat → Parse Unit
  | 0 => failure
  | rounds + 1 => do
    let isLiteral (t : Token) : Bool := match t with
      | .literal _ => true
      | _ => false
    if ← takeIf isLiteral then
      if ← ahead isLiteral then literals rounds
    else failure

/-- A name with members, and whether there are any. -/
def dotted : Nat → Bool → Parse Bool
  | 0, _ => failure
  | rounds + 1, members => do
    let _ ← name
    if ← mark? "." then dotted rounds true else return members

/-- The name that a value is bound to. -/
def capture : Parse Unit := do
  let id ← name
  if id = "_" then failure

/-- Whether the token begins a constant. -/
def isConstant : Token → Bool
  | .number _ => true
  | .literal _ => true
  | .mark t => t == "-"
  | .word w => ["None", "True", "False"].contains w
  | _ => false

/-- A constant. -/
def constant (bound : Nat) : Parse Unit := do
  if ← ahead fun t => (number? t).isSome || t.isMark "-" then number
  else if ← takeIf fun t => t.isWord "None" || t.isWord "True" || t.isWord "False" then return ()
  else literals bound

/-- Whether a pattern can begin with the token. -/
def begins (t : Token) : Bool :=
  isConstant t || t.name?.isSome || t.isMark "(" || t.isMark "[" || t.isMark "\x7b" || t.isMark "*"

/-- An item of a sequence: a pattern, or a name for the remaining items. -/
def starOr (item : Parse Unit) : Parse Unit := do
  if ← mark? "*" then
    let _ ← name
  else item

/-- An entry of a mapping; the answer tells whether it takes the remaining entries. -/
def entry (bound : Nat) (item : Parse Unit) : Parse Bool := do
  if ← mark? "**" then
    capture
    return true
  else
    if ← ahead isConstant then constant bound
    else
      let members ← dotted bound false
      if !members then failure
    mark ":"
    item
    return false

/-- An argument of a class pattern; the answer tells whether it has a name. -/
def argument (item : Parse Unit) : Parse Bool := do
  if ← nameAndMark "=" then
    let _ ← name
    mark "="
    item
    return true
  else
    item
    return false

/-- Items up to a closing bracket, already behind the opening one: the items and whether a comma
stands behind the last. -/
def upTo {α : Type} (bound : Nat) (close : String) (item : Parse α) (begins : Token → Bool) :
    Parse (List α × Bool) := do
  if ← mark? close then return ([], true)
  let first ← item
  let items ← commaItems item begins bound [first]
  mark close
  return items

/-- Whether a list holds nothing true before its last place, or nothing false behind a true one. -/
def ordered : List Bool → Bool
  | [] => true
  | true :: rest => rest.all id
  | false :: rest => ordered rest

/-- A pattern without alternatives, from one for the patterns inside it. -/
def closed (bound : Nat) (item : Parse Unit) : Parse Unit := do
  if ← ahead isConstant then constant bound
  else if ← ahead (·.isMark "(") then
    mark "("
    let starred ← ahead (·.isMark "*")
    let (items, trailing) ← upTo bound ")" (starOr item) begins
    if starred && items.length = 1 && !trailing then failure
  else if ← mark? "[" then
    let _ ← upTo bound "]" (starOr item) begins
  else if ← mark? "\x7b" then
    let (items, _) ← upTo bound "\x7d" (entry bound item)
      fun t => isConstant t || t.name?.isSome || t.isMark "**"
    if items.dropLast.any id then failure
  else
    let _ ← dotted bound false
    if ← mark? "(" then
      let (items, _) ← upTo bound ")" (argument item) begins
      if !ordered items then failure

/-- Alternatives of a pattern. -/
def alternatives (item : Parse Unit) : Nat → Parse Unit
  | 0 => failure
  | rounds + 1 => do
    item
    if ← mark? "|" then alternatives item rounds

/-- A pattern of some level of nesting. -/
def pattern : Nat → Parse Unit
  | 0 => failure
  | n + 1 => do
    alternatives (closed n fun ts => pattern n ts) n
    if ← word? "as" then capture

/-- The patterns of a case: a single one, or a sequence without brackets. -/
def patterns (bound : Nat) : Parse Unit := do
  let starred ← ahead (·.isMark "*")
  starOr (pattern bound)
  let (items, trailing) ← commaItems (starOr (pattern bound)) begins bound [()]
  if starred && items.length = 1 && !trailing then failure

end FlatRecord.Script.Pattern
