import FlatRecord.Script.Token

/-!
# Steps of reading syntax

A step takes lexemes from the head of a list and gives what it has read, or fails. The steps here
read single tokens; the grammar is built from them.
-/

namespace FlatRecord.Script

/-- A step that reads a value. -/
abbrev Parse (α : Type) := StateT (List Lexeme) Option α

namespace Parse

/-- The line of the next lexeme. -/
def line : Parse Nat := fun ts => some ((ts.head?.map Lexeme.line).getD 0, ts)

/-- Whether the next token satisfies a condition. -/
def ahead (test : Token → Bool) : Parse Bool := fun ts => some (ts.head?.any fun t => test t.token, ts)

/-- Read the next token if it has a value. -/
def take {α : Type} (value? : Token → Option α) : Parse α
  | t :: rest => (value? t.token).map fun a => (a, rest)
  | [] => none

/-- Read the next token if it satisfies a condition, and tell whether it does. -/
def takeIf (test : Token → Bool) : Parse Bool
  | t :: rest => if test t.token then some (true, rest) else some (false, t :: rest)
  | [] => some (false, [])

end Parse

/-- Whether a token is a given operator or delimiter. -/
def Token.isMark (text : String) : Token → Bool
  | .mark t => t == text
  | _ => false

/-- Whether a token is a given word. -/
def Token.isWord (text : String) : Token → Bool
  | .word t => t == text
  | _ => false

/-- The name that a token is. -/
def Token.name? : Token → Option String
  | .word t => if keywords.contains t then none else some t
  | _ => none

/-- Whether an expression can begin with the token. -/
def Token.beginsExpression : Token → Bool
  | .word t => !keywords.contains t || ["None", "True", "False", "not", "lambda", "await"].contains t
  | .number _ => true
  | .literal _ => true
  | .mark t => ["(", "[", "\x7b", "-", "+", "~", "...", "*"].contains t
  | _ => false

namespace Parse

/-- Read a given operator or delimiter. -/
def mark (text : String) : Parse Unit := take fun t => if t.isMark text then some () else none

/-- Read a given operator or delimiter if it comes next. -/
def mark? (text : String) : Parse Bool := takeIf (·.isMark text)

/-- Read a given word. -/
def word (text : String) : Parse Unit := take fun t => if t.isWord text then some () else none

/-- Read a given word if it comes next. -/
def word? (text : String) : Parse Bool := takeIf (·.isWord text)

/-- Read a name. -/
def name : Parse String := take Token.name?

/-- Read the end of a line. -/
def newline : Parse Unit := take fun
  | .newline => some ()
  | _ => none

/-- Whether a name and a given operator come next. -/
def nameAndMark (text : String) : Parse Bool := fun ts =>
  match ts with
  | first :: second :: _ => some (first.token.name?.isSome && second.token.isMark text, ts)
  | _ => some (false, ts)

/-- Read further items, each behind a comma, up to a token that can begin none. The answer also
tells whether a comma stands behind the last item. -/
def commaItems {α : Type} (item : Parse α) (begins : Token → Bool) :
    Nat → List α → Parse (List α × Bool)
  | 0, _ => failure
  | rounds + 1, done => do
    if ← mark? "," then
      if ← ahead begins then
        let next ← item
        commaItems item begins rounds (next :: done)
      else return (done.reverse, true)
    else return (done.reverse, false)

/-- Read items with commas between them; none may follow the last. -/
def commaSeparated {α : Type} (item : Parse α) : Nat → Parse (List α)
  | 0 => failure
  | rounds + 1 => do
    let first ← item
    if ← mark? "," then
      let rest ← commaSeparated item rounds
      return first :: rest
    else return [first]

end Parse

end FlatRecord.Script
