import FlatRecord.Script.Tree

/-!
# Tokens of the scripting language

The pieces that a source text is cut into before its syntax is read. Indentation counts: a line that
is indented further than the one before it is announced by `indent`, and every return to a lesser
margin by a `dedent` for each margin that is left.
-/

namespace FlatRecord.Script

/-- One text literal; neighbouring ones are joined by the parser. -/
inductive Literal where
  | text (value : String)
  | bytes (value : List UInt8)
  /-- A text with replacement fields, of which the source texts of the fields are kept. -/
  | format (fields : List (List Char))

/-- A token. -/
inductive Token where
  /-- A name or a keyword. -/
  | word (text : String)
  | number (value : Constant)
  | literal (value : Literal)
  /-- An operator or a delimiter. -/
  | mark (text : String)
  /-- The end of a statement's line. -/
  | newline
  | indent
  | dedent

/-- A token with the line that it begins on. -/
structure Lexeme where
  token : Token
  line : Nat

/-- The words that are no names. -/
def keywords : List String :=
  ["False", "None", "True", "and", "as", "assert", "async", "await", "break", "class", "continue",
   "def", "del", "elif", "else", "except", "finally", "for", "from", "global", "if", "import",
   "in", "is", "lambda", "nonlocal", "not", "or", "pass", "raise", "return", "try", "while",
   "with", "yield"]

/-- Operators and delimiters of three characters. -/
def longMarks : List (List Char) :=
  ["...", "**=", "//=", "<<=", ">>="].map String.toList

/-- Operators and delimiters of two characters. -/
def doubleMarks : List (List Char) :=
  ["!=", "%=", "&=", "**", "*=", "+=", "-=", "->", "/=", "//", ":=", "<<", "<=", "==", ">=", ">>",
   "@=", "^=", "|="].map String.toList

/-- Operators and delimiters of one character, brackets apart. -/
def singleMarks : List Char := "%&*+,-./:;<=>@^|~".toList

/-- The brackets, each with the one that closes it. -/
def brackets : List (Char × Char) := [('(', ')'), ('[', ']'), ('{', '}')]

end FlatRecord.Script
