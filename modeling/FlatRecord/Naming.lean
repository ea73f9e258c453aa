import FlatRecord.Text.Uppercase

/-!
# Names

Declared names are ASCII identifiers, type names live in dotted namespaces, and every field has
three derived names: its getter, its setter and the attribute that stores its value.

A line feed at the very end of a name goes unnoticed by the identifier tests.
-/

namespace FlatRecord.Naming

open FlatRecord.Text

/-- Whether a name may begin with the character. -/
def isInitial (c : Char) : Bool := c.isAlpha || c == '_'

/-- Whether a name may go on with the character. -/
def isFollowing (c : Char) : Bool := c.isAlphanum || c == '_'

/-- Whether the characters are an identifier: a letter or underscore, then letters, digits and
underscores. -/
def isWord : List Char → Bool
  | [] => false
  | c :: rest => isInitial c && rest.all isFollowing

/-- The characters without a line feed at the end. -/
def dropFinalLineFeed (cs : List Char) : List Char :=
  if cs.getLast? = some '\n' then cs.dropLast else cs

/-- Whether a name is an identifier. -/
def isIdentifier (name : String) : Bool := isWord (dropFinalLineFeed name.toList)

/-- The texts between the dots of a name. -/
def segments (name : String) : List String :=
  (name.toList.splitOn '.').map String.ofList

/-- Whether a name consists of identifiers with dots between them. -/
def isQualified (name : String) : Bool :=
  ((dropFinalLineFeed name.toList).splitOn '.').all isWord

/-- The keywords of the scripting language in lower case. -/
def keywords : List String :=
  ["false", "none", "true", "and", "as", "assert", "async", "await", "break", "class", "continue",
   "def", "del", "elif", "else", "except", "finally", "for", "from", "global", "if", "import",
   "in", "is", "lambda", "nonlocal", "not", "or", "pass", "raise", "return", "try", "while",
   "with", "yield"]

/-- Whether a name is a keyword, whatever the case of its letters. -/
def isReserved (name : String) : Bool :=
  keywords.contains (String.ofList (name.toList.map asciiLowercase))

/-- The name with its first letter in upper case. -/
def capitalize (name : String) : String :=
  match name.toList with
  | [] => name
  | c :: rest => String.ofList (uppercase c ++ rest)

/-- The getter of a field. -/
def getterName (name : String) : String := "get" ++ capitalize name

/-- The setter of a field, and of a document key. -/
def setterName (name : String) : String := "set" ++ capitalize name

/-- Names that every generated module imports or may import. -/
def moduleNames : List String :=
  ["Annotated", "BaseModel", "ConfigDict", "Field", "Optional", "datetime", "decimal"]

/-- Names that annotations of generated classes refer to. -/
def annotationNames : List String := ["bool", "float", "int", "object", "str"]

/-- Public members that every record class inherits, those with a reserved beginning aside. -/
def inheritedNames : List String :=
  ["construct", "copy", "dict", "from_orm", "json", "parse_file", "parse_obj", "parse_raw",
   "schema", "schema_json", "update_forward_refs", "validate"]

/-- Whether a class could not use the name for an attribute of its own. -/
def isTaken (name : String) : Bool :=
  inheritedNames.contains name || annotationNames.contains name || moduleNames.contains name

/-- Whether attributes with the name would be private or protected. -/
def isProtected (name : List Char) : Bool :=
  name.head? = some '_' || name.take 6 = "model_".toList

/-- The attribute that stores a field. Names that would be private or protected, and names that a
class could not use, are moved out of the way. -/
def attributeName (name : String) : String :=
  let base :=
    if isProtected name.toList then
      "field_" ++ String.ofList (name.toList.dropWhile (· = '_'))
    else name
  if isTaken base then base ++ "_field" else base

/-- A dotted name split at its last dot; nothing stands before it if there is no dot. -/
def splitLast (name : String) : String × String :=
  let reversed := name.toList.reverse
  let last := reversed.takeWhile (· != '.')
  let before := (reversed.dropWhile (· != '.')).drop 1
  (String.ofList before.reverse, String.ofList last.reverse)

end FlatRecord.Naming
