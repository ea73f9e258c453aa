import FlatRecord.Datum.Written

/-!
# Writing JSON text

Data is written as JSON text, either on one line or with two blanks of indentation for each level.
Only nulls, truth values, numbers, texts, lists and mappings have a JSON form; keys that are no texts
are written as texts. A style says how texts and numbers look: answers are ASCII and name the numbers
that are not finite, documents of records keep every printable character and have null in place of
those numbers.
-/

namespace FlatRecord.Json

open FlatRecord.Number FlatRecord.Text

/-- A sixteen bit unit as an escape. -/
def unitEscape (n : Nat) : List Char := '\\' :: 'u' :: hexDigits 4 n

/-- A character of a JSON string in ASCII. -/
def asciiChar (c : Char) : List Char :=
  if c = '"' then ['\\', '"']
  else if c = '\\' then ['\\', '\\']
  else if c = '\n' then ['\\', 'n']
  else if c = '\r' then ['\\', 'r']
  else if c = '\t' then ['\\', 't']
  else if c = '\x08' then ['\\', 'b']
  else if c = '\x0c' then ['\\', 'f']
  else if 0x20 ≤ c.toNat ∧ c.toNat < 0x7f then [c]
  else if c.toNat < 0x10000 then unitEscape c.toNat
  else
    let n := c.toNat - 0x10000
    unitEscape (0xd800 + n / 0x400) ++ unitEscape (0xdc00 + n % 0x400)

/-- A JSON string in ASCII. -/
def asciiString (s : String) : List Char := '"' :: (s.toList.flatMap asciiChar ++ ['"'])

/-- A number in an answer. -/
def answerNumber (x : Binary64) : List Char := FloatLayout.plain.text "Infinity" "NaN" x

/-- A character of a string in a document of a record. -/
def documentChar (c : Char) : List Char :=
  if c = '"' then ['\\', '"']
  else if c = '\\' then ['\\', '\\']
  else if c = '\n' then ['\\', 'n']
  else if c = '\r' then ['\\', 'r']
  else if c = '\t' then ['\\', 't']
  else if c = '\x08' then ['\\', 'b']
  else if c = '\x0c' then ['\\', 'f']
  else if c.toNat < 0x20 then unitEscape c.toNat
  else [c]

/-- A string in a document of a record. -/
def documentString (s : String) : List Char := '"' :: (s.toList.flatMap documentChar ++ ['"'])

/-- A number in a document of a record. -/
def documentNumber (x : Binary64) : List Char :=
  if x.isFinite then FloatLayout.json.text "" "" x else "null".toList

/-- How lists and mappings are laid out. -/
inductive Layout where
  /-- Everything on one line, without blanks. -/
  | compact
  /-- Every item on a line of its own, two blanks deeper than the container. -/
  | indented
  deriving DecidableEq

/-- The line break before an item at the given depth. -/
def Layout.lineBreak : Layout → Nat → List Char
  | compact, _ => []
  | indented, depth => '\n' :: List.replicate (2 * depth) ' '

/-- What stands between a key and its value. -/
def Layout.colon : Layout → List Char
  | compact => [':']
  | indented => [':', ' ']

/-- How JSON text looks. -/
structure Style where
  layout : Layout
  text : String → List Char
  number : Binary64 → List Char

/-- The style of answers. -/
def Style.answer (layout : Layout) : Style := ⟨layout, asciiString, answerNumber⟩

/-- The style of documents of records. -/
def Style.document (layout : Layout) : Style := ⟨layout, documentString, documentNumber⟩

/-- The text of a key that JSON text can show. -/
def keyText (style : Style) : Datum → Except String (List Char)
  | .text s => .ok (style.text s)
  | .null => .ok "\"null\"".toList
  | .bool b => .ok (if b then "\"true\"".toList else "\"false\"".toList)
  | .int n => .ok ('"' :: (integerText n ++ ['"']))
  | .float x => .ok ('"' :: (style.number x ++ ['"']))
  | other => .error other.typeName

mutual

/-- A value at a depth. A value without a JSON form is answered by the name of its type. -/
def write (style : Style) (depth : Nat) : Datum → Except String (List Char)
  | .null => .ok "null".toList
  | .bool b => .ok (if b then "true".toList else "false".toList)
  | .int n => .ok (integerText n)
  | .float x => .ok (style.number x)
  | .text s => .ok (style.text s)
  | .list xs =>
    if xs.isEmpty then .ok ['[', ']']
    else do
      let body ← writeItems style (depth + 1) xs
      return '[' :: (body ++ style.layout.lineBreak depth ++ [']'])
  | .map es =>
    if es.isEmpty then .ok ['\x7b', '\x7d']
    else do
      let body ← writeEntries style (depth + 1) es
      return '\x7b' :: (body ++ style.layout.lineBreak depth ++ ['\x7d'])
  | other => .error other.typeName

/-- The items of a list. -/
def writeItems (style : Style) (depth : Nat) : List Datum → Except String (List Char)
  | [] => .ok []
  | [x] => do
    let item ← write style depth x
    return style.layout.lineBreak depth ++ item
  | x :: rest => do
    let item ← write style depth x
    let more ← writeItems style depth rest
    return style.layout.lineBreak depth ++ item ++ ',' :: more

/-- The entries of a mapping. -/
def writeEntries (style : Style) (depth : Nat) :
    List (Datum × Datum) → Except String (List Char)
  | [] => .ok []
  | [(k, v)] => do
    let key ← keyText style k
    let item ← write style depth v
    return style.layout.lineBreak depth ++ key ++ style.layout.colon ++ item
  | (k, v) :: rest => do
    let key ← keyText style k
    let item ← write style depth v
    let more ← writeEntries style depth rest
    return style.layout.lineBreak depth ++ key ++ style.layout.colon ++ item ++ ',' :: more

end

/-- An answer as JSON text; a value without a JSON form is answered by the name of its type. -/
def document (layout : Layout) (v : Datum) : Except String String :=
  (write (.answer layout) 0 v).map String.ofList

end FlatRecord.Json
