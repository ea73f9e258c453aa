import FlatRecord.Text.Blank

/-!
# Trees of elements

An XML document is a tree of elements until it is written. An element has a text at its beginning and one
behind its end; a text that is missing is the empty one. Indentation fills blank texts between elements
with line breaks and leaves every other text alone.
-/

namespace FlatRecord.Xml

/-- An element with its name, the text at its beginning, its children, and the text behind its end. -/
inductive Element where
  | node (name : String) (text : List Char) (children : List Element) (tail : List Char)

/-- A character of a text, as markup. -/
def escape (c : Char) : List Char :=
  if c = '&' then "&amp;".toList
  else if c = '<' then "&lt;".toList
  else if c = '>' then "&gt;".toList
  else [c]

/-- Whether a text has nothing but blanks. -/
def isBlankText (text : List Char) : Bool := (Text.trim text).isEmpty

/-- The line break before an element at a level. -/
def lineBreak (level : Nat) : List Char := '\n' :: List.replicate (2 * level) ' '

/-- A text between elements at a level: a line break in place of a blank one. -/
def broken (level : Nat) (text : List Char) : List Char :=
  if isBlankText text then lineBreak level else text

/-- An element with a line break behind it, if there is nothing else. -/
def Element.followed (level : Nat) : Element → Element
  | .node name text children tail => .node name text children (broken level tail)

mutual

/-- An element at a level with each of its descendants on a line of its own. -/
def Element.indented (level : Nat) : Element → Element
  | .node name text children tail =>
    if children.isEmpty then .node name text children tail
    else .node name (broken (level + 1) text) (indentedAll level children) tail

/-- The children of an element at a level, each on a line of its own. -/
def indentedAll (level : Nat) : List Element → List Element
  | [] => []
  | [last] => [(last.indented (level + 1)).followed level]
  | child :: rest =>
    (child.indented (level + 1)).followed (level + 1) :: indentedAll level rest

end

mutual

/-- An element as markup, and the text behind it. An element without text and children is closed at
once. -/
def Element.markup : Element → List Char
  | .node name text children tail =>
    (if text.isEmpty && children.isEmpty then '<' :: (name.toList ++ " />".toList)
      else
        '<' :: (name.toList ++ '>' :: (text.flatMap escape ++ markupAll children ++
          '<' :: '/' :: (name.toList ++ ['>'])))) ++ tail.flatMap escape

/-- Elements as markup. -/
def markupAll : List Element → List Char
  | [] => []
  | child :: rest => child.markup ++ markupAll rest

end

end FlatRecord.Xml
