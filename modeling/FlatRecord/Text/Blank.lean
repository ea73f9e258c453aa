import FlatRecord.Text.Ranges

/-!
# Blank characters

The characters that trimming removes from both ends of a text: the bidirectional separators
of Unicode as well as its space characters.
-/

namespace FlatRecord.Text

/-- Code points of the blank characters. -/
def blankRanges : Ranges :=
  [(0x9, 0xd), (0x1c, 0x20), (0x85, 0x85), (0xa0, 0xa0), (0x1680, 0x1680), (0x2000, 0x200a), 
   (0x2028, 0x2029), (0x202f, 0x202f), (0x205f, 0x205f), (0x3000, 0x3000)]

/-- Whether trimming removes the character at the ends of a text. -/
def isBlank (c : Char) : Bool := blankRanges.holds c.toNat

/-- The characters after the leading blanks. -/
def trimLeft (cs : List Char) : List Char := cs.dropWhile isBlank

/-- The characters between the leading and the trailing blanks. -/
def trim (cs : List Char) : List Char := (trimLeft (trimLeft cs).reverse).reverse

/-- A text without the blanks at its ends. -/
def trimmed (s : String) : String := String.ofList (trim s.toList)

end FlatRecord.Text
