import FlatRecord.Text.Printable

/-!
# Quoted text

The written form of a text value: between quotes, with backslash escapes for the quote, the
backslash, line breaks, tabs and every character that is not printable. Single quotes are used
unless the text holds a single quote and no double quote.

A documentation text is written between triple quotes instead. There line feeds and tabs stand as
themselves, and a quote is escaped only where it would close the text.
-/

namespace FlatRecord.Text

/-- The lower case hexadecimal digit of a value below sixteen. -/
def hexDigit (n : Nat) : Char :=
  Char.ofNat (if n % 16 < 10 then 0x30 + n % 16 else 0x57 + n % 16)

/-- The lowest `width` hexadecimal digits of a number. -/
def hexDigits : Nat → Nat → List Char
  | 0, _ => []
  | width + 1, n => hexDigits width (n / 16) ++ [hexDigit n]

/-- The numeric escape of a code point, in the shortest of the three widths. -/
def numericEscape (n : Nat) : List Char :=
  if n ≤ 0xff then '\\' :: 'x' :: hexDigits 2 n
  else if n ≤ 0xffff then '\\' :: 'u' :: hexDigits 4 n
  else '\\' :: 'U' :: hexDigits 8 n

/-- A character inside quotes: escaped if it is the quote, a backslash or not printable. -/
def escapeChar (quote c : Char) : List Char :=
  if c = quote ∨ c = '\\' then ['\\', c]
  else if c = '\n' then ['\\', 'n']
  else if c = '\r' then ['\\', 'r']
  else if c = '\t' then ['\\', 't']
  else if isPrintable c then [c]
  else numericEscape c.toNat

/-- The quote that a text is written between. -/
def quoteFor (cs : List Char) : Char :=
  if cs.contains '\'' && !cs.contains '"' then '"' else '\''

/-- A text between quotes. -/
def quote (cs : List Char) : List Char :=
  quoteFor cs :: (cs.flatMap (escapeChar (quoteFor cs)) ++ [quoteFor cs])

/-- A text between quotes, as a string. -/
def quoted (s : String) : String := String.ofList (quote s.toList)

/-- The byte in quotes, escaped unless it is a printable ASCII character. -/
def escapeByte (quote : Char) (b : UInt8) : List Char :=
  let c := Char.ofNat b.toNat
  if b.toNat < 0x20 ∨ 0x7f ≤ b.toNat then
    if c = '\n' ∨ c = '\r' ∨ c = '\t' then escapeChar quote c else '\\' :: 'x' :: hexDigits 2 b.toNat
  else escapeChar quote c

/-- A byte string between quotes. -/
def quoteBytes (bs : List UInt8) : List Char :=
  let q := quoteFor (bs.map fun b => Char.ofNat b.toNat)
  'b' :: q :: (bs.flatMap (escapeByte q) ++ [q])

/-- A character of a documentation text: only backslashes and unprintable characters other than
line feeds and tabs are escaped. -/
def escapeDocChar (c : Char) : List Char :=
  if c = '\n' ∨ c = '\t' then [c]
  else if c = '\\' then ['\\', '\\']
  else if c = '\r' then ['\\', 'r']
  else if isPrintable c then [c]
  else numericEscape c.toNat

/-- Whether three copies of the quote stand next to each other somewhere in the text. -/
def hasTriple (q : Char) : List Char → Bool
  | a :: b :: c :: rest => (a == q && b == q && c == q) || hasTriple q (b :: c :: rest)
  | _ => false

/-- A text between triple quotes: three double quotes by preference, three single quotes if the
text holds or ends with the former. A final quote of the chosen kind is escaped. A text that
holds both kinds of triple quotes is escaped as a plain quoted text. -/
def quoteDoc (cs : List Char) : List Char :=
  let body := cs.flatMap escapeDocChar
  let double := !hasTriple '"' body
  let single := !hasTriple '\'' body
  let triple (q : Char) (inner : List Char) := q :: q :: q :: (inner ++ [q, q, q])
  if !double && !single then
    triple (quoteFor cs) (cs.flatMap (escapeChar (quoteFor cs)))
  else
    let q :=
      if double && single then (if body.getLast? = some '"' then '\'' else '"')
      else if double then '"' else '\''
    if body.getLast? = some q then triple q (body.dropLast ++ ['\\', q]) else triple q body

end FlatRecord.Text
