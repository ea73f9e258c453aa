/-!
# Line breaks

A text that is read from a file has one kind of line break: carriage returns, with or without a line
feed behind them, are read as line feeds.
-/

namespace FlatRecord.Text

/-- A text in which line feeds are the only line breaks. -/
def unifyBreaks : List Char → List Char
  | [] => []
  | '\r' :: '\n' :: rest => '\n' :: unifyBreaks rest
  | '\r' :: rest => '\n' :: unifyBreaks rest
  | c :: rest => c :: unifyBreaks rest

end FlatRecord.Text
