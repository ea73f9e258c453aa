import FlatRecord.Number.IntegerText

/-!
# Tags

A tag says of which type the value of a node is. Nodes without a tag have one all the same: collections
by their kind, quoted texts as texts, and plain texts by their form, where the forms are those of
version 1.1 of the format. A plain text of no other form is a text.
-/

namespace FlatRecord.Yaml

open FlatRecord.Number FlatRecord.Text

/-- The types of values. -/
inductive Tag where
  | null
  | bool
  | int
  | float
  | timestamp
  | binary
  | text
  | sequence
  | mapping
  | set
  | orderedMapping
  | pairs
  /-- The key whose value is merged into the mapping. -/
  | merge
  /-- The key whose value stands for the mapping. -/
  | value
  /-- A type that no value has. -/
  | unknown
  deriving DecidableEq, Repr

/-- The beginning of the tags of the format. -/
def tagPrefix : String := "tag:yaml.org,2002:"

namespace Tag

/-- The last parts of the tags of the format. -/
def names : List (String × Tag) :=
  [("null", null), ("bool", bool), ("int", int), ("float", float), ("timestamp", timestamp),
   ("binary", binary), ("str", text), ("seq", sequence), ("map", mapping), ("set", set),
   ("omap", orderedMapping), ("pairs", pairs), ("merge", merge), ("value", value)]

/-- The type that a tag in full names. -/
def ofName (full : String) : Tag :=
  ((names.find? fun n => tagPrefix ++ n.1 == full).map Prod.snd).getD unknown

end Tag

/-- Whether a list holds at least one character, and all of them satisfy a condition. -/
def allSome (p : Char → Bool) (cs : List Char) : Bool := !cs.isEmpty && cs.all p

/-- Whether the character is a digit or an underscore. -/
def isGrouped (c : Char) : Bool := isAsciiDigit c || c = '_'

/-- Whether a text begins with a digit and goes on with digits and underscores. -/
def isGroup : List Char → Bool
  | c :: rest => isAsciiDigit c && rest.all isGrouped
  | [] => false

/-- The parts of a text between the places of a character. -/
def splitAt (mark : Char) (cs : List Char) : List (List Char) :=
  cs.foldr (fun c parts =>
    if c = mark then [] :: parts
    else
      match parts with
      | part :: rest => (c :: part) :: rest
      | [] => [[c]]) [[]]

/-- Whether a text is a number below sixty, in one or two digits. -/
def isSixtieth : List Char → Bool
  | [c] => isAsciiDigit c
  | [c, d] => '0' ≤ c && c ≤ '5' && isAsciiDigit d
  | _ => false

/-- Whether an integer has the form of a number in base sixty, given its parts between colons. -/
def isSexagesimal (parts : List (List Char)) : Bool :=
  match parts with
  | first :: second :: rest => isGroup first && (second :: rest).all isSixtieth
  | _ => false

/-- Whether a plain text has the form of an integer. -/
def isIntegerForm (cs : List Char) : Bool :=
  match (signed cs).2 with
  | '0' :: 'b' :: rest => allSome (fun c => c = '0' || c = '1' || c = '_') rest
  | '0' :: 'x' :: rest =>
    allSome (fun c => isAsciiDigit c || ('a' ≤ c && c ≤ 'f') || ('A' ≤ c && c ≤ 'F') || c = '_') rest
  | '0' :: rest => rest.all fun c => ('0' ≤ c && c ≤ '7') || c = '_'
  | number => isGroup number || isSexagesimal (splitAt ':' number)

/-- Whether a text is an exponent or nothing: a mark, a sign that must be there, and digits. -/
def isExponentForm : List Char → Bool
  | [] => true
  | mark :: sign :: digits =>
    (mark = 'e' || mark = 'E') && (sign = '-' || sign = '+') && allSome isAsciiDigit digits
  | _ => false

/-- Whether a plain text has the form of a number with a point. -/
def isFloatForm (cs : List Char) : Bool :=
  let unsigned := (signed cs).2
  if [".inf", ".Inf", ".INF"].contains (String.ofList unsigned) then true
  else if [".nan", ".NaN", ".NAN"].contains (String.ofList cs) then true
  else
    let (whole, rest) := unsigned.span (· != '.')
    match rest with
    | _ :: after =>
      let tail := after.dropWhile isGrouped
      if isGroup whole then isExponentForm tail
      else if whole.isEmpty then unsigned.length = cs.length && isGroup (after.takeWhile isGrouped) && isExponentForm tail
      else isSexagesimal (splitAt ':' whole) && tail.isEmpty
    | [] => false

/-- The parts of a date or date-time. -/
structure StampParts where
  year : Nat
  month : Nat
  day : Nat
  clock : Option (Nat × Nat × Nat)
  /-- The digits of the fraction of the second. -/
  fraction : List Char
  /-- The offset in minutes. -/
  offset : Option Int

/-- Read a number of as many digits as there are, within bounds. -/
def stampNumber? (least greatest : Nat) (cs : List Char) : Option (Nat × List Char) :=
  let digits := (cs.take greatest).takeWhile isAsciiDigit
  if digits.length < least then none
  else some (digitsNumber (digits.map asciiDigitValue), cs.drop digits.length)

/-- Read a given character. -/
def stampMark? (mark : Char) : List Char → Option (List Char)
  | c :: rest => if c = mark then some rest else none
  | [] => none

/-- Read the mark between date and time. -/
def stampBreak? : List Char → Option (List Char)
  | 'T' :: rest => some rest
  | 't' :: rest => some rest
  | c :: rest => if c = ' ' || c = '\t' then some (rest.dropWhile fun d => d = ' ' || d = '\t') else none
  | [] => none

/-- Read the offset up to the end of the text. -/
def stampOffset? (cs : List Char) : Option (Option Int) :=
  match cs with
  | [] => some none
  | _ =>
    match cs.dropWhile fun c => c = ' ' || c = '\t' with
    | ['Z'] => some (some 0)
    | sign :: rest =>
      if sign = '+' || sign = '-' then do
        let (hours, rest) ← stampNumber? 1 2 rest
        let minutes ←
          match rest with
          | [] => some 0
          | _ => do
            let (minutes, rest) ← stampNumber? 2 2 (← stampMark? ':' rest)
            if rest.isEmpty then some minutes else none
        let total : Int := hours * 60 + minutes
        return some (if sign = '-' then -total else total)
      else none
    | [] => none

/-- The parts of a text that has the form of a date or date-time. -/
def stampParts? (cs : List Char) : Option StampParts := do
  let (year, rest) ← stampNumber? 4 4 cs
  let (month, rest) ← stampNumber? 1 2 (← stampMark? '-' rest)
  let (day, rest) ← stampNumber? 1 2 (← stampMark? '-' rest)
  if rest.isEmpty then return ⟨year, month, day, none, [], none⟩
  let (hour, rest) ← stampNumber? 1 2 (← stampBreak? rest)
  let (minute, rest) ← stampNumber? 2 2 (← stampMark? ':' rest)
  let (second, rest) ← stampNumber? 2 2 (← stampMark? ':' rest)
  let (fraction, rest) :=
    match rest with
    | '.' :: after => after.span isAsciiDigit
    | _ => ([], rest)
  let offset ← stampOffset? rest
  return ⟨year, month, day, some (hour, minute, second), fraction, offset⟩

/-- Whether a plain text has the form of a date or date-time; a date alone has ten characters. -/
def isStampForm (cs : List Char) : Bool :=
  match stampParts? cs with
  | some parts => parts.clock.isSome || cs.length = 10
  | none => false

/-- The words for truth values. -/
def truthWords : List (String × Bool) :=
  [("yes", true), ("no", false), ("true", true), ("false", false), ("on", true), ("off", false)]

/-- Whether a plain text is a word in small letters, in capitals, or with a capital first. -/
def isWordForm (word s : String) : Bool :=
  s == word || s == word.toUpper || s == word.capitalize

/-- The type of a plain text. -/
def Tag.ofPlain (s : String) : Tag :=
  let cs := s.toList
  if truthWords.any fun w => isWordForm w.1 s then .bool
  else if isFloatForm cs then .float
  else if isIntegerForm cs then .int
  else if s == "<<" then .merge
  else if s == "" || s == "~" || isWordForm "null" s then .null
  else if isStampForm cs then .timestamp
  else if s == "=" then .value
  else if s == "!" || s == "&" || s == "*" then .unknown
  else .text

end FlatRecord.Yaml
