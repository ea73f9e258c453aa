/-!
# Paths

A path is a list of names below the root or below the working directory. In its text, names are
separated by slashes; empty names and single dots do not count. The working directory itself is a single
dot.
-/

namespace FlatRecord.Storage

/-- A path to a file or a directory. -/
structure Path where
  /-- The slashes at the head of an absolute path, or nothing. -/
  root : String
  names : List String
  deriving DecidableEq, Repr

/-- The name of the directory above. -/
def parentName : String := ".."

/-- The names in a text between slashes, the empty ones included. -/
def splitNames (cs : List Char) : List (List Char) :=
  cs.foldr (fun c names =>
    if c = '/' then [] :: names
    else
      match names with
      | name :: rest => (c :: name) :: rest
      | [] => [[c]]) [[]]

namespace Path

/-- The root of a text: two slashes are kept, any other number of them is one. -/
def rootOf (cs : List Char) : String :=
  match (cs.takeWhile (· = '/')).length with
  | 0 => ""
  | 2 => "//"
  | _ => "/"

/-- The path of a text. -/
def ofText (s : String) : Path :=
  let names := (splitNames s.toList).filter fun name => !name.isEmpty && name != ['.']
  ⟨rootOf s.toList, names.map String.ofList⟩

/-- The text of a path. -/
def text (p : Path) : String :=
  if p.root.isEmpty && p.names.isEmpty then "." else p.root ++ "/".intercalate p.names

/-- The directory that holds the path. -/
def parent (p : Path) : Path := { p with names := p.names.dropLast }

/-- The directories above the path, the outermost first, and the path itself. -/
def steps (p : Path) : List Path :=
  (List.range (p.names.length + 1)).map fun n => { p with names := p.names.take n }

/-- A path below this one. -/
def child (p : Path) (name : String) : Path := { p with names := p.names ++ [name] }

/-- The last name, from its last dot on; nothing if it has no dot but at its ends. -/
def suffix (p : Path) : String :=
  let name := (p.names.getLast?.getD "").toList
  let tail := (name.reverse.takeWhile (· != '.')).reverse
  if tail.length = name.length || tail.isEmpty || tail.length + 1 = name.length then ""
  else String.ofList ('.' :: tail)

end Path

end FlatRecord.Storage
