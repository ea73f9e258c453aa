import FlatRecord.Storage.Path
import FlatRecord.Text.Quoted

/-!
# Files

A tree of files and directories. Files are read and written by their paths, and directories are made;
what is not possible is refused with the reason that the system gives. The root and the working
directory are always there.
-/

namespace FlatRecord.Storage

/-- A file with its octets, or a directory. -/
inductive Entry where
  | file (octets : List UInt8)
  | directory
  deriving DecidableEq

/-- Why a path is not read or written. -/
inductive Refusal where
  | missing
  | present
  | notDirectory
  | isDirectory
  | longName
  deriving DecidableEq, Repr

namespace Refusal

/-- The number of the reason. -/
def number : Refusal → Nat
  | missing => 2
  | present => 17
  | notDirectory => 20
  | isDirectory => 21
  | longName => 36

/-- The words for the reason. -/
def words : Refusal → String
  | missing => "No such file or directory"
  | present => "File exists"
  | notDirectory => "Not a directory"
  | isDirectory => "Is a directory"
  | longName => "File name too long"

end Refusal

/-- A reason, and the path that it is about. -/
structure PathFault where
  refusal : Refusal
  path : Path
  deriving DecidableEq, Repr

/-- The text of the fault. -/
def PathFault.message (f : PathFault) : String :=
  s!"[Errno {f.refusal.number}] " ++ f.refusal.words ++ ": " ++ Text.quoted f.path.text

/-- Files and directories by their paths. -/
structure FileTree where
  entries : List (Path × Entry)

namespace FileTree

/-- The entry at a path without names of directories above. -/
def entry? (t : FileTree) (p : Path) : Option Entry :=
  if p.names.isEmpty then some .directory else t.entries.lookup p

/-- Set the entry at a path. -/
def set (t : FileTree) (p : Path) (e : Entry) : FileTree :=
  if (t.entries.lookup p).isSome then
    ⟨t.entries.map fun old => if old.1 = p then (p, e) else old⟩
  else ⟨t.entries ++ [(p, e)]⟩

/-- The number of octets that a name may have. -/
def maxNameLength : Nat := 255

/-- Follow names from an entry on. -/
def follow (t : FileTree) (here : Path) : List String → Except Refusal (Path × Entry)
  | [] =>
    match t.entry? here with
    | some e => .ok (here, e)
    | none => .error .missing
  | name :: rest =>
    match t.entry? here with
    | none => .error .missing
    | some (.file _) => .error .notDirectory
    | some .directory =>
      if name = parentName then follow t here.parent rest
      else if maxNameLength < name.utf8ByteSize then .error .longName
      else follow t (here.child name) rest

/-- The number of octets that the text of a path may have. -/
def maxPathLength : Nat := 4095

/-- The entry that a path leads to, and its path without names of directories above. -/
def find (t : FileTree) (p : Path) : Except Refusal (Path × Entry) :=
  if maxPathLength < p.text.utf8ByteSize then .error .longName else t.follow ⟨p.root, []⟩ p.names

/-- Whether a path leads to an entry. -/
def holds (t : FileTree) (p : Path) : Bool := (t.find p).toOption.isSome

/-- Whether a path leads to a directory. -/
def isDirectory (t : FileTree) (p : Path) : Bool :=
  match t.find p with
  | .ok (_, .directory) => true
  | _ => false

/-- The octets of the file at a path. -/
def read (t : FileTree) (p : Path) : Except PathFault (List UInt8) :=
  match t.find p with
  | .ok (_, .file octets) => .ok octets
  | .ok (_, .directory) => .error ⟨.isDirectory, p⟩
  | .error refusal => .error ⟨refusal, p⟩

/-- The place of an entry that is not there yet: its directory has to be there. -/
def place (t : FileTree) (p : Path) : Except Refusal Path :=
  if maxPathLength < p.text.utf8ByteSize then .error .longName
  else
    match t.find p.parent with
    | .error refusal => .error refusal
    | .ok (_, .file _) => .error .notDirectory
    | .ok (here, .directory) =>
      let name := p.names.getLast?.getD ""
      if maxNameLength < name.utf8ByteSize then .error .longName else .ok (here.child name)

/-- Write a file, in place of the one that is there. -/
def write (t : FileTree) (p : Path) (octets : List UInt8) : Except PathFault FileTree :=
  match t.find p with
  | .ok (here, .file _) => .ok (t.set here (.file octets))
  | .ok (_, .directory) => .error ⟨.isDirectory, p⟩
  | .error _ =>
    match t.place p with
    | .ok here => .ok (t.set here (.file octets))
    | .error refusal => .error ⟨refusal, p⟩

/-- Make a directory. -/
def makeDirectory (t : FileTree) (p : Path) : Except PathFault FileTree :=
  if t.holds p then .error ⟨.present, p⟩
  else
    match t.place p with
    | .ok here => .ok (t.set here .directory)
    | .error refusal => .error ⟨refusal, p⟩

/-- The tree with a directory at a path, where making it has come out as given. -/
def orKept (t : FileTree) (p : Path) (made : Except PathFault FileTree) : Except PathFault FileTree :=
  match made with
  | .ok t => .ok t
  | .error fault => if t.isDirectory p then .ok t else .error fault

/-- Make a directory and those above it, as far as they are not there, going up some number of
levels. -/
def makeDirectoriesUp (t : FileTree) (p : Path) : Nat → Except PathFault FileTree
  | 0 => t.orKept p (t.makeDirectory p)
  | levels + 1 =>
    match t.makeDirectory p with
    | .error ⟨.missing, _⟩ => do
      let t ← t.makeDirectoriesUp p.parent levels
      t.orKept p (t.makeDirectory p)
    | made => t.orKept p made

/-- Make a directory and those above it, as far as they are not there. -/
def makeDirectories (t : FileTree) (p : Path) : Except PathFault FileTree :=
  t.makeDirectoriesUp p p.names.length

/-- The tree of some files in the working directory and below, with the directories that hold them. -/
def ofFiles (files : List (String × List UInt8)) : FileTree :=
  files.foldl (fun t f =>
    let p := Path.ofText f.1
    let t := (t.makeDirectories p.parent).toOption.getD t
    (t.write p f.2).toOption.getD t) ⟨[]⟩

/-- The files that are new, or have other octets than in an earlier tree. -/
def changesSince (t earlier : FileTree) : List (Path × List UInt8) :=
  t.entries.filterMap fun e =>
    match e.2 with
    | .file octets => if earlier.entries.lookup e.1 = some e.2 then none else some (e.1, octets)
    | .directory => none

end FileTree

end FlatRecord.Storage
