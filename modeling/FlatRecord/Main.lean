import FlatRecord.CommandLine.Run

/-!
# The program

The files that a command line names are taken from the disk into a tree, the run is computed on that tree,
and the files that it leaves changed are put back. What goes wrong on the disk and has no place in a tree
of files ends the program with the message of the system.
-/

namespace FlatRecord.CommandLine

open FlatRecord.Storage

/-- The number that the system gives for reading a directory as a file. -/
def directoryCode : UInt32 := 21

/-- The tree with what is on the disk at a path, if anything is there. -/
def takePath (files : FileTree) (p : Path) : IO FileTree := do
  try
    let octets ← IO.FS.readBinFile p.text
    return (files.write p octets.toList).toOption.getD files
  catch
    | .noFileOrDirectory .. => return files
    | .invalidArgument .. => return files
    | .inappropriateType _ code _ =>
      if code = directoryCode then return (files.makeDirectory p).toOption.getD files
      else return files
    | fault => throw fault

/-- The tree of what is on the disk at some paths and above them. -/
def takePaths (paths : List Path) : IO FileTree :=
  (paths.flatMap Path.steps).foldlM takePath ⟨[]⟩

/-- Put the file at a path on the disk, if it is not the same in an earlier tree. -/
def putPath (earlier files : FileTree) (p : Path) : IO Unit := do
  match files.read p with
  | .error _ => return
  | .ok octets =>
    if (earlier.read p).toOption != some octets then
      IO.FS.createDirAll p.parent.text
      IO.FS.writeBinFile p.text ⟨octets.toArray⟩

/-- Run the program on the disk, and answer its exit code. -/
def runOnDisk (arguments : List String) : IO UInt32 := do
  let paths := match Request.read arguments with
    | .ok request => request.command.paths.map Path.ofText
    | .error _ => []
  let files ← takePaths paths
  let outcome := run files arguments
  paths.forM (putPath files outcome.files)
  IO.print outcome.output
  outcome.messages.forM IO.eprintln
  match outcome.exit with
  | .ok code => return UInt32.ofNat code
  | .error fault => do
    IO.eprintln fault.message
    return 1

end FlatRecord.CommandLine

/-- The program. -/
def main (arguments : List String) : IO UInt32 := FlatRecord.CommandLine.runOnDisk arguments
