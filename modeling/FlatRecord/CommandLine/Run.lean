import FlatRecord.CommandLine.Input

/-!
# Runs of the program

A run takes a tree of files and a command line, and leaves an exit code, the text that it writes, the
messages that it gives, and the tree of files. Faults of the command line, of its files and of the
descriptor exit with two, other faults with one; so does a record that does not match its descriptor.
-/

namespace FlatRecord.CommandLine

open FlatRecord.Storage

/-- What a run leaves. -/
structure Outcome where
  /-- The exit code, unless a fault ends the program. -/
  exit : Except Escape Nat
  output : String
  messages : List String
  files : FileTree

/-- What a part of a run leaves: notices and files as they are then, and a result unless it stops. -/
structure Progress (α : Type) where
  notices : List Notice
  files : FileTree
  result : Except Stop α

/-- What is written in the end, and what is said besides. -/
structure Answer where
  output : String
  messages : List String
  code : Nat

/-- The JSON text of an answer, with a line break behind it. -/
def jsonOutput (payload : Datum) : Except Stop String :=
  match Json.document .indented payload with
  | .ok text => .ok (text ++ "\n")
  | .error typeName => .error (.escape (.notJson typeName))

/-- How a fault of a compilation stops a run. -/
def Stop.ofCompile (fault : CompileFault) : Stop :=
  match fault with
  | .unreadable _ => .escape (.compile fault)
  | _ => .failure fault.message

/-- How a fault of a generation stops a run. -/
def Stop.ofGenerate : GenerateFault → Stop
  | .violation v => .usage v.message
  | .generation fault => .escape (.generation fault)
  | .compile fault => .ofCompile fault

/-- How a fault of a rendering stops a run. -/
def Stop.ofRender (fault : RenderFault) : Stop :=
  match fault with
  | .compile fault => .ofCompile fault
  | .marshal .unwritableInteger => .escape (.marshal .unwritableInteger)
  | _ => .failure fault.message

/-- Whether a path leads to a file or directory that would be lost by writing to it. -/
def isTaken (files : FileTree) (p : Path) : Except Stop Bool :=
  match files.find p with
  | .ok _ => .ok true
  | .error .longName => .error (.escape (.path ⟨.longName, p⟩))
  | .error _ => .ok false

/-- Write a source text to a file, and make the directories that lead there. -/
def writeSource (files : FileTree) (p : Path) (overwrite : Bool) (source : String) :
    Except Stop FileTree := do
  if p.text.toList.contains '\x00' then .error (.escape .nullInPath)
  if (← isTaken files p) && !overwrite then
    .error (.failure ("Output file already exists: " ++ p.text))
  else
    let written : Except PathFault FileTree := do
      let files ← files.makeDirectories p.parent
      files.write p (Text.encodeUtf8 source)
    written.mapError fun fault =>
      Stop.failure ("Failed to write file " ++ p.text ++ ": " ++ fault.message)

/-- The files after a generated source text has been written where that is asked for. -/
def storeSource (files : FileTree) (r : GenerateRequest) (source : String) : Except Stop FileTree :=
  match r.output with
  | some output => writeSource files (Path.ofText output) r.overwrite source
  | none => if r.relayout then .error (.failure "--ruff-format requires --output") else .ok files

/-- The answer to a request for a generated type. -/
def generateAnswer (r : GenerateRequest) (g : GeneratedType) : Except Stop Answer := do
  let output ←
    if r.json then jsonOutput g.payload
    else if r.output.isNone then pure g.artifact.source
    else pure (g.descriptor.qualifiedName ++ " " ++ g.artifact.hash ++ "\n")
  match g.report with
  | none => return ⟨output, [], 0⟩
  | some report => return ⟨output, [report.text], if report.mismatches.isEmpty then 0 else 1⟩

/-- Generate a record type. -/
def runGenerate (files : FileTree) (cache : Cache) (r : GenerateRequest) : Progress Answer :=
  match readDescriptor files (Path.ofText r.input) with
  | .error stop => ⟨[], files, .error stop⟩
  | .ok d =>
    let (result, _) := cache.generate (some d.submission) r.verify
    let notices := generateNotices cache d result
    match result with
    | .error fault => ⟨notices, files, .error (.ofGenerate fault)⟩
    | .ok g =>
      match storeSource files r g.artifact.source with
      | .error stop => ⟨notices, files, .error stop⟩
      | .ok files => ⟨notices, files, generateAnswer r g⟩

/-- The source text to render with, the notices of its generation, and the cache behind it. -/
def chooseSource (files : FileTree) (cache : Cache) (d : Descriptor) (source : Option String) :
    List Notice × Except Stop (String × Cache) :=
  match source with
  | some given =>
    ([], (readText files (Path.ofText given)).map (fun text => (text, cache)) |>.mapError fun
      | .path fault => Stop.failure ("Failed to read source file " ++ given ++ ": " ++ fault.message)
      | .escape fault => Stop.escape fault)
  | none =>
    let (result, after) := cache.generate (some d.submission) false
    (generateNotices cache d result,
      (result.map fun g => (g.artifact.source, after)).mapError Stop.ofGenerate)

/-- The answer to a request for a rendered document. Messages show the skipped keys in their written form,
which an integer may be too long for. -/
def renderAnswer (r : RenderRequest) (rendered : Rendered) : Except Stop Answer := do
  if (skippedKeys rendered.keys).any fun e => e.1.isUnwritable then
    .error (.escape (.marshal .unwritableInteger))
  let output ← if r.json then jsonOutput rendered.payload else pure (rendered.text ++ "\n")
  let warnings := (skippedKeys rendered.keys).map fun e =>
    "Warning: skipped " ++ e.1.writtenString ++ ": " ++ e.2.message
  return ⟨output, warnings, 0⟩

/-- Render a document through the record of a descriptor. -/
def renderDocument (files : FileTree) (cache : Cache) (r : RenderRequest) (d : Descriptor)
    (document : Document) : Progress Answer :=
  let (notices, source) := chooseSource files cache d r.source
  match source with
  | .error stop => ⟨notices, files, .error stop⟩
  | .ok (source, cache) =>
    let (result, after) := cache.compile d.qualifiedName source
    let notices := notices ++ compileNotices cache d.qualifiedName source result
    match result with
    | .error fault => ⟨notices, files, .error (.ofCompile fault)⟩
    | .ok a =>
      let pretty := !r.compact
      let notices := notices ++ renderNotices a document r.format pretty
      match a.render after.stats document r.format pretty with
      | .error fault => ⟨notices, files, .error (.ofRender fault)⟩
      | .ok rendered => ⟨notices, files, renderAnswer r rendered⟩

/-- Render a document. -/
def runRender (files : FileTree) (cache : Cache) (r : RenderRequest) : Progress Answer :=
  let inputs : Except Stop (Descriptor × Document) := do
    let d ← readDescriptor files (Path.ofText r.descriptor)
    let document ← readDocument files (Path.ofText r.data)
    return (d, document)
  match inputs with
  | .error stop => ⟨[], files, .error stop⟩
  | .ok (d, document) => renderDocument files cache r d document

/-- Meet a request. -/
def Request.run (r : Request) (files : FileTree) : Progress Answer :=
  match r.command with
  | .generate g => runGenerate files r.cache g
  | .render g => runRender files r.cache g

/-- What a run leaves that went as far as given, where notices of a level and above are shown. -/
def Progress.outcome (p : Progress Answer) (least : Level) : Outcome :=
  let shown := (p.notices.filter fun n => least.rank ≤ n.level.rank).map Notice.line
  match p.result with
  | .ok answer => ⟨.ok answer.code, answer.output, shown ++ answer.messages, p.files⟩
  | .error (.usage message) =>
    ⟨.ok 2, "", shown ++ [programName ++ ": error: " ++ message], p.files⟩
  | .error (.failure message) => ⟨.ok 1, "", shown ++ ["Error: " ++ message], p.files⟩
  | .error (.escape fault) => ⟨.error fault, "", shown, p.files⟩

/-- Run the program on a tree of files. -/
def run (files : FileTree) (arguments : List String) : Outcome :=
  match Request.read arguments with
  | .error refused => ⟨.ok 2, "", [refused.message], files⟩
  | .ok request => (request.run files).outcome request.level

end FlatRecord.CommandLine
