import FlatRecord.Cache
import FlatRecord.CommandLine.Arguments
import FlatRecord.Marshalling

/-!
# Requests

What a command line asks for: to generate the record type of a descriptor, or to render a document as a
record, with the settings that both share.
-/

namespace FlatRecord.CommandLine

/-- How important a notice is. -/
inductive Level where
  | debug
  | info
  | warning
  | error
  deriving DecidableEq, Repr

namespace Level

/-- The name of a level. -/
def name : Level → String
  | debug => "DEBUG"
  | info => "INFO"
  | warning => "WARNING"
  | error => "ERROR"

/-- All levels, the least important one first. -/
def all : List Level := [debug, info, warning, error]

/-- The level of a name. -/
def ofName? (s : String) : Option Level := all.find? fun l => l.name = s

/-- The place of a level among all. -/
def rank : Level → Nat
  | debug => 0
  | info => 1
  | warning => 2
  | error => 3

end Level

/-- To generate a record type. -/
structure GenerateRequest where
  /-- The path of the descriptor. -/
  input : String
  /-- The path that the source text is written to. -/
  output : Option String
  overwrite : Bool
  /-- Whether the written source text is to be laid out anew. -/
  relayout : Bool
  verify : Bool
  json : Bool

/-- To render a document. -/
structure RenderRequest where
  /-- The path of the descriptor. -/
  descriptor : String
  /-- The path of the document. -/
  data : String
  /-- The path of a source text to be used instead of a generated one. -/
  source : Option String
  compact : Bool
  format : OutputFormat
  json : Bool

/-- What is asked for. -/
inductive Command where
  | generate (r : GenerateRequest)
  | render (r : RenderRequest)

/-- A command with the settings that all commands share. -/
structure Request where
  /-- The least important notices that are shown. -/
  level : Level
  cache : Cache
  command : Command

/-- The texts of the paths that a command reads or writes. -/
def Command.paths : Command → List String
  | .generate r => r.input :: r.output.toList
  | .render r => r.descriptor :: r.data :: r.source.toList

/-- A fault, and the name of the command that it is about, behind that of the program. -/
structure Refused where
  program : String
  fault : UsageFault

/-- The name of the program. -/
def programName : String := "dynamic-record-compiler"

/-- The text of the fault. -/
def Refused.message (r : Refused) : String := r.program ++ ": error: " ++ r.fault.message

/-- The switch that asks for help. It is known to every command, so that its name is never read as
something else, and changes nothing. -/
def helpSwitch : Switch := ⟨["-h", "--help"], .nothing⟩

/-- The switches before the command. -/
def sharedSwitches : List Switch :=
  [helpSwitch, ⟨["--log-level"], .choice (Level.all.map Level.name)⟩, ⟨["--max-cache-entries"], .number⟩]

/-- The switches of the command that generates a record type. -/
def generateSwitches : List Switch :=
  [helpSwitch, ⟨["--input"], .text⟩, ⟨["--output"], .text⟩, ⟨["--overwrite"], .nothing⟩,
   ⟨["--ruff-format"], .nothing⟩, ⟨["--verify"], .nothing⟩, ⟨["--json"], .nothing⟩]

/-- The switches of the command that renders a document. -/
def renderSwitches : List Switch :=
  [helpSwitch, ⟨["--descriptor"], .text⟩, ⟨["--data"], .text⟩, ⟨["--source"], .text⟩,
   ⟨["--compact"], .nothing⟩, ⟨["--format"], .choice ["xml", "json"]⟩, ⟨["--json"], .nothing⟩]

/-- The names of the commands. -/
def commandNames : List String := ["generate", "render"]

/-- An operand that is not empty. -/
def Given.filled? (g : Given) (name : String) : Option String :=
  (g.operand? name).filter fun s => !s.isEmpty

/-- The request of the switches that generate a record type. -/
def Given.generateRequest (g : Given) : GenerateRequest :=
  { input := (g.operand? "--input").getD ""
    output := g.filled? "--output"
    overwrite := g.has "--overwrite"
    relayout := g.has "--ruff-format"
    verify := g.has "--verify"
    json := g.has "--json" }

/-- The request of the switches that render a document. -/
def Given.renderRequest (g : Given) : RenderRequest :=
  { descriptor := (g.operand? "--descriptor").getD ""
    data := (g.operand? "--data").getD ""
    source := g.filled? "--source"
    compact := g.has "--compact"
    format := ((g.operand? "--format").bind OutputFormat.ofName?).getD .xml
    json := g.has "--json" }

/-- Read the switches of a command; some of them must be there. -/
def readSwitches (switches : List Switch) (required : List String) (arguments : List String) :
    Except UsageFault Given := do
  let ws ← words switches arguments
  let g ← readWords [] ws
  match g.lacking required with
  | [] => return g
  | names => .error (.missing names)

/-- Read a command and its switches. Words without a meaning are answered beside it. -/
def readCommand (name : String) (arguments : List String) :
    Except UsageFault (Command × List String) := do
  if name = "generate" then
    let g ← readSwitches generateSwitches ["--input"] arguments
    return (.generate g.generateRequest, g.extras)
  else
    let g ← readSwitches renderSwitches ["--descriptor", "--data"] arguments
    return (.render g.renderRequest, g.extras)

/-- The number of artifacts to keep. -/
def Given.capacity (g : Given) : Int :=
  match g.operand? "--max-cache-entries" with
  | some s => (Number.readInteger s.toList).toOption.getD defaultCapacity
  | none => defaultCapacity

/-- Read a command line. -/
def Request.read (arguments : List String) : Except Refused Request := do
  let shared ← (words sharedSwitches arguments >>= readWords commandNames).mapError (Refused.mk programName)
  match shared.command with
  | none => .error ⟨programName, .missing ["command"]⟩
  | some (name, arguments) =>
    let (command, extras) ← (readCommand name arguments).mapError (Refused.mk (programName ++ " " ++ name))
    if !(shared.extras ++ extras).isEmpty then
      .error ⟨programName, .unrecognized (shared.extras ++ extras)⟩
    else
      match Cache.ofCapacity? shared.capacity with
      | none => .error ⟨programName, .capacity⟩
      | some cache =>
        return ⟨((shared.operand? "--log-level").bind Level.ofName?).getD .warning, cache, command⟩

end FlatRecord.CommandLine
