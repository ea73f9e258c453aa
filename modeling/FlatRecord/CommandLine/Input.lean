import FlatRecord.CommandLine.Notice
import FlatRecord.Descriptor.Payload
import FlatRecord.Json.Reader
import FlatRecord.Storage.FileTree
import FlatRecord.Text.Lines
import FlatRecord.Text.Utf8
import FlatRecord.Yaml.Meaning

/-!
# Reading documents from files

A document is a file with a mapping in it, written as JSON if the name of the file says so, and as YAML
otherwise. A file that cannot be read, or that holds something else, is refused with the path that it was
looked for at; a few faults go beyond that and end the program.
-/

namespace FlatRecord.CommandLine

open FlatRecord.Storage

/-- A fault that no message of the program is made of. -/
inductive Escape where
  /-- The octets of a file are no text. -/
  | octets (fault : Text.Utf8Fault)
  /-- A path has a null character. -/
  | nullInPath
  /-- A path cannot be looked up. -/
  | path (fault : PathFault)
  /-- A YAML text asks for a value that there is not. -/
  | yaml (fault : Yaml.Fault)
  /-- An integer of a JSON text is not read. -/
  | json (fault : Json.Cause)
  /-- No source text comes of a descriptor. -/
  | generation (fault : GenerationFault)
  /-- The annotations of a compiled record cannot be read. -/
  | compile (fault : CompileFault)
  /-- A record is not marshalled, or an integer has too many digits to be written in a message. -/
  | marshal (fault : MarshalFault)
  /-- Values of the type have no JSON form. -/
  | notJson (typeName : String)

/-- The text of the fault. -/
def Escape.message : Escape → String
  | octets fault => fault.message
  | nullInPath => "embedded null byte"
  | path fault => fault.message
  | yaml fault => fault.message
  | json fault => fault.message
  | generation fault => fault.message
  | compile fault => fault.message
  | marshal fault => fault.message
  | notJson typeName => "Object of type " ++ typeName ++ " is not JSON serializable"

/-- Why a run of the program stops. -/
inductive Stop where
  /-- The request cannot be met: what is said is about the command line. -/
  | usage (message : String)
  /-- Something goes wrong on the way. -/
  | failure (message : String)
  | escape (fault : Escape)

/-- Why the text of a file is not read. -/
inductive TextFault where
  | path (fault : PathFault)
  | escape (fault : Escape)

/-- The text of a file, with line feeds as its only line breaks. -/
def readText (files : FileTree) (p : Path) : Except TextFault String :=
  if p.text.toList.contains '\x00' then .error (.escape .nullInPath)
  else
    match files.read p with
    | .error fault => .error (.path fault)
    | .ok octets =>
      match Text.decodeUtf8 octets with
      | .error fault => .error (.escape (.octets fault))
      | .ok cs => .ok (String.ofList (Text.unifyBreaks cs))

/-- Whether the name of a file says that it is written as JSON. -/
def isJsonPath (p : Path) : Bool := p.suffix.toLower == ".json"

/-- The value of a JSON text. -/
def parseJson (p : Path) (text : String) : Except Stop Datum :=
  match Json.read text with
  | .ok v => .ok v
  | .error fault =>
    match fault.cause with
    | .integer .. => .error (.escape (.json fault.cause))
    | _ => .error (.usage ("Failed to parse JSON in " ++ p.text ++ ": " ++ fault.message text))

/-- The value of a YAML text. -/
def parseYaml (p : Path) (text : String) : Except Stop Datum :=
  match Yaml.read text with
  | .ok v => .ok v
  | .error .malformed => .error (.usage ("Failed to parse YAML in " ++ p.text))
  | .error fault => .error (.escape (.yaml fault))

/-- The mapping in a file. -/
def readDocument (files : FileTree) (p : Path) : Except Stop Document := do
  let text ← (readText files p).mapError fun
    | .path fault => Stop.usage ("Failed to read " ++ p.text ++ ": " ++ fault.message)
    | .escape fault => Stop.escape fault
  let v ← if isJsonPath p then parseJson p text else parseYaml p text
  match v with
  | .map entries => return entries
  | other => .error (.usage (p.text ++ " must contain a mapping, got " ++ other.typeName))

/-- The descriptor in a file. -/
def readDescriptor (files : FileTree) (p : Path) : Except Stop Descriptor := do
  let entries ← readDocument files p
  let d ← (Payload.read (.map entries)).mapError fun fault => Stop.usage fault.message
  if Payload.hasUnwritableDefault entries then .error (.escape (.marshal .unwritableInteger))
  return d

end FlatRecord.CommandLine
