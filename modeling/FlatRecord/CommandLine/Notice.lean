import FlatRecord.CommandLine.Request
import FlatRecord.Rendering

/-!
# Notices

What the parts of the library do is told in notices, each with a level. They follow from what a step was
given and what came of it: the notices of a compilation say whether the artifact was kept already, those
of a rendering which keys were skipped and why.
-/

namespace FlatRecord.CommandLine

/-- The parts that give notices. -/
inductive NoticeSource where
  | validator
  | cache
  | generator
  | binder
  | marshaller
  deriving DecidableEq, Repr

/-- The name that a part goes by. -/
def NoticeSource.name : NoticeSource → String
  | validator => "dynamic_record_compiler.validator"
  | cache => "dynamic_record_compiler.cache"
  | generator => "dynamic_record_compiler.generator"
  | binder => "dynamic_record_compiler.binder"
  | marshaller => "dynamic_record_compiler.marshaller"

/-- A notice. -/
inductive Notice where
  | validated (name : String)
  | kept (name hash : String)
  | notKept (name hash : String)
  | compiled (name hash : String)
  | generated (name hash : String)
  | notText (key : Datum) (name : String)
  | noSetter (key : Datum) (name : String)
  | unconvertible (key : Datum) (name : String) (value : Datum) (carrier : Carrier) (fault : CoercionFault)
  | refused (key : Datum) (name : String) (value : Datum) (fault : CallFault)
  | rendered (name : String) (skipped total : Nat)
  | marshalling (className : String) (format : OutputFormat) (pretty : Bool)

namespace Notice

/-- The level of a notice. -/
def level : Notice → Level
  | validated _ => .info
  | kept .. => .debug
  | notKept .. => .debug
  | compiled .. => .info
  | generated .. => .info
  | notText .. => .debug
  | noSetter .. => .debug
  | unconvertible .. => .info
  | refused .. => .info
  | rendered .. => .info
  | marshalling .. => .debug

/-- The part that gives a notice. -/
def source : Notice → NoticeSource
  | validated _ => .validator
  | kept .. => .cache
  | notKept .. => .cache
  | compiled .. => .cache
  | generated .. => .generator
  | notText .. => .binder
  | noSetter .. => .binder
  | unconvertible .. => .binder
  | refused .. => .binder
  | rendered .. => .generator
  | marshalling .. => .marshaller

/-- A name with the beginning of a hash in brackets. -/
def withHash (name hash : String) : String := name ++ " (" ++ shortHash hash ++ ")"

/-- The words of a notice. -/
def words : Notice → String
  | validated name => "Type descriptor validated: " ++ name
  | kept name hash => "Cache hit for " ++ withHash name hash
  | notKept name hash => "Cache miss for " ++ withHash name hash
  | compiled name hash => "Compiled " ++ withHash name hash
  | generated name hash => "Generated " ++ withHash name hash
  | notText key name => "Ignoring non-text key " ++ key.writtenString ++ " for " ++ name
  | noSetter key name => "No setter for key " ++ key.writtenString ++ " on " ++ name
  | unconvertible key name value carrier fault =>
    "Skipping " ++ key.writtenString ++ " on " ++ name ++ ": cannot convert " ++
      value.writtenString ++ " to " ++ carrier.name ++ " (" ++ fault.message ++ ")"
  | refused key name value fault =>
    "Skipping " ++ key.writtenString ++ " on " ++ name ++ ": setter refused " ++
      value.writtenString ++ " (" ++ fault.message ++ ")"
  | rendered name skipped total => s!"Rendered {name} with {skipped} of {total} keys skipped"
  | marshalling className format pretty =>
    "Marshalling " ++ className ++ " to " ++ format.name ++ " (pretty=" ++
      (if pretty then "True" else "False") ++ ")"

/-- The line that shows a notice. -/
def line (n : Notice) : String := n.level.name ++ " " ++ n.source.name ++ ": " ++ n.words

end Notice

/-- The notices of the compilation of a name and a source text: of a kept artifact there is one, and of a
compilation that fails one too. -/
def compileNotices (before : Cache) (name source : String)
    (result : Except CompileFault Artifact) : List Notice :=
  if Naming.isQualified name then
    let hash := contentHash name source
    if (before.artifact? hash).isSome then [.kept name hash]
    else
      match result with
      | .ok _ => [.notKept name hash, .compiled name hash]
      | .error _ => [.notKept name hash]
  else []

/-- The notices of the generation of a descriptor. -/
def generateNotices (before : Cache) (d : Descriptor) (result : Except GenerateFault GeneratedType) :
    List Notice :=
  match result with
  | .ok g =>
    .validated d.qualifiedName :: (compileNotices before d.qualifiedName g.artifact.source (.ok g.artifact) ++
      [.generated d.qualifiedName g.artifact.hash])
  | .error (.compile fault) =>
    match d.submission.source with
    | .ok source => .validated d.qualifiedName :: compileNotices before d.qualifiedName source (.error fault)
    | .error _ => [.validated d.qualifiedName]
  | .error (.generation _) => [.validated d.qualifiedName]
  | .error (.violation _) => []

/-- The notice of a key that is skipped. -/
def keyNotice? (name : String) (k : BoundKey) : Option Notice :=
  k.skipped.map fun
    | .notText => .notText k.key name
    | .noSetter => .noSetter k.key name
    | .unconvertible carrier fault => .unconvertible k.key name k.value carrier fault
    | .refused fault => .refused k.key name k.value fault

/-- The notices of the rendering of a document through a compiled record. -/
def renderNotices (a : Artifact) (document : Document) (format : OutputFormat) (pretty : Bool) :
    List Notice :=
  match a.instantiate 0 with
  | .error _ => []
  | .ok i =>
    let keys := (a.bind i document).2
    let skipped := (skippedKeys keys).length
    keys.filterMap (keyNotice? a.qualifiedName) ++
      ((if skipped = 0 then [] else [Notice.rendered a.qualifiedName skipped keys.length]) ++
        [Notice.marshalling a.record.name format pretty])

end FlatRecord.CommandLine
