import FlatRecord.Binding
import FlatRecord.Descriptor.Validation
import FlatRecord.Generation
import FlatRecord.Marshalling
import FlatRecord.Verification

/-!
# Generating and rendering records

A descriptor is validated, its record module is generated and compiled through a cache, and the
compiled record is compared with the descriptor if that is asked for. A document is rendered by way of
a new instance of a compiled record: it is bound to the instance, and the instance is marshalled.
-/

namespace FlatRecord

/-- Why no record type is generated. -/
inductive GenerateFault where
  | violation (v : Violation)
  | generation (fault : GenerationFault)
  | compile (fault : CompileFault)

/-- The text of the fault. -/
def GenerateFault.message : GenerateFault → String
  | violation v => v.message
  | generation fault => fault.message
  | compile fault => fault.message

/-- A generated record type. -/
structure GeneratedType where
  descriptor : Descriptor
  artifact : Artifact
  stats : Cache.Stats
  report : Option VerificationReport

/-- Generate the record type of a submission. -/
def Cache.generate (c : Cache) (submitted : Option Submission) (verify : Bool) :
    Except GenerateFault GeneratedType × Cache :=
  match validateSubmission submitted with
  | .error v => (.error (.violation v), c)
  | .ok d =>
    match d.source with
    | .error fault => (.error (.generation fault), c)
    | .ok source =>
      match c.compile d.qualifiedName source with
      | (.error fault, c) => (.error (.compile fault), c)
      | (.ok a, c) => (.ok ⟨d, a, c.stats, if verify then some (a.verify d) else none⟩, c)

/-- Why a document is not rendered. -/
inductive RenderFault where
  | compile (fault : CompileFault)
  | instantiation (name : String) (fault : ConstructionFault)
  | marshal (fault : MarshalFault)

/-- The text of the fault. -/
def RenderFault.message : RenderFault → String
  | compile fault => fault.message
  | instantiation name fault => "Unable to instantiate " ++ name ++ ": " ++ fault.message
  | marshal fault => fault.message

/-- A rendered document. -/
structure Rendered where
  text : String
  stats : Cache.Stats
  keys : List BoundKey

/-- Render a document through a compiled record. -/
def Artifact.render (a : Artifact) (stats : Cache.Stats) (document : Document)
    (format : OutputFormat) (pretty : Bool) : Except RenderFault Rendered := do
  let i ← (a.instantiate 0).mapError (RenderFault.instantiation a.qualifiedName)
  let (i, keys) := a.bind i document
  let text ← (i.marshal format pretty).mapError RenderFault.marshal
  return ⟨text, stats, keys⟩

/-- Render a document through the record of a name and a source, which may be of any type. -/
def Cache.render (c : Cache) (name source : Datum) (document : Document) (format : OutputFormat)
    (pretty : Bool) : Except RenderFault Rendered × Cache :=
  match c.compileGiven name source with
  | (.error fault, c) => (.error (.compile fault), c)
  | (.ok a, c) => (a.render c.stats document format pretty, c)

namespace Cache.Stats

/-- How full a cache is, as part of an answer. -/
def payload (s : Cache.Stats) : Datum :=
  .map [(.text "liveArtifactCount", .int s.liveArtifacts),
    (.text "retainedSourceCount", .int s.retainedSources)]

end Cache.Stats

/-- The answer for a generated type. -/
def GeneratedType.payload (g : GeneratedType) : Datum :=
  .map
    [(.text "artifactIdentity", .map
      [(.text "qualifiedName", .text g.descriptor.qualifiedName),
       (.text "typeName", .text g.descriptor.typeName),
       (.text "namespace", .text g.descriptor.space),
       (.text "contentHash", .text g.artifact.hash)]),
     (.text "sourceText", .text g.artifact.source),
     (.text "cacheStats", g.stats.payload)]

/-- A skipped key with its reason, as part of an answer. -/
def skippedPayload (entry : Datum × SkipReason) : Datum :=
  .map [(.text "key", entry.1), (.text "reason", .text entry.2.message)]

/-- The answer for a rendered document. -/
def Rendered.payload (r : Rendered) : Datum :=
  .map [(.text "text", .text r.text), (.text "cacheStats", r.stats.payload),
    (.text "skippedKeys", .list ((skippedKeys r.keys).map skippedPayload))]

end FlatRecord
