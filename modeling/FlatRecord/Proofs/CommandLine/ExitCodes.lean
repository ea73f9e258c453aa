import FlatRecord.Proofs.CommandLine.Escapes
import FlatRecord.Proofs.Rendering.Refinement
import FlatRecord.Proofs.Rendering.SkippedKeys

/-!
# Exit codes

A run exits with zero, one or two, unless a fault ends it. Rendering a document adds to the faults of reading
and writing those of source texts that the program has not generated itself, and those of keys that cannot
be shown. Nothing else ends a run.
-/

namespace FlatRecord.CommandLine

open FlatRecord.Storage

section Generated

variable {d : Descriptor} (valid : d.IsValid) {document : Document}
include valid

end Generated

section Answers

variable {a : Artifact} {document : Document} {r : RenderRequest}

end Answers

section Running

variable {files : FileTree} {capacity : Nat} {positive : 0 < capacity} {r : RenderRequest} {d : Descriptor}
  {document : Document}

end Running

end FlatRecord.CommandLine
