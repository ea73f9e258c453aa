import FlatRecord.CommandLine.Run
import FlatRecord.Proofs.Cache.FaultNames
import FlatRecord.Proofs.CommandLine.NewCache
import FlatRecord.Proofs.Json.JsonForms
import FlatRecord.Proofs.Generation.BrokenNames

/-!
# Faults that end a run

Some faults no message of the program is made of: they end the run. They come from files whose octets are no
text, from texts whose numbers or dates do not exist, and from paths that cannot be asked for. Generating a
record type has no others.
-/

namespace FlatRecord.CommandLine

open FlatRecord.Storage

/-- Whether a step stops with a fault that no message is made of. -/
def IsEscape {α : Type} (result : Except Stop α) : Prop := ∃ fault, result = .error (.escape fault)

namespace IsEscape

variable {α β : Type}

@[simp] theorem ok_iff {a : α} : IsEscape (.ok a) ↔ False := by simp [IsEscape]

@[simp] theorem usage_iff {message : String} :
    IsEscape (.error (.usage message) : Except Stop α) ↔ False := by
  simp [IsEscape]

@[simp] theorem failure_iff {message : String} :
    IsEscape (.error (.failure message) : Except Stop α) ↔ False := by
  simp [IsEscape]

end IsEscape

section Reading

variable (files : FileTree) (p : Path)

end Reading

section Writing

end Writing

section Compiling

variable {capacity : Nat} (positive : 0 < capacity)

end Compiling

section Generating

variable {files : FileTree} {g : GenerateRequest}

end Generating

end FlatRecord.CommandLine
