import FlatRecord.Loading

/-!
# The cache of compiled records

Compiled records are kept under the content hash of their qualified name and source text. The cache
has two tiers: a bounded one of artifacts, and one of the source texts they were compiled from. A new
artifact for a full tier empties it first; the sources stay, so that an artifact that is gone can be
compiled again. Sources are dropped only when the whole cache is cleared.
-/

namespace FlatRecord

open FlatRecord.Execution

/-- A compiled record. -/
structure Artifact where
  /-- The number of the compilation; no two artifacts share one. -/
  serial : Nat
  qualifiedName : String
  source : String
  hash : String
  record : RecordClass
  setters : List Setter

/-- The setter of a name. -/
def Artifact.setter? (a : Artifact) (name : String) : Option Setter :=
  a.setters.find? fun s => s.name = name

/-- Why a record is not compiled. -/
inductive CompileFault where
  /-- The name is no dotted identifier. -/
  | invalidName (given : String)
  /-- The source is no text. -/
  | missingSource (name : String)
  /-- The source is not loaded. -/
  | load (name : String) (fault : LoadFault)
  /-- The annotations of a method cannot be read. -/
  | unreadable (fault : Fault)

/-- The text of the fault. -/
def CompileFault.message : CompileFault → String
  | invalidName given => s!"Compilation failed for {given}: qualified name is not a dotted identifier"
  | missingSource name => s!"Compilation failed for {name}: source text is missing"
  | load name fault => "Compilation failed for " ++ name ++ ": " ++ fault.message
  | unreadable fault => fault.message

/-- The qualified name that a fault is about. -/
def CompileFault.qualifiedName? : CompileFault → Option String
  | invalidName given => some given
  | missingSource name => some name
  | load name _ => some name
  | unreadable _ => none

/-- Why an artifact is not found again. -/
inductive ReloadFault where
  /-- No source is kept under the hash. -/
  | unknownHash (hash : String)
  | compile (fault : CompileFault)

/-- The text of the fault. -/
def ReloadFault.message : ReloadFault → String
  | unknownHash hash => Text.quoted hash
  | compile fault => fault.message

/-- The number of artifacts that a cache keeps unless it is told otherwise. -/
def defaultCapacity : Nat := 1000

/-- A cache of compiled records. -/
structure Cache where
  /-- The number of artifacts that are kept at most. -/
  capacity : Nat
  capacity_pos : 0 < capacity
  artifacts : List (String × Artifact)
  /-- The qualified names and source texts that were compiled. -/
  sources : List (String × (String × String))
  /-- The number of compilations so far, failed ones included. -/
  compilations : Nat

/-- Set the value of a key: a known key keeps its place, a new one comes last. -/
def putKey {α : Type} (key : String) (a : α) : List (String × α) → List (String × α)
  | [] => [(key, a)]
  | (k, old) :: rest => if k = key then (k, a) :: rest else (k, old) :: putKey key a rest

/-- The beginning of a content hash, which is enough for messages. -/
def shortHash (hash : String) : String := String.ofList (hash.toList.take 12)

namespace Cache

/-- An empty cache. -/
def empty (capacity : Nat) (capacity_pos : 0 < capacity) : Cache :=
  ⟨capacity, capacity_pos, [], [], 0⟩

/-- The text of the fault of a capacity that is not positive. -/
def capacityMessage (given : Int) : String :=
  s!"max_entries must be positive, got {Number.integerString given}"

/-- An empty cache, if the capacity is positive. -/
def ofCapacity? (given : Int) : Option Cache :=
  if h : 0 < given.toNat then some (empty given.toNat h) else none

/-- The artifact under a hash. -/
def artifact? (c : Cache) (hash : String) : Option Artifact := c.artifacts.lookup hash

/-- The source text under a hash. -/
def source? (c : Cache) (hash : String) : Option String := (c.sources.lookup hash).map Prod.snd

/-- What messages call a source text. -/
def label (name hash : String) : String := "<record " ++ name ++ " " ++ shortHash hash ++ ">"

/-- Compile a record, as the compilation of a number. -/
def build (serial : Nat) (hash name source : String) : Except CompileFault Artifact := do
  let (record, globals) ← (load (label name hash) name source).mapError (CompileFault.load name)
  let setters ← (Setter.collect globals record).mapError CompileFault.unreadable
  return ⟨serial, name, source, hash, record, setters⟩

/-- Whether a new artifact would find the tier full. -/
def overflows (c : Cache) (hash : String) : Bool :=
  (c.artifacts.lookup hash).isNone && c.capacity ≤ c.artifacts.length

/-- Keep an artifact and its source. -/
def insert (c : Cache) (a : Artifact) : Cache :=
  let kept := if c.overflows a.hash then [] else c.artifacts
  { c with
    artifacts := putKey a.hash a kept
    sources := putKey a.hash (a.qualifiedName, a.source) c.sources }

/-- Compile a record and keep it. -/
def compileNew (c : Cache) (hash name source : String) : Except CompileFault Artifact × Cache :=
  let counted := { c with compilations := c.compilations + 1 }
  match build c.compilations hash name source with
  | .ok a => (.ok a, counted.insert a)
  | .error fault => (.error fault, counted)

/-- The artifact of a name and a source text, which is compiled unless it is kept. -/
def compile (c : Cache) (name source : String) : Except CompileFault Artifact × Cache :=
  if Naming.isQualified name then
    let hash := contentHash name source
    match c.artifact? hash with
    | some a => (.ok a, c)
    | none => c.compileNew hash name source
  else (.error (.invalidName name), c)

/-- The same for a name and a source that may be of any type. -/
def compileGiven (c : Cache) (name source : Datum) : Except CompileFault Artifact × Cache :=
  match name, source with
  | .text n, .text s => c.compile n s
  | .text n, _ =>
    (.error (if Naming.isQualified n then .missingSource n else .invalidName n), c)
  | other, _ => (.error (.invalidName other.displayString), c)

/-- The artifact under a hash, compiled again from its source if it is gone. -/
def reload (c : Cache) (hash : String) : Except ReloadFault Artifact × Cache :=
  match c.artifact? hash, c.sources.lookup hash with
  | some a, _ => (.ok a, c)
  | none, none => (.error (.unknownHash hash), c)
  | none, some (name, source) =>
    let (result, c) := c.compileNew hash name source
    (result.mapError ReloadFault.compile, c)

/-- Drop an artifact, keeping its source. The answer says whether there was one. -/
def evict (c : Cache) (hash : String) : Bool × Cache :=
  ((c.artifact? hash).isSome,
    { c with artifacts := c.artifacts.filter fun entry => entry.1 != hash })

/-- Drop all artifacts and all sources. -/
def clear (c : Cache) : Cache := { c with artifacts := [], sources := [] }

/-- How full the tiers are. -/
structure Stats where
  liveArtifacts : Nat
  retainedSources : Nat
  deriving DecidableEq, Repr

/-- How full the tiers of a cache are. -/
def stats (c : Cache) : Stats := ⟨c.artifacts.length, c.sources.length⟩

end Cache

end FlatRecord
