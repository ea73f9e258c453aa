import FlatRecord.Cache
import FlatRecord.Record.Instance

/-!
# Binding

A document is bound to an instance key by key: the setter of a key takes its value, converted to the
carrier of the setter. Keys without a setter, values that do not convert, and values that the setter
refuses are skipped, with a reason each; no key stops the others.
-/

namespace FlatRecord

/-- Why a key is skipped. -/
inductive SkipReason where
  /-- The key is no text or an empty one. -/
  | notText
  /-- The record has no setter for the key. -/
  | noSetter
  /-- The value does not convert to the carrier of the setter. -/
  | unconvertible (carrier : Carrier) (fault : CoercionFault)
  /-- The setter refuses the value. -/
  | refused (fault : CallFault)

/-- The text of the reason. -/
def SkipReason.message : SkipReason → String
  | notText => "key is not text"
  | noSetter => "no matching setter"
  | unconvertible carrier fault =>
    "cannot convert to " ++ carrier.name ++ ": " ++ fault.message
  | refused fault => "setter refused value: " ++ fault.message

/-- What became of a key: it is bound, or it is skipped for a reason. -/
structure BoundKey where
  key : Datum
  value : Datum
  skipped : Option SkipReason

/-- A document: keys and values in order. -/
abbrev Document := List (Datum × Datum)

namespace Binding

/-- The value that a setter is given: null stays null, other values are converted. -/
def convert (s : Setter) (v : Datum) : Except SkipReason Datum :=
  match v with
  | .null => .ok .null
  | v => (s.carrier.coerce v).mapError (SkipReason.unconvertible s.carrier)

/-- The instance after a setter has taken a value. -/
def apply (s : Setter) (i : Instance) (v : Datum) : Except SkipReason Instance :=
  match s.method.behaviour with
  | .store attr => (i.store attr v).mapError SkipReason.refused
  | _ => .ok i

/-- The instance after one key has been bound. -/
def bindKey (a : Artifact) (i : Instance) (key value : Datum) : Except SkipReason Instance :=
  match key with
  | .text name =>
    if name.isEmpty then .error .notText
    else
      match a.setter? (Naming.setterName name) with
      | none => .error .noSetter
      | some s => do
        let converted ← convert s value
        apply s i converted
  | _ => .error .notText

/-- Bind one key, whatever becomes of it. -/
def step (a : Artifact) (state : Instance × List BoundKey) (entry : Datum × Datum) :
    Instance × List BoundKey :=
  match bindKey a state.1 entry.1 entry.2 with
  | .ok i => (i, state.2 ++ [⟨entry.1, entry.2, none⟩])
  | .error reason => (state.1, state.2 ++ [⟨entry.1, entry.2, some reason⟩])

end Binding

/-- Bind a document to an instance: the instance that results, and what became of each key. -/
def Artifact.bind (a : Artifact) (i : Instance) (document : Document) :
    Instance × List BoundKey :=
  document.foldl (Binding.step a) (i, [])

/-- The keys that were bound. -/
def boundKeys (keys : List BoundKey) : List Datum :=
  (keys.filter fun k => k.skipped.isNone).map BoundKey.key

/-- The keys that were skipped, with the reasons. -/
def skippedKeys (keys : List BoundKey) : List (Datum × SkipReason) :=
  keys.filterMap fun k => k.skipped.map fun reason => (k.key, reason)

/-- A new instance of a compiled record, with a number of its own. -/
def Artifact.instantiate (a : Artifact) (identity : Nat) : Except ConstructionFault Instance :=
  a.record.construct.map fun values => ⟨identity, a.serial, a.record, values⟩

/-- What is said of a record that cannot be instantiated. -/
def Artifact.instantiationMessage (a : Artifact) (fault : ConstructionFault) : String :=
  "Unable to instantiate " ++ a.qualifiedName ++ ": " ++ fault.message

end FlatRecord
