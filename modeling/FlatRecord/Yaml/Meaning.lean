import FlatRecord.Yaml.Node
import FlatRecord.Yaml.ScalarValue

/-!
# The value of a document

Sequences are lists and mappings are mappings; a repeated key keeps its first place and takes its last
value. The entries of a merged mapping come before those of the mapping itself, which prevail. No
collection is a key. Of several faults in a document the one nearest to its root counts, and of those the
first.
-/

namespace FlatRecord.Yaml

namespace Node

/-- The entries of the mappings that a node gives for merging, the prevailing ones last. -/
def mergeEntries? : Node → Option (List (Node × Node))
  | mapping _ entries => some entries
  | sequence _ items =>
    let found := items.mapM fun
      | mapping _ entries => some entries
      | _ => none
    found.map fun lists => lists.reverse.flatten
  | scalar .. => none

/-- The entries of a mapping with those that are merged into it. A key that merges nothing stays. -/
def mergeAll (entries : List (Node × Node)) : List (Node × Node) :=
  let merged := (entries.filter fun e => e.1.tag = .merge).flatMap fun e =>
    (mergeEntries? e.2).getD [e]
  merged ++ entries.filter fun e => e.1.tag != .merge

mutual

/-- A node whose mappings, and those inside of it, have the entries that are merged into them. -/
def merged : Node → Node
  | scalar t s => scalar t s
  | sequence t items => sequence t (mergedItems items)
  | mapping t entries => mapping t (mergeAll (mergedEntries entries))

/-- The same for several nodes. -/
def mergedItems : List Node → List Node
  | [] => []
  | n :: rest => merged n :: mergedItems rest

/-- The same for the keys and values of a mapping. -/
def mergedEntries : List (Node × Node) → List (Node × Node)
  | [] => []
  | (k, v) :: rest => (merged k, merged v) :: mergedEntries rest

end

mutual

/-- The text of a scalar, or of the value that stands for a mapping. -/
def scalarText? : Node → Option String
  | scalar _ s => some s
  | sequence .. => none
  | mapping _ entries => standIn? entries

/-- The text of the value that stands for a mapping of some entries. -/
def standIn? : List (Node × Node) → Option String
  | [] => none
  | (k, v) :: rest => if k.tag = .value then scalarText? v else standIn? rest

end

end Node

/-- The value of a node, and what is wrong with it and with the nodes inside of it, each with its depth.
Where something is wrong, the value is of no account. -/
structure Meaning where
  value : Datum
  faults : List (Nat × Fault)

namespace Meaning

/-- Something wrong at a depth. -/
def bad (depth : Nat) (fault : Fault) : Meaning := ⟨.null, [(depth, fault)]⟩

/-- The meaning of a scalar at a depth, which has a text unless it is a collection. -/
def ofText (depth : Nat) (t : Tag) (text : Option String) : Meaning :=
  match text with
  | none => bad depth .malformed
  | some s =>
    match scalarValue t s with
    | .ok v => ⟨v, []⟩
    | .error fault => bad depth fault

/-- Whether nodes of a type are collections. -/
def isCollection (t : Tag) : Bool :=
  [Tag.sequence, .mapping, .set, .orderedMapping, .pairs].contains t

/-- The meaning of a list of items. -/
def ofItems (items : List Meaning) : Meaning :=
  ⟨.list (items.map Meaning.value), items.flatMap Meaning.faults⟩

/-- What is wrong with a key: no collection is one. -/
def keyFaults (depth : Nat) (key : Datum) : List (Nat × Fault) :=
  match key with
  | .list _ | .map _ | .set _ => [(depth, .malformed)]
  | _ => []

/-- What is wrong with the entries of a mapping. -/
def entryFaults (depth : Nat) (entries : List (Meaning × Meaning)) : List (Nat × Fault) :=
  entries.flatMap fun e => e.1.faults ++ (keyFaults depth e.1.value ++ e.2.faults)

/-- The entries of a mapping, by their keys. -/
def entryValues (entries : List (Meaning × Meaning)) : List (Datum × Datum) :=
  Datum.ofEntries (entries.map fun e => (e.1.value, e.2.value))

/-- The meaning of a list of pairs. -/
def ofPairs (depth : Nat) (pairs : List (Option (Meaning × Meaning))) : Meaning :=
  ⟨.list (pairs.filterMap fun p => p.map fun e => .list [e.1.value, e.2.value]),
    pairs.flatMap fun
      | some e => e.1.faults ++ e.2.faults
      | none => [(depth, .malformed)]⟩

end Meaning

namespace Node

mutual

/-- The meaning of a node at a depth. -/
def meaning (depth : Nat) : Node → Meaning
  | scalar t s =>
    if Meaning.isCollection t then .bad (depth + 1) .malformed else .ofText depth t (some s)
  | sequence t items =>
    if t = .sequence then .ofItems (meanings (depth + 1) items)
    else if t = .orderedMapping || t = .pairs then .ofPairs (depth + 1) (pairMeanings (depth + 1) items)
    else if Meaning.isCollection t then .bad (depth + 1) .malformed
    else .bad depth .malformed
  | mapping t entries =>
    let inner := entryMeanings (depth + 1) entries
    let faults := Meaning.entryFaults (depth + 1) inner
    if t = .mapping then ⟨.map (Meaning.entryValues inner), faults⟩
    else if t = .set then ⟨.set ((Meaning.entryValues inner).map Prod.fst), faults⟩
    else if Meaning.isCollection t then .bad (depth + 1) .malformed
    else .ofText depth t (standIn? entries)

/-- The meanings of several nodes. -/
def meanings (depth : Nat) : List Node → List Meaning
  | [] => []
  | n :: rest => meaning depth n :: meanings depth rest

/-- The meanings of the entries of a mapping. A key that is marked as a value is a text. -/
def entryMeanings (depth : Nat) : List (Node × Node) → List (Meaning × Meaning)
  | [] => []
  | (scalar .value s, v) :: rest => (⟨.text s, []⟩, meaning depth v) :: entryMeanings depth rest
  | (k, v) :: rest => (meaning depth k, meaning depth v) :: entryMeanings depth rest

/-- The meanings of the only entries of some mappings; other nodes have none. -/
def pairMeanings (depth : Nat) : List Node → List (Option (Meaning × Meaning))
  | [] => []
  | mapping _ [(k, v)] :: rest => some (meaning depth k, meaning depth v) :: pairMeanings depth rest
  | _ :: rest => none :: pairMeanings depth rest

end

end Node

/-- The fault that counts: the first of those of the least depth. -/
def firstFault? : List (Nat × Fault) → Option (Nat × Fault)
  | [] => none
  | f :: rest =>
    match firstFault? rest with
    | some g => if g.1 < f.1 then some g else some f
    | none => some f

/-- The value of a node that is a document. -/
def Node.value (n : Node) : Except Fault Datum :=
  let m := n.merged.meaning 0
  match firstFault? m.faults with
  | some (_, fault) => .error fault
  | none => .ok m.value

/-- Read a text of at most one document; the value of a text without one is null. -/
def read (s : String) : Except Fault Datum := do
  match ← Node.read s.toList with
  | some n => n.value
  | none => return .null

end FlatRecord.Yaml
