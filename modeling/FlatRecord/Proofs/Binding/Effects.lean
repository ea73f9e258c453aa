import FlatRecord.Binding
import FlatRecord.Proofs.Execution.Bindings
import FlatRecord.Proofs.Record.StoredValues
import Mathlib.Data.List.Induction

/-!
# Effects of entries

What an entry of a document comes to is settled before any instance is looked at: it writes one value into an
attribute, or it is skipped for a reason. Binding a document writes what its entries write, one after the
other, and reports about each entry. So the report says nothing about the instance, binding a document again
changes nothing, and the order of entries makes no difference where they write to different attributes.
-/

namespace FlatRecord

/-- What is looked up among different names does not depend on their order. -/
theorem lookup_perm {α : Type} {table other : List (String × α)} (reordered : table.Perm other)
    (distinct : (table.map Prod.fst).Nodup) (name : String) : other.lookup name = table.lookup name := by
  cases found : table.lookup name with
  | none =>
    apply Execution.lookup_eq_none
    intro mem
    rw [lookup_eq_none_iff_key] at found
    exact found ((reordered.map Prod.fst).mem_iff.2 mem)
  | some a =>
    apply Execution.lookup_eq_some ((reordered.map Prod.fst).nodup_iff.1 distinct)
    exact reordered.mem_iff.1 (mem_of_lookup found)

/-- What giving a value to a setter comes to for the instances of a class: the value that is written into an
attribute, if the method writes any, or why the value is not taken. -/
def Setter.effect (s : Setter) (c : RecordClass) (v : Datum) :
    Except SkipReason (Option (String × Datum)) := do
  let converted ← Binding.convert s v
  match s.method.behaviour with
  | .store attr => ((c.keeps attr converted).map fun w => some (attr, w)).mapError .refused
  | _ => .ok none

/-- What an entry of a document comes to: what its setter does, or why the entry is skipped. -/
def Artifact.effect (a : Artifact) (c : RecordClass) (entry : Datum × Datum) :
    Except SkipReason (Option (String × Datum)) :=
  match entry.1 with
  | .text name =>
    if name.isEmpty then .error .notText
    else
      match a.setter? (Naming.setterName name) with
      | none => .error .noSetter
      | some s => s.effect c entry.2
  | _ => .error .notText

/-- Why an entry is skipped, if it is. -/
def Artifact.skipReason? (a : Artifact) (c : RecordClass) (entry : Datum × Datum) : Option SkipReason :=
  match a.effect c entry with
  | .ok _ => none
  | .error reason => some reason

/-- What is reported about an entry. -/
def Artifact.reported (a : Artifact) (c : RecordClass) (entry : Datum × Datum) : BoundKey :=
  ⟨entry.1, entry.2, a.skipReason? c entry⟩

/-- The value that an entry writes into an attribute. -/
def Artifact.written? (a : Artifact) (c : RecordClass) (entry : Datum × Datum) :
    Option (String × Datum) :=
  (a.effect c entry).toOption.join

theorem Artifact.written?_eq_some {a : Artifact} {c : RecordClass} {entry : Datum × Datum}
    {put : String × Datum} : a.written? c entry = some put ↔ a.effect c entry = .ok (some put) := by
  unfold written?
  rw [Option.join_eq_some_iff, toOption_eq_some]

/-- What a setter writes into an attribute is what the class keeps there for some value. -/
theorem Setter.exists_keeps {s : Setter} {c : RecordClass} {v w : Datum} {name : String}
    (does : s.effect c v = .ok (some (name, w))) : ∃ u, c.keeps name u = .ok w := by
  obtain ⟨u, -, stored⟩ := bind_eq_ok.1 does
  cases behaves : s.method.behaviour with
  | store attr =>
    rw [behaves, ← toOption_eq_some, toOption_mapError, toOption_eq_some] at stored
    obtain ⟨w', kept, same⟩ := map_eq_ok.1 stored
    obtain ⟨rfl, rfl⟩ : attr = name ∧ w' = w := by simpa using same
    exact ⟨u, kept⟩
  | _ =>
    rw [behaves] at stored
    cases stored

/-- What an entry writes into an attribute is what the class keeps there for some value. -/
theorem Artifact.exists_keeps {a : Artifact} {c : RecordClass} {entry : Datum × Datum} {name : String}
    {w : Datum} (written : a.written? c entry = some (name, w)) : ∃ v, c.keeps name v = .ok w := by
  rw [written?_eq_some] at written
  obtain ⟨key, v⟩ := entry
  unfold effect at written
  cases key with
  | text key =>
    dsimp only at written
    split at written
    · cases written
    · cases found : a.setter? (Naming.setterName key) with
      | none =>
        rw [found] at written
        cases written
      | some s =>
        rw [found] at written
        exact s.exists_keeps written
  | _ => cases written

/-- The values that the entries of a document write into attributes. -/
def Artifact.writes (a : Artifact) (c : RecordClass) (document : Document) : List (String × Datum) :=
  document.filterMap (a.written? c)

theorem Artifact.writes_append (a : Artifact) (c : RecordClass) (document : Document)
    (entry : Datum × Datum) : a.writes c (document ++ [entry]) =
      a.writes c document ++ (a.written? c entry).toList := by
  unfold writes
  rw [List.filterMap_append, List.filterMap_cons, List.filterMap_nil]
  cases a.written? c entry <;> rfl

/-- The instance after values have been written into attributes. -/
def Instance.write (i : Instance) (values : List (String × Datum)) : Instance :=
  values.foldl (fun j w => j.poke w.1 w.2) i

namespace Instance

variable {i : Instance} {values : List (String × Datum)}

theorem write_append (i : Instance) (values others : List (String × Datum)) :
    i.write (values ++ others) = (i.write values).write others :=
  List.foldl_append

/-- Writing values changes values only. -/
theorem exists_write_eq (i : Instance) (values : List (String × Datum)) :
    ∃ held, i.write values = { i with values := held } := by
  induction values generalizing i with
  | nil => exact ⟨i.values, rfl⟩
  | cons w values ih => exact ih (i.poke w.1 w.2)

@[simp]
theorem record_write : (i.write values).record = i.record := by
  obtain ⟨held, written⟩ := exists_write_eq i values
  rw [written]

/-- An attribute has the last value that has been written into it, or else the value it had. -/
theorem lookup_write (name : String) :
    (i.write values).values.lookup name = (values.reverse ++ i.values).lookup name := by
  induction values generalizing i with
  | nil => rfl
  | cons w values ih =>
    obtain ⟨attr, v⟩ := w
    have first : (i.poke attr v).values.lookup name =
        ([(attr, v)] ++ i.values).lookup name := by
      rw [lookup_poke]
      by_cases same : name = attr
      · subst same
        simp
      · simp [List.lookup_cons, beq_false_of_ne same, same]
    show ((i.poke attr v).write values).values.lookup name = _
    rw [ih, List.reverse_cons, List.append_assoc, List.lookup_append, List.lookup_append, first]

/-- The value of an attribute is settled by what is looked up. -/
theorem value_congr {j : Instance} (made : i.record = j.record) {name : String}
    (same : i.values.lookup name = j.values.lookup name) : i.value name = j.value name := by
  unfold value
  rw [made, same]

end Instance

namespace Artifact

variable (a : Artifact) {i j : Instance}

/-- Binding one key writes what the entry writes, unless it is skipped. -/
theorem bindKey_eq (i : Instance) (entry : Datum × Datum) : Binding.bindKey a i entry.1 entry.2 =
    (a.effect i.record entry).map fun w => i.write w.toList := by
  unfold Binding.bindKey effect
  obtain ⟨key, v⟩ := entry
  cases key with
  | text name =>
    dsimp only
    by_cases empty : name.isEmpty = true
    · rw [if_pos empty, if_pos empty]
      rfl
    · rw [if_neg empty, if_neg empty]
      cases a.setter? (Naming.setterName name) with
      | none => rfl
      | some s =>
        dsimp only
        unfold Setter.effect
        cases Binding.convert s v with
        | error reason => rfl
        | ok converted =>
          rw [ok_bind, ok_bind]
          unfold Binding.apply
          cases s.method.behaviour with
          | store attr =>
            dsimp only
            rw [Instance.store_eq]
            cases i.record.keeps attr converted <;> rfl
          | _ => rfl
  | _ => rfl

/-- Binding one more entry writes what it writes and reports about it. -/
theorem step_eq (i : Instance) (keys : List BoundKey) (entry : Datum × Datum) :
    Binding.step a (i, keys) entry =
      (i.write (a.written? i.record entry).toList, keys ++ [a.reported i.record entry]) := by
  unfold Binding.step reported skipReason? written?
  rw [a.bindKey_eq i entry]
  cases a.effect i.record entry <;> rfl

/-- Binding a document writes what its entries write and reports about each. -/
theorem bind_eq (i : Instance) (document : Document) : a.bind i document =
    (i.write (a.writes i.record document), document.map (a.reported i.record)) := by
  unfold bind
  induction document using List.reverseRecOn with
  | nil => rfl
  | append_singleton document entry ih =>
    rw [List.foldl_append, ih, List.foldl_cons, List.foldl_nil, step_eq, Instance.record_write,
      ← Instance.write_append, ← writes_append, List.map_append]
    rfl

@[simp]
theorem record_bind (document : Document) : (a.bind i document).1.record = i.record := by
  rw [bind_eq]
  exact Instance.record_write

/-- Binding a document changes values only. -/
theorem bind_fst (i : Instance) (document : Document) :
    ∃ values, (a.bind i document).1 = { i with values } := by
  rw [bind_eq]
  exact Instance.exists_write_eq i _

/-- The keys that are bound are those of the entries that are not skipped. -/
theorem boundKeys_bind (i : Instance) (document : Document) : boundKeys (a.bind i document).2 =
    (document.filter fun entry => (a.skipReason? i.record entry).isNone).map Prod.fst := by
  rw [bind_eq, boundKeys, List.filter_map, List.map_map]
  rfl

/-- The keys that are skipped, with the reasons. -/
theorem skippedKeys_bind (i : Instance) (document : Document) : skippedKeys (a.bind i document).2 =
    document.filterMap fun entry => (a.skipReason? i.record entry).map fun reason => (entry.1, reason) := by
  rw [bind_eq, skippedKeys, List.filterMap_map]
  rfl

/-- One more entry writes what it writes. -/
theorem bind_concat_fst (i : Instance) (document : Document) (entry : Datum × Datum) :
    (a.bind i (document ++ [entry])).1 =
      (a.bind i document).1.write (a.written? i.record entry).toList := by
  rw [bind_eq, bind_eq, writes_append, Instance.write_append]

/-- An entry that is skipped writes nothing. -/
theorem written?_eq_none {c : RecordClass} {entry : Datum × Datum}
    (skipped : a.skipReason? c entry ≠ none) : a.written? c entry = none := by
  unfold skipReason? at skipped
  unfold written?
  cases does : a.effect c entry with
  | ok written => simp [does] at skipped
  | error reason => rfl

/-- An entry that is skipped changes nothing, wherever it stands in a document. -/
theorem bind_skipped {i : Instance} {entry : Datum × Datum} {reason : SkipReason}
    (skipped : a.skipReason? i.record entry = some reason) (before after : Document) :
    a.bind i (before ++ entry :: after) = ((a.bind i (before ++ after)).1,
      (a.bind i before).2 ++ ⟨entry.1, entry.2, some reason⟩ :: (a.bind i after).2) := by
  have nothing : a.written? i.record entry = none := a.written?_eq_none (by simp [skipped])
  have report : a.reported i.record entry = ⟨entry.1, entry.2, some reason⟩ := by
    rw [reported, skipped]
  simp only [bind_eq, writes, List.filterMap_append, List.filterMap_cons, nothing, List.map_append,
    List.map_cons, report]

/-- The report about a document says nothing about the instance. -/
theorem bind_snd_congr (made : i.record = j.record) (document : Document) :
    (a.bind i document).2 = (a.bind j document).2 := by
  rw [bind_eq, bind_eq, made]

/-- The value of an attribute after a document has been bound. -/
theorem lookup_bind (document : Document) (name : String) : (a.bind i document).1.values.lookup name =
    ((a.writes i.record document).reverse.lookup name).or (i.values.lookup name) := by
  rw [bind_eq, Instance.lookup_write, List.lookup_append]

/-- Binding a document again leaves every value as it is. -/
theorem value_bind_again (document : Document) (name : String) :
    (a.bind (a.bind i document).1 document).1.value name = (a.bind i document).1.value name := by
  apply Instance.value_congr (by rw [record_bind])
  rw [lookup_bind, lookup_bind, record_bind, ← Option.or_assoc, Option.or_self]

/-- Where no two entries of a document write to the same attribute, its order makes no difference. -/
theorem value_bind_perm {document other : Document} (reordered : document.Perm other)
    (apart : ((a.writes i.record document).map Prod.fst).Nodup) (name : String) :
    (a.bind i other).1.value name = (a.bind i document).1.value name := by
  have moved : (a.writes i.record document).reverse.Perm (a.writes i.record other).reverse :=
    (List.reverse_perm _).trans ((reordered.filterMap _).trans (List.reverse_perm _).symm)
  have distinct : ((a.writes i.record document).reverse.map Prod.fst).Nodup := by
    rwa [List.map_reverse, List.nodup_reverse]
  apply Instance.value_congr (by rw [record_bind, record_bind])
  rw [lookup_bind, lookup_bind]
  exact congrArg (Option.or · _) (lookup_perm moved distinct name)

end Artifact

end FlatRecord
