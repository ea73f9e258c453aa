import FlatRecord.Proofs.Binding.Accessors
import FlatRecord.Proofs.Rendering.SpecialMethods

/-!
# Equality and hash codes of instances

The instances of a class hold objects in their attributes, and two of them may hold the same object. They are
equal if the attributes of each field hold the same object or equal values, which is an equivalence: of the
values that fields keep only the number that equals nothing is not equal to itself, and wherever it is compared
with itself it is the same object. Equal instances have the same hash code.
-/

namespace FlatRecord

open FlatRecord.Execution FlatRecord.Generation

/-- The objects that instances hold: the object in each attribute of an instance, and the value of an
object. -/
structure Memory (Object : Type) where
  object : Nat → String → Object
  value : Object → Datum

namespace Memory

variable {Object : Type} [DecidableEq Object] (m : Memory Object)

/-- Which attributes of two instances hold the same object. -/
def sharing (i j : Instance) : Instance.Sharing := fun name other =>
  m.object i.identity name = m.object j.identity other

/-- Equality of instances that hold objects of the memory. -/
def equal (i j : Instance) : Except CallFault Bool := i.equalSharing (m.sharing i j) (.record j)

/-- Whether the hash codes of two instances that hold objects of the memory are the same. -/
def sameHash (i j : Instance) : Except CallFault Bool := i.sameHashSharing (m.sharing i j) j

/-- An instance of the class of an artifact, reached from a new one, that holds objects of the memory. -/
structure Holds (a : Artifact) (i : Instance) : Prop where
  reached : a.Reaches i
  objects : ∀ name v, i.value name = .ok v → m.value (m.object i.identity name) = v

/-- Whether two objects are the same or have equal values. -/
def alike (o p : Object) : Bool := decide (o = p) || (m.value o).same (m.value p)

/-- The memory of instances that have no object in common. -/
def separate (instances : Nat → Instance) : Memory (Nat × String) where
  object := Prod.mk
  value o := ((instances o.1).values.lookup o.2).getD .null

section Separate

variable {instances : Nat → Instance}

theorem value_separate {n : Nat} {name : String} {v : Datum} (there : (instances n).value name = .ok v) :
    (separate instances).value ((separate instances).object n name) = v := by
  unfold Instance.value at there
  split at there
  · rename_i found
    obtain rfl := Except.ok.inj there
    exact congrArg (fun held : Option Datum => held.getD .null) found
  · cases there

/-- Instances that have no object in common are compared by their values. -/
theorem compared_separate (numbered : ∀ n, (instances n).identity = n) {n k : Nat} (distinct : n ≠ k) :
    (separate instances).equal (instances n) (instances k) =
        (instances n).equal (.record (instances k)) ∧
      (separate instances).sameHash (instances n) (instances k) =
        (instances n).sameHash (instances k) := by
  have sharing : (separate instances).sharing (instances n) (instances k) = Instance.apart := by
    funext name other
    simp [Memory.sharing, separate, numbered, distinct, Instance.apart]
  unfold Memory.equal Memory.sameHash
  rw [sharing]
  exact ⟨rfl, rfl⟩

end Separate

variable {m} {o p q : Object}

theorem alike_self (o : Object) : m.alike o o = true := by
  unfold alike
  rw [decide_eq_true rfl, Bool.true_or]

theorem alike_comm (scalar : (m.value o).IsQuietScalar) (scalar' : (m.value p).IsQuietScalar) :
    m.alike o p = m.alike p o := by
  unfold alike
  rw [scalar.same_comm scalar', decide_eq_decide.2 eq_comm]

theorem alike_trans (scalar : (m.value o).IsQuietScalar) (scalar' : (m.value p).IsQuietScalar)
    (first : m.alike o p = true) (second : m.alike p q = true) : m.alike o q = true := by
  simp only [alike, Bool.or_eq_true, decide_eq_true_eq] at first second ⊢
  obtain rfl | equals := first
  · exact second
  obtain rfl | equals' := second
  · exact .inr equals
  · exact .inr (scalar.same_trans scalar' equals equals')

end Memory

/-- An instance belongs to the compilation of the artifact whose new instance it was. -/
theorem Artifact.Reaches.serial_eq {a : Artifact} {i : Instance} (reached : a.Reaches i) :
    i.serial = a.serial := by
  induction reached with
  | new created => exact (instantiate_eq_ok created).2
  | @call i reached name v ih =>
    unfold InPlace.after
    rw [InPlace.run_callNamed]
    cases called : i.set name v with
    | error fault => exact ih
    | ok j =>
      obtain rfl | ⟨attr, stored⟩ := Instance.set_eq_ok called
      · exact ih
      · obtain ⟨w, -, rfl, -⟩ := Instance.exists_of_store stored
        exact ih
  | @bind i reached b document ih =>
    unfold InPlace.after
    rw [InPlace.run_bind]
    obtain ⟨values, held⟩ := b.bind_fst i document
    show (b.bind i document).1.serial = _
    rw [held]
    exact ih

namespace Artifact.Implements

variable {a : Artifact} {d : Descriptor} (implements : a.Implements d) {Object : Type}
  {m : Memory Object} {i j k : Instance} (first : m.Holds a i)
include implements first

/-- The attributes of fields hold the values of their objects, which the getters give. -/
theorem fills_memory : d.Fills i (fun f => m.value (m.object i.identity f.attributeName)) ∧
    ∀ f ∈ d.fields, i.get f.getterName = .ok (m.value (m.object i.identity f.attributeName)) := by
  obtain ⟨values, fills, given⟩ := implements.exists_fills (implements.conforms first.reached)
  have same : ∀ f ∈ d.fields, m.value (m.object i.identity f.attributeName) = values f := fun f mem =>
    first.objects _ _ (fills.value f mem)
  refine ⟨⟨fills.record, fun f mem => ?_, fun f mem => ?_⟩, fun f mem => ?_⟩
  · rw [same f mem]
    exact fills.value f mem
  · rw [same f mem]
    exact fills.kept f mem
  · rw [same f mem]
    exact given f mem

theorem isQuietScalar_memory {f : FieldSpec} (mem : f ∈ d.fields) :
    (m.value (m.object i.identity f.attributeName)).IsQuietScalar :=
  Carrier.isQuietScalar ((implements.fills_memory first).1.kept f mem)

variable [DecidableEq Object] (second : m.Holds a j)
include second

/-- Instances of one class are compared by their numbers, then by the objects in the attributes of their
fields. -/
theorem equal_memory : m.equal i j =
    if i.identity = j.identity then .ok true
    else do
      let related ← Instance.belongs d.record a.serial ["self", "other"] (.record i)
      return related && d.fields.all fun f =>
        m.alike (m.object i.identity f.attributeName) (m.object j.identity f.attributeName) := by
  have serial := first.reached.serial_eq
  have belongs : Instance.belongs d.record i.serial ["self", "other"] (.record j) =
      Instance.belongs d.record a.serial ["self", "other"] (.record i) := by
    simp only [Instance.belongs, serial, second.reached.serial_eq]
  unfold Memory.equal
  rw [implements.equalSharing_eq _ (implements.fills_memory first).1 (implements.fills_memory second).1,
    belongs]
  rfl

/-- Equality returns for the instance itself and if it knows the class, and then looks at the objects in the
attributes of all fields. -/
theorem equal_memory_iff (same : Bool) : m.equal i j = .ok same ↔
    (i.identity = j.identity ∨ d.IsKnownToEquality) ∧ same = d.fields.all fun f =>
      m.alike (m.object i.identity f.attributeName) (m.object j.identity f.attributeName) := by
  rw [implements.equal_memory first second]
  by_cases self : i.identity = j.identity
  · have all : (d.fields.all fun f =>
        m.alike (m.object i.identity f.attributeName) (m.object j.identity f.attributeName)) = true := by
      rw [self]
      exact List.all_eq_true.2 fun f _ => Memory.alike_self _
    rw [if_pos self, all, and_iff_right (.inl self), Except.ok.injEq, eq_comm]
  · rw [if_neg self, or_iff_right self]
    by_cases known : d.IsKnownToEquality
    · rw [known.belongs_eq, ok_bind, decide_eq_true first.reached.serial_eq, Bool.true_and,
        and_iff_right known, eq_comm (a := same)]
      exact ⟨Except.ok.inj, congrArg Except.ok⟩
    · refine iff_of_false (fun answered => ?_) fun both => known both.1
      obtain ⟨related, belongs, -⟩ := bind_eq_ok.1 answered
      exact known ((d.exists_belongs_iff _ _).1 ⟨related, belongs⟩)

/-- Equality is symmetric, in its faults as well. -/
theorem equal_memory_comm : m.equal j i = m.equal i j := by
  have one : Instance.belongs d.record a.serial ["self", "other"] (.record j) =
      Instance.belongs d.record a.serial ["self", "other"] (.record i) := by
    simp only [Instance.belongs, first.reached.serial_eq, second.reached.serial_eq]
  have fields : (d.fields.all fun f =>
      m.alike (m.object j.identity f.attributeName) (m.object i.identity f.attributeName)) =
        d.fields.all fun f =>
          m.alike (m.object i.identity f.attributeName) (m.object j.identity f.attributeName) := by
    rw [Bool.eq_iff_iff, List.all_eq_true, List.all_eq_true]
    refine forall₂_congr fun f mem => ?_
    rw [Memory.alike_comm (implements.isQuietScalar_memory second mem)
      (implements.isQuietScalar_memory first mem)]
  rw [implements.equal_memory first second, implements.equal_memory second first, one, fields]
  simp only [eq_comm (a := j.identity)]

/-- Equality is transitive. -/
theorem equal_memory_trans (third : m.Holds a k) (equals : m.equal i j = .ok true)
    (equals' : m.equal j k = .ok true) : m.equal i k = .ok true := by
  obtain ⟨compared, fields⟩ := (implements.equal_memory_iff first second true).1 equals
  obtain ⟨compared', fields'⟩ := (implements.equal_memory_iff second third true).1 equals'
  refine (implements.equal_memory_iff first third true).2 ⟨?_, ?_⟩
  · obtain one | known := compared
    · exact compared'.imp_left one.trans
    · exact .inr known
  · refine (List.all_eq_true.2 fun f mem => ?_).symm
    exact Memory.alike_trans (implements.isQuietScalar_memory first mem)
      (implements.isQuietScalar_memory second mem) (List.all_eq_true.1 fields.symm f mem)
      (List.all_eq_true.1 fields'.symm f mem)

/-- Hash codes are compared unless the name of the class hides the function that gives them, and those of
equal instances are the same. -/
theorem exists_sameHash_memory : ∃ same, (m.equal i j = .ok true → same = true) ∧
    m.sameHash i j =
      if d.typeName = "hash" then .error (d.record.callFault 1) else .ok same := by
  obtain ⟨fills, -⟩ := implements.fills_memory first
  obtain ⟨fills', -⟩ := implements.fills_memory second
  obtain ⟨key, hashed, keys⟩ := implements.exists_hashKeys_eq fills
  obtain ⟨key', hashed', keys'⟩ := implements.exists_hashKeys_eq fills'
  refine ⟨decide (i.identity = j.identity) || d.fields.all fun f =>
    m.sharing i j f.attributeName f.attributeName || (key f).agrees (key' f), ?_, ?_⟩
  · intro equals
    obtain ⟨-, fields⟩ := (implements.equal_memory_iff first second true).1 equals
    rw [Bool.or_eq_true]
    refine .inr (List.all_eq_true.2 fun f mem => ?_)
    have alike := List.all_eq_true.1 fields.symm f mem
    simp only [Memory.alike, Memory.sharing, Bool.or_eq_true, decide_eq_true_eq] at alike ⊢
    refine alike.imp_right fun equals => ?_
    exact (implements.isQuietScalar_memory first mem).hashKey_agrees
      (implements.isQuietScalar_memory second mem) equals (hashed f mem) (hashed' f mem)
  · unfold Memory.sameHash Instance.sameHashSharing
    rw [keys, keys']
    by_cases hidden : d.typeName = "hash"
    · simp only [if_pos hidden]
      rfl
    · simp only [if_neg hidden, ok_bind, List.length_map, beq_self_eq_true, Bool.true_and,
        List.zip_map', List.all_map]
      by_cases self : i.identity = j.identity
      · rw [if_pos self, decide_eq_true self]
        rfl
      · rw [if_neg self, decide_eq_false self]
        rfl

end Artifact.Implements

/-- Equality and hash codes of the instances of a class agree with each other, however the instances have been
populated and whichever objects they share.

Equality returns for an instance and itself, and for others if the name of the class means the class there. It
says that two instances are equal exactly if the attributes of each field hold the same object or equal values.
It is reflexive, symmetric and transitive. There are hash codes unless the name of the class hides the function
that gives them, and those of equal instances are the same. -/
theorem Artifact.equal_is_equivalence {s : Submission} {d : Descriptor} {source : String}
    (valid : s.validate = .ok d) (rendered : s.source = .ok source) {serial : Nat} {hash : String}
    {a : Artifact} (built : Cache.build serial hash d.qualifiedName source = .ok a) {Object : Type}
    [DecidableEq Object] {m : Memory Object} {i j k : Instance} (first : m.Holds a i)
    (second : m.Holds a j) (third : m.Holds a k) :
    ((∃ same, m.equal i j = .ok same) ↔ i.identity = j.identity ∨ d.IsKnownToEquality) ∧
      (∀ same, m.equal i j = .ok same → (same = true ↔ ∀ f ∈ d.fields,
        m.object i.identity f.attributeName = m.object j.identity f.attributeName ∨
          ∃ v w, i.get f.getterName = .ok v ∧ j.get f.getterName = .ok w ∧ v.same w = true)) ∧
      m.equal i i = .ok true ∧
      m.equal j i = m.equal i j ∧
      (m.equal i j = .ok true → m.equal j k = .ok true → m.equal i k = .ok true) ∧
      ((∃ same, m.sameHash i j = .ok same) ↔ d.typeName ≠ "hash") ∧
      (m.equal i j = .ok true → ∀ same, m.sameHash i j = .ok same → same = true) := by
  have implements := implements_of_build valid rendered built
  have compared := implements.equal_memory_iff first second
  obtain ⟨agree, agrees, hashed⟩ := implements.exists_sameHash_memory first second
  refine ⟨?_, ?_, ?_, implements.equal_memory_comm first second,
    implements.equal_memory_trans first second third, ?_, ?_⟩
  · simp only [compared, exists_and_left, exists_eq, and_true]
  · intro same answered
    obtain ⟨-, rfl⟩ := (compared same).1 answered
    rw [List.all_eq_true]
    refine forall₂_congr fun f mem => ?_
    rw [(implements.fills_memory first).2 f mem, (implements.fills_memory second).2 f mem]
    simp [Memory.alike]
  · refine (implements.equal_memory_iff first first true).2 ⟨.inl rfl, ?_⟩
    exact (List.all_eq_true.2 fun f _ => Memory.alike_self _).symm
  · rw [hashed]
    split
    · rename_i hidden
      simp [hidden]
    · rename_i free
      exact iff_of_true ⟨_, rfl⟩ free
  · intro equals same answered
    rw [hashed] at answered
    split at answered
    · cases answered
    · exact Except.ok.inj answered ▸ agrees equals

/-- A descriptor of samples, whose level may be the number that equals nothing. -/
def Descriptor.sample : Descriptor where
  typeName := "Sample"
  space := "lab"
  fields := [⟨"level", "double", false, .null⟩, ⟨"amount", "decimal", false, .null⟩]
  description := none

/-- A document for a sample whose level is the number that equals nothing. -/
def Descriptor.sampleEntries (amount : String) : Document :=
  [(.text "level", .text "nan"), (.text "amount", .text amount)]

/-- The objects that samples hold: the first two have the same level, and equal amounts. -/
def Memory.ofSamples : Memory (Nat × String) where
  object n name := (if name = "level" then n / 2 else n, name)
  value o := if o.2 = "level" then .float .nan
    else .decimal (if o.1 = 1 then .finite false 15 (-1) else .finite false 150 (-2))

/-- A sample to which a document has been bound, as one that holds its objects. -/
private theorem holds_sample {a : Artifact} (implements : a.Implements .sample) (n : Nat) (amount : String)
    (held : Descriptor.sample.held (Descriptor.sampleEntries amount) =
      [("level", .float .nan), ("amount", Memory.ofSamples.value (n, "amount"))]) :
    Memory.ofSamples.Holds a
      (Descriptor.sample.holding a.serial n (Descriptor.sampleEntries amount)) := by
  have minutes : ∀ f ∈ Descriptor.sample.fields, f.initial.hasMinuteOffset := by
    with_unfolding_all decide
  constructor
  · exact (implements.populates_holding (by decide) minutes n _).reaches
  · intro name v there
    unfold Instance.value Descriptor.holding at there
    rw [held, List.lookup_cons, List.lookup_cons] at there
    by_cases level : name = "level"
    · subst level
      obtain rfl := Except.ok.inj there
      rfl
    by_cases amount : name = "amount"
    · subst amount
      obtain rfl := Except.ok.inj there
      rfl
    · rw [beq_false_of_ne level, beq_false_of_ne amount] at there
      cases there

/-- Samples with the same level and equal amounts are equal and have the same hash code. If their levels are
different objects that equal nothing, they are not equal. -/
theorem Artifact.equal_is_equivalence_sample : ∃ a, Cache.build 0 "" Descriptor.sample.qualifiedName
    Descriptor.sample.moduleText = .ok a ∧ ∃ i j k, Memory.ofSamples.Holds a i ∧
      Memory.ofSamples.Holds a j ∧ Memory.ofSamples.Holds a k ∧
      Memory.ofSamples.equal i j = .ok true ∧ Memory.ofSamples.sameHash i j = .ok true ∧
      Memory.ofSamples.equal j k = .ok false := by
  have valid : Descriptor.sample.submission.validate = .ok .sample := by
    with_unfolding_all rfl
  have rendered := Submission.source_of_validate valid
  obtain ⟨a, built⟩ := (Submission.validate_eq_ok valid).1.exists_build
    ⟨⟨by decide, by decide⟩, by decide⟩ (by decide) (by decide) (by decide +kernel) 0 ""
  have implements := implements_of_build valid rendered built
  have first := holds_sample implements 0 "1.50" (by with_unfolding_all rfl)
  have second := holds_sample implements 1 "1.5" (by with_unfolding_all rfl)
  have third := holds_sample implements 2 "1.50" (by with_unfolding_all rfl)
  obtain ⟨returns, equals, -, -, -, hashes, agree⟩ :=
    equal_is_equivalence valid rendered built first second third
  obtain ⟨returns', equals', -⟩ := equal_is_equivalence valid rendered built second third first
  obtain ⟨same, compared⟩ := returns.2 (.inr ⟨by decide, by decide⟩)
  obtain ⟨other, compared'⟩ := returns'.2 (.inr ⟨by decide, by decide⟩)
  obtain ⟨code, hashed⟩ := hashes.2 (by decide)
  have shared : Memory.ofSamples.object 0 Descriptor.sample.fields[0].attributeName =
    Memory.ofSamples.object 1 Descriptor.sample.fields[0].attributeName := by decide
  have apart : Memory.ofSamples.object 1 Descriptor.sample.fields[0].attributeName ≠
    Memory.ofSamples.object 2 Descriptor.sample.fields[0].attributeName := by decide
  have level : Descriptor.sample.fields[0] ∈ Descriptor.sample.fields := List.getElem_mem _
  have amount : Descriptor.sample.fields[1] ∈ Descriptor.sample.fields := List.getElem_mem _
  obtain rfl : same = true := by
    refine (equals same compared).2 fun f mem => ?_
    obtain rfl | rfl : f = Descriptor.sample.fields[0] ∨ f = Descriptor.sample.fields[1] := by
      simpa [Descriptor.sample] using mem
    · exact .inl shared
    · exact .inr ⟨_, _, implements.get_holding amount _ _ _, implements.get_holding amount _ _ _,
        by decide +kernel⟩
  obtain rfl : other = false := by
    rw [← Bool.not_eq_true]
    intro yes
    obtain one | ⟨v, w, got, got', alike⟩ := (equals' other compared').1 yes _ level
    · exact apart one
    · rw [implements.get_holding level] at got got'
      obtain rfl := Except.ok.inj got
      obtain rfl := Except.ok.inj got'
      exact absurd alike (by decide +kernel)
  obtain rfl := agree compared code hashed
  exact ⟨a, built, _, _, _, first, second, third, compared, hashed, compared'⟩

end FlatRecord
