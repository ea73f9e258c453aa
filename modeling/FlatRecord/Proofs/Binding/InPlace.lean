import FlatRecord.Proofs.Binding.Effects

/-!
# Binding in place

Binding as a program that works on one instance in place. A fault ends the program at the point where it
arises, and what has been stored by then stays stored. Only handlers turn faults into skipped keys: the one
around the conversion of a value handles three classes of faults, the one around the setter handles all. No
fault gets past them, whatever is bound to whichever instance, and a key that is skipped has stored nothing.
-/

namespace FlatRecord

open FlatRecord.Execution

/-- The classes of faults that handlers tell apart. -/
inductive FaultClass where
  | any
  | type
  | value
  | arithmetic
  | overflow
  | operation
  deriving DecidableEq, Repr

/-- A class and those above it. A handler of one of them handles the faults of the class. -/
def FaultClass.lineage : FaultClass → List FaultClass
  | any => [any]
  | type => [type, any]
  | value => [value, any]
  | arithmetic => [arithmetic, any]
  | overflow => [overflow, arithmetic, any]
  | operation => [operation, arithmetic, any]

/-- The class of a fault of conversion. -/
def CoercionFault.faultClass : CoercionFault → FaultClass
  | type .. => .type
  | boolAsDecimal => .type
  | nonFiniteInteger _ => .value
  | integerText .. => .value
  | unwritableInteger => .value
  | floatText _ => .value
  | hugeInteger => .overflow
  | booleanText _ => .value
  | calendar .. => .value
  | decimalText _ => .operation
  | nonFiniteDecimal _ => .value
  | belowMinimum .. => .value
  | aboveMaximum .. => .value

/-- A fault on the way of a value into an instance. -/
inductive BindFault where
  | conversion (carrier : Carrier) (fault : CoercionFault)
  | call (fault : CallFault)

namespace BindFault

/-- The class of a fault. Those of calls may be of any class. -/
def faultClass : BindFault → FaultClass
  | conversion _ fault => fault.faultClass
  | call _ => .any

/-- What is reported about a key whose fault is handled. -/
def reason : BindFault → SkipReason
  | conversion carrier fault => .unconvertible carrier fault
  | call fault => .refused fault

end BindFault

/-- Programs that work on an instance in place. -/
abbrev InPlace := EStateM BindFault Instance

namespace InPlace

/-- The classes of faults that are handled around the conversion of a value. -/
def conversionClasses : List FaultClass := [.type, .value, .arithmetic]

/-- The result of a program, or the reason that a fault of one of the classes gives. -/
def handling {α : Type} (classes : List FaultClass) (program : InPlace α) :
    InPlace (Except SkipReason α) :=
  tryCatch (Except.ok <$> program) fun fault =>
    if fault.faultClass.lineage.any classes.contains then return .error fault.reason else throw fault

/-- Convert a value for a setter; null is not converted. -/
def convert (s : Setter) (v : Datum) : InPlace Datum :=
  match v with
  | .null => return .null
  | v =>
    match s.carrier.coerce v with
    | .ok w => return w
    | .error fault => throw (.conversion s.carrier fault)

/-- Store a value in an attribute: the class decides about it, then it is written. -/
def store (name : String) (v : Datum) : InPlace Unit := do
  let i ← get
  match i.record.keeps name v with
  | .ok kept => modify fun i => i.poke name kept
  | .error fault => throw (.call fault)

/-- Call a method with a value. -/
def call (m : Method) (v : Datum) : InPlace Unit :=
  match m.behaviour with
  | .store attr => store attr v
  | _ => return ()

/-- Call the method that an instance has under a name. -/
def callNamed (name : String) (v : Datum) : InPlace Unit := do
  let i ← get
  match i.methodOf name with
  | .error fault => throw (.call fault)
  | .ok m =>
    if m.parameters.length != 2 then throw (.call (Instance.argumentFault i.record m 2))
    else call m v

/-- Bind one entry. The answer is why it is skipped, if it is. -/
def bindEntry (a : Artifact) (entry : Datum × Datum) : InPlace (Option SkipReason) :=
  match entry.1 with
  | .text name =>
    if name.isEmpty then return some .notText
    else
      match a.setter? (Naming.setterName name) with
      | none => return some .noSetter
      | some s => do
        match ← handling conversionClasses (convert s entry.2) with
        | .error reason => return some reason
        | .ok converted =>
          match ← handling [.any] (call s.method converted) with
          | .error reason => return some reason
          | .ok () => return none
  | _ => return some .notText

/-- Bind a document, entry by entry. -/
def bind (a : Artifact) : Document → InPlace (List BoundKey)
  | [] => return []
  | entry :: rest => do
    let skipped ← bindEntry a entry
    let others ← bind a rest
    return ⟨entry.1, entry.2, skipped⟩ :: others

section Run

variable {i : Instance}

/-- Every fault of conversion is of a class that is handled. -/
theorem isHandled_conversion (fault : CoercionFault) :
    fault.faultClass.lineage.any conversionClasses.contains = true := by
  cases fault <;> rfl

/-- A program within a handler of all its faults ends without one; what it has stored stays stored. -/
theorem run_handling {α : Type} {classes : List FaultClass} {program : InPlace α}
    (handled : ∀ fault j, program.run i = .error fault j →
      fault.faultClass.lineage.any classes.contains = true) :
    (handling classes program).run i = match program.run i with
      | .ok x j => .ok (.ok x) j
      | .error fault j => .ok (.error fault.reason) j := by
  unfold handling
  simp only [tryCatch, tryCatchThe, MonadExceptOf.tryCatch, Functor.map, EStateM.run, EStateM.tryCatch,
    EStateM.map] at handled ⊢
  cases ends : program i with
  | ok x j => rfl
  | error fault j =>
    dsimp only
    rw [if_pos (handled fault j ends)]
    rfl

/-- A conversion ends as binding has it, and it leaves the instance alone. -/
theorem run_convert (s : Setter) (v : Datum) (i : Instance) :
    (∃ w, (convert s v).run i = .ok w i ∧ Binding.convert s v = .ok w) ∨
    ∃ fault, (convert s v).run i = .error (.conversion s.carrier fault) i ∧
      Binding.convert s v = .error (.unconvertible s.carrier fault) := by
  cases v with
  | null => exact .inl ⟨.null, rfl, rfl⟩
  | _ =>
    unfold convert Binding.convert
    dsimp only
    cases s.carrier.coerce _ with
    | ok w => exact .inl ⟨w, rfl, rfl⟩
    | error fault => exact .inr ⟨fault, rfl, rfl⟩

/-- A value that the class refuses is not stored. -/
theorem run_store (name : String) (v : Datum) (i : Instance) :
    (store name v).run i = match i.record.keeps name v with
      | .ok w => .ok () (i.poke name w)
      | .error fault => .error (.call fault) i := by
  show (match i.record.keeps name v with | .ok kept => _ | .error fault => _ : InPlace Unit).run i = _
  cases i.record.keeps name v <;> rfl

/-- A conversion within its handler. -/
theorem run_handling_convert (s : Setter) (v : Datum) (i : Instance) :
    (handling conversionClasses (convert s v)).run i = .ok (Binding.convert s v) i := by
  obtain ⟨w, ends, converted⟩ | ⟨fault, ends, failed⟩ := run_convert s v i
  · rw [run_handling (by simp [ends]), ends, converted]
  · have handled : ∀ other j, (convert s v).run i = .error other j →
        other.faultClass.lineage.any conversionClasses.contains = true := by
      intro other j ends'
      obtain ⟨rfl, -⟩ : .conversion s.carrier fault = other ∧ i = j := by simpa [ends] using ends'
      exact isHandled_conversion fault
    rw [run_handling handled, ends, failed]
    rfl

/-- A call within its handler: the value that the class keeps is written, or nothing is. -/
theorem run_handling_store (name : String) (v : Datum) (i : Instance) :
    (handling [.any] (store name v)).run i = match i.record.keeps name v with
      | .ok w => .ok (.ok ()) (i.poke name w)
      | .error fault => .ok (.error (.refused fault)) i := by
  have handled : ∀ fault j, (store name v).run i = .error fault j →
      fault.faultClass.lineage.any [FaultClass.any].contains = true := by
    intro fault j _
    cases fault with
    | conversion _ fault => cases fault <;> rfl
    | call fault => rfl
  rw [run_handling handled, run_store]
  cases i.record.keeps name v <;> rfl

/-- Binding one entry ends without a fault, with what the entry comes to. -/
theorem run_bindEntry (a : Artifact) (entry : Datum × Datum) (i : Instance) :
    (bindEntry a entry).run i =
      .ok (a.skipReason? i.record entry) (i.write (a.written? i.record entry).toList) := by
  unfold bindEntry Artifact.skipReason? Artifact.written? Artifact.effect
  cases entry.1 with
  | text name =>
    dsimp only
    by_cases empty : name.isEmpty = true
    · rw [if_pos empty, if_pos empty]
      rfl
    · rw [if_neg empty, if_neg empty]
      cases a.setter? (Naming.setterName name) with
      | none => rfl
      | some s =>
        dsimp only
        unfold Setter.effect
        rw [EStateM.run_bind, run_handling_convert]
        cases Binding.convert s entry.2 with
        | error reason => rfl
        | ok converted =>
          rw [ok_bind]
          dsimp only
          rw [EStateM.run_bind]
          unfold call
          cases s.method.behaviour with
          | store attr =>
            dsimp only
            rw [run_handling_store]
            cases i.record.keeps attr converted <;> rfl
          | _ => rfl
  | _ => rfl

/-- Binding a document in place ends without a fault, with the instance and the report of binding. -/
theorem run_bind (a : Artifact) (document : Document) (i : Instance) :
    (bind a document).run i = .ok (a.bind i document).2 (a.bind i document).1 := by
  rw [Artifact.bind_eq]
  induction document generalizing i with
  | nil => rfl
  | cons entry rest ih =>
    have written : a.writes i.record (entry :: rest) =
        (a.written? i.record entry).toList ++ a.writes i.record rest := by
      unfold Artifact.writes
      rw [List.filterMap_cons]
      cases a.written? i.record entry <;> rfl
    unfold bind
    rw [EStateM.run_bind, run_bindEntry]
    dsimp only
    rw [EStateM.run_bind, ih, Instance.record_write, written, Instance.write_append]
    rfl

/-- Calling a method in place: a call that fails has stored nothing. -/
theorem run_callNamed (name : String) (v : Datum) (i : Instance) :
    (callNamed name v).run i = match i.set name v with
      | .ok j => .ok () j
      | .error fault => .error (.call fault) i := by
  show (match i.methodOf name with
    | .error fault => throw (.call fault)
    | .ok m => if m.parameters.length != 2 then throw (.call (Instance.argumentFault i.record m 2))
      else call m v : InPlace Unit).run i = _
  unfold Instance.set
  cases i.methodOf name with
  | error fault => rfl
  | ok m =>
    rw [ok_bind]
    dsimp only
    by_cases few : (m.parameters.length != 2) = true
    · rw [if_pos few, if_pos few]
      rfl
    · rw [if_neg few, if_neg few]
      unfold call
      cases m.behaviour with
      | store attr =>
        dsimp only
        rw [run_store, Instance.store_eq]
        cases i.record.keeps attr v <;> rfl
      | _ => rfl

end Run

end InPlace

end FlatRecord
