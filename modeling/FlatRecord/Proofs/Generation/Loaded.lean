import FlatRecord.Proofs.Descriptor.QualifiedNames
import FlatRecord.Proofs.Generation.Printed
import FlatRecord.Proofs.Generation.Setters

/-!
# Generated modules load

What loading makes of the record module of a valid descriptor. It refuses the module only if the text
is too long, or if the type has a name that is reserved or that the module gives another meaning.
-/

namespace FlatRecord

open FlatRecord.Execution FlatRecord.Script

namespace Descriptor

variable {d : Descriptor}

/-- The text of the record module of a descriptor. -/
def moduleText (d : Descriptor) : String := String.ofList (Generation.module d.planned).print

/-- A character takes at most four bytes. -/
theorem utf8ByteSize_moduleText_le (d : Descriptor) :
    d.moduleText.utf8ByteSize ≤ 4 * (Generation.module d.planned).print.length := by
  unfold moduleText
  induction (Generation.module d.planned).print with
  | nil => simp
  | cons c cs ih =>
    have bytes := c.utf8Size_le_four
    rw [String.ofList_cons, String.utf8ByteSize_append, String.utf8ByteSize_singleton,
      List.length_cons]
    omega

theorem utf8ByteSize_moduleText_person : person.moduleText.utf8ByteSize ≤ maxSourceBytes := by
  have length : (Generation.module person.planned).print.length ≤ 2000 := by decide +kernel
  have bytes := utf8ByteSize_moduleText_le person
  unfold maxSourceBytes
  omega

/-- The record class of a descriptor. -/
def record (d : Descriptor) : RecordClass := Generation.recordOf d.planned d.space

/-- The names of the record module of a descriptor when it has been run. -/
def globals (d : Descriptor) : Bindings := Generation.finalGlobals d.planned d.space

/-- The names of a descriptor hold no line feed. -/
structure IsLineFree (d : Descriptor) : Prop extends d.IsClean where
  space : '\n' ∉ d.space.toList

variable (valid : d.IsValid) (label : String)
include valid

/-- What reading, admitting and running the record module of a descriptor makes of it. -/
theorem IsValid.runSource_moduleText (clean : d.IsClean) :
    Loading.runSource label d.qualifiedName d.space d.typeName d.moduleText =
      if Admission.isDeclarable d.typeName then .ok ⟨d.globals, some d.record⟩
      else .error (.rejected d.qualifiedName (.reservedName d.typeName)) := by
  have sound := valid.planned_isSound clean
  have read : Module.read d.moduleText.toList = .ok (Generation.module d.planned).placed := by
    rw [moduleText, String.toList_ofList]
    exact Generation.read_print sound
  have admitted : Module.admit (Generation.module d.planned).placed =
      if Admission.isDeclarable d.typeName then .ok d.typeName
      else .error (.reservedName d.typeName) := Generation.admit_module sound
  have ran := Generation.run_module sound label d.space
  unfold Loading.runSource
  rw [read]
  show (do
    let found ← Except.mapError (LoadFault.rejected d.qualifiedName)
      <| Module.admit (Generation.module d.planned).placed
    if found != d.typeName then .error (.otherClass found d.typeName)
    (Loading.run label d.space (Generation.module d.planned).placed).mapError
      (LoadFault.execution d.qualifiedName)) = _
  rw [admitted, ran]
  split
  · show (do
      if d.typeName != d.typeName then .error (.otherClass d.typeName d.typeName)
      .ok ⟨d.globals, some d.record⟩ : Except LoadFault LoadedModule) = _
    rw [bne_self_eq_false]
    rfl
  · rfl

/-- What loading makes of the record module of a descriptor. -/
theorem IsValid.load_moduleText (clean : d.IsLineFree) :
    load label d.qualifiedName d.moduleText =
      if maxSourceBytes < d.moduleText.utf8ByteSize then .error (.oversized d.qualifiedName)
      else if !Admission.isDeclarable d.typeName then
        .error (.rejected d.qualifiedName (.reservedName d.typeName))
      else if d.typeName = "__namespace__" then
        .error (.otherSpace (.type (.record d.space d.typeName)) d.space)
      else .ok (d.record, d.globals) := by
  have qualified := valid.isQualified_qualifiedName.2 clean.space
  have dotted : d.qualifiedName.toList.contains '.' = true := by simp [qualifiedName]
  have made : Loading.classOf d.space d.typeName ⟨d.globals, some d.record⟩ =
      if d.typeName = "__namespace__" then
        .error (.otherSpace (.type (.record d.space d.typeName)) d.space)
      else .ok d.record := Generation.classOf_module rfl
  unfold load
  simp only [qualified, dotted, valid.splitLast_qualifiedName, Bool.not_true, Bool.or_self,
    Bool.false_eq_true, if_false]
  by_cases large : maxSourceBytes < d.moduleText.utf8ByteSize
  · rw [if_pos large, if_pos large]
    rfl
  rw [if_neg large, if_neg large]
  show (do
    let m ← Loading.runSource label d.qualifiedName d.space d.typeName d.moduleText
    let record ← Loading.classOf d.space d.typeName m
    return (record, m.globals) : Except LoadFault (RecordClass × Bindings)) = _
  rw [valid.runSource_moduleText label clean.toIsClean]
  cases Admission.isDeclarable d.typeName with
  | false => rfl
  | true =>
    show (do
      let record ← Loading.classOf d.space d.typeName ⟨d.globals, some d.record⟩
      return (record, d.globals) : Except LoadFault (RecordClass × Bindings)) = _
    rw [made, Bool.not_true, if_neg Bool.false_ne_true]
    by_cases named : d.typeName = "__namespace__"
    · rw [if_pos named, if_pos named]
      rfl
    · rw [if_neg named, if_neg named]
      rfl

end Descriptor

end FlatRecord
