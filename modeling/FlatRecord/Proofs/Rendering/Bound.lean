import FlatRecord.Proofs.Binding.Effects
import FlatRecord.Proofs.Generation.KeptValues
import FlatRecord.Proofs.Generation.Loaded
import FlatRecord.Proofs.Rendering.Interpreter

/-!
# Documents bound to generated records

An instance of the class of a descriptor holds the values that the descriptor reads off a document, once
the document has been bound to it.
-/

namespace FlatRecord

open FlatRecord.Execution

/-- Names of members are not hidden. -/
theorem Naming.IsMember.isHidden_eq {name : String} (member : IsMember name) :
    RecordClass.isHidden name = false :=
  decide_eq_false member.shown

namespace Descriptor

variable {d : Descriptor}

/-- Declared names can stand in source text. -/
theorem IsValid.isName (valid : d.IsValid) (clean : d.IsClean) {f : FieldSpec} (mem : f ∈ d.fields) :
    Script.IsName f.name :=
  (valid.fields f mem).named.isName (clean.fields f mem)

/-- Members of one sort have different names. -/
private theorem IsValid.nodup_map (valid : d.IsValid) {name : FieldSpec → String}
    (member : ∀ f, name f ∈ Submission.memberNames f) : (d.fields.map name).Nodup := by
  have apart := (List.nodup_flatMap.1 valid.members).2
  refine List.pairwise_map.2 (apart.imp fun disjoint same => ?_)
  exact disjoint (member _) (same ▸ member _)

/-- Fields are kept under different attributes. -/
theorem IsValid.nodup_attributeName (valid : d.IsValid) :
    (d.fields.map FieldSpec.attributeName).Nodup :=
  valid.nodup_map fun _ => .head _

/-- Fields have different names. -/
theorem IsValid.nodup_name (valid : d.IsValid) :
    (d.fields.map FieldSpec.name).Nodup := by
  refine List.Nodup.of_map Naming.attributeName ?_
  rw [List.map_map]
  exact valid.nodup_attributeName

/-- Fields have different setters. -/
theorem IsValid.nodup_setterName (valid : d.IsValid) : (d.fields.map FieldSpec.setterName).Nodup :=
  valid.nodup_map fun _ => by simp [Submission.memberNames]

/-- An entry gives at most one field a value: no two fields have the same setter. -/
theorem IsValid.given?_eq_none (valid : d.IsValid) {f g : FieldSpec} (mem : f ∈ d.fields)
    (among : g ∈ d.fields) (other : g ≠ f) {key : String} (leads : Naming.setterName key = f.setterName)
    (v : Datum) : g.given? (.text key, v) = none := by
  cases given : g.given? (.text key, v) with
  | none => rfl
  | some w =>
    obtain ⟨key', same, -, leads'⟩ := FieldSpec.setterName_of_given? given
    obtain rfl : key = key' := by simpa using same
    exact absurd (List.inj_on_of_nodup_map valid.nodup_setterName among mem
      (leads'.symm.trans leads)) other

/-- The values of all fields under a document, by their attributes. -/
def held (d : Descriptor) (document : Document) : List (String × Datum) :=
  d.fields.map fun f => (f.attributeName, f.value document)

theorem IsValid.lookup_held (valid : d.IsValid) {f : FieldSpec} (mem : f ∈ d.fields)
    (document : Document) : (d.held document).lookup f.attributeName = some (f.value document) := by
  have distinct : ((d.held document).map Prod.fst).Nodup := by
    rw [held, List.map_map]
    exact valid.nodup_attributeName
  exact lookup_eq_some distinct (List.mem_map_of_mem mem)

/-- The class of a descriptor knows the field of an attribute. -/
theorem IsValid.field?_record (valid : d.IsValid) {f : FieldSpec} (mem : f ∈ d.fields) :
    d.record.field? f.attributeName = some (Generation.fieldOf f.planned) := by
  show ((d.fields.map FieldSpec.planned).map Generation.fieldOf).find? _ = _
  rw [List.map_map, List.find?_map, ← Option.map_some]
  exact congrArg _ (find?_eq_some valid.nodup_attributeName mem)

end Descriptor

/-- A value in the attribute of one field. -/
theorem putValue_map {fields : List FieldSpec} (distinct : (fields.map FieldSpec.attributeName).Nodup)
    {f : FieldSpec} (mem : f ∈ fields) (before after : FieldSpec → Datum)
    (others : ∀ h ∈ fields, h ≠ f → after h = before h) :
    Instance.putValue f.attributeName (after f) (fields.map fun h => (h.attributeName, before h)) =
      fields.map fun h => (h.attributeName, after h) := by
  induction fields with
  | nil => exact absurd mem List.not_mem_nil
  | cons g fields ih =>
    obtain ⟨fresh, distinct⟩ := List.nodup_cons.1 distinct
    rw [List.map_cons, List.map_cons, Instance.putValue]
    by_cases same : g.attributeName = f.attributeName
    · obtain rfl : f = g := by
        refine (List.mem_cons.1 mem).resolve_right fun among => fresh ?_
        rw [same]
        exact List.mem_map_of_mem among
      rw [if_pos rfl]
      refine congrArg _ (List.map_congr_left fun h among => ?_)
      have other : h ≠ f := by
        rintro rfl
        exact fresh (List.mem_map_of_mem among)
      rw [others h (.tail _ among) other]
    · have other : g ≠ f := by
        rintro rfl
        exact same rfl
      have among := (List.mem_cons.1 mem).resolve_left (Ne.symm other)
      rw [if_neg same, others g (.head _) other,
        ih distinct among fun h mem => others h (.tail _ mem)]

/-- The setter of a name is that of the field whose setter has the name. -/
theorem Descriptor.setter?_eq (d : Descriptor) {a : Artifact}
    (setters : a.setters = d.planned.fields.map Generation.setterOf) (name : String) :
    a.setter? name =
      (d.fields.find? fun f => f.setterName = name).map fun f => Generation.setterOf f.planned := by
  unfold Artifact.setter?
  rw [setters, Descriptor.planned, List.map_map, List.find?_map]
  rfl

section Binding

variable {d : Descriptor} (valid : d.IsValid) (clean : d.IsClean)
include valid clean

/-- The class of a descriptor has instances unless its name hides what its constructor calls, or some
default is a date-time whose offset has seconds. A new instance holds what the empty document gives. -/
theorem Descriptor.IsValid.toOption_instantiate {a : Artifact} (made : a.record = d.record)
    (identity : Nat) : (a.instantiate identity).toOption =
      if d.typeName ≠ "super" ∧ ∀ f ∈ d.fields, f.initial.hasMinuteOffset then
        some ⟨identity, a.serial, d.record, d.held []⟩
      else none := by
  have sound : ∀ f ∈ d.planned.fields, f.default = .null ∨ f.kind.Gives f.default := by
    intro f mem
    obtain ⟨f, among, rfl⟩ := List.mem_map.1 mem
    exact (valid.fields f among).initial_gives
  have constructed := Generation.construct_recordOf d.space (valid.planned_isSound clean) sound
  have minutes : (∀ f ∈ d.planned.fields, f.default.hasMinuteOffset) ↔
      ∀ f ∈ d.fields, f.initial.hasMinuteOffset := List.forall_mem_map
  have fresh : d.planned.fields.map (fun f => (f.attributeName, f.default)) = d.held [] :=
    List.map_map
  rw [fresh, show (Generation.recordOf d.planned d.space).construct = d.record.construct from rfl]
    at constructed
  have whole : (a.instantiate identity).toOption =
      d.record.construct.toOption.map fun values => ⟨identity, a.serial, d.record, values⟩ := by
    unfold Artifact.instantiate
    rw [made]
    cases d.record.construct <;> rfl
  rw [whole, constructed]
  by_cases kept : d.typeName ≠ "super" ∧ ∀ f ∈ d.fields, f.initial.hasMinuteOffset
  · rw [if_pos kept, if_pos ⟨kept.1, minutes.2 kept.2⟩]
    rfl
  · rw [if_neg kept, if_neg fun other => kept ⟨other.1, minutes.1 other.2⟩]
    rfl

/-- A new instance of the class of a descriptor holds what the empty document gives. -/
theorem Descriptor.IsValid.instantiate_eq_ok {a : Artifact} (made : a.record = d.record)
    {identity : Nat} {i : Instance} (created : a.instantiate identity = .ok i) :
    (d.typeName ≠ "super" ∧ ∀ f ∈ d.fields, f.initial.hasMinuteOffset) ∧
      i = ⟨identity, a.serial, d.record, d.held []⟩ := by
  have whole := valid.toOption_instantiate clean made identity
  rw [created] at whole
  split at whole
  · rename_i kept
    exact ⟨kept, Option.some.inj whole⟩
  · cases whole

/-- What a field of a generated record keeps for a value that is stored in it. -/
theorem Descriptor.IsValid.toOption_keeps {f : FieldSpec} (mem : f ∈ d.fields) (v : Datum) :
    (d.record.keeps f.attributeName v).toOption =
      ((Generation.fieldShape f.planned).accept v).toOption := by
  have shown : RecordClass.isHidden f.attributeName = false :=
    (Naming.isMember_attributeName (valid.isName clean mem)).isHidden_eq
  have checks : d.record.checksAssignment = true := rfl
  unfold RecordClass.keeps
  rw [shown, checks, valid.field?_record mem, if_neg Bool.false_ne_true]
  exact toOption_mapError _ _

/-- The setter of a field takes the values that the field is given by entries that lead to it. -/
theorem Descriptor.IsValid.toOption_effect_setterOf {f : FieldSpec} (mem : f ∈ d.fields) {key : String}
    (filled : key.isEmpty = false) (leads : Naming.setterName key = f.setterName) (v : Datum) :
    ((Generation.setterOf f.planned).effect d.record v).toOption =
      (f.given? (.text key, v)).map fun w => some (f.attributeName, w) := by
  have stored (w : Datum) : (((d.record.keeps f.attributeName w).map fun u =>
      some (f.attributeName, u)).mapError SkipReason.refused).toOption =
        ((Generation.fieldShape f.planned).accept w).toOption.map fun u =>
          some (f.attributeName, u) := by
    rw [toOption_mapError, ← valid.toOption_keeps clean mem]
    cases d.record.keeps f.attributeName w <;> rfl
  by_cases null : v = .null
  · subst null
    refine (stored .null).trans ?_
    rw [Generation.accept_null, FieldSpec.given?_null filled leads]
    rfl
  · have converted : Binding.convert (Generation.setterOf f.planned) v =
        (f.kind.carrier.coerce v).mapError (SkipReason.unconvertible f.kind.carrier) := by
      cases v with
      | null => exact absurd rfl null
      | _ => rfl
    unfold Setter.effect
    rw [converted, FieldSpec.given?_of_ne_null filled leads null, Kind.coerce]
    cases coerced : f.kind.carrier.coerce v with
    | error fault => rfl
    | ok w =>
      have kept := Generation.accept_of_holds f.planned (Carrier.coerce_holds coerced)
      exact (stored w).trans (congrArg _ kept)

/-- What an entry comes to: it writes the value that it gives some field, or it gives no field a value and
is skipped. -/
theorem Descriptor.IsValid.effect_cases {a : Artifact}
    (setters : a.setters = d.planned.fields.map Generation.setterOf) (entry : Datum × Datum) :
    (∃ f ∈ d.fields, ∃ v, f.given? entry = some v ∧ (∀ g ∈ d.fields, g ≠ f → g.given? entry = none) ∧
      a.effect d.record entry = .ok (some (f.attributeName, v))) ∨
    ((∀ f ∈ d.fields, f.given? entry = none) ∧ ∃ reason, a.effect d.record entry = .error reason) := by
  obtain ⟨key, v⟩ := entry
  cases key with
  | text key =>
    cases filled : key.isEmpty with
    | true =>
      refine .inr ⟨fun f _ => ?_, .notText, if_pos filled⟩
      unfold FieldSpec.given?
      simp [filled]
    | false =>
      unfold Artifact.effect
      dsimp only
      rw [filled, d.setter?_eq setters, if_neg Bool.false_ne_true]
      cases found : d.fields.find? fun f => f.setterName = Naming.setterName key with
      | none =>
        refine .inr ⟨fun f mem => ?_, .noSetter, rfl⟩
        have other := List.find?_eq_none.1 found f mem
        unfold FieldSpec.given?
        simp only [decide_eq_true_eq] at other
        simp [Ne.symm other]
      | some f =>
        have mem := List.mem_of_find?_eq_some found
        have leads : Naming.setterName key = f.setterName := by
          simpa [eq_comm] using List.find?_some found
        have others (g : FieldSpec) (among : g ∈ d.fields) (other : g ≠ f) :=
          valid.given?_eq_none mem among other leads v
        have takes := valid.toOption_effect_setterOf clean mem filled leads v
        rw [Option.map_some]
        dsimp only
        cases does : (Generation.setterOf f.planned).effect d.record v with
        | ok written =>
          rw [does] at takes
          obtain ⟨w, given, rfl⟩ := Option.map_eq_some_iff.1 takes.symm
          exact .inl ⟨f, mem, w, given, others, rfl⟩
        | error reason =>
          rw [does] at takes
          refine .inr ⟨fun g among => ?_, reason, rfl⟩
          by_cases same : g = f
          · exact same ▸ Option.map_eq_none_iff.1 takes.symm
          · exact others g among same
  | _ => exact .inr ⟨fun _ _ => rfl, .notText, rfl⟩

/-- An entry is not skipped if it gives some field a value. -/
theorem Descriptor.IsValid.isNone_skipReason? {a : Artifact}
    (setters : a.setters = d.planned.fields.map Generation.setterOf) (entry : Datum × Datum) :
    (a.skipReason? d.record entry).isNone = d.takes entry := by
  unfold Artifact.skipReason?
  obtain ⟨f, mem, v, given, -, does⟩ | ⟨none, reason, skipped⟩ := valid.effect_cases clean setters entry
  · rw [does]
    exact (List.any_eq_true.2 ⟨f, mem, by rw [given]; rfl⟩).symm
  · rw [skipped]
    refine (List.any_eq_false.2 fun f mem => ?_).symm
    simp [none f mem]

/-- An instance that holds what a document gives goes on with what one more entry gives. -/
theorem Descriptor.IsValid.write_held {a : Artifact}
    (setters : a.setters = d.planned.fields.map Generation.setterOf) {i : Instance}
    {document : Document} (holds : i.values = d.held document) (entry : Datum × Datum) :
    i.write (a.written? d.record entry).toList =
      { i with values := d.held (document ++ [entry]) } := by
  unfold Artifact.written?
  obtain ⟨f, mem, v, given, others, does⟩ | ⟨none, reason, skipped⟩ :=
    valid.effect_cases clean setters entry
  · have stored : Instance.putValue f.attributeName v (d.held document) =
        d.held (document ++ [entry]) := by
      have here : f.value (document ++ [entry]) = v := by
        rw [FieldSpec.value_concat, given, Option.getD_some]
      rw [← here]
      refine putValue_map valid.nodup_attributeName mem (fun g => g.value document)
        (fun g => g.value (document ++ [entry])) fun g among other => ?_
      rw [FieldSpec.value_concat, others g among other, Option.getD_none]
    rw [does]
    show i.poke f.attributeName v = _
    rw [Instance.poke, holds, stored]
  · have same : d.held (document ++ [entry]) = d.held document := by
      refine List.map_congr_left fun f mem => ?_
      rw [FieldSpec.value_concat, none f mem, Option.getD_none]
    rw [skipped, same, ← holds]
    rfl

/-- Binding a document to an instance that holds what an earlier document gives. -/
theorem Descriptor.IsValid.bind_held {a : Artifact}
    (setters : a.setters = d.planned.fields.map Generation.setterOf) {i : Instance}
    (made : i.record = d.record) {earlier : Document} (holds : i.values = d.held earlier)
    (document : Document) :
    (a.bind i document).1 = { i with values := d.held (earlier ++ document) } ∧
      boundKeys (a.bind i document).2 = (document.filter d.takes).map Prod.fst := by
  have written : i.write (a.writes d.record document) =
      { i with values := d.held (earlier ++ document) } := by
    induction document using List.reverseRecOn with
    | nil =>
      rw [List.append_nil, ← holds]
      rfl
    | append_singleton document entry ih =>
      rw [Artifact.writes_append, Instance.write_append, ih, ← List.append_assoc]
      exact valid.write_held clean setters (i := { i with values := d.held (earlier ++ document) }) rfl
        entry
  constructor
  · rw [a.bind_eq i document, ← written, made]
  · rw [a.boundKeys_bind i document, made]
    simp only [valid.isNone_skipReason? clean setters]

end Binding

end FlatRecord
