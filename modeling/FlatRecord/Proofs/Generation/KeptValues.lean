import FlatRecord.Proofs.Calendar.StampText
import FlatRecord.Proofs.Generation.Setters
import FlatRecord.Proofs.Number.ExactOrder
import FlatRecord.Record.Instance

/-!
# Values that generated fields keep

A field of a generated class keeps a value of its carrier as it is, if the value is within the bounds
of the kind, and refuses it otherwise. It refuses null exactly if it is required. A default that is
written as text is read as the same value, except that the field refuses a date-time whose offset has
seconds. So a class has instances, which hold the defaults, unless it has such a default.
-/

namespace FlatRecord

open FlatRecord.Calendar FlatRecord.Number FlatRecord.Execution

/-- Whether a value is anything but a date-time whose offset has seconds. -/
def Datum.hasMinuteOffset : Datum → Bool
  | .dateTime t => t.hasMinuteOffset
  | _ => true

/-- Null is a value of no carrier. -/
theorem Carrier.not_holds_null (c : Carrier) : ¬ c.Holds .null := by
  cases c <;> exact id

namespace Acceptance

/-- Integers are compared by value. -/
theorem less_int (m n : Int) : less (.int m) (.int n) = decide (m < n) := Exact.less_ofInt m n

/-- A value of a carrier is accepted as it is. -/
theorem carrier_of_holds {c : Carrier} {v : Datum} (holds : c.Holds v) : carrier c v = .ok v := by
  cases c with
  | decimal =>
    cases v with
    | decimal d => exact if_pos holds
    | _ => exact absurd holds id
  | _ =>
    cases v <;> first
      | rfl
      | exact absurd holds id

/-- No carrier has null. -/
theorem carrier_null (c : Carrier) : ∃ objection, carrier c .null = .error objection := by
  cases c <;> exact ⟨_, rfl⟩

/-- The text of a date stands for the date. -/
theorem date_isoText (d : Date) : date (.text (String.ofList d.isoText)) = .ok (.date d) := by
  simp only [date, textOf?, readStampDate_isoText]

/-- The text of a date-time stands for the date-time, unless its offset has seconds. -/
theorem dateTime_isoText (t : DateTime) : dateTime (.text (String.ofList t.isoText)) =
    if t.hasMinuteOffset then .ok (.dateTime t) else .error (.dateTimeText .trailing) := by
  simp only [dateTime, textOf?, readStampDate_dateTime, readStampMoment_isoText]
  cases t.hasMinuteOffset <;> rfl

/-- The text of a decimal number within the limits stands for the number. -/
theorem decimal_text {d : Decimal} (within : d.InRange) :
    decimal (.text d.string) = .ok (.decimal d) := by
  simp only [decimal, Decimal.string, String.toList_ofList, decimalOfText,
    Decimal.read_text_of_inRange within]
  exact if_pos within.isFinite

/-- The bounds of a kind are those that coercion checks. -/
theorem within_kindLimits (kind : Kind) (v : Datum) (holds : kind.carrier.Holds v) :
    (within (Generation.kindLimits kind) v).toOption = (kind.checkBounds v).toOption := by
  unfold Generation.kindLimits Kind.checkBounds
  cases bounds : kind.bounds? with
  | none => rfl
  | some range =>
    obtain ⟨low, high⟩ := range
    rw [Generation.carrier_of_bounds bounds] at holds
    cases v with
    | int n =>
      dsimp only
      unfold within keep
      simp only [less_int]
      by_cases low_le : n < low
      · by_cases le_high : high < n <;> simp [low_le, le_high, bind, Except.bind, Except.toOption]
      · by_cases le_high : high < n <;>
          simp [low_le, le_high, bind, Except.bind, Except.toOption, pure, Except.pure]
    | _ => exact absurd holds id

end Acceptance

namespace Generation

variable (f : FieldPlan)

/-- A field accepts what its carrier accepts, within the bounds of its kind. -/
theorem accept_fieldShape {v : Datum} (given : v ≠ .null) :
    (fieldShape f).accept v =
      Acceptance.carrier f.kind.carrier v >>= Acceptance.within (kindLimits f.kind) := by
  unfold fieldShape
  cases f.required with
  | true => rfl
  | false =>
    cases v with
    | null => exact absurd rfl given
    | _ => rfl

/-- A field keeps a value of its carrier as it is, if that is within the bounds of its kind. -/
theorem accept_of_holds {v : Datum} (holds : f.kind.carrier.Holds v) :
    ((fieldShape f).accept v).toOption = (f.kind.checkBounds v).toOption := by
  have given : v ≠ .null := by
    rintro rfl
    exact Carrier.not_holds_null _ holds
  rw [accept_fieldShape f given, Acceptance.carrier_of_holds holds, ok_bind,
    Acceptance.within_kindLimits _ _ holds]

/-- A field keeps what its kind gives as it is. -/
theorem accept_of_gives {v : Datum} (gives : f.kind.Gives v) : (fieldShape f).accept v = .ok v := by
  obtain ⟨-, checked⟩ := gives.exists_converted
  rw [← toOption_eq_some, accept_of_holds f gives.holds.carried, checked]
  rfl

/-- A field refuses null exactly if it is required. -/
theorem accept_null :
    ((fieldShape f).accept .null).toOption = if f.required then none else some .null := by
  unfold fieldShape
  cases f.required with
  | true =>
    obtain ⟨objection, refused⟩ := Acceptance.carrier_null f.kind.carrier
    show (Acceptance.carrier f.kind.carrier .null >>= _).toOption = _
    rw [refused]
    rfl
  | false => rfl

/-- A default that is written as text is accepted as itself, unless it is a date-time whose offset has
seconds. -/
theorem accept_defaultLiteral (gives : f.kind.Gives f.default)
    (written : isTextDefault f.default f.kind) :
    ((fieldShape f).accept (defaultLiteral f.default)).toOption =
      if f.default.hasMinuteOffset then some f.default else none := by
  have given : defaultLiteral f.default ≠ .null := by
    cases default : f.default <;> simp [defaultLiteral]
    simp [default, isTextDefault] at written
  rw [accept_fieldShape f given]
  have carried := gives.holds.carried
  obtain ⟨name, kind, required, default⟩ := f
  cases kind with
  | date =>
    cases default with
    | date d =>
      have read : Acceptance.carrier Kind.date.carrier (defaultLiteral (.date d)) = .ok (.date d) :=
        Acceptance.date_isoText d
      rw [read]
      rfl
    | _ => exact absurd carried id
  | dateTime =>
    cases default with
    | dateTime t =>
      have read : Acceptance.carrier Kind.dateTime.carrier (defaultLiteral (.dateTime t)) =
          if t.hasMinuteOffset then .ok (.dateTime t) else .error (.dateTimeText .trailing) :=
        Acceptance.dateTime_isoText t
      rw [read, Datum.hasMinuteOffset]
      split <;> rfl
    | _ => exact absurd carried id
  | decimal =>
    cases default with
    | decimal d =>
      have read : Acceptance.carrier Kind.decimal.carrier (defaultLiteral (.decimal d)) =
          .ok (.decimal d) := Acceptance.decimal_text gives.inRange
      rw [read]
      rfl
    | _ => exact absurd carried id
  | _ => cases default <;> simp [isTextDefault] at written

/-- What a field starts with is its default, unless the field refuses that: a date-time whose offset has
seconds. -/
theorem initialValue_fieldOf (sound : f.default = .null ∨ f.kind.Gives f.default) :
    ∃ start, RecordClass.initialValue (fieldOf f) = .ok start ∧
      start.toOption = if f.default.hasMinuteOffset then some f.default else none := by
  cases written : isTextDefault f.default f.kind with
  | true =>
    have gives : f.kind.Gives f.default := by
      refine sound.resolve_left fun none => ?_
      simp [none, isTextDefault] at written
    refine ⟨((fieldShape f).accept (defaultLiteral f.default)).mapError fun objection =>
      ⟨Naming.attributeName f.name, objection, defaultLiteral f.default⟩, ?_,
      (toOption_mapError _ _).trans (accept_defaultLiteral f gives written)⟩
    have checks : (fieldOf f).checksDefault = true := written
    show (if (fieldOf f).checksDefault then _ else _) = _
    rw [if_pos checks]
    rfl
  | false =>
    refine ⟨.ok (defaultLiteral f.default), ?_, ?_⟩
    · have unchecked : (fieldOf f).checksDefault = false := written
      show (if (fieldOf f).checksDefault then _ else _) = _
      rw [unchecked]
      rfl
    · obtain ⟨name, kind, required, default⟩ := f
      obtain none | gives := sound
      · rw [show default = .null from none]
        rfl
      · have carried := gives.holds.carried
        cases kind <;> cases default <;> first
          | rfl
          | exact absurd carried id
          | simp [isTextDefault] at written

/-- If no field refuses what it starts with, every field starts with its default. -/
private theorem initialValues_of_defaults {fields : List FieldPlan}
    (sound : ∀ f ∈ fields, f.default = .null ∨ f.kind.Gives f.default) :
    ∃ starts, (fields.map fieldOf).mapM (fun f => (RecordClass.initialValue f).map fun start =>
        (f, start)) = .ok starts ∧
      (RecordClass.initialComplaints starts = [] ↔ ∀ f ∈ fields, f.default.hasMinuteOffset) ∧
      (RecordClass.initialComplaints starts = [] → RecordClass.initialValues starts =
        fields.map fun f => (f.attributeName, f.default)) := by
  induction fields with
  | nil => exact ⟨[], rfl, by simp [RecordClass.initialComplaints], fun _ => rfl⟩
  | cons f fields ih =>
    obtain ⟨first, others⟩ := List.forall_mem_cons.1 sound
    obtain ⟨start, started, kept⟩ := initialValue_fieldOf f first
    obtain ⟨starts, rest, calm_iff, values⟩ := ih others
    refine ⟨(fieldOf f, start) :: starts, ?_, ?_, fun calm => ?_⟩
    · rw [List.map_cons, List.mapM_cons, started, rest]
      rfl
    · rw [List.forall_mem_cons, ← calm_iff]
      cases start with
      | error complaint =>
        cases minutes : f.default.hasMinuteOffset with
        | true => simp [minutes, Except.toOption] at kept
        | false => simp [RecordClass.initialComplaints]
      | ok v =>
        cases minutes : f.default.hasMinuteOffset with
        | true => simp [RecordClass.initialComplaints]
        | false => simp [minutes, Except.toOption] at kept
    · cases start with
      | error complaint => simp [RecordClass.initialComplaints] at calm
      | ok v =>
        have same : v = f.default := by
          split at kept
          · exact Option.some.inj kept
          · cases kept
        subst same
        exact congrArg (List.cons (f.attributeName, f.default)) (values calm)

/-- A generated class has instances unless its name hides what its constructor calls, or some default is
a date-time whose offset has seconds. A new instance holds the defaults of its fields. -/
theorem construct_recordOf {plan : RecordPlan} (space : String) (known : plan.IsSound)
    (sound : ∀ f ∈ plan.fields, f.default = .null ∨ f.kind.Gives f.default) :
    (recordOf plan space).construct.toOption =
      if plan.typeName ≠ "super" ∧ ∀ f ∈ plan.fields, f.default.hasMinuteOffset then
        some (plan.fields.map fun f => (f.attributeName, f.default))
      else none := by
  obtain ⟨starts, started, calm_iff, kept⟩ := initialValues_of_defaults sound
  have constructor : ((recordOf plan space).method? RecordClass.constructorName).isSome = true :=
    Option.isSome_of_eq_some (method?_recordOf (m := constructorMethod) known (.head _) space)
  have resolved : (recordOf plan space).unresolved = none := rfl
  have named : (recordOf plan space).name = plan.typeName := rfl
  have fields : (recordOf plan space).fields = plan.fields.map fieldOf := rfl
  unfold RecordClass.construct
  rw [resolved, fields, named, constructor, started]
  by_cases caught : plan.typeName = "super"
  · simp [caught, Except.toOption]
  simp only [caught, decide_false, Bool.false_and, Bool.false_eq_true, if_false, ne_eq,
    not_false_eq_true, true_and, ok_bind]
  cases complaints : RecordClass.initialComplaints starts with
  | nil =>
    rw [if_pos (calm_iff.1 complaints), ← kept complaints]
    rfl
  | cons complaint others =>
    have refused : ¬ ∀ f ∈ plan.fields, f.default.hasMinuteOffset := by simp [← calm_iff, complaints]
    rw [if_neg refused]
    rfl

end Generation

end FlatRecord
