import FlatRecord.Proofs.Generation.KeptValues
import FlatRecord.Proofs.Record.StoredValues

/-!
# Accepted values

Whatever a field accepts, it keeps a value of its carrier, and it accepts what it keeps as it is. So storing a
value that an attribute has been found to keep changes nothing any more.
-/

namespace FlatRecord

namespace Acceptance

/-- A result of acceptance: an objection, or a value of the carrier. -/
def Gives (c : Carrier) (result : Except Objection Datum) : Prop :=
  ∀ w, result = .ok w → c.Holds w

section Gives

variable {c : Carrier}

theorem gives_ok {w : Datum} (holds : c.Holds w) : Gives c (.ok w) := by
  intro w' same
  rwa [← Except.ok.inj same]

theorem gives_error (objection : Objection) : Gives c (.error objection) := by
  intro w other
  cases other

theorem gives_map_int (result : Except Objection Int) : Gives .integer (result.map .int) := by
  cases result with
  | ok n => exact gives_ok trivial
  | error objection => exact gives_error objection

theorem gives_integerOfText (s : String) : Gives .integer (integerOfText s) := by
  unfold integerOfText
  dsimp only
  split
  · exact gives_error _
  · split
    · exact gives_error _
    · exact gives_ok trivial

theorem gives_booleanOfInteger (n : Int) : Gives .boolean (booleanOfInteger n) := by
  unfold booleanOfInteger
  split
  · exact gives_ok trivial
  · split
    · exact gives_ok trivial
    · exact gives_error _

theorem gives_dayOf (t : Calendar.DateTime) : Gives .date (dayOf t) := by
  unfold dayOf
  split
  · exact gives_ok trivial
  · exact gives_error _

theorem gives_finiteDecimal (d : Number.Decimal) : Gives .decimal (finiteDecimal d) := by
  unfold finiteDecimal
  split
  · rename_i finite
    exact gives_ok finite
  · exact gives_error _

theorem gives_decimalOfText (cs : List Char) : Gives .decimal (decimalOfText cs) := by
  unfold decimalOfText
  split
  · exact gives_finiteDecimal _
  · exact gives_error _

/-- Acceptance ends in a value of the carrier, whatever it starts from. -/
theorem gives_carrier (c : Carrier) (v : Datum) : Gives c (carrier c v) := by
  cases c with
  | text =>
    show Gives .text (text v)
    unfold text
    repeat' split
    all_goals first | exact gives_ok trivial | exact gives_error _
  | integer =>
    show Gives .integer (integer v)
    unfold integer
    repeat' split
    all_goals first
      | exact gives_map_int _
      | exact gives_integerOfText _
      | exact gives_ok trivial
      | exact gives_error _
  | float =>
    show Gives .float (number v)
    unfold number
    repeat' split
    all_goals first | exact gives_ok trivial | exact gives_error _
  | boolean =>
    show Gives .boolean (boolean v)
    unfold boolean
    repeat' split
    all_goals first
      | exact gives_booleanOfInteger _
      | exact gives_ok trivial
      | exact gives_error _
  | date =>
    show Gives .date (date v)
    unfold date
    repeat' split
    all_goals first
      | exact gives_dayOf _
      | exact gives_ok trivial
      | exact gives_error _
  | dateTime =>
    show Gives .dateTime (dateTime v)
    unfold dateTime
    repeat' split
    all_goals first | exact gives_ok trivial | exact gives_error _
  | decimal =>
    show Gives .decimal (decimal v)
    unfold decimal
    split
    · exact gives_finiteDecimal _
    · exact gives_decimalOfText _
    · exact gives_decimalOfText _
    · exact gives_decimalOfText _
    · exact gives_error _

end Gives

/-- Bounds let a value pass as it is. -/
theorem within_eq_ok {limits : Limits} {v w : Datum} (passes : within limits v = .ok w) : w = v := by
  unfold within at passes
  obtain ⟨_, -, passes⟩ := bind_eq_ok.1 passes
  obtain ⟨_, -, passes⟩ := bind_eq_ok.1 passes
  obtain ⟨_, -, passes⟩ := bind_eq_ok.1 passes
  obtain ⟨_, -, passes⟩ := bind_eq_ok.1 passes
  exact (Except.ok.inj passes).symm

end Acceptance

theorem Shape.accept_nullable {inner : Shape} {v : Datum} (given : v ≠ .null) :
    (Shape.nullable inner).accept v = inner.accept v := by
  cases v with
  | null => exact absurd rfl given
  | _ => rfl

/-- What a field of a generated class accepts is null or a value of its carrier. -/
theorem Generation.kept_of_accept (f : FieldPlan) {v w : Datum}
    (accepted : (fieldShape f).accept v = .ok w) : w = .null ∨ f.kind.carrier.Holds w := by
  by_cases given : v = .null
  · subst given
    have null := accept_null f
    rw [accepted] at null
    split at null
    · cases null
    · exact .inl (Option.some.inj null)
  · rw [accept_fieldShape f given] at accepted
    obtain ⟨u, carried, passes⟩ := bind_eq_ok.1 accepted
    obtain rfl := Acceptance.within_eq_ok passes
    exact .inr (Acceptance.gives_carrier _ _ _ carried)

/-- A field accepts what it keeps, as it is. -/
theorem Shape.accept_idem {shape : Shape} {v w : Datum} (accepted : shape.accept v = .ok w) :
    shape.accept w = .ok w := by
  induction shape with
  | anything => rfl
  | null =>
    cases v with
    | null =>
      obtain rfl : Datum.null = w := Except.ok.inj accepted
      rfl
    | _ => cases accepted
  | scalar carrier limits =>
    obtain ⟨u, carried, passes⟩ := bind_eq_ok.1 accepted
    obtain rfl := Acceptance.within_eq_ok passes
    have holds := Acceptance.gives_carrier carrier v w carried
    show (Acceptance.carrier carrier w >>= Acceptance.within limits) = .ok w
    rw [Acceptance.carrier_of_holds holds]
    exact passes
  | nullable inner ih =>
    by_cases given : v = .null
    · subst given
      obtain rfl : Datum.null = w := Except.ok.inj accepted
      rfl
    · rw [accept_nullable given] at accepted
      by_cases kept : w = .null
      · subst kept
        rfl
      · rw [accept_nullable kept]
        exact ih accepted

/-- A class keeps what it keeps for another value as it is. -/
theorem RecordClass.keeps_idem {c : RecordClass} {name : String} {v w : Datum}
    (kept : c.keeps name v = .ok w) : c.keeps name w = .ok w := by
  unfold keeps at kept ⊢
  by_cases hidden : isHidden name = true
  · rw [if_pos hidden]
  · rw [if_neg hidden] at kept ⊢
    cases checks : c.checksAssignment with
    | false =>
      rw [checks] at kept
      cases found : c.field? name with
      | none =>
        rw [found] at kept
        cases kept
      | some f => rfl
    | true =>
      rw [checks] at kept
      cases found : c.field? name with
      | none =>
        rw [found] at kept
        cases kept
      | some f =>
        rw [found] at kept
        have accepted : f.shape.accept v = .ok w := by
          rw [← toOption_eq_some, ← toOption_mapError, toOption_eq_some]
          exact kept
        dsimp only
        rw [Shape.accept_idem accepted]
        rfl

namespace Instance

variable {i j : Instance} {name : String} {v : Datum}

/-- What storing a value comes to, if the class does not refuse it: the value that is kept is in the attribute,
and storing that value again changes nothing. -/
theorem exists_of_store (stored : i.store name v = .ok j) :
    ∃ w, i.record.keeps name v = .ok w ∧ j = i.poke name w ∧ j.store name w = .ok j := by
  rw [store_eq] at stored
  obtain ⟨w, kept, rfl⟩ := map_eq_ok.1 stored
  refine ⟨w, kept, rfl, ?_⟩
  have holds : (i.poke name w).value name = .ok w := (value_poke name).trans (if_pos rfl)
  rw [store_eq, record_poke, RecordClass.keeps_idem kept]
  exact congrArg Except.ok (poke_of_value holds)

end Instance

end FlatRecord
