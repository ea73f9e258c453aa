import FlatRecord.Proofs.Cache.Session
import FlatRecord.Record.Instance

/-!
# Stored values

Whether a value may be stored in an attribute, and what is kept for it, is decided by the class alone, before
anything is written: what the instance holds makes no difference. What is kept is then written into the
attribute, and all other attributes have the values they had.
-/

namespace FlatRecord

/-- What the instances of a class keep in an attribute for a value that is stored there. -/
def RecordClass.keeps (c : RecordClass) (name : String) (v : Datum) : Except CallFault Datum :=
  if isHidden name then .ok v
  else
    match c.checksAssignment, c.field? name with
    | true, some f => (f.shape.accept v).mapError fun objection =>
      .refused ⟨c.title, [⟨name, objection, v⟩]⟩
    | true, none => .error (.refused ⟨c.title, [⟨name, .unknownAttribute name, v⟩]⟩)
    | false, some _ => .ok v
    | false, none => .error (.unknownField c.name name)

namespace Instance

section Values

variable {values : List (String × Datum)} {name : String} {v : Datum}

/-- Values are put under the names of attributes as anything is put under a key. -/
theorem putValue_eq_putKey (name : String) (v : Datum) (values : List (String × Datum)) :
    putValue name v values = putKey name v values := by
  induction values with
  | nil => rfl
  | cons entry rest ih => rw [putValue, putKey, ih]

/-- An attribute has the value that has been put into it, and others have the values they had. -/
theorem lookup_putValue (other : String) : (putValue name v values).lookup other =
    if other = name then some v else values.lookup other := by
  rw [putValue_eq_putKey]
  exact lookup_putKey name v other values

/-- Putting in what is there already changes nothing. -/
theorem putValue_of_lookup (there : values.lookup name = some v) :
    putValue name v values = values := by
  induction values with
  | nil => cases there
  | cons entry rest ih =>
    obtain ⟨attr, old⟩ := entry
    rw [putValue]
    by_cases here : attr = name
    · subst here
      obtain rfl : old = v := by simpa using there
      exact if_pos rfl
    · have behind : rest.lookup name = some v := by
        rwa [List.lookup_cons, beq_false_of_ne (Ne.symm here)] at there
      rw [if_neg here, ih behind]

end Values

variable {i : Instance} {name : String} {v : Datum}

@[simp]
theorem record_poke : (i.poke name v).record = i.record := rfl

theorem lookup_poke (other : String) : (i.poke name v).values.lookup other =
    if other = name then some v else i.values.lookup other :=
  lookup_putValue other

@[simp]
theorem value_poke (other : String) :
    (i.poke name v).value other = if other = name then .ok v else i.value other := by
  unfold value
  rw [lookup_poke]
  by_cases same : other = name
  · rw [if_pos same, if_pos same]
  · rw [if_neg same, if_neg same]
    rfl

/-- Writing the value that an attribute has changes nothing. -/
theorem poke_of_value (there : i.value name = .ok v) : i.poke name v = i := by
  have found : i.values.lookup name = some v := by
    unfold value at there
    split at there
    · rename_i found
      rw [found, Except.ok.inj there]
    · cases there
  unfold poke
  rw [putValue_of_lookup found]

/-- Storing a value: the class decides what is kept for it, and that is written. -/
theorem store_eq (i : Instance) (name : String) (v : Datum) :
    i.store name v = (i.record.keeps name v).map (i.poke name) := by
  unfold store RecordClass.keeps
  by_cases hidden : RecordClass.isHidden name = true
  · rw [if_pos hidden, if_pos hidden]
    rfl
  · rw [if_neg hidden, if_neg hidden]
    cases i.record.checksAssignment with
    | false => cases i.record.field? name <;> rfl
    | true =>
      cases i.record.field? name with
      | none => rfl
      | some f =>
        dsimp only
        cases f.shape.accept v <;> rfl

/-- What the call of a method with a value comes to, if it does not fail: the method stores the value in an
attribute, or it does nothing. -/
theorem set_eq_ok {j : Instance} (called : i.set name v = .ok j) :
    j = i ∨ ∃ attr, i.store attr v = .ok j := by
  unfold set at called
  obtain ⟨m, -, called⟩ := bind_eq_ok.1 called
  by_cases few : (m.parameters.length != 2) = true
  · rw [if_pos few] at called
    cases called
  · rw [if_neg few] at called
    cases behaves : m.behaviour with
    | store attr =>
      rw [behaves] at called
      exact .inr ⟨attr, called⟩
    | _ =>
      rw [behaves] at called
      exact .inl (Except.ok.inj called).symm

end Instance

end FlatRecord
