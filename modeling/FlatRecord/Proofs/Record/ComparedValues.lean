import FlatRecord.Proofs.Scalar.Coerced
import FlatRecord.Record.Instance

/-!
# Compared values

Equality of two scalars looks at one thing in each of them: the exact value of a number, the instant of a
date-time with an offset, or else the value itself. Two scalars are equal if it is the same thing. So equality
is symmetric and transitive over values of all types, and as the hash code of a scalar depends on that thing
alone, equal scalars have the same hash code. Only a non-number has nothing to look at and equals nothing, not
even itself.
-/

namespace FlatRecord

open FlatRecord.Number FlatRecord.Calendar

/-- What equality looks at in a date-time: the time that it shows or, if it has an offset, its instant. -/
def Calendar.DateTime.moment (t : DateTime) : Int ⊕ Int :=
  match t.instant? with
  | some n => .inr n
  | none => .inl t.localMicroseconds

namespace Datum

/-- What equality looks at in a value. -/
inductive Essence where
  | null
  | number (x : Exact)
  | text (s : String)
  | date (d : Date)
  | dateTime (moment : Int ⊕ Int)

/-- What equality looks at in a scalar, if that equals anything at all. -/
def essence? : Datum → Option Essence
  | null => some .null
  | text s => some (.text s)
  | date d => some (.date d)
  | dateTime t => some (.dateTime t.moment)
  | v => v.exactValue?.bind fun x => if x = .nan then none else some (.number x)

/-- What the hash code of a number depends on. -/
def numberKey (x : Exact) : HashKey := (x.hashCode?.map .number).getD .nan

/-- What the hash code depends on, by what equality looks at. -/
def Essence.hashKey : Essence → HashKey
  | null => .null
  | number x => numberKey x
  | text s => if s.isEmpty then .number 0 else .text s
  | date d => .date d
  | dateTime (.inl n) => .wallTime n
  | dateTime (.inr n) => .instant n

/-- The scalars that are compared without a fault and have hash codes. -/
inductive IsQuietScalar : Datum → Prop where
  | null : IsQuietScalar null
  | text (s : String) : IsQuietScalar (text s)
  | date (d : Date) : IsQuietScalar (date d)
  | dateTime (t : DateTime) : IsQuietScalar (dateTime t)
  | number {v : Datum} {x : Exact} (exact : v.exactValue? = some x)
    (quiet : Instance.isSignalling v = false) : IsQuietScalar v

end Datum

/-- Values of a carrier are compared without a fault. -/
theorem Carrier.Holds.isQuietScalar {c : Carrier} {v : Datum} (holds : c.Holds v) : v.IsQuietScalar := by
  cases v with
  | bool | int | float => exact .number rfl rfl
  | text s => exact .text s
  | date d => exact .date d
  | dateTime t => exact .dateTime t
  | decimal d =>
    cases d with
    | finite => exact .number rfl rfl
    | _ => cases c <;> cases holds
  | _ => cases c <;> exact absurd holds id

/-- What fields keep is compared without a fault. -/
theorem Carrier.isQuietScalar {c : Carrier} {v : Datum} (kept : v = .null ∨ c.Holds v) :
    v.IsQuietScalar := by
  obtain rfl | holds := kept
  · exact .null
  · exact holds.isQuietScalar

theorem Number.Exact.agrees_iff {x y : Exact} : x.agrees y = true ↔ x ≠ .nan ∧ x = y := by
  cases x <;> cases y <;> simp [agrees]

/-- Date-times agree if the same moment is looked at. -/
theorem Calendar.DateTime.agrees_iff {s t : DateTime} : s.agrees t = true ↔ s.moment = t.moment := by
  unfold agrees moment
  cases s.instant? <;> cases t.instant? <;> simp

namespace Datum

section Numbers

variable {v : Datum} {x : Exact} (exact : v.exactValue? = some x)
include exact

theorem same_number (w : Datum) : v.same w = w.exactValue?.any x.agrees := by
  cases v with
  | bool | int | float | decimal =>
    obtain rfl := Option.some.inj exact
    rw [same]
    cases w.exactValue? <;> rfl
  | _ => cases exact

theorem essence?_number : v.essence? = if x = .nan then none else some (.number x) := by
  cases v with
  | bool | int | float | decimal =>
    obtain rfl := Option.some.inj exact
    rfl
  | _ => cases exact

theorem hashKey_number (quiet : Instance.isSignalling v = false) : v.hashKey = .ok (numberKey x) := by
  have coded (w : Datum) (number : w.exactValue? = some x) :
      (match w.exactValue?.bind Exact.hashCode? with
        | some code => (.ok (.number code) : Except Unhashable HashKey)
        | none => .ok .nan) = .ok (numberKey x) := by
    rw [number, Option.bind_some, numberKey]
    cases x.hashCode? <;> rfl
  cases v with
  | bool | int | float => exact coded _ exact
  | decimal d =>
    cases d with
    | nan negative signalling payload =>
      obtain rfl : signalling = false := by
        cases signalling
        · rfl
        · cases quiet
      exact coded _ exact
    | _ => exact coded _ exact
  | _ => cases exact

end Numbers

/-- Only numbers have the essence of a number. -/
theorem essence?_eq_number {w : Datum} {x : Exact} :
    w.essence? = some (.number x) ↔ x ≠ .nan ∧ w.exactValue? = some x := by
  cases number : w.exactValue? with
  | some y =>
    rw [essence?_number number]
    by_cases nan : y = .nan
    · rw [if_pos nan]
      simp only [reduceCtorEq, false_iff, not_and, Option.some.injEq]
      rintro other rfl
      exact other nan
    · rw [if_neg nan]
      simp only [Option.some.injEq, Essence.number.injEq]
      refine ⟨?_, And.right⟩
      rintro rfl
      exact ⟨nan, rfl⟩
  | none =>
    cases w <;> simp_all [essence?]

theorem HashKey.agrees_self {key : HashKey} (coded : key ≠ .nan) : key.agrees key = true := by
  cases key <;> simp_all [agrees]

/-- What equals anything has a hash code that others may have. -/
theorem hashKey_ne_nan {v : Datum} {e : Essence} (looked : v.essence? = some e) : e.hashKey ≠ .nan := by
  cases e with
  | number x =>
    have number := (essence?_eq_number.1 looked).1
    cases x with
    | nan => exact absurd rfl number
    | infinite | finite => simp [Essence.hashKey, numberKey, Exact.hashCode?]
  | text s =>
    simp only [Essence.hashKey]
    split <;> simp
  | dateTime moment => cases moment <;> simp [Essence.hashKey]
  | _ => simp [Essence.hashKey]

namespace IsQuietScalar

variable {v w u : Datum}

/-- A scalar that has an essence equals what has the same one. -/
theorem same_iff (scalar : v.IsQuietScalar) :
    v.same w = true ↔ v.essence? ≠ none ∧ v.essence? = w.essence? := by
  cases scalar with
  | null | text s | date d => cases w <;> simp [same, essence?, exactValue?]
  | dateTime t => cases w <;> simp [same, essence?, exactValue?, DateTime.agrees_iff]
  | @number _ x exact quiet =>
    rw [same_number exact, essence?_number exact, Option.any_eq_true]
    by_cases nan : x = .nan
    · simp [nan, Exact.agrees]
    · rw [if_neg nan, eq_comm (b := w.essence?), essence?_eq_number]
      simp [Exact.agrees_iff, nan]

/-- Equality of scalars is symmetric. -/
theorem same_comm (scalar : v.IsQuietScalar) (scalar' : w.IsQuietScalar) : v.same w = w.same v := by
  rw [Bool.eq_iff_iff, scalar.same_iff, scalar'.same_iff, eq_comm (b := w.essence?)]
  exact and_congr_left fun alike => by rw [alike]

/-- Equality of scalars is transitive. -/
theorem same_trans (scalar : v.IsQuietScalar) (scalar' : w.IsQuietScalar) (first : v.same w = true)
    (second : w.same u = true) : v.same u = true := by
  obtain ⟨whole, alike⟩ := scalar.same_iff.1 first
  exact scalar.same_iff.2 ⟨whole, alike.trans (scalar'.same_iff.1 second).2⟩

/-- The hash code of a scalar depends on what equality looks at. -/
theorem hashKey_eq (scalar : v.IsQuietScalar) {e : Essence} (looked : v.essence? = some e) :
    v.hashKey = .ok e.hashKey := by
  cases scalar with
  | null | text | date =>
    obtain rfl := Option.some.inj looked
    rfl
  | dateTime t =>
    obtain rfl := Option.some.inj looked
    simp only [hashKey, DateTime.moment]
    cases t.instant? <;> rfl
  | @number _ x exact quiet =>
    rw [essence?_number exact] at looked
    split at looked
    · cases looked
    · obtain rfl := Option.some.inj looked
      exact hashKey_number exact quiet

/-- A scalar has a hash code. -/
theorem exists_hashKey (scalar : v.IsQuietScalar) : ∃ key, v.hashKey = .ok key := by
  cases looked : v.essence? with
  | some e => exact ⟨_, scalar.hashKey_eq looked⟩
  | none =>
    cases scalar with
    | number exact quiet => exact ⟨_, hashKey_number exact quiet⟩
    | _ => cases looked

theorem isSignalling_eq (scalar : v.IsQuietScalar) : Instance.isSignalling v = false := by
  cases scalar with
  | number _ quiet => exact quiet
  | _ => rfl

/-- Equal scalars have the same hash code. -/
theorem hashKey_agrees (scalar : v.IsQuietScalar) (scalar' : w.IsQuietScalar) (equals : v.same w = true)
    {key key' : HashKey} (hashed : v.hashKey = .ok key) (hashed' : w.hashKey = .ok key') :
    key.agrees key' = true := by
  obtain ⟨whole, alike⟩ := scalar.same_iff.1 equals
  obtain ⟨e, here⟩ := Option.ne_none_iff_exists'.1 whole
  obtain rfl := Except.ok.inj (hashed.symm.trans (scalar.hashKey_eq here))
  obtain rfl := Except.ok.inj (hashed'.symm.trans (scalar'.hashKey_eq (alike ▸ here)))
  exact HashKey.agrees_self (hashKey_ne_nan here)

end IsQuietScalar

end Datum

end FlatRecord
