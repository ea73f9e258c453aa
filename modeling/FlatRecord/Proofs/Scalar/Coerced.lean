import FlatRecord.Proofs.Number.DecimalText
import FlatRecord.Proofs.Outcome
import FlatRecord.Scalar.Coercion

/-!
# Converted values

What conversion gives is a value of the carrier, an integer within the bounds of its kind, and a
decimal within the limits of exponents.
-/

namespace FlatRecord

/-- Whether a value is one of a carrier. Decimals are finite. -/
def Carrier.Holds : Carrier → Datum → Prop
  | text, .text _ => True
  | integer, .int _ => True
  | float, .float _ => True
  | boolean, .bool _ => True
  | date, .date _ => True
  | dateTime, .dateTime _ => True
  | decimal, .decimal d => d.isFinite
  | _, _ => False

/-- Whether a value is one of a kind: a value of its carrier, within its bounds. -/
structure Kind.Holds (kind : Kind) (v : Datum) : Prop where
  carried : kind.carrier.Holds v
  bounded : ∀ low high n, kind.bounds? = some (low, high) → v = .int n → low ≤ n ∧ n ≤ high

/-- Integers within the bounds of a kind have few digits. -/
theorem Kind.length_naturalText_le {kind : Kind} {low high : Int} {n : Int}
    (bounds : kind.bounds? = some (low, high)) (within : low ≤ n ∧ n ≤ high) :
    (Number.naturalText n.natAbs).length ≤ Number.maxIntegerDigits := by
  have small : n.natAbs < 10 ^ 19 := by
    cases kind <;> simp only [Kind.bounds?, Option.some.injEq, Prod.mk.injEq, reduceCtorEq] at bounds
    all_goals omega
  have few : (Number.naturalText n.natAbs).length ≤ 19 :=
    (Nat.length_toDigits_le_iff (by decide) (by decide)).2 small
  exact few.trans (by decide)

theorem Kind.Holds.length_naturalText_le {kind : Kind} {n : Int} (holds : kind.Holds (.int n)) :
    (Number.naturalText n.natAbs).length ≤ Number.maxIntegerDigits := by
  have carried := holds.carried
  cases bounds : kind.bounds? with
  | none => cases kind <;> simp_all [bounds?, carrier, Carrier.Holds]
  | some range => exact Kind.length_naturalText_le bounds (holds.bounded _ _ n bounds rfl)

/-- A step that only changes the fault, followed by a change of the result. -/
theorem map_mapError_eq_ok {ε ε' α β : Type} {x : Except ε α} {f : α → β} {g : ε → ε'}
    {b : β} (h : (x.mapError g).map f = .ok b) : ∃ a, x = .ok a ∧ f a = b := by
  cases x with
  | error e => simp [Except.mapError, Except.map] at h
  | ok a => exact ⟨a, rfl, by simpa [Except.mapError, Except.map] using h⟩

/-- A decimal that is read for a value is within the limits. -/
private theorem exists_of_decimalOf {v w : Datum} {cs : List Char}
    (h : Carrier.decimalOf v cs = .ok w) : ∃ d : Number.Decimal, d.InRange ∧ .decimal d = w := by
  obtain ⟨d, read, h⟩ := bind_eq_ok.1 h
  split at h
  · rename_i finite
    refine ⟨d, ?_, by simpa [pure, Except.pure] using h⟩
    cases found : Number.Decimal.read cs with
    | ok other =>
      obtain rfl : other = d := by simpa [found, Except.mapError] using read
      exact Number.Decimal.inRange_of_read finite found
    | error fault => simp [found, Except.mapError] at read
  · simp at h

/-- Conversion to a decimal gives one within the limits. -/
private theorem exists_of_toDecimal {v w : Datum} (h : Carrier.toDecimal v = .ok w) :
    ∃ d : Number.Decimal, d.InRange ∧ .decimal d = w := by
  cases v <;> simp only [Carrier.toDecimal, reduceCtorEq] at h
  case int n =>
    obtain ⟨s, -, h⟩ := bind_eq_ok.1 h
    exact exists_of_decimalOf h
  all_goals exact exists_of_decimalOf h

/-- Conversion to a text gives a text. -/
private theorem toText_holds {v w : Datum} (h : Carrier.toText v = .ok w) :
    Carrier.text.Holds w := by
  cases v <;> simp only [Carrier.toText, Except.ok.injEq, reduceCtorEq] at h
  case int n =>
    unfold Carrier.integerAsText at h
    split at h
    · simp [Except.map] at h
    · obtain rfl : Datum.text _ = w := by simpa [Except.map] using h
      trivial
  all_goals
    subst h
    trivial

/-- Conversion to an integer gives an integer. -/
private theorem toInteger_holds {v w : Datum} (h : Carrier.toInteger v = .ok w) :
    Carrier.integer.Holds w := by
  cases v <;> simp only [Carrier.toInteger, Except.ok.injEq, reduceCtorEq] at h
  case float x =>
    split at h
    · obtain rfl := Except.ok.inj h
      trivial
    · simp at h
  case text s =>
    obtain ⟨n, -, rfl⟩ := map_mapError_eq_ok h
    trivial
  all_goals
    subst h
    trivial

/-- Conversion to a float gives a float. -/
private theorem toFloat_holds {v w : Datum} (h : Carrier.toFloat v = .ok w) :
    Carrier.float.Holds w := by
  cases v <;> simp only [Carrier.toFloat, Except.ok.injEq, reduceCtorEq] at h
  case int n =>
    split at h
    · obtain rfl := Except.ok.inj h
      trivial
    · simp at h
  case text s =>
    split at h
    · obtain rfl := Except.ok.inj h
      trivial
    · simp at h
  all_goals
    subst h
    trivial

/-- Conversion to a boolean gives a boolean. -/
private theorem toBoolean_holds {v w : Datum} (h : Carrier.toBoolean v = .ok w) :
    Carrier.boolean.Holds w := by
  cases v <;> simp only [Carrier.toBoolean, Except.ok.injEq, reduceCtorEq] at h
  case text s =>
    split at h
    · obtain rfl := Except.ok.inj h
      trivial
    split at h
    · obtain rfl := Except.ok.inj h
      trivial
    · simp at h
  all_goals
    subst h
    trivial

/-- Conversion to a carrier gives a value of the carrier. -/
theorem Carrier.coerce_holds {carrier : Carrier} {v w : Datum} (h : carrier.coerce v = .ok w) :
    carrier.Holds w := by
  cases carrier with
  | text => exact toText_holds h
  | integer => exact toInteger_holds h
  | float => exact toFloat_holds h
  | boolean => exact toBoolean_holds h
  | date =>
    cases v <;> simp only [coerce, toDate, reduceCtorEq] at h
    obtain ⟨d, -, rfl⟩ := map_mapError_eq_ok h
    trivial
  | dateTime =>
    cases v <;> simp only [coerce, toDateTime, reduceCtorEq] at h
    obtain ⟨t, -, rfl⟩ := map_mapError_eq_ok h
    trivial
  | decimal =>
    obtain ⟨d, within, rfl⟩ := exists_of_toDecimal h
    exact within.isFinite

/-- What passes the check of bounds is unchanged and within them. -/
theorem Kind.checkBounds_eq_ok {kind : Kind} {v w : Datum} (h : kind.checkBounds v = .ok w) :
    w = v ∧ ∀ low high n, kind.bounds? = some (low, high) → v = .int n → low ≤ n ∧ n ≤ high := by
  unfold checkBounds at h
  split at h
  · rename_i low high n bounds
    split at h
    · simp at h
    split at h
    · simp at h
    obtain rfl := Except.ok.inj h
    refine ⟨rfl, ?_⟩
    rintro low' high' _ same ⟨⟩
    obtain ⟨rfl, rfl⟩ : low = low' ∧ high = high' := by simpa [bounds] using same
    omega
  · rename_i other
    obtain rfl := Except.ok.inj h
    exact ⟨rfl, fun low high n bounds int => absurd int (other low high n bounds)⟩

/-- Conversion to a kind gives a value of the kind. -/
theorem Kind.coerce_holds {kind : Kind} {v w : Datum} (h : kind.coerce v = .ok w) :
    kind.Holds w := by
  obtain ⟨u, converted, h⟩ := bind_eq_ok.1 h
  obtain ⟨rfl, bounded⟩ := checkBounds_eq_ok h
  exact ⟨Carrier.coerce_holds converted, bounded⟩

/-- Null does not convert. -/
theorem Kind.toOption_coerce_null (kind : Kind) : (kind.coerce .null).toOption = none := by
  unfold coerce
  cases kind.carrier <;> rfl

/-- Whether a value is what some value converts to. -/
def Kind.Gives (kind : Kind) (v : Datum) : Prop := ∃ u, kind.coerce u = .ok v

theorem Kind.Gives.holds {kind : Kind} {v : Datum} (gives : kind.Gives v) : kind.Holds v :=
  have ⟨_, converted⟩ := gives
  coerce_holds converted

/-- What conversion to a kind gives, conversion to its carrier gives, and it is within the bounds. -/
theorem Kind.Gives.exists_converted {kind : Kind} {v : Datum} (gives : kind.Gives v) :
    (∃ u, kind.carrier.coerce u = .ok v) ∧ kind.checkBounds v = .ok v := by
  obtain ⟨u, coerced⟩ := gives
  obtain ⟨w, converted, checked⟩ := bind_eq_ok.1 coerced
  obtain rfl := (checkBounds_eq_ok checked).1
  exact ⟨⟨u, converted⟩, checked⟩

/-- A decimal that conversion gives is within the limits. -/
theorem Kind.Gives.inRange {kind : Kind} {d : Number.Decimal} (gives : kind.Gives (.decimal d)) :
    d.InRange := by
  have carried := gives.holds.carried
  obtain ⟨⟨u, converted⟩, -⟩ := gives.exists_converted
  cases carrier : kind.carrier <;> rw [carrier] at carried converted <;>
    first | exact absurd carried id | skip
  obtain ⟨e, within, same⟩ := exists_of_toDecimal converted
  rwa [Datum.decimal.inj same] at within

end FlatRecord
