import FlatRecord.Json.Reader
import FlatRecord.Proofs.Datum.TextKeys
import FlatRecord.Proofs.Outcome
import Mathlib.Data.Nat.Digits.Defs

/-!
# The values of JSON texts

A JSON text is read as scalars, lists and objects, where the members of an object have names of their own: a
name that is repeated sets the member that is there. An integer that is read can be written.
-/

namespace FlatRecord

namespace Number

open FlatRecord.Text

theorem lt_ten_of_digitValue? {c : Char} {d : Nat} (digit : digitValue? c = some d) : d < 10 := by
  unfold digitValue? at digit
  split at digit
  · split at digit
    · cases digit
      omega
    · cases digit
  · obtain ⟨start, found, rfl⟩ := Option.map_eq_some_iff.1 digit
    have near := List.find?_some found
    rw [Bool.and_eq_true, decide_eq_true_iff, decide_eq_true_iff] at near
    omega

theorem lt_ten_of_groupedDigits? {cs : List Char} {digits : List Nat}
    (read : groupedDigits? cs = some digits) : ∀ d ∈ digits, d < 10 := by
  induction cs using groupedDigits?.induct generalizing digits with
  | case1 => cases read
  | case2 c =>
    obtain ⟨d, digit, rfl⟩ := Option.map_eq_some_iff.1 read
    exact List.forall_mem_singleton.2 (lt_ten_of_digitValue? digit)
  | case3 c rest ih =>
    rw [groupedDigits?] at read
    obtain ⟨d, digit, read⟩ := Option.bind_eq_some_iff.1 read
    obtain ⟨ds, others, made⟩ := Option.bind_eq_some_iff.1 read
    cases made
    exact List.forall_mem_cons.2 ⟨lt_ten_of_digitValue? digit, ih others⟩
  | case4 c rest single grouped ih =>
    rw [groupedDigits?] at read
    · obtain ⟨d, digit, read⟩ := Option.bind_eq_some_iff.1 read
      obtain ⟨ds, others, made⟩ := Option.bind_eq_some_iff.1 read
      cases made
      exact List.forall_mem_cons.2 ⟨lt_ten_of_digitValue? digit, ih others⟩
    · exact single
    · exact grouped

theorem digitsNumber_lt {digits : List Nat} (decimal : ∀ d ∈ digits, d < 10) :
    digitsNumber digits < 10 ^ digits.length := by
  have reversed : digitsNumber digits = Nat.ofDigits 10 digits.reverse := by
    rw [Nat.ofDigits_eq_foldr, List.foldr_reverse, digitsNumber]
    refine congrArg (List.foldl · 0 digits) (funext₂ fun n d => ?_)
    exact Nat.add_comm _ _
  rw [reversed, ← List.length_reverse]
  exact Nat.ofDigits_lt_base_pow_length (by decide) fun d mem => decimal d (List.mem_reverse.1 mem)

theorem isUnwritable_of_readInteger {cs : List Char} {n : Int} (read : readInteger cs = .ok n) :
    isUnwritable n = false := by
  unfold readInteger at read
  dsimp only at read
  split at read
  · cases read
  · rename_i digits grouped
    split at read
    · cases read
    · rename_i short
      have size : n.natAbs = digitsNumber digits := by
        cases read
        split <;> omega
      have small : n.natAbs < 10 ^ maxIntegerDigits := by
        rw [size]
        exact (digitsNumber_lt (lt_ten_of_groupedDigits? grouped)).trans_le
          (Nat.pow_le_pow_right (by decide) (Nat.not_lt.1 short))
      unfold isUnwritable
      split
      · rfl
      · exact decide_eq_false (Nat.not_lt.2
          ((Nat.length_toDigits_le_iff (by decide) (by decide)).2 small))

end Number

namespace Datum

/-- The entries of an object with the given members. -/
def memberEntries (members : List (String × Datum)) : List (Datum × Datum) :=
  members.map fun m => (.text m.1, m.2)

/-- The object with the given members. -/
def object (members : List (String × Datum)) : Datum := .map (memberEntries members)

/-- The values of JSON texts whose integers are among certain ones. The members of an object have names of
their own. -/
inductive IsJson (among : Int → Prop) : Datum → Prop where
  | null : IsJson among .null
  | bool (b : Bool) : IsJson among (.bool b)
  | int {n : Int} (inside : among n) : IsJson among (.int n)
  | float (x : Number.Binary64) : IsJson among (.float x)
  | text (s : String) : IsJson among (.text s)
  | list {items : List Datum} (each : ∀ v ∈ items, IsJson among v) : IsJson among (.list items)
  | object {members : List (String × Datum)} (distinct : (members.map Prod.fst).Nodup)
      (each : ∀ m ∈ members, IsJson among m.2) : IsJson among (object members)

theorem memberEntries_injective : Function.Injective memberEntries := by
  refine List.map_injective_iff.2 fun m n same => ?_
  obtain ⟨name, value⟩ := Prod.mk.inj same
  exact Prod.ext (Datum.text.inj name) value

section Members

variable {among : Int → Prop} {members : List (String × Datum)}

theorem IsJson.object_inv {entries : List (Datum × Datum)} (json : IsJson among (.map entries)) :
    ∃ members, entries = memberEntries members ∧ (members.map Prod.fst).Nodup ∧
      ∀ m ∈ members, IsJson among m.2 := by
  generalize shown : Datum.map entries = v at json
  cases json with
  | @object members distinct each => exact ⟨members, Datum.map.inj shown, distinct, each⟩
  | _ => cases shown

theorem IsJson.list_inv {items : List Datum} (json : IsJson among (.list items)) :
    ∀ v ∈ items, IsJson among v := by
  cases json with
  | list each => exact each

theorem IsJson.int_inv {n : Int} (json : IsJson among (.int n)) : among n := by
  cases json with
  | int inside => exact inside

/-- A key of an object leads to the member with that name. -/
theorem field?_memberEntries (distinct : (members.map Prod.fst).Nodup) {key : String} {v : Datum} :
    field? (memberEntries members) key = some v ↔ (key, v) ∈ members := by
  constructor
  · intro found
    have texts : ∀ e ∈ memberEntries members, ∃ s, e.1 = .text s := by
      intro e mem
      obtain ⟨m, -, rfl⟩ := List.mem_map.1 mem
      exact ⟨m.1, rfl⟩
    obtain ⟨m, mem, same⟩ := List.mem_map.1 (mem_of_field? texts found)
    obtain ⟨name, value⟩ := Prod.mk.inj same
    obtain rfl := Datum.text.inj name
    rwa [← value]
  · intro mem
    exact field?_map distinct mem

/-- Setting a member leaves the other members, and members have names of their own still. -/
theorem put_memberEntries (key : String) (v : Datum) (distinct : (members.map Prod.fst).Nodup) :
    ∃ members', put (.text key) v (memberEntries members) = memberEntries members' ∧
      (members'.map Prod.fst).Nodup ∧ ∀ m ∈ members', m ∈ members ∨ m = (key, v) := by
  induction members with
  | nil => exact ⟨[(key, v)], rfl, List.nodup_singleton _, fun m mem => .inr (List.mem_singleton.1 mem)⟩
  | cons first members ih =>
    obtain ⟨name, w⟩ := first
    obtain ⟨fresh, others⟩ : name ∉ members.map Prod.fst ∧ (members.map Prod.fst).Nodup :=
      List.nodup_cons.1 distinct
    have step : put (.text key) v (memberEntries ((name, w) :: members)) =
        if (Datum.text key).same (.text name) then (.text name, v) :: memberEntries members
        else (.text name, w) :: put (.text key) v (memberEntries members) := rfl
    rw [step, same_text]
    split
    · rename_i same
      obtain rfl : key = name := by simpa using same
      refine ⟨(key, v) :: members, rfl, List.nodup_cons.2 ⟨fresh, others⟩, fun m mem => ?_⟩
      exact (List.mem_cons.1 mem).symm.imp_left (.tail _)
    · rename_i other
      obtain ⟨members', result, distinct', each⟩ := ih others
      refine ⟨(name, w) :: members', by rw [result]; rfl, List.nodup_cons.2 ⟨fun mem => ?_, distinct'⟩,
        fun m mem => ?_⟩
      · obtain ⟨m, inside, rfl⟩ := List.mem_map.1 mem
        obtain old | rfl := each m inside
        · exact fresh (List.mem_map_of_mem old)
        · exact other (beq_self_eq_true _)
      · obtain rfl | behind := List.mem_cons.1 mem
        · exact .inl (.head _)
        · exact (each m behind).imp_left (.tail _)

theorem IsJson.emptyObject : IsJson among (.map []) :=
  @IsJson.object among [] List.nodup_nil (List.forall_mem_nil _)

/-- Setting a member of an object to such a value gives another such object. -/
theorem IsJson.put {entries : List (Datum × Datum)} (json : IsJson among (.map entries)) (key : String)
    {v : Datum} (given : IsJson among v) : IsJson among (.map (put (.text key) v entries)) := by
  obtain ⟨members, rfl, distinct, each⟩ := json.object_inv
  obtain ⟨members', result, distinct', each'⟩ := put_memberEntries key v distinct
  rw [result]
  refine .object distinct' fun m mem => ?_
  obtain old | rfl := each' m mem
  · exact each m old
  · exact given

end Members

end Datum

namespace Json

open Datum (memberEntries)

/-- The values of JSON texts. -/
abbrev IsValue : Datum → Prop := Datum.IsJson fun n => Number.isUnwritable n = false

theorem isValue_constants : ∀ c ∈ constants, IsValue c.2 := by
  simp only [constants, List.forall_mem_cons]
  exact ⟨.null, .bool _, .bool _, .float _, .float _, .float _, List.forall_mem_nil _⟩

theorem isValue_of_token {t : NumberToken} {position : Nat} {v : Datum}
    (read : t.value position = .ok v) : IsValue v := by
  unfold NumberToken.value at read
  split at read
  · cases read
    exact .float _
  · split at read
    · rename_i n integer
      cases read
      exact .int (Number.isUnwritable_of_readInteger integer)
    · cases read

theorem isValue_of_scalar {cs : List Char} {position : Nat} {r : Read Datum}
    (read : scalar cs position = .ok r) : IsValue r.1 := by
  unfold scalar at read
  split at read
  · rename_i name v found
    cases read
    exact isValue_constants _ (List.mem_of_find?_eq_some found)
  · split at read
    · obtain ⟨v, token, made⟩ := bind_eq_ok.1 read
      cases made
      exact isValue_of_token token
    · cases read

/-! The values of lists and objects are read with less fuel, so the induction is on it. -/

mutual

theorem isValue_of_value : ∀ {fuel : Nat} {cs : List Char} {position : Nat} {r : Read Datum},
    value fuel cs position = .ok r → IsValue r.1
  | 0, _, _, _, read => by cases read
  | fuel + 1, cs, position, r, read => by
    unfold value at read
    split at read
    · obtain ⟨⟨s, rest, behind⟩, -, made⟩ := bind_eq_ok.1 read
      cases made
      exact .text s
    · split at read
      split at read
      · cases read
        exact .list (List.forall_mem_nil _)
      · obtain ⟨⟨items, rest, behind⟩, inside, made⟩ := bind_eq_ok.1 read
        cases made
        exact .list (isValue_of_items inside)
    · split at read
      split at read
      · cases read
        exact .emptyObject
      · obtain ⟨⟨entries, rest, behind⟩, inside, made⟩ := bind_eq_ok.1 read
        cases made
        exact isValue_of_entries .emptyObject inside
    · exact isValue_of_scalar read

theorem isValue_of_items : ∀ {fuel : Nat} {cs : List Char} {position : Nat} {r : Read (List Datum)},
    items fuel cs position = .ok r → ∀ v ∈ r.1, IsValue v
  | 0, _, _, _, read => by cases read
  | fuel + 1, cs, position, r, read => by
    unfold items at read
    obtain ⟨⟨item, rest, behind⟩, first, read⟩ := bind_eq_ok.1 read
    have here := isValue_of_value first
    dsimp only at read
    split at read
    · cases read
      exact List.forall_mem_singleton.2 here
    · obtain ⟨⟨more, rest, behind⟩, others, made⟩ := bind_eq_ok.1 read
      cases made
      exact List.forall_mem_cons.2 ⟨here, isValue_of_items others⟩
    · cases read

theorem isValue_of_entries : ∀ {fuel : Nat} {cs : List Char} {position : Nat}
    {before : List (Datum × Datum)} {r : Read (List (Datum × Datum))}, IsValue (.map before) →
    entries fuel cs position before = .ok r → IsValue (.map r.1)
  | 0, _, _, _, _, _, read => by cases read
  | fuel + 1, cs, position, before, r, known, read => by
    unfold entries at read
    split at read
    · obtain ⟨⟨key, rest, behind⟩, -, read⟩ := bind_eq_ok.1 read
      dsimp only at read
      split at read
      · obtain ⟨⟨item, rest, behind⟩, first, read⟩ := bind_eq_ok.1 read
        have here := known.put key (isValue_of_value first)
        dsimp only at read
        split at read
        · cases read
          exact here
        · exact isValue_of_entries here read
        · cases read
      · cases read
    · cases read

end

/-- What is read from a text is a value of JSON texts. -/
theorem isValue_of_read {text : String} {v : Datum} (parsed : read text = .ok v) : IsValue v := by
  unfold read at parsed
  dsimp only at parsed
  split at parsed
  · cases parsed
  · split at parsed
    · cases parsed
    · rename_i found
      split at parsed
      · cases parsed
        exact isValue_of_value found
      · cases parsed

end Json

end FlatRecord
