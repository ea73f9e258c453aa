import FlatRecord.Proofs.Binding.CoercedValues
import FlatRecord.Proofs.Descriptor.Acceptance
import FlatRecord.Proofs.Descriptor.PayloadShape
import FlatRecord.Proofs.Marshalling.CanonicalText

/-!
# Defaults of payloads

A default that is no text is spelled out when a payload is parsed, and validation converts its text; binding
converts the values of documents as they are. Both agree wherever the text of a value converts as the value
does. That fails for a few sorts of values only: a carrier may convert numbers or truth values by their worth
and their texts by a grammar that lacks them, or refuse numbers whose digits happen to be one of its texts.
-/

namespace FlatRecord

open FlatRecord.Number FlatRecord.Text

namespace Number

/-- The text of an integer is read as the double precision number that is nearest to it. -/
theorem readFloat?_integerText (n : Int) :
    readFloat? (integerText n) = some (Binary64.ofRatio (decide (n < 0)) n.natAbs 1) := by
  have plain := NumberParts.isPlain_ofNat n.natAbs
  rw [NumberParts.integerText_eq 'e', plain.readFloat?_text (.inl rfl)]
  refine congrArg some (Binary64.ofScaled_eq_ofRatio _ Nat.one_pos ?_)
  simp [NumberParts.coefficient, NumberParts.scale, NumberParts.power, NumberParts.ofNat]

theorem Binary64.ofRatio_ne_nan (negative : Bool) (n d : Nat) : ofRatio negative n d ≠ .nan := by
  have assembled (m : Nat) (e : Int) : assemble negative m e ≠ .nan := by
    unfold assemble
    split <;> simp
  unfold ofRatio
  split
  · simp [zero]
  · dsimp only
    split <;> exact assembled _ _

theorem le_log2_of_isUnwritable {n : Int} (huge : isUnwritable n = true) : 14284 ≤ n.natAbs.log2 := by
  unfold isUnwritable at huge
  split at huge
  · cases huge
  · rename_i large
    exact Nat.not_lt.1 large

/-- An integer that is too long to be written is beyond the double precision numbers. -/
theorem Binary64.ofInt?_of_isUnwritable {n : Int} (huge : isUnwritable n = true) : ofInt? n = none := by
  have bits := le_log2_of_isUnwritable huge
  have nonzero : n.natAbs ≠ 0 := by
    intro zero
    simp [zero] at bits
  have large : (2 : ℚ) ^ (1024 : ℤ) ≤ n.natAbs / (1 : ℕ) := by
    calc (2 : ℚ) ^ (1024 : ℤ) ≤ 2 ^ (n.natAbs.log2 : ℤ) :=
          zpow_le_zpow_right₀ (by norm_num) (by omega)
      _ = (2 ^ n.natAbs.log2 : ℕ) := by rw [zpow_natCast, Nat.cast_pow, Nat.cast_ofNat]
      _ ≤ n.natAbs := Nat.cast_le.2 (Nat.log2_self_le nonzero)
      _ = n.natAbs / (1 : ℕ) := by rw [Nat.cast_one, div_one]
  unfold ofInt?
  rw [ofRatio_of_large _ Nat.one_pos large]

end Number

namespace Carrier

/-- Whether a carrier takes a value for another one than its text, or just one of the two. -/
def tellsApart : Carrier → Datum → Bool
  | .integer, .bool _ => true
  | .integer, .float _ => true
  | .float, .bool _ => true
  | .boolean, .int _ => true
  | .boolean, .float _ => true
  | .date, .int _ => true
  | .date, .float _ => true
  | .dateTime, .int _ => true
  | .dateTime, .float _ => true
  | _, _ => false

/-- Reading a decimal from a text is the same for all values that have the text. -/
theorem decimalOf_eq_ok_iff {v v' w : Datum} {cs : List Char} :
    decimalOf v cs = .ok w ↔ decimalOf v' cs = .ok w := by
  unfold decimalOf
  simp only [bind_eq_ok]
  refine exists_congr fun d => and_congr_right fun _ => ?_
  split <;> simp [pure, Except.pure]

/-- What a conversion gives, if that is no infinity and no non-number. -/
def Converts (c : Carrier) (v w : Datum) : Prop := c.coerce v = .ok w ∧ ∀ x, w = .float x → x.isFinite

section Spelling

variable {c : Carrier} {w : Datum}

theorem converts_bool {b : Bool} (alike : c.tellsApart (.bool b) = false) :
    c.Converts (.bool b) w ↔ c.Converts (.text (if b then "true" else "false")) w := by
  have refused {c : Carrier} (other : c = .date ∨ c = .dateTime ∨ c = .decimal) :
      (c.coerce (.text (if b then "true" else "false"))).toOption = none := by
    obtain rfl | rfl | rfl := other <;> cases b <;> with_unfolding_all rfl
  refine and_congr_left fun _ => ?_
  cases c with
  | integer | float => cases alike
  | text => exact Iff.rfl
  | boolean =>
    have word : toBoolean (.text (if b then "true" else "false")) = .ok (.bool b) := by
      cases b <;> with_unfolding_all rfl
    rw [coerce, word, toBoolean]
  | date | dateTime | decimal =>
    refine iff_of_false (fun read => by cases read) fun read => ?_
    exact Option.some_ne_none w ((toOption_eq_some.2 read).symm.trans (refused (by decide)))

theorem converts_int {n : Int} (alike : c.tellsApart (.int n) = false) (writable : isUnwritable n = false)
    (short : c = .integer → (naturalText n.natAbs).length ≤ maxIntegerDigits) :
    c.Converts (.int n) w ↔ c.Converts (.text (integerString n)) w := by
  have written : integerAsText n = .ok (integerString n) := if_neg (by simpa using writable)
  refine and_congr_left fun finite => ?_
  cases c with
  | boolean | date | dateTime => cases alike
  | text =>
    simp only [coerce, toText, written]
    rfl
  | integer =>
    rw [coerce, integerString, toInteger_integerText (short rfl)]
    rfl
  | decimal =>
    rw [coerce, toDecimal, written]
    exact decimalOf_eq_ok_iff
  | float =>
    have text : toFloat (.text (integerString n)) =
        .ok (.float (Binary64.ofRatio (decide (n < 0)) n.natAbs 1)) := by
      simp only [toFloat, integerString, trimmed_integerText, String.toList_ofList,
        readFloat?_integerText]
    rw [coerce, text, toFloat, Binary64.ofInt?]
    cases rounded : Binary64.ofRatio (decide (n < 0)) n.natAbs 1 with
    | nan => exact absurd rounded (Binary64.ofRatio_ne_nan _ _ _)
    | infinite negative =>
      refine iff_of_false (fun read => by cases read) fun read => ?_
      exact absurd (finite _ (Except.ok.inj read).symm) Bool.false_ne_true
    | finite => exact Iff.rfl

theorem converts_float {x : Binary64} (alike : c.tellsApart (.float x) = false) :
    c.Converts (.float x) w ↔ c.Converts (.text (floatString x)) w := by
  refine and_congr_left fun finite => ?_
  cases c with
  | integer | boolean | date | dateTime => cases alike
  | text => exact Iff.rfl
  | decimal =>
    rw [coerce, toDecimal, toDecimal, floatString, String.toList_ofList]
    exact decimalOf_eq_ok_iff
  | float =>
    have text : toFloat (.text (floatString x)) = .ok (.float x) := by
      cases x with
      | finite negative m e canonical => exact toFloat_floatForm (.finite negative m e canonical)
      | nan => with_unfolding_all rfl
      | infinite negative => cases negative <;> with_unfolding_all rfl
    rw [coerce, text, toFloat]

end Spelling

end Carrier

namespace Kind

variable {kind : Kind} {v w : Datum}

/-- What a conversion to a kind gives, if that is no infinity and no non-number. -/
def Converts (kind : Kind) (v w : Datum) : Prop :=
  kind.coerce v = .ok w ∧ ∀ x, w = .float x → x.isFinite

theorem converts_iff : kind.Converts v w ↔ kind.carrier.Converts v w ∧ kind.checkBounds w = .ok w := by
  unfold Converts Carrier.Converts Kind.coerce
  rw [bind_eq_ok]
  constructor
  · rintro ⟨⟨u, converted, checked⟩, finite⟩
    obtain rfl := (checkBounds_eq_ok checked).1
    exact ⟨⟨converted, finite⟩, checked⟩
  · rintro ⟨⟨converted, finite⟩, checked⟩
    exact ⟨⟨w, converted, checked⟩, finite⟩

/-- Validation lets a default that is not null pass if it converts to something finite. -/
theorem admits_iff (given : v ≠ .null) : kind.Admits v ↔ ∃ w, kind.Converts v w :=
  or_iff_right given

/-- A value that can be written and its text convert to the same finite value, unless the carrier of the kind
tells the two apart. -/
theorem converts_spelled {s : String} (spelled : v.SpelledAs (.text s))
    (alike : kind.carrier.tellsApart v = false) (writable : v.isUnwritable = false) :
    kind.Converts v w ↔ kind.Converts (.text s) w := by
  cases spelled with
  | text => exact Iff.rfl
  | bool b => rw [converts_iff, converts_iff, Carrier.converts_bool alike]
  | float x => rw [converts_iff, converts_iff, Carrier.converts_float alike]
  | int n =>
    by_cases short : kind.carrier = .integer → (naturalText n.natAbs).length ≤ maxIntegerDigits
    · rw [converts_iff, converts_iff, Carrier.converts_int alike writable short]
    -- An integer that is too long to be read lies beyond the bounds.
    obtain ⟨integer, long⟩ := Classical.not_imp.1 short
    rw [converts_iff, converts_iff, integer]
    refine iff_of_false (fun converts => ?_) fun converts => ?_
    · obtain ⟨⟨converted, -⟩, checked⟩ := converts
      obtain rfl := Except.ok.inj converted
      have coerced : kind.coerce (.int n) = .ok (.int n) := by
        rw [Kind.coerce, integer]
        exact checked
      exact long (coerce_holds coerced).length_naturalText_le
    · obtain ⟨⟨converted, -⟩, -⟩ := converts
      simp only [Carrier.coerce, Carrier.toInteger, integerString, trimmed_integerText,
        String.toList_ofList, readInteger_integerText_eq, if_pos (Nat.not_le.1 long)] at converted
      cases converted

/-- Where a carrier tells values of a type from their texts, one of the two converts and the other does not for
some value of the type. -/
theorem exists_differs (apart : kind.carrier.tellsApart v = true) :
    ∃ u s, u.typeName = v.typeName ∧ u.SpelledAs (.text s) ∧
      (kind.coerce u).toOption.isSome ≠ (kind.coerce (.text s)).toOption.isSome := by
  cases kind <;> cases v <;> cases apart
  case int32.bool.refl | int64.bool.refl | float32.bool.refl | float64.bool.refl =>
    exact ⟨.bool true, _, rfl, .bool true, by decide +kernel⟩
  case boolean.int.refl => exact ⟨.int 1, _, rfl, .int 1, by decide +kernel⟩
  case date.int.refl | dateTime.int.refl => exact ⟨.int 20200101, _, rfl, .int 20200101, by decide +kernel⟩
  case int32.float.refl | int64.float.refl | boolean.float.refl =>
    exact ⟨.float (.ofRatio false 1 2), _, rfl, .float _, by decide +kernel⟩
  case date.float.refl =>
    exact ⟨.float (.ofRatio false 40400203 2), _, rfl, .float _, by decide +kernel⟩
  case dateTime.float.refl =>
    exact ⟨.float (.ofRatio false 2020010112 100), _, rfl, .float _, by decide +kernel⟩

/-- An integer that is too long to be written does not convert, except to what tells it from its text. -/
theorem coerce_ne_ok_of_isUnwritable {n : Int} (huge : isUnwritable n = true)
    (alike : kind.carrier.tellsApart (.int n) = false) : kind.coerce (.int n) ≠ .ok w := by
  intro coerced
  obtain ⟨u, converted, checked⟩ := bind_eq_ok.1 coerced
  have unwritten : Carrier.integerAsText n = .error .unwritableInteger := if_pos huge
  have long : ¬ (naturalText n.natAbs).length ≤ maxIntegerDigits := by
    unfold isUnwritable at huge
    split at huge
    · cases huge
    · simpa using huge
  generalize carrier : kind.carrier = c at alike converted
  cases c with
  | boolean | date | dateTime => cases alike
  | text => simp [Carrier.coerce, Carrier.toText, unwritten, Except.map] at converted
  | decimal => simp [Carrier.coerce, Carrier.toDecimal, unwritten, bind, Except.bind] at converted
  | float => simp [Carrier.coerce, Carrier.toFloat, Binary64.ofInt?_of_isUnwritable huge] at converted
  | integer =>
    obtain rfl := Except.ok.inj converted
    obtain rfl := (checkBounds_eq_ok checked).1
    exact long (coerce_holds coerced).length_naturalText_le

/-- The text of a value that is told from it converts to no double precision number. -/
theorem coerce_ne_float_of_tellsApart {s : String} (spelled : v.SpelledAs (.text s))
    (apart : kind.carrier.tellsApart v = true) {x : Binary64} : kind.coerce (.text s) ≠ .ok (.float x) := by
  intro coerced
  have carried := (coerce_holds coerced).carried
  obtain ⟨u, converted, -⟩ := bind_eq_ok.1 coerced
  generalize kind.carrier = c at apart carried converted
  cases c with
  | float =>
    cases v with
    | bool b =>
      cases spelled
      have refused : (Carrier.toFloat (.text (if b then "true" else "false"))).toOption = none := by
        cases b <;> with_unfolding_all rfl
      exact Option.some_ne_none u ((toOption_eq_some.2 converted).symm.trans refused)
    | _ => cases apart
  | _ => exact carried

end Kind

namespace Payload

/-- A payload is accepted as a descriptor if it is parsed as it and validation accepts it. -/
def Accepts (p : Datum) (d : Descriptor) : Prop := parse p = .ok d ∧ d.submission.validate = .ok d

/-- The default of the only field of a payload means what a value means in a document. The payload is
accepted exactly if a document that gives the field the value is bound to an instance, and then the default
converts to what the field has. -/
structure DefaultMeans (p : Datum) (a : Artifact) (i : Instance) (f : FieldSpec) (u : Datum) : Prop where
  accepted : (∃ d, Accepts p d) ↔ boundKeys (a.bind i [(.text f.name, u)]).2 = [.text f.name]
  same : ∀ d, Accepts p d → ∃ g w, d.fields = [g] ∧ g.kind.coerce g.default = .ok w ∧
    (a.bind i [(.text f.name, u)]).1.get f.getterName = .ok w

section Meaning

variable {d : Descriptor} {f : FieldSpec} {p v : Datum} {s : String} {among : Int → Prop}

/-- A payload with a default is parsed unless the default is too long to be written. -/
theorem parse_default_eq_ok_iff (json : p.IsJson among) (spelled : v.SpelledAs (.text s))
    (declared : Declares Eq p { d with fields := [{ f with default := v }] }) {e : Descriptor} :
    parse p = .ok e ↔ v.isUnwritable = false ∧
      e = { d with fields := [{ f with default := .text s }] } := by
  have respelled := declared.spelled rfl spelled
  cases p with
  | map entries =>
    rw [parse_map_eq_ok_iff, (read_eq_ok_iff json).2 respelled, declared.hasUnwritableDefault_eq json,
      List.any_cons, List.any_nil, Bool.or_false, Except.ok.injEq, and_comm, eq_comm (b := e)]
  | _ => cases declared

/-- Another default is accepted where it converts. -/
theorem validate_default_eq_ok_iff (valid : d.submission.validate = .ok d) (single : d.fields = [f])
    {e : Descriptor} (made : e = { d with fields := [{ f with default := .text s }] }) :
    e.submission.validate = .ok e ↔ ∃ w, f.kind.Converts (.text s) w := by
  obtain ⟨-, rules⟩ := Submission.validate_submission_eq_ok_iff.1 valid
  have own := rules.fields f (by simp [single])
  obtain ⟨kind, known, -⟩ := own.typed
  have same : f.kind = kind := by rw [FieldSpec.kind, FieldSpec.kind?, known, Option.getD_some]
  rw [Submission.validate_submission_eq_ok_iff, and_iff_right rfl, ← Kind.admits_iff (by simp), same]
  constructor
  · intro rules'
    obtain ⟨kind', known', admits⟩ := (rules'.fields { f with default := .text s } (by simp [made])).typed
    obtain rfl : kind' = kind := Option.some.inj (known'.symm.trans known)
    exact admits
  · intro admits
    subst made
    have members := rules.members
    have few := rules.few
    rw [single] at members few
    exact { rules with
      nonempty := List.cons_ne_nil _ _
      few := few
      fields := List.forall_mem_singleton.2 { own with typed := ⟨kind, known, admits⟩ }
      members := members }

end Meaning

section Binding

variable {a : Artifact} {d : Descriptor} {f : FieldSpec} {u : Datum}

/-- A value for the only field of a class is bound if it converts. -/
theorem boundKeys_eq_iff (implements : a.Implements d) (single : d.fields = [f]) {i : Instance}
    (made : i.record = d.record) (given : u ≠ .null) :
    boundKeys (a.bind i [(.text f.name, u)]).2 = [.text f.name] ↔ ∃ w, f.kind.coerce u = .ok w := by
  have known := implements.valid.fields f (by simp [single])
  have taken : a.skipReason? d.record (.text f.name, u) = none ↔ ∃ w, f.kind.coerce u = .ok w := by
    rw [implements.skipReason?_eq_none_iff, single]
    simp only [List.mem_singleton, exists_eq_left, ← FieldSpec.given?_eq_some_iff,
      FieldSpec.given?_of_ne_null known.isEmpty_name rfl given, toOption_eq_some]
  rw [Artifact.boundKeys_bind, made, ← taken, ← Option.isNone_iff_eq_none]
  cases bound : (a.skipReason? d.record (.text f.name, u)).isNone <;> simp [bound]

/-- What is bound to the only field of a class is what the value converts to. -/
theorem get_bind_eq (implements : a.Implements d) (mem : f ∈ d.fields) {i : Instance}
    (populated : a.Populates i) {w : Datum} (coerced : f.kind.coerce u = .ok w) :
    (a.bind i [(.text f.name, u)]).1.get f.getterName = .ok w := by
  obtain ⟨document, holds⟩ := implements.exists_holding populated
  rw [holds, implements.bind_holding, implements.get_holding mem, FieldSpec.value_concat,
    FieldSpec.given?_of_coerce (implements.valid.fields f mem).isEmpty_name rfl coerced]
  rfl

end Binding

/-- A default means what a value means in a document if its text converts as the value does. -/
theorem DefaultMeans.of_converts {a : Artifact} {d : Descriptor} {f : FieldSpec} {p v u : Datum} {s : String}
    {among : Int → Prop} (valid : d.submission.validate = .ok d) (implements : a.Implements d)
    (single : d.fields = [f]) {i : Instance} (populated : a.Populates i) (json : p.IsJson among)
    (spelled : v.SpelledAs (.text s))
    (declared : Declares Eq p { d with fields := [{ f with default := v }] }) (given : u ≠ .null)
    (agrees : ∀ w, v.isUnwritable = false ∧ f.kind.Converts (.text s) w ↔ f.kind.coerce u = .ok w) :
    DefaultMeans p a i f u := by
  have made : i.record = d.record := by
    obtain ⟨document, holds⟩ := implements.exists_holding populated
    rw [holds]
    rfl
  have accepts (e : Descriptor) : Accepts p e ↔
      e = { d with fields := [{ f with default := .text s }] } ∧ ∃ w, f.kind.coerce u = .ok w := by
    rw [Accepts, parse_default_eq_ok_iff json spelled declared, and_comm (a := v.isUnwritable = false),
      and_assoc]
    refine and_congr_right fun made => ?_
    rw [validate_default_eq_ok_iff valid single made, ← exists_and_left]
    exact exists_congr agrees
  constructor
  · rw [boundKeys_eq_iff implements single made given]
    constructor
    · rintro ⟨e, accepted⟩
      exact ((accepts e).1 accepted).2
    · intro bound
      exact ⟨_, (accepts _).2 ⟨rfl, bound⟩⟩
  · intro e accepted
    obtain ⟨rfl, w, coerced⟩ := (accepts e).1 accepted
    exact ⟨_, w, rfl, ((agrees w).2 coerced).2.1,
      get_bind_eq implements (by simp [single]) populated coerced⟩

/-- The default that a payload gives its only field means what the same value means in a document, unless the
type of the field tells the value from its text; then it means what the text does. No default is accepted that
is an integer too long to be written. Infinities and non-numbers are left out. -/
theorem default_means_value {d : Descriptor} {source : String} (valid : d.submission.validate = .ok d)
    (rendered : d.submission.source = .ok source) {serial : Nat} {hash : String} {a : Artifact}
    (built : Cache.build serial hash d.qualifiedName source = .ok a) {f : FieldSpec}
    (single : d.fields = [f]) {i : Instance} (populated : a.Populates i) {v : Datum} {s : String}
    (spelled : v.SpelledAs (.text s)) (finite : ∀ x, f.kind.coerce v = .ok (.float x) → x.isFinite)
    {p : Datum} {among : Int → Prop} (json : p.IsJson among)
    (declared : Declares Eq p { d with fields := [{ f with default := v }] }) :
    (f.kind.carrier.tellsApart v = false → DefaultMeans p a i f v) ∧
      (f.kind.carrier.tellsApart v = true → v.isUnwritable = false → DefaultMeans p a i f (.text s)) ∧
      (v.isUnwritable = true → ∀ e, ¬ Accepts p e) := by
  have implements := Artifact.implements_of_build valid rendered built
  refine ⟨fun alike => ?_, fun apart writable => ?_, fun huge e accepted => ?_⟩
  · have given : v ≠ .null := by
      rintro rfl
      cases spelled
    refine .of_converts valid implements single populated json spelled declared given fun w => ?_
    cases huge : v.isUnwritable with
    | false =>
      rw [← Kind.converts_spelled spelled alike huge]
      exact ⟨fun converts => converts.2.1,
        fun coerced => ⟨rfl, coerced, fun x same => finite x (same ▸ coerced)⟩⟩
    | true =>
      cases v with
      | int n =>
        exact iff_of_false (fun converts => by cases converts.1)
          (Kind.coerce_ne_ok_of_isUnwritable huge alike)
      | _ => cases huge
  · refine .of_converts valid implements single populated json spelled declared (by simp) fun w => ?_
    refine ⟨fun converts => converts.2.1, fun coerced => ⟨writable, coerced, ?_⟩⟩
    rintro x rfl
    exact absurd coerced (Kind.coerce_ne_float_of_tellsApart spelled apart)
  · rw [Accepts, parse_default_eq_ok_iff json spelled declared, huge] at accepted
    cases accepted.1.1

/-- A payload for switches that are on or off at first. -/
def switchPayload (v : Datum) : Datum :=
  .object [("typeName", .text "Switch"), ("namespace", .text "a"),
    ("fields", .list [.object [("name", .text "on"), ("type", .text "boolean"), ("defaultValue", v)]])]

/-- The descriptor of switches without a default. -/
def switch : Descriptor where
  typeName := "Switch"
  space := "a"
  fields := [⟨"on", "boolean", false, .null⟩]
  description := none

theorem validate_switch : switch.submission.validate = .ok switch := by
  with_unfolding_all rfl

theorem isJson_switchPayload {v : Datum} (json : v.IsJson fun _ => True) :
    (switchPayload v).IsJson fun _ => True := by
  refine .object (by simp) ?_
  simp only [List.forall_mem_cons]
  refine ⟨.text _, .text _, .list (List.forall_mem_singleton.2 (.object (by simp) ?_)),
    List.forall_mem_nil _⟩
  simp only [List.forall_mem_cons]
  exact ⟨.text _, .text _, json, List.forall_mem_nil _⟩

theorem declares_switchPayload (v : Datum) : Declares Eq (switchPayload v)
    { switch with fields := [⟨"on", "boolean", false, v⟩] } := by
  have field : DeclaresField Eq
      (.object [("name", .text "on"), ("type", .text "boolean"), ("defaultValue", v)])
      ⟨"on", "boolean", false, v⟩ :=
    .object (.refl _) (.member (.head _) rfl) (.member (.head _) rfl) (.silence rfl)
      (.member (.head _) rfl)
  exact .object (.refl _) (.member (.head _) rfl) (.member (.head _) rfl)
    (.member (.head _) ⟨_, rfl, .cons field .nil⟩) (.silence rfl)

/-- A new switch. -/
theorem exists_populates_switch : ∃ a, Cache.build 0 "" switch.qualifiedName switch.moduleText = .ok a ∧
    a.Implements switch ∧ ∃ i, a.Populates i ∧ i.record = switch.record := by
  have builds := (Submission.validate_eq_ok validate_switch).1.exists_build
    ⟨⟨by decide, by decide⟩, by decide⟩ (by decide) (by decide) (by decide +kernel) 0 ""
  obtain ⟨a, built, implements, populated⟩ :=
    Artifact.exists_populates validate_switch builds (by decide) (by with_unfolding_all decide) []
  exact ⟨a, built, implements, _, populated, rfl⟩

/-- The default true of a switch is what the truth value is in a document, and the default one is what the
text `1` is. -/
theorem default_means_value_switch : ∃ a,
    Cache.build 0 "" switch.qualifiedName switch.moduleText = .ok a ∧ ∃ i, a.Populates i ∧
      DefaultMeans (switchPayload (.bool true)) a i ⟨"on", "boolean", false, .null⟩ (.bool true) ∧
      (∃ d, Accepts (switchPayload (.bool true)) d) ∧
      DefaultMeans (switchPayload (.int 1)) a i ⟨"on", "boolean", false, .null⟩ (.text "1") := by
  obtain ⟨a, built, implements, i, populated, made⟩ := exists_populates_switch
  have rendered := Submission.source_of_validate validate_switch
  have truth := default_means_value validate_switch rendered built rfl populated (.bool true)
    (fun x coerced => by cases coerced) (isJson_switchPayload (.bool true)) (declares_switchPayload _)
  have one := default_means_value validate_switch rendered built rfl populated (.int 1)
    (fun x coerced => by cases coerced) (isJson_switchPayload (.int trivial)) (declares_switchPayload _)
  have bound := (boundKeys_eq_iff (f := ⟨"on", "boolean", false, .null⟩) (u := .bool true) implements rfl
    made (by simp)).2 ⟨.bool true, rfl⟩
  exact ⟨a, built, i, populated, truth.1 rfl, (truth.1 rfl).accepted.2 bound, one.2.1 rfl rfl⟩

/-- A document that says that a switch is one is bound, and a payload with that default is not accepted. -/
theorem default_one_refused : switch.submission.validate = .ok switch ∧
    (switchPayload (.int 1)).IsJson (fun _ => True) ∧
    ∃ a, Cache.build 0 "" switch.qualifiedName switch.moduleText = .ok a ∧ ∃ i, a.Populates i ∧
      boundKeys (a.bind i [(.text "on", .int 1)]).2 = [.text "on"] ∧
      ∀ d, ¬ Accepts (switchPayload (.int 1)) d := by
  obtain ⟨a, built, implements, i, populated, made⟩ := exists_populates_switch
  refine ⟨validate_switch, isJson_switchPayload (.int trivial), a, built, i, populated, ?_, ?_⟩
  · exact (boundKeys_eq_iff (f := ⟨"on", "boolean", false, .null⟩) implements rfl made (by simp)).2
      ⟨.bool true, rfl⟩
  · rintro d ⟨parsed, accepted⟩
    obtain ⟨-, same⟩ := (parse_default_eq_ok_iff (f := ⟨"on", "boolean", false, .null⟩)
      (isJson_switchPayload (.int trivial)) (.int 1) (declares_switchPayload _)).1 parsed
    obtain ⟨w, coerced, -⟩ := (validate_default_eq_ok_iff validate_switch rfl same).1 accepted
    cases coerced

end Payload

end FlatRecord
