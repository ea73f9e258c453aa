import FlatRecord.Proofs.Cache.Succession
import FlatRecord.Proofs.Rendering.SpecialMethods

/-!
# Equality across compilations

Instances are compared as instances of one class before their values are looked at, and a record that is
compiled again gets another class. So instances with the same values are equal only if the artifact of the
first one has been live until the artifact of the second one was given out.
-/

namespace FlatRecord

open FlatRecord.Execution FlatRecord.Number

section Same

theorem Number.Exact.make_ne_nan (negative : Bool) (coefficient : Nat) (exponent : Int) :
    Exact.make negative coefficient exponent ≠ .nan := by
  unfold make
  split <;> simp

/-- The exact value of a double precision number. -/
theorem Number.Exact.ofFloat_ne_nan {x : Binary64} (number : x ≠ .nan) : Exact.ofFloat x ≠ .nan := by
  cases x with
  | nan => exact absurd rfl number
  | infinite negative => simp [ofFloat]
  | finite negative m e _ =>
    simp only [ofFloat]
    split <;> exact make_ne_nan _ _ _

/-- The exact value of a value of a carrier is a number, if there is one, but for one value. -/
theorem Carrier.Holds.exactValue?_ne {c : Carrier} {v : Datum} (holds : c.Holds v)
    (number : v ≠ .float .nan) : v.exactValue? ≠ some .nan := by
  cases v with
  | bool | int => simp [Datum.exactValue?, Exact.ofInt, Exact.make_ne_nan]
  | float x =>
    have finite : x ≠ .nan := fun nan => number (congrArg _ nan)
    simp [Datum.exactValue?, Exact.ofFloat_ne_nan finite]
  | decimal d =>
    cases d with
    | finite => simp [Datum.exactValue?, Exact.ofDecimal, Exact.make_ne_nan]
    | _ => cases c <;> cases holds
  | _ => simp [Datum.exactValue?]

/-- A value that a field keeps equals itself unless it is the number that equals nothing. -/
theorem Carrier.same_self {c : Carrier} {v : Datum} (kept : v = .null ∨ c.Holds v)
    (number : v ≠ .float .nan) : v.same v = true := by
  have scalar := Carrier.isQuietScalar kept
  refine scalar.same_iff.2 ⟨?_, rfl⟩
  obtain rfl | holds := kept
  · simp [Datum.essence?]
  · have given := holds.exactValue?_ne number
    cases scalar with
    | @number _ x exact quiet =>
      rw [Datum.essence?_number exact, if_neg fun nan => given (exact.trans (congrArg some nan))]
      simp
    | _ => simp [Datum.essence?]

end Same

namespace Instance

/-- What is no instance of the class is not equal, except for the instance itself. -/
theorem serial_eq_of_equal {i j : Instance} (equals : i.equal (.record j) = .ok true) :
    i.identity = j.identity ∨ i.serial = j.serial := by
  by_contra different
  obtain ⟨other, another⟩ := not_or.1 different
  have foreign (parameters : List String) :
      belongs i.record i.serial parameters (.record j) ≠ .ok true := by
    unfold belongs
    have : j.serial ≠ i.serial := Ne.symm another
    dsimp only
    split
    · simp
    split
    · simp
    split
    · simp
    · simp [this]
  unfold equal equalSharing at equals
  split at equals
  · unfold equalBy at equals
    rw [if_neg (by simpa using other)] at equals
    obtain ⟨related, belonging, compared⟩ := bind_eq_ok.1 equals
    cases related with
    | true => exact foreign _ belonging
    | false => cases compared
  · unfold plainEqual at equals
    dsimp only at equals
    rw [if_neg other, if_neg another] at equals
    cases equals

end Instance

/-- Two instances from one compilation that hold what the same document gives are equal, if equality
knows the class and no value is the number that equals nothing. -/
theorem Artifact.Implements.equal_holding_self {a : Artifact} {d : Descriptor}
    (implements : a.Implements d) (serial : Nat) {identity other : Nat} (distinct : identity ≠ other)
    {document : Document} (numbers : ∀ f ∈ d.fields, f.value document ≠ .float .nan) :
    (d.holding serial identity document).equal (.record (d.holding serial other document)) = .ok true ↔
      d.IsKnownToEquality := by
  constructor
  · intro equals
    have compared := (implements.exists_equalSharing_iff Instance.apart
      (implements.fills_holding serial identity document)
      (implements.fills_holding serial other document)).1 ⟨true, equals⟩
    exact compared.resolve_left distinct
  · intro known
    have fills (identity : Nat) := implements.fills_holding serial identity document
    have one : (d.holding serial other document).serial = (d.holding serial identity document).serial :=
      rfl
    rw [Instance.equal, implements.equalSharing_of_known _ (fills identity) (fills other) known distinct,
      decide_eq_true one, Bool.true_and]
    refine congrArg Except.ok (List.all_eq_true.2 fun f mem => ?_)
    exact Carrier.same_self ((fills identity).kept f mem) (numbers f mem)

/-- Instances from different compilations are not equal. -/
theorem Artifact.Implements.equal_holding_other {a : Artifact} {d : Descriptor}
    (implements : a.Implements d) (known : d.IsKnownToEquality) {serial serial' identity other : Nat}
    (recompiled : serial ≠ serial') (distinct : identity ≠ other) (document document' : Document) :
    (d.holding serial identity document).equal (.record (d.holding serial' other document')) =
      .ok false := by
  have foreign : (d.holding serial' other document').serial ≠
    (d.holding serial identity document).serial := recompiled.symm
  rw [Instance.equal, implements.equalSharing_of_known _ (implements.fills_holding serial identity document)
    (implements.fills_holding serial' other document') known distinct, decide_eq_false foreign]
  rfl

namespace Cache

/-- When two instances are equal whose artifacts have been given out under the same hash, one after the
other, and to which the same document has been bound. They are not equal if the first artifact has not
been live all the time. For the class of an accepted descriptor they are equal exactly if it has, and if
equality knows the class, as long as no value is the number that equals nothing. -/
theorem equal_again_iff {capacity : Nat} (positive : 0 < capacity) {before between : List Request}
    {first last : Request} {a b : Artifact} {c : Cache}
    (past : c = before.foldl after (empty capacity positive))
    (given : c.answered first = some a)
    (again : (between.foldl after (c.after first)).answered last = some b) (same : a.hash = b.hash)
    {identity other : Nat} (distinct : identity ≠ other) {i j : Instance}
    (created : a.instantiate identity = .ok i) (created' : b.instantiate other = .ok j)
    (document : Document) :
    ((a.bind i document).1.equal (.record (b.bind j document).1) = .ok true →
      StaysLive a (c.after first) between) ∧
    ∀ {s : Submission} {d : Descriptor} {source : String}, s.validate = .ok d →
      s.source = .ok source → a.origin = (d.qualifiedName, source) →
      (∀ f ∈ d.fields, f.value document ≠ .float .nan) →
      ((a.bind i document).1.equal (.record (b.bind j document).1) = .ok true ↔
        StaysLive a (c.after first) between ∧ d.IsKnownToEquality) := by
  have numbered : c.IsNumbered := past ▸ isNumbered_foldl_after positive before
  have fate := numbered.answered_again given again same
  have kept : (a.bind i document).1.equal (.record (b.bind j document).1) = .ok true →
      StaysLive a (c.after first) between := by
    intro equals
    obtain ⟨values, held⟩ := a.bind_fst i document
    obtain ⟨values', held'⟩ := b.bind_fst j document
    obtain ⟨rfl, serial⟩ := Artifact.instantiate_eq_ok created
    obtain ⟨rfl, serial'⟩ := Artifact.instantiate_eq_ok created'
    rw [held, held'] at equals
    have one : i.serial = j.serial := (Instance.serial_eq_of_equal equals).resolve_left distinct
    refine fate.elim And.left fun ⟨_, later⟩ => ?_
    omega
  refine ⟨kept, fun {s d source} valid rendered origin numbers => ?_⟩
  have implements : a.Implements d := by
    obtain ⟨live, -⟩ := numbered.givesOut_of_answered given
    have current := (IsCurrent.empty positive).foldl_after before
    rw [← past] at current
    obtain ⟨-, -, serial, built⟩ := (current.after first).live _ _ (mem_of_lookup live)
    obtain ⟨name, text⟩ := Prod.mk.inj origin
    rw [name, text] at built
    exact Artifact.implements_of_build valid rendered built
  have whole (still : b = a) : (a.bind i document).1.equal (.record (b.bind j document).1) =
      .ok true ↔ d.IsKnownToEquality := by
    subst still
    rw [implements.instantiate_eq_ok created, implements.instantiate_eq_ok created',
      implements.bind_holding, implements.bind_holding]
    exact implements.equal_holding_self _ distinct numbers
  obtain ⟨stays, still⟩ | ⟨gone, -⟩ := fate
  · rw [whole still, and_iff_right stays]
  · exact iff_of_false (fun equals => gone (kept equals)) fun both => gone both.1

end Cache

/-- The artifact of a descriptor, as the compilation of a number. -/
def Descriptor.compiled (d : Descriptor) (serial : Nat) : Artifact :=
  ⟨serial, d.qualifiedName, d.moduleText, contentHash d.qualifiedName d.moduleText, d.record,
    d.planned.fields.map Generation.setterOf⟩

theorem Descriptor.hash_compiled (d : Descriptor) (serial : Nat) :
    (d.compiled serial).hash = contentHash d.qualifiedName d.moduleText := rfl

/-- Asked for the type of a descriptor whose source loads, a cache gives out the artifact that is live, or
else the next compilation. -/
theorem Cache.answered_generate {s : Submission} {d : Descriptor} (valid : s.validate = .ok d)
    (clean : d.IsLineFree) (loadable : d.IsLoadable d.moduleText) (c : Cache) (verify : Bool) :
    c.answered (.generate (some s) verify) =
      some ((c.artifact? (contentHash d.qualifiedName d.moduleText)).getD
        (d.compiled c.compilations)) := by
  have known := (Submission.validate_eq_ok valid).1
  have compiled : (c.compile d.qualifiedName d.moduleText).1 =
      .ok ((c.artifact? (contentHash d.qualifiedName d.moduleText)).getD
        (d.compiled c.compilations)) := by
    rw [c.compile_fst (known.isQualified_qualifiedName.2 clean.space)]
    cases c.artifact? (contentHash d.qualifiedName d.moduleText) with
    | some a => rfl
    | none => exact known.build_of_isLoadable clean loadable _ _
  show (c.generate (some s) verify).1.toOption.map GeneratedType.artifact = _
  have validated : validateSubmission (some s) = .ok d := valid
  have source : d.source = .ok d.moduleText := known.source
  rw [c.generate_fst verify validated source, compiled]
  rfl

/-- A document for a point. -/
def Descriptor.pointEntries : Document := [(.text "str", .text "here"), (.text "super", .int 3)]

section Points

private theorem validate_point : Descriptor.point.submission.validate = .ok .point := by
  with_unfolding_all rfl

private theorem isLineFree_point : Descriptor.point.IsLineFree := ⟨⟨by decide, by decide⟩, by decide⟩

private theorem isLoadable_point : Descriptor.point.IsLoadable Descriptor.point.moduleText :=
  ⟨by decide, by decide, Descriptor.point.utf8ByteSize_moduleText_le.trans (by decide +kernel)⟩

private theorem numbers_point (f : FieldSpec) (mem : f ∈ Descriptor.point.fields) :
    f.value Descriptor.pointEntries ≠ .float .nan := by
  obtain rfl | rfl : f = ⟨"super", "int", true, .null⟩ ∨ f = ⟨"str", "string", false, .null⟩ := by
    simpa [Descriptor.point] using mem
  · have three : FieldSpec.value ⟨"super", "int", true, .null⟩ Descriptor.pointEntries = .int 3 := by
      with_unfolding_all rfl
    simp [three]
  · have here : FieldSpec.value ⟨"str", "string", false, .null⟩ Descriptor.pointEntries =
        .text "here" := by
      with_unfolding_all rfl
    simp [here]

private theorem implements_point (serial : Nat) :
    (Descriptor.point.compiled serial).Implements .point :=
  ⟨(Submission.validate_eq_ok validate_point).1, isLineFree_point, rfl, rfl⟩

private theorem exists_instantiate_point (serial identity : Nat) :
    ∃ i, (Descriptor.point.compiled serial).instantiate identity = .ok i :=
  ((implements_point serial).exists_instantiate_iff identity).2
    ⟨by decide, by with_unfolding_all decide⟩

/-- Asked for points, a new cache compiles their class. -/
private theorem answered_point : (Cache.empty defaultCapacity (by decide)).answered
    (.generate (some Descriptor.point.submission) false) = some (Descriptor.point.compiled 0) := by
  have missing (hash : String) : (Cache.empty defaultCapacity (by decide)).artifact? hash = none := rfl
  have first : (Cache.empty defaultCapacity (by decide)).compilations = 0 := rfl
  rw [Cache.answered_generate validate_point isLineFree_point isLoadable_point, missing, first,
    Option.getD_none]

/-- Once the class of points has been compiled it is live. -/
private theorem live_point {c : Cache} (numbered : c.IsNumbered) {request : Cache.Request}
    (given : c.answered request = some (Descriptor.point.compiled 0)) :
    (c.after request).IsNumbered ∧ 0 < (c.after request).compilations ∧
      (c.after request).artifact? (Descriptor.point.compiled 0).hash =
        some (Descriptor.point.compiled 0) := by
  have next : (c.after request).IsNumbered := numbered.of_advances (c.advances_after request)
  obtain ⟨live, -⟩ := numbered.givesOut_of_answered given
  exact ⟨next, (next _ _ live).2, live⟩

/-- Points that are made before and after a request that is refused are equal. -/
theorem Cache.equal_again_point :
    let c := Cache.empty defaultCapacity (by decide)
    let request : Request := .generate (some Descriptor.point.submission) false
    ∃ a b i j, c.answered request = some a ∧
      ([Request.generate none true].foldl after (c.after request)).answered request = some b ∧
      a.instantiate 0 = .ok i ∧ b.instantiate 1 = .ok j ∧
      (a.bind i Descriptor.pointEntries).1.equal (.record (b.bind j Descriptor.pointEntries).1) =
        .ok true := by
  intro c request
  have given : c.answered request = some (Descriptor.point.compiled 0) := answered_point
  have numbered : c.IsNumbered := isNumbered_foldl_after (by decide) []
  obtain ⟨-, -, live⟩ := live_point numbered given
  have same (left : Cache) : [Request.generate none true].foldl after left = left := rfl
  have stays : StaysLive (Descriptor.point.compiled 0) (c.after request) [.generate none true] := by
    rw [staysLive_iff (live_point numbered given).2.1, same]
    exact live
  have again : ([Request.generate none true].foldl after (c.after request)).answered request =
      some (Descriptor.point.compiled 0) := by
    rw [same, answered_generate validate_point isLineFree_point isLoadable_point]
    exact congrArg (fun found : Option Artifact => some (found.getD _)) live
  obtain ⟨i, created⟩ := exists_instantiate_point 0 0
  obtain ⟨j, created'⟩ := exists_instantiate_point 0 1
  refine ⟨_, _, i, j, given, again, created, created', ?_⟩
  have past : c = ([] : List Request).foldl after (empty defaultCapacity (by decide)) := rfl
  have whole := (equal_again_iff (by decide) past given again rfl Nat.zero_ne_one created created'
    Descriptor.pointEntries).2 validate_point (Submission.source_of_validate validate_point) rfl
    numbers_point
  exact whole.2 ⟨stays, by decide, by decide⟩

/-- Points that are made before and after their class has been dropped are not equal, though they are made
under the same hash and hold what the same document gives. -/
theorem Cache.equal_evicted_point :
    let c := Cache.empty defaultCapacity (by decide)
    let request : Request := .generate (some Descriptor.point.submission) false
    ∃ a b i j, c.answered request = some a ∧
      ([Request.evict a.hash].foldl after (c.after request)).answered request = some b ∧
      a.hash = b.hash ∧ a.instantiate 0 = .ok i ∧ b.instantiate 1 = .ok j ∧
      (∀ f ∈ Descriptor.point.fields, f.value Descriptor.pointEntries ≠ .float .nan) ∧
      (a.bind i Descriptor.pointEntries).1.equal (.record (b.bind j Descriptor.pointEntries).1) =
        .ok false := by
  intro c request
  have given : c.answered request = some (Descriptor.point.compiled 0) := answered_point
  have again (left : Cache) : ([Request.evict (Descriptor.point.compiled 0).hash].foldl after
      left).answered request = some (Descriptor.point.compiled left.compilations) := by
    show (left.evict (Descriptor.point.compiled 0).hash).2.answered request = _
    rw [answered_generate validate_point isLineFree_point isLoadable_point, artifact?_evict,
      if_pos (Descriptor.point.hash_compiled 0).symm]
    rfl
  obtain ⟨serial, later, again⟩ : ∃ serial, 0 < serial ∧
      ([Request.evict (Descriptor.point.compiled 0).hash].foldl after (c.after request)).answered
        request = some (Descriptor.point.compiled serial) :=
    ⟨_, (live_point (isNumbered_foldl_after (by decide) []) given).2.1, again _⟩
  obtain ⟨i, created⟩ := exists_instantiate_point 0 0
  obtain ⟨j, created'⟩ := exists_instantiate_point serial 1
  refine ⟨_, _, i, j, given, again, rfl, created, created', numbers_point, ?_⟩
  have first := implements_point 0
  have second := implements_point serial
  rw [first.instantiate_eq_ok created, second.instantiate_eq_ok created', first.bind_holding,
    second.bind_holding]
  exact first.equal_holding_other ⟨by decide, by decide⟩ later.ne Nat.zero_ne_one _ _

end Points

end FlatRecord
