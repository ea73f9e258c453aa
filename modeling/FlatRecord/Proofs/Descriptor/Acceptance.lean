import FlatRecord.Proofs.Descriptor.QualifiedNames

/-!
# Accepted descriptors

Validation accepts a descriptor exactly if every rule about its names, types, defaults and sizes holds.
`Descriptor.Meets` lists the rules, with the grammar of names as a parameter: the identifier test of
validation lets a line feed at the end of a name pass, and the grammar that is documented does not. So
the documented descriptors are the accepted ones none of whose names ends in a line feed.

Whatever is wrong with a descriptor, it is reported as a violation of one of these rules. The two
violations that are not reported so concern fields that are given by no list.
-/

namespace FlatRecord

namespace Naming

/-- A letter of the Latin alphabet, without any marks. -/
def IsLetter (c : Char) : Prop := 'a' ≤ c ∧ c ≤ 'z' ∨ 'A' ≤ c ∧ c ≤ 'Z'

/-- A decimal digit. -/
def IsDigit (c : Char) : Prop := '0' ≤ c ∧ c ≤ '9'

/-- The grammar of names: a letter or an underscore, and then letters, digits and underscores. -/
def InGrammar (name : String) : Prop :=
  ∃ first rest, name.toList = first :: rest ∧ (IsLetter first ∨ first = '_') ∧
    ∀ c ∈ rest, IsLetter c ∨ IsDigit c ∨ c = '_'

/-- A line feed stands at the end of a name. -/
def EndsLine (name : String) : Prop := name.toList.getLast? = some '\n'

theorem isAlpha_iff_isLetter {c : Char} : c.isAlpha = true ↔ IsLetter c := by
  rw [Script.isAlpha_iff, or_comm]
  simp only [IsLetter, Char.le_def, UInt32.le_iff_toNat_le]
  exact Iff.rfl

theorem isInitial_iff {c : Char} : isInitial c = true ↔ IsLetter c ∨ c = '_' := by
  rw [isInitial, Bool.or_eq_true, isAlpha_iff_isLetter, beq_iff_eq]

theorem isFollowing_iff {c : Char} : isFollowing c = true ↔ IsLetter c ∨ IsDigit c ∨ c = '_' := by
  have digit : c.isDigit = true ↔ IsDigit c := by
    simp only [Char.isDigit_iff_toNat, IsDigit, Char.le_def, UInt32.le_iff_toNat_le]
    exact Iff.rfl
  rw [isFollowing, Char.isAlphanum, Bool.or_eq_true, Bool.or_eq_true, isAlpha_iff_isLetter, digit,
    beq_iff_eq, or_assoc]

theorem isWord_iff {name : String} : isWord name.toList = true ↔ InGrammar name := by
  unfold InGrammar
  cases name.toList with
  | nil => simp [isWord]
  | cons c rest => simp [isWord, isInitial_iff, isFollowing_iff]

/-- A name is in the grammar exactly if it is an identifier that does not end in a line feed. -/
theorem inGrammar_iff {name : String} :
    InGrammar name ↔ isIdentifier name = true ∧ ¬ EndsLine name := by
  rw [← isWord_iff, isIdentifier, EndsLine]
  constructor
  · intro word
    have clean : '\n' ∉ name.toList := fun mem =>
      absurd (isFollowing_of_isWord word _ mem) (by decide)
    rw [dropFinalLineFeed_eq clean]
    exact ⟨word, fun last => clean (List.mem_of_getLast? last)⟩
  · rintro ⟨word, unended⟩
    rwa [dropFinalLineFeed, if_neg unended] at word

end Naming

namespace Text

/-- Trimming keeps what is not blank. -/
theorem mem_trim {cs : List Char} {c : Char} (mem : c ∈ cs) (inked : isBlank c = false) :
    c ∈ trim cs := by
  have left {cs : List Char} (mem : c ∈ cs) : c ∈ trimLeft cs := by
    induction cs with
    | nil => exact mem
    | cons d ds ih =>
      rw [trimLeft, List.dropWhile_cons]
      split
      · rename_i blank
        refine ih ((List.mem_cons.1 mem).resolve_left fun same => ?_)
        rw [← same, inked] at blank
        cases blank
      · exact mem
  rw [trim, List.mem_reverse]
  exact left (List.mem_reverse.2 (left mem))

end Text

/-- The rules for a name besides its length: it is in the grammar and no keyword. -/
structure Naming.Obeys (grammar : String → Prop) (name : String) : Prop where
  shaped : grammar name
  free : Naming.isReserved name = false

/-- The rules for the default of a field, given its kind. -/
def Kind.Admits (kind : Kind) (default : Datum) : Prop :=
  default = .null ∨ ∃ v, kind.coerce default = .ok v ∧ ∀ x, v = .float x → x.isFinite

/-- The rules for the declaration of a field. -/
structure FieldSpec.Meets (grammar : String → Prop) (f : FieldSpec) : Prop where
  named : Naming.Obeys grammar f.name
  short : f.name.length ≤ Submission.maxNameLength
  typed : ∃ kind, Kind.resolve? f.typeName = some kind ∧ kind.Admits f.default

/-- The rules for a descriptor. -/
structure Descriptor.Meets (grammar : String → Prop) (d : Descriptor) : Prop where
  named : Naming.Obeys grammar d.typeName
  short : d.typeName.length ≤ Submission.maxNameLength
  unimported : d.typeName ∉ Naming.moduleNames
  spaced : ∀ segment ∈ Naming.segments d.space, Naming.Obeys grammar segment
  shortSpace : d.space.length ≤ Submission.maxNameLength
  nonempty : d.fields ≠ []
  few : d.fields.length ≤ Submission.maxFields
  fields : ∀ f ∈ d.fields, f.Meets grammar
  members : (d.fields.flatMap Submission.memberNames).Nodup
  brief : ∀ text ∈ d.description, text.length ≤ Submission.maxDescriptionLength

namespace Submission

open Naming (Obeys isIdentifier)

/-- The names that the identifier test lets pass. -/
abbrev IsTested (name : String) : Prop := isIdentifier name = true

/-- A character that may follow in a name is not blank. -/
private theorem not_blank {c : Char} (follows : Naming.isFollowing c = true) :
    Text.isBlank c = false :=
  Script.isFollowing_elim (P := fun c => Text.isBlank c = false) (by decide) follows

/-- A name that passes the identifier test has a character that is not blank. -/
private theorem exists_inked {name : String} (tested : IsTested name) :
    ∃ c ∈ name.toList, Text.isBlank c = false := by
  have word : Naming.isWord (Naming.dropFinalLineFeed name.toList) = true := tested
  cases shape : Naming.dropFinalLineFeed name.toList with
  | nil => simp [shape, Naming.isWord] at word
  | cons c rest =>
    have mem : c ∈ Naming.dropFinalLineFeed name.toList := by simp [shape]
    refine ⟨c, ?_, not_blank (Naming.isFollowing_of_isWord word c mem)⟩
    obtain same | same := Naming.eq_dropFinalLineFeed name.toList <;> rw [same]
    · exact mem
    · exact List.mem_append_left _ mem

theorem meaningfulText?_text {s : String} (inked : ∃ c ∈ s.toList, Text.isBlank c = false) :
    meaningfulText? (.text s) = some s := by
  obtain ⟨c, mem, notBlank⟩ := inked
  have filled : (Text.trim s.toList).isEmpty = false := by
    rw [List.isEmpty_eq_false_iff]
    exact List.ne_nil_of_mem (Text.mem_trim mem notBlank)
  rw [meaningfulText?, filled]
  rfl

theorem validateName_eq_ok_iff {role : NameRole} {given name : String} :
    validateName role (.text given) = .ok name ↔
      name = given ∧ Obeys IsTested given ∧ given.length ≤ maxNameLength := by
  constructor
  · intro passed
    obtain ⟨same, allowed⟩ := validateName_eq_ok passed
    obtain rfl := Datum.text.inj same
    refine ⟨rfl, ⟨allowed.identifier, allowed.free⟩, ?_⟩
    rw [validateName, meaningfulText?_text (exists_inked allowed.identifier)] at passed
    dsimp only at passed
    split at passed
    · cases passed
    · rename_i short
      exact Nat.not_lt.1 short
  · rintro ⟨rfl, named, short⟩
    rw [validateName, meaningfulText?_text (exists_inked named.shaped)]
    dsimp only
    rw [if_neg (Nat.not_lt.2 short), named.shaped, named.free]
    rfl

theorem validateTypeName_eq_ok_iff {given name : String} :
    validateTypeName (.text given) = .ok name ↔ name = given ∧
      (Obeys IsTested given ∧ given.length ≤ maxNameLength) ∧ given ∉ Naming.moduleNames := by
  rw [validateTypeName, bind_eq_ok]
  constructor
  · rintro ⟨_, passed, rest⟩
    obtain ⟨rfl, rules⟩ := validateName_eq_ok_iff.1 passed
    split at rest
    · cases rest
    · rename_i other
      exact ⟨(Except.ok.inj rest).symm, rules, by simpa using other⟩
  · rintro ⟨rfl, rules, unimported⟩
    refine ⟨name, validateName_eq_ok_iff.2 ⟨rfl, rules⟩, if_neg ?_⟩
    simpa using unimported

theorem validateSegments_eq_ok_iff {space : String} {segments : List String} :
    validateSegments space segments = .ok () ↔ ∀ segment ∈ segments, Obeys IsTested segment := by
  constructor
  · intro passed segment mem
    have allowed := validateSegments_eq_ok passed segment mem
    exact ⟨allowed.identifier, allowed.free⟩
  · intro rules
    induction segments with
    | nil => rfl
    | cons segment rest ih =>
      obtain ⟨first, others⟩ := List.forall_mem_cons.1 rules
      rw [validateSegments, first.shaped, first.free]
      exact ih others

/-- A name that is cut into segments has the characters of its segments. -/
private theorem exists_inked_of_segments {space : String}
    (rules : ∀ segment ∈ Naming.segments space, IsTested segment) :
    ∃ c ∈ space.toList, Text.isBlank c = false := by
  obtain ⟨first, rest, pieces⟩ := List.exists_cons_of_ne_nil (List.splitOn_ne_nil '.' space.toList)
  have tested := rules (String.ofList first) (by simp [Naming.segments, pieces])
  obtain ⟨c, mem, inked⟩ := exists_inked tested
  refine ⟨c, ?_, inked⟩
  have among : c ∈ (space.toList.splitOn '.').flatten := by
    rw [pieces, List.flatten_cons]
    exact List.mem_append_left _ (by simpa using mem)
  rw [Naming.flatten_splitOn] at among
  exact (List.mem_filter.1 among).1

theorem validateSpace_eq_ok_iff {given space : String} :
    validateSpace (.text given) = .ok space ↔ space = given ∧
      (∀ segment ∈ Naming.segments given, Obeys IsTested segment) ∧
      given.length ≤ maxNameLength := by
  constructor
  · intro passed
    obtain ⟨same, allowed⟩ := validateSpace_eq_ok passed
    obtain rfl := Datum.text.inj same
    refine ⟨rfl, fun segment mem => ⟨(allowed segment mem).identifier, (allowed segment mem).free⟩, ?_⟩
    rw [validateSpace, meaningfulText?_text
      (exists_inked_of_segments fun segment mem => (allowed segment mem).identifier)] at passed
    dsimp only at passed
    split at passed
    · cases passed
    · rename_i short
      exact Nat.not_lt.1 short
  · rintro ⟨rfl, rules, short⟩
    rw [validateSpace, meaningfulText?_text
      (exists_inked_of_segments fun segment mem => (rules segment mem).shaped)]
    dsimp only
    rw [if_neg (Nat.not_lt.2 short), validateSegments_eq_ok_iff.2 rules]
    rfl

theorem validateDefault_eq_ok_iff {kind : Kind} {typeName field : String} {v : Datum} :
    validateDefault kind typeName field v = .ok () ↔ kind.Admits v := by
  constructor
  · intro passed
    by_cases absent : v = .null
    · exact .inl absent
    · exact .inr (validateDefault_eq_ok passed absent)
  · rintro (rfl | ⟨w, converted, finite⟩)
    · rfl
    · unfold validateDefault
      split
      · rfl
      · rw [converted]
        cases w with
        | float x => exact if_pos (finite x rfl)
        | _ => rfl

/-- The names of types have characters that are not blank. -/
private theorem exists_inked_of_resolve? {typeName : String} {kind : Kind}
    (known : Kind.resolve? typeName = some kind) : ∃ c ∈ typeName.toList, Text.isBlank c = false := by
  have each : ∀ entry ∈ Kind.synonyms, (entry.1.toList.any fun c => !Text.isBlank c) = true := by
    decide
  obtain ⟨entry, found, -⟩ := Option.map_eq_some_iff.1 known
  have same : entry.1 = typeName := by simpa using List.find?_some found
  obtain ⟨c, mem, inked⟩ := List.any_eq_true.1 (each entry (List.mem_of_find?_eq_some found))
  exact ⟨c, same ▸ mem, by simpa using inked⟩

theorem validateField_eq_ok_iff {used : List String} {f spec : FieldSpec} :
    validateField used f.submission = .ok spec ↔
      spec = f ∧ f.name ∉ used ∧ f.Meets IsTested := by
  rw [validateField, bind_eq_ok]
  constructor
  · rintro ⟨_, named, rest⟩
    obtain ⟨rfl, rules, short⟩ := validateName_eq_ok_iff.1 named
    split at rest
    · cases rest
    rename_i fresh
    split at rest
    · cases rest
    rename_i typeName typed
    obtain rfl := Datum.text.inj (meaningfulText?_eq_some typed)
    split at rest
    · cases rest
    rename_i kind known
    obtain ⟨⟨⟩, checked, rest⟩ := bind_eq_ok.1 rest
    exact ⟨(Except.ok.inj rest).symm, by simpa using fresh, rules, short, kind, known,
      validateDefault_eq_ok_iff.1 checked⟩
  · rintro ⟨rfl, fresh, rules, short, kind, known, admits⟩
    refine ⟨spec.name, validateName_eq_ok_iff.2 ⟨rfl, rules, short⟩, ?_⟩
    have typed : meaningfulText? spec.submission.typeName = some spec.typeName :=
      meaningfulText?_text (exists_inked_of_resolve? known)
    have checked : validateDefault kind spec.typeName spec.name spec.submission.default = .ok () :=
      validateDefault_eq_ok_iff.2 admits
    rw [if_neg (by simpa using fresh), typed]
    dsimp only
    rw [known]
    dsimp only
    rw [checked]
    rfl

theorem validateEach_eq_ok_iff {used : List String} {fields specs : List FieldSpec} :
    validateEach used (fields.map FieldSpec.submission) = .ok specs ↔ specs = fields ∧
      (∀ f ∈ fields, f.name ∉ used ∧ f.Meets IsTested) ∧ (fields.map FieldSpec.name).Nodup := by
  induction fields generalizing used specs with
  | nil => simp [validateEach, eq_comm]
  | cons f fields ih =>
    rw [List.map_cons, validateEach, bind_eq_ok, List.forall_mem_cons, List.map_cons, List.nodup_cons]
    constructor
    · rintro ⟨_, first, rest⟩
      obtain ⟨rfl, fresh, rules⟩ := validateField_eq_ok_iff.1 first
      obtain ⟨_, others, joined⟩ := bind_eq_ok.1 rest
      obtain ⟨rfl, each, apart⟩ := ih.1 others
      refine ⟨(Except.ok.inj joined).symm, ⟨⟨fresh, rules⟩, fun g mem => ?_⟩, fun mem => ?_, apart⟩
      · exact ⟨fun among => (each g mem).1 (.tail _ among), (each g mem).2⟩
      · obtain ⟨g, among, same⟩ := List.mem_map.1 mem
        exact (each g among).1 (same ▸ .head _)
    · rintro ⟨rfl, ⟨⟨fresh, rules⟩, each⟩, first, apart⟩
      refine ⟨f, validateField_eq_ok_iff.2 ⟨rfl, fresh, rules⟩, bind_eq_ok.2 ⟨fields, ih.2 ⟨rfl, ?_, apart⟩,
        rfl⟩⟩
      intro g mem
      refine ⟨fun among => ?_, (each g mem).2⟩
      obtain same | among := List.mem_cons.1 among
      · exact first (same ▸ List.mem_map_of_mem mem)
      · exact (each g mem).1 among

/-- No name is repeated among distinct ones. -/
theorem repeatedNames_isEmpty_iff {names : List String} :
    (repeatedNames names).isEmpty = true ↔ names.Nodup := by
  refine ⟨nodup_of_repeatedNames, fun distinct => ?_⟩
  have once : names.filter (fun n => 1 < names.count n) = [] := by
    rw [List.filter_eq_nil_iff]
    intro name mem
    simpa using List.nodup_iff_count_le_one.1 distinct name
  rw [repeatedNames, once, List.eraseDups_nil, List.mergeSort_nil, List.isEmpty_nil]

/-- Fields of the same name would have the same members. -/
private theorem nodup_names {fields : List FieldSpec}
    (distinct : (fields.flatMap memberNames).Nodup) : (fields.map FieldSpec.name).Nodup := by
  refine List.pairwise_map.2 ((List.nodup_flatMap.1 distinct).2.imp fun {f g} disjoint same => ?_)
  refine disjoint (.head _) ?_
  rw [FieldSpec.attributeName, same]
  exact .head _

theorem validateListed_eq_ok_iff {fields specs : List FieldSpec} :
    validateListed (fields.map FieldSpec.submission) = .ok specs ↔ specs = fields ∧ fields ≠ [] ∧
      fields.length ≤ maxFields ∧ (∀ f ∈ fields, f.Meets IsTested) ∧
      (fields.flatMap memberNames).Nodup := by
  rw [validateListed, List.isEmpty_map, List.length_map]
  by_cases empty : fields = []
  · simp [empty]
  rw [if_neg (by simpa using empty)]
  by_cases many : maxFields < fields.length
  · simp [many]
  rw [if_neg many, bind_eq_ok]
  constructor
  · rintro ⟨found, each, rest⟩
    obtain ⟨rfl, rules, -⟩ := validateEach_eq_ok_iff.1 each
    dsimp only at rest
    split at rest
    · rename_i distinct
      exact ⟨(Except.ok.inj rest).symm, empty, Nat.not_lt.1 many, fun f mem => (rules f mem).2,
        repeatedNames_isEmpty_iff.1 distinct⟩
    · cases rest
  · rintro ⟨rfl, -, -, rules, distinct⟩
    refine ⟨specs, validateEach_eq_ok_iff.2 ⟨rfl, fun f mem => ⟨List.not_mem_nil, rules f mem⟩,
      nodup_names distinct⟩, ?_⟩
    dsimp only
    rw [repeatedNames_isEmpty_iff.2 distinct]
    rfl

theorem validateDescription_eq_ok_iff {given description : Option String} :
    validateDescription (Datum.ofText? given) = .ok description ↔
      description = given ∧ ∀ text ∈ given, text.length ≤ maxDescriptionLength := by
  cases given with
  | none => simp [Datum.ofText?, validateDescription, eq_comm]
  | some text =>
    by_cases long : maxDescriptionLength < text.length
    · simp [Datum.ofText?, validateDescription, long]
    · simp [Datum.ofText?, validateDescription, long, eq_comm, Nat.not_lt.1 long]

/-- A descriptor is accepted, as it is, exactly if it meets the rules, with the identifier test for a
grammar. -/
theorem validate_submission_eq_ok_iff {d accepted : Descriptor} :
    d.submission.validate = .ok accepted ↔ accepted = d ∧ d.Meets IsTested := by
  rw [validate, bind_eq_ok]
  constructor
  · rintro ⟨_, typed, rest⟩
    obtain ⟨rfl, ⟨named, short⟩, unimported⟩ := validateTypeName_eq_ok_iff.1 typed
    obtain ⟨_, spaced, rest⟩ := bind_eq_ok.1 rest
    obtain ⟨rfl, segments, shortSpace⟩ := validateSpace_eq_ok_iff.1 spaced
    obtain ⟨_, declared, rest⟩ := bind_eq_ok.1 rest
    obtain ⟨rfl, nonempty, few, fields, members⟩ := validateListed_eq_ok_iff.1 declared
    obtain ⟨_, described, made⟩ := bind_eq_ok.1 rest
    obtain ⟨rfl, brief⟩ := validateDescription_eq_ok_iff.1 described
    exact ⟨(Except.ok.inj made).symm, named, short, unimported, segments, shortSpace, nonempty, few,
      fields, members, brief⟩
  · rintro ⟨rfl, rules⟩
    have typed := validateTypeName_eq_ok_iff.2
      ⟨rfl, ⟨rules.named, rules.short⟩, rules.unimported⟩
    have spaced := validateSpace_eq_ok_iff.2 ⟨rfl, rules.spaced, rules.shortSpace⟩
    have declared := validateListed_eq_ok_iff.2
      ⟨rfl, rules.nonempty, rules.few, rules.fields, rules.members⟩
    have described := validateDescription_eq_ok_iff.2 ⟨rfl, rules.brief⟩
    exact ⟨_, typed, bind_eq_ok.2 ⟨_, spaced, bind_eq_ok.2 ⟨_, declared,
      bind_eq_ok.2 ⟨_, described, rfl⟩⟩⟩⟩

end Submission

/-- Whether a violation is that of a rule for declarations. The others are found where fields are given
by a value that is no list of declarations. -/
def Violation.isRuled : Violation → Bool
  | .unsizedFields _ => false
  | .foreignFields _ => false
  | _ => true

/-- Whether a check ends in no other violation than those of rules. -/
def IsRuled {α : Type} (check : Except Violation α) : Prop :=
  ∀ v, check = .error v → v.isRuled = true

namespace IsRuled

open Submission

variable {α β : Type}

theorem ok (a : α) : IsRuled (.ok a : Except Violation α) := by
  rintro _ ⟨⟩

theorem error {v : Violation} (ruled : v.isRuled = true) : IsRuled (.error v : Except Violation α) := by
  rintro _ ⟨⟩
  exact ruled

theorem bind {check : Except Violation α} {next : α → Except Violation β} (first : IsRuled check)
    (rest : ∀ a, IsRuled (next a)) : IsRuled (check >>= next) := by
  cases check with
  | ok a => exact rest a
  | error v => exact error (first v rfl)

theorem ite {p : Prop} [Decidable p] {yes no : Except Violation α} (first : p → IsRuled yes)
    (second : ¬ p → IsRuled no) : IsRuled (if p then yes else no) := by
  split
  · exact first ‹p›
  · exact second ‹¬ p›

theorem validateName (role : NameRole) (v : Datum) : IsRuled (validateName role v) := by
  unfold Submission.validateName
  split
  · exact error rfl
  · exact ite (fun _ => error rfl) fun _ => ite (fun _ => error rfl) fun _ =>
      ite (fun _ => error rfl) fun _ => ok _

theorem validateTypeName (v : Datum) : IsRuled (validateTypeName v) :=
  (validateName _ v).bind fun _ => ite (fun _ => error rfl) fun _ => ok _

theorem validateSegments (space : String) (segments : List String) :
    IsRuled (validateSegments space segments) := by
  induction segments with
  | nil => exact ok _
  | cons segment rest ih =>
    exact ite (fun _ => error rfl) fun _ => ite (fun _ => error rfl) fun _ => ih

theorem validateSpace (v : Datum) : IsRuled (validateSpace v) := by
  unfold Submission.validateSpace
  split
  · exact error rfl
  · exact ite (fun _ => error rfl) fun _ => (validateSegments _ _).bind fun _ => ok _

theorem validateDefault (kind : Kind) (typeName field : String) (v : Datum) :
    IsRuled (validateDefault kind typeName field v) := by
  unfold Submission.validateDefault
  split
  · exact ok _
  · split
    · exact error rfl
    · exact ite (fun _ => ok _) fun _ => error rfl
    · exact ok _

theorem validateField (used : List String) (f : SubmittedField) :
    IsRuled (validateField used f) := by
  refine (validateName _ _).bind fun name => ite (fun _ => error rfl) fun _ => ?_
  split
  · exact error rfl
  · split
    · exact error rfl
    · exact (validateDefault _ _ _ _).bind fun _ => ok _

theorem validateEach (used : List String) (fields : List SubmittedField) :
    IsRuled (validateEach used fields) := by
  induction fields generalizing used with
  | nil => exact ok _
  | cons f fields ih => exact (validateField used f).bind fun _ => (ih _).bind fun _ => ok _

theorem validateListed (fields : List SubmittedField) : IsRuled (validateListed fields) :=
  ite (fun _ => error rfl) fun _ => ite (fun _ => error rfl) fun _ =>
    (validateEach _ _).bind fun _ => ite (fun _ => ok _) fun _ => error rfl

theorem validateDescription (v : Datum) : IsRuled (validateDescription v) := by
  unfold Submission.validateDescription
  split
  · exact ok _
  · exact ite (fun _ => error rfl) fun _ => ok _
  · exact error rfl

/-- Whatever is wrong with a descriptor is the violation of a rule. -/
theorem validate (d : Descriptor) : IsRuled d.submission.validate :=
  (validateTypeName _).bind fun _ => (validateSpace _).bind fun _ => (validateListed _).bind fun _ =>
    (validateDescription _).bind fun _ => ok _

end IsRuled

/-- A name of a descriptor ends in a line feed: that of the type, a segment of the namespace or the name
of a field. -/
def Descriptor.EndsLine (d : Descriptor) : Prop :=
  Naming.EndsLine d.typeName ∨ (∃ segment ∈ Naming.segments d.space, Naming.EndsLine segment) ∨
    ∃ f ∈ d.fields, Naming.EndsLine f.name

theorem Naming.obeys_inGrammar_iff {name : String} : Naming.Obeys Naming.InGrammar name ↔
    Naming.Obeys Submission.IsTested name ∧ ¬ Naming.EndsLine name := by
  constructor
  · rintro ⟨shaped, free⟩
    obtain ⟨tested, unended⟩ := Naming.inGrammar_iff.1 shaped
    exact ⟨⟨tested, free⟩, unended⟩
  · rintro ⟨⟨tested, free⟩, unended⟩
    exact ⟨Naming.inGrammar_iff.2 ⟨tested, unended⟩, free⟩

/-- The documented grammar differs from the identifier test only where a name ends in a line feed. -/
theorem Descriptor.meets_inGrammar_iff {d : Descriptor} : d.Meets Naming.InGrammar ↔
    d.Meets Submission.IsTested ∧ ¬ d.EndsLine := by
  constructor
  · intro rules
    obtain ⟨named, unended⟩ := Naming.obeys_inGrammar_iff.1 rules.named
    have spaced := fun segment mem => Naming.obeys_inGrammar_iff.1 (rules.spaced segment mem)
    have fields := fun f mem => Naming.obeys_inGrammar_iff.1 (rules.fields f mem).named
    refine ⟨{ rules with
      named
      spaced := fun segment mem => (spaced segment mem).1
      fields := fun f mem => { rules.fields f mem with named := (fields f mem).1 } }, ?_⟩
    rintro (ends | ⟨segment, mem, ends⟩ | ⟨f, mem, ends⟩)
    · exact unended ends
    · exact (spaced segment mem).2 ends
    · exact (fields f mem).2 ends
  · rintro ⟨rules, unended⟩
    have named := Naming.obeys_inGrammar_iff.2 ⟨rules.named, fun ends => unended (.inl ends)⟩
    refine { rules with named, spaced := fun segment mem => ?_, fields := fun f mem => ?_ }
    · exact Naming.obeys_inGrammar_iff.2
        ⟨rules.spaced segment mem, fun ends => unended (.inr (.inl ⟨segment, mem, ends⟩))⟩
    · exact { rules.fields f mem with
        named := Naming.obeys_inGrammar_iff.2
          ⟨(rules.fields f mem).named, fun ends => unended (.inr (.inr ⟨f, mem, ends⟩))⟩ }

/-- The descriptors that meet the documented rules are exactly the accepted ones in which no name ends
in a line feed; and what is not accepted violates a rule. -/
theorem Descriptor.documented_iff_accepted (d : Descriptor) :
    (d.Meets Naming.InGrammar ↔ d.submission.validate = .ok d ∧ ¬ d.EndsLine) ∧
    (d.submission.validate = .ok d ∨
      ∃ v, d.submission.validate = .error v ∧ v.isRuled = true) := by
  constructor
  · rw [Descriptor.meets_inGrammar_iff]
    simp only [Submission.validate_submission_eq_ok_iff, true_and]
  · cases checked : d.submission.validate with
    | ok accepted =>
      obtain ⟨rfl, -⟩ := Submission.validate_submission_eq_ok_iff.1 checked
      exact .inl rfl
    | error v => exact .inr ⟨v, rfl, IsRuled.validate d v checked⟩

/-- A descriptor whose type has a name that ends in a line feed. -/
def Descriptor.unfinished : Descriptor where
  typeName := "P\n"
  space := "a"
  fields := [⟨"x", "string", false, .null⟩]
  description := none

/-- It is accepted against the documented rules. -/
theorem Descriptor.unfinished_undocumented :
    ¬ (Descriptor.unfinished.submission.validate = .ok .unfinished ↔
      Descriptor.unfinished.Meets Naming.InGrammar) := by
  have accepted : Descriptor.unfinished.submission.validate = .ok .unfinished := by
    with_unfolding_all rfl
  intro documented
  obtain ⟨-, unended⟩ := Descriptor.meets_inGrammar_iff.1 (documented.1 accepted)
  exact unended (.inl rfl)

end FlatRecord
