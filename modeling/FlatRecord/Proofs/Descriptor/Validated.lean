import FlatRecord.Descriptor.Validation
import FlatRecord.Generation
import FlatRecord.Proofs.Scalar.Coerced
import Mathlib.Data.List.Nodup

/-!
# Validated descriptors

What a descriptor is known to be once a submission has passed validation, and what generation reads
off such a submission: the plan of the descriptor.
-/

namespace FlatRecord

/-- A name as validation demands it. -/
structure Naming.IsAllowed (name : String) : Prop where
  identifier : Naming.isIdentifier name
  free : Naming.isReserved name = false

namespace FieldSpec

/-- The kind of a field whose type name stands for one. -/
def kind (f : FieldSpec) : Kind := f.kind?.getD .string

/-- The value of a field that no document gives one: its default in the kind of the field, or null. -/
def initial (f : FieldSpec) : Datum :=
  match f.default with
  | .null => .null
  | v => (f.kind.coerce v).toOption.getD .null

/-- The plan of a field. -/
def planned (f : FieldSpec) : FieldPlan := ⟨f.name, f.kind, f.required, f.initial⟩

/-- What validation makes sure of for a field. -/
structure IsValid (f : FieldSpec) : Prop where
  named : Naming.IsAllowed f.name
  known : Kind.resolve? f.typeName = some f.kind
  converts : f.default ≠ .null → f.kind.coerce f.default = .ok f.initial
  finite : ∀ x, f.initial = .float x → x.isFinite

end FieldSpec

namespace Descriptor

/-- The plan of a descriptor. -/
def planned (d : Descriptor) : RecordPlan :=
  ⟨d.typeName, d.qualifiedName, .text d.space, Datum.ofText? d.description,
    d.fields.map FieldSpec.planned⟩

/-- What validation makes sure of. -/
structure IsValid (d : Descriptor) : Prop where
  named : Naming.IsAllowed d.typeName
  unimported : d.typeName ∉ Naming.moduleNames
  segments : ∀ segment ∈ Naming.segments d.space, Naming.IsAllowed segment
  nonempty : d.fields ≠ []
  fields : ∀ f ∈ d.fields, f.IsValid
  members : (d.fields.flatMap Submission.memberNames).Nodup

end Descriptor

/-- The declaration that a submitted field makes. -/
def SubmittedField.spec (f : SubmittedField) : FieldSpec :=
  ⟨f.name.text?.getD "", f.typeName.text?.getD "", f.required.isTruthy, f.default⟩

namespace Submission

/-- A text that has more than blanks in it is a text. -/
theorem meaningfulText?_eq_some {v : Datum} {s : String} (h : meaningfulText? v = some s) :
    v = .text s := by
  unfold meaningfulText? at h
  split at h
  · split at h <;> simp_all
  · simp at h

/-- A name that passes validation is a text and allowed. -/
theorem validateName_eq_ok {role : NameRole} {v : Datum} {name : String}
    (h : validateName role v = .ok name) : v = .text name ∧ Naming.IsAllowed name := by
  unfold validateName at h
  split at h
  · simp at h
  · rename_i s text
    have shape := meaningfulText?_eq_some text
    simp only [Bool.not_eq_true'] at h
    split at h
    · simp at h
    split at h
    · simp at h
    split at h
    · simp at h
    · rename_i identifier free
      obtain rfl : s = name := by simpa using h
      exact ⟨shape, by simpa using identifier, by simpa using free⟩

/-- A type name that passes validation is moreover none that modules import. -/
theorem validateTypeName_eq_ok {v : Datum} {name : String} (h : validateTypeName v = .ok name) :
    v = .text name ∧ Naming.IsAllowed name ∧ name ∉ Naming.moduleNames := by
  obtain ⟨given, valid, h⟩ := bind_eq_ok.1 h
  split at h
  · simp at h
  · rename_i other
    obtain rfl : given = name := by simpa [pure, Except.pure] using h
    obtain ⟨shape, allowed⟩ := validateName_eq_ok valid
    exact ⟨shape, allowed, by simpa using other⟩

/-- The segments of a namespace that passes validation are allowed names. -/
theorem validateSegments_eq_ok {space : String} {segments : List String}
    (h : validateSegments space segments = .ok ()) :
    ∀ segment ∈ segments, Naming.IsAllowed segment := by
  induction segments with
  | nil => simp
  | cons segment rest ih =>
    unfold validateSegments at h
    simp only [Bool.not_eq_true'] at h
    split at h
    · simp at h
    split at h
    · simp at h
    · rename_i identifier free
      refine List.forall_mem_cons.2 ⟨⟨by simpa using identifier, by simpa using free⟩, ih h⟩

/-- A namespace that passes validation is a text of allowed names. -/
theorem validateSpace_eq_ok {v : Datum} {space : String} (h : validateSpace v = .ok space) :
    v = .text space ∧ ∀ segment ∈ Naming.segments space, Naming.IsAllowed segment := by
  unfold validateSpace at h
  split at h
  · simp at h
  · rename_i s text
    have shape := meaningfulText?_eq_some text
    split at h
    · simp at h
    · cases valid : validateSegments s (Naming.segments s) with
      | error v => simp [valid, Except.map] at h
      | ok _ =>
        obtain rfl : s = space := by simpa [valid, Except.map] using h
        exact ⟨shape, validateSegments_eq_ok valid⟩

/-- A default that passes validation is null or converts to a value that is finite. -/
theorem validateDefault_eq_ok {kind : Kind} {typeName field : String} {v : Datum}
    (h : validateDefault kind typeName field v = .ok ()) (given : v ≠ .null) :
    ∃ w, kind.coerce v = .ok w ∧ ∀ x, w = .float x → x.isFinite := by
  unfold validateDefault at h
  split at h
  · exact absurd rfl given
  · split at h
    · simp at h
    · rename_i x converted
      split at h
      · rename_i finite
        exact ⟨_, converted, by rintro _ ⟨⟩; exact finite⟩
      · simp at h
    · rename_i w other converted
      exact ⟨w, converted, fun x same => absurd same (other x)⟩

/-- What validation makes sure of for a field, and what it reads off it. -/
theorem validateField_eq_ok {used : List String} {f : SubmittedField} {spec : FieldSpec}
    (h : validateField used f = .ok spec) :
    f.name = .text spec.name ∧ f.typeName = .text spec.typeName ∧ spec = f.spec ∧ spec.IsValid := by
  obtain ⟨name, valid, h⟩ := bind_eq_ok.1 h
  obtain ⟨named, allowed⟩ := validateName_eq_ok valid
  split at h
  · simp at h
  split at h
  · simp at h
  rename_i typeName text
  have typed := meaningfulText?_eq_some text
  split at h
  · simp at h
  rename_i kind known
  obtain ⟨_, checked, h⟩ := bind_eq_ok.1 h
  obtain rfl : (⟨name, typeName, f.required.isTruthy, f.default⟩ : FieldSpec) = spec := by
    simpa [pure, Except.pure] using h
  refine ⟨named, typed, by simp [SubmittedField.spec, named, typed, Datum.text?], allowed, ?_, ?_, ?_⟩
  · simp [FieldSpec.kind, FieldSpec.kind?, known]
  · intro given
    obtain ⟨w, converted, -⟩ := validateDefault_eq_ok checked given
    simp_all [FieldSpec.initial, FieldSpec.kind, FieldSpec.kind?, Except.toOption]
  · intro x initial
    by_cases given : f.default = .null
    · simp [FieldSpec.initial, given] at initial
    · obtain ⟨w, converted, finite⟩ := validateDefault_eq_ok checked given
      refine finite x ?_
      simpa [FieldSpec.initial, FieldSpec.kind, FieldSpec.kind?, known, given, converted,
        Except.toOption] using initial

/-- What validation makes sure of for all fields. -/
theorem validateEach_eq_ok {used : List String} {fields : List SubmittedField}
    {specs : List FieldSpec} (h : validateEach used fields = .ok specs) :
    specs = fields.map SubmittedField.spec ∧ ∀ f ∈ fields,
      f.name = .text f.spec.name ∧ f.typeName = .text f.spec.typeName ∧ f.spec.IsValid := by
  induction fields generalizing used specs with
  | nil =>
    obtain rfl : [] = specs := by simpa [validateEach] using h
    exact ⟨rfl, by simp⟩
  | cons f fields ih =>
    obtain ⟨spec, first, h⟩ := bind_eq_ok.1 h
    obtain ⟨others, rest, h⟩ := bind_eq_ok.1 h
    obtain rfl : spec :: others = specs := by simpa [pure, Except.pure] using h
    obtain ⟨named, typed, rfl, valid⟩ := validateField_eq_ok first
    obtain ⟨rfl, all⟩ := ih rest
    exact ⟨rfl, List.forall_mem_cons.2 ⟨⟨named, typed, valid⟩, all⟩⟩

/-- Names among which none is repeated are distinct. -/
theorem nodup_of_repeatedNames {names : List String} (h : (repeatedNames names).isEmpty) :
    names.Nodup := by
  rw [List.nodup_iff_count_le_one]
  intro name
  by_contra more
  have mem : name ∈ names := List.count_pos_iff.1 (by omega)
  have found : name ∈ repeatedNames names := by
    rw [repeatedNames, List.mem_mergeSort, List.mem_eraseDups, List.mem_filter]
    exact ⟨mem, by simpa using more⟩
  rw [List.isEmpty_iff.1 h] at found
  simp at found

/-- What validation makes sure of for a list of fields. -/
theorem validateListed_eq_ok {fields : List SubmittedField} {specs : List FieldSpec}
    (h : validateListed fields = .ok specs) :
    specs = fields.map SubmittedField.spec ∧ fields ≠ [] ∧
      (specs.flatMap memberNames).Nodup ∧ ∀ f ∈ fields,
        f.name = .text f.spec.name ∧ f.typeName = .text f.spec.typeName ∧ f.spec.IsValid := by
  unfold validateListed at h
  split at h
  · simp at h
  rename_i nonempty
  split at h
  · simp at h
  obtain ⟨found, each, h⟩ := bind_eq_ok.1 h
  dsimp only at h
  split at h
  · rename_i distinct
    obtain rfl : found = specs := by simpa [pure, Except.pure] using h
    obtain ⟨shape, all⟩ := validateEach_eq_ok each
    exact ⟨shape, by simpa using nonempty, nodup_of_repeatedNames distinct, all⟩
  · simp at h

/-- A description that passes validation is a text or null. -/
theorem validateDescription_eq_ok {v : Datum} {description : Option String}
    (h : validateDescription v = .ok description) : v = Datum.ofText? description := by
  unfold validateDescription at h
  split at h
  · obtain rfl : none = description := by simpa using h
    rfl
  · split at h
    · simp at h
    · obtain rfl : some _ = description := by simpa using h
      rfl
  · simp at h

variable {s : Submission} {d : Descriptor}

/-- The parts of a submission that passes validation. -/
theorem validate_eq_ok (h : s.validate = .ok d) :
    d.IsValid ∧ ∃ fields, s = ⟨.text d.typeName, .text d.space, .listed fields,
      Datum.ofText? d.description⟩ ∧ d.fields = fields.map SubmittedField.spec ∧ ∀ f ∈ fields,
        f.name = .text f.spec.name ∧ f.typeName = .text f.spec.typeName ∧ f.spec.IsValid := by
  obtain ⟨givenType, givenSpace, givenFields, givenDescription⟩ := s
  obtain ⟨typeName, typed, h⟩ := bind_eq_ok.1 h
  obtain ⟨space, spaced, h⟩ := bind_eq_ok.1 h
  obtain ⟨specs, declared, h⟩ := bind_eq_ok.1 h
  obtain ⟨description, described, h⟩ := bind_eq_ok.1 h
  obtain rfl : (⟨typeName, space, specs, description⟩ : Descriptor) = d := by
    simpa [pure, Except.pure] using h
  obtain ⟨rfl, allowed, unimported⟩ := validateTypeName_eq_ok typed
  obtain ⟨rfl, segments⟩ := validateSpace_eq_ok spaced
  obtain rfl := validateDescription_eq_ok described
  cases givenFields with
  | other value => simp [validateFields] at declared
  | listed fields =>
    obtain ⟨rfl, nonempty, members, all⟩ := validateListed_eq_ok declared
    refine ⟨⟨allowed, unimported, segments, by simpa using nonempty, ?_, members⟩,
      fields, rfl, rfl, all⟩
    intro f mem
    obtain ⟨given, among, rfl⟩ := List.mem_map.1 mem
    exact (all given among).2.2

/-- The plan of a descriptor is that of the declarations it was made of. -/
theorem plan_listed {fields : List SubmittedField}
    (declared : d.fields = fields.map SubmittedField.spec) (all : ∀ f ∈ fields,
      f.name = .text f.spec.name ∧ f.typeName = .text f.spec.typeName ∧ f.spec.IsValid) :
    Generation.plan ⟨.text d.typeName, .text d.space, .listed fields, Datum.ofText? d.description⟩ =
      .ok d.planned := by
  have kinds : fields.mapM Generation.fieldKind = .ok (fields.map fun f => f.spec.kind) := by
    refine mapM_eq_pure fun f mem => ?_
    obtain ⟨-, typed, valid⟩ := all f mem
    rw [Generation.fieldKind, typed]
    simp only [valid.known]
    rfl
  have plans : (fields.map fun f => (f, f.spec.kind)).mapM (fun p => Generation.planField p.1 p.2) =
      .ok ((fields.map fun f => (f, f.spec.kind)).map fun p => p.1.spec.planned) := by
    refine mapM_eq_pure fun p mem => ?_
    obtain ⟨f, among, rfl⟩ := List.mem_map.1 mem
    obtain ⟨named, -, valid⟩ := all f among
    have default : Generation.plannedDefault f.spec.kind f.default = .ok f.spec.initial := by
      unfold Generation.plannedDefault FieldSpec.initial
      split
      · rename_i absent
        rw [show f.spec.default = .null from absent]
      · rename_i given
        have converted := valid.converts given
        rw [show f.spec.default = f.default from rfl] at converted ⊢
        rw [converted]
        rfl
    rw [Generation.planField, named]
    simp only [default]
    rfl
  rw [List.map_map, List.map_prod_left_eq_zip] at plans
  have shown : (Datum.text d.space).displayString = d.space := String.ofList_toList
  simp only [Generation.plan, Generation.declarations, bind, Except.bind, kinds, plans, shown,
    Descriptor.planned, declared, List.map_map]
  rfl

/-- The source of a submission that passes validation is the record module of its descriptor. -/
theorem source_of_validate (h : s.validate = .ok d) :
    s.source = .ok (String.ofList (Generation.module d.planned).print) := by
  obtain ⟨-, fields, rfl, declared, all⟩ := validate_eq_ok h
  rw [source, plan_listed declared all]
  rfl

end Submission

/-- The source of a valid descriptor is its record module. -/
theorem Descriptor.IsValid.source {d : Descriptor} (valid : d.IsValid) :
    d.source = .ok (String.ofList (Generation.module d.planned).print) := by
  have declared : d.fields = (d.fields.map FieldSpec.submission).map SubmittedField.spec := by
    rw [List.map_map]
    exact (List.map_id d.fields).symm
  have plan := Submission.plan_listed declared fun f mem => by
    obtain ⟨f, among, rfl⟩ := List.mem_map.1 mem
    exact ⟨rfl, rfl, valid.fields f among⟩
  rw [Descriptor.source, Submission.source, Descriptor.submission, plan]
  rfl

/-- A descriptor with texts that need care: quotes, line feeds, backslashes and markup. -/
def Descriptor.person : Descriptor where
  typeName := "Person"
  space := "app.models"
  fields := [⟨"name", "string", true, .text "it's \"\"\" <&> \\ \n"⟩,
    ⟨"int", "int", false, .int (-5)⟩, ⟨"born", "date", false, .text "2020-02-29"⟩]
  description := some "a \\ \"\"\" \t b"

theorem Descriptor.validate_person : Descriptor.person.submission.validate = .ok .person := by
  with_unfolding_all rfl

end FlatRecord
