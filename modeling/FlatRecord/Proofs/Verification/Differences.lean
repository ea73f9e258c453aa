import FlatRecord.Proofs.Rendering.Refinement
import FlatRecord.Proofs.Verification.Schema

/-!
# Differences that verification reports

A descriptor that is compared with the class of another one shows no difference exactly if both have
the same type name and the same fields in the same order, as far as schemas tell kinds apart.
-/

namespace FlatRecord

/-- The kind that stands for all kinds whose values have the same types in schemas. -/
def Kind.representative : Kind → Kind
  | int64 => int32
  | float64 => float32
  | date => string
  | dateTime => string
  | kind => kind

/-- Two declarations that schemas do not tell apart. -/
structure FieldSpec.SharesSchema (f g : FieldSpec) : Prop where
  name : f.name = g.name
  required : f.required = g.required
  kind : f.kind.representative = g.kind.representative

/-- Two descriptors that schemas do not tell apart. -/
structure Descriptor.SharesSchema (d e : Descriptor) : Prop where
  typeName : d.typeName = e.typeName
  fields : List.Forall₂ FieldSpec.SharesSchema d.fields e.fields

theorem Descriptor.SharesSchema.refl (d : Descriptor) : d.SharesSchema d :=
  ⟨rfl, List.forall₂_same.2 fun _ _ => ⟨rfl, rfl, rfl⟩⟩

namespace Verification

/-- Two values are compared by their equality. -/
theorem compare_eq_nil_iff {path : String} {expected actual : Datum} :
    compare path expected actual = [] ↔ expected.same actual = true := by
  unfold compare
  split <;> simp_all

/-- Names in alphabetical order are the same names. -/
theorem mem_of_same_sortedNames {names others : List String}
    (same : (sortedNames names).same (sortedNames others) = true) (name : String) :
    name ∈ names ↔ name ∈ others := by
  unfold sortedNames at same
  rw [Datum.same_texts, decide_eq_true_eq] at same
  have mem (names : List String) :
      name ∈ names.eraseDups.mergeSort (fun a b => decide (a ≤ b)) ↔ name ∈ names := by
    rw [List.mem_mergeSort, List.mem_eraseDups]
  rw [← mem names, same, mem others]

/-- The types of two fields are the same exactly if both are required or neither is, and schemas do
not tell their kinds apart. -/
theorem same_typeNames_iff {kind other : Kind} {required needed : Bool} :
    (sortedNames (Generation.typeNames kind required)).same
        (sortedNames (Generation.typeNames other needed)) = true ↔
      required = needed ∧ kind.representative = other.representative := by
  constructor
  · intro same
    have mem := mem_of_same_sortedNames same
    have null := mem "null"
    have text := mem "string"
    have whole := mem "integer"
    have number := mem "number"
    have truth := mem "boolean"
    clear same mem
    cases kind <;> cases other <;> cases required <;> cases needed <;>
      simp_all [Generation.typeNames, kindTypes, Kind.representative]
  · rintro ⟨rfl, alike⟩
    have types : kindTypes kind = kindTypes other := by
      cases kind <;> cases other <;> first | rfl | simp [Kind.representative] at alike
    unfold Generation.typeNames sortedNames
    rw [types, Datum.same_texts, decide_eq_true_eq]

variable {f g : FieldSpec}

/-- A declaration that is compared with the property of another one. -/
theorem verifyField_eq_nil_iff (valid : f.IsValid) :
    verifyField f (Generation.propertyOf g.planned) = [] ↔ f.SharesSchema g := by
  have known : f.kind? = some f.kind := valid.known
  unfold verifyField
  dsimp only
  rw [known, List.append_eq_nil_iff, compare_eq_nil_iff, Generation.types_propertyOf,
    compare_eq_nil_iff, Generation.xmlName_propertyOf]
  show (sortedNames (Generation.typeNames f.kind f.required)).same
    (sortedNames (Generation.typeNames g.kind g.required)) = true ∧
      (Datum.text f.name).same (.text g.name) = true ↔ _
  rw [same_typeNames_iff, Datum.same_text, beq_iff_eq]
  exact ⟨fun ⟨⟨required, kind⟩, name⟩ => ⟨name, required, kind⟩,
    fun ⟨name, required, kind⟩ => ⟨⟨required, kind⟩, name⟩⟩

end Verification

open Verification

variable {d e : Descriptor}

/-- The names of the fields are compared in order. -/
theorem compare_names_eq_nil_iff : compare "$.properties" (.list (d.fields.map fun f => .text f.name))
    (.list (e.properties.map Prod.fst)) = [] ↔
      d.fields.map FieldSpec.name = e.fields.map FieldSpec.name := by
  have texts (fields : List FieldSpec) : fields.map (fun f => Datum.text f.name) =
      (fields.map FieldSpec.name).map .text := by
    rw [List.map_map]
    rfl
  have keys : e.properties.map Prod.fst = e.fields.map fun f => Datum.text f.name := by
    rw [Descriptor.properties, List.map_map]
    rfl
  rw [compare_eq_nil_iff, keys, texts, texts, Datum.same_texts, decide_eq_true_eq]

/-- The properties of the fields are compared name by name, which pairs fields at the same places if
their names are the same in order. -/
theorem Descriptor.IsValid.verifyFields_eq_nil_iff (valid : d.IsValid) (other : e.IsValid)
    (names : d.fields.map FieldSpec.name = e.fields.map FieldSpec.name) :
    (d.fields.flatMap fun f => match Datum.field? e.properties f.name with
      | some (.map entries) => verifyField f entries
      | _ => []) = [] ↔ List.Forall₂ FieldSpec.SharesSchema d.fields e.fields := by
  have length : d.fields.length = e.fields.length := by
    simpa using congrArg List.length names
  have together : List.Forall₂ (fun f g => f.name = g.name) d.fields e.fields :=
    List.forall₂_map_left_iff.1 (List.forall₂_map_right_iff.1 (List.forall₂_eq_eq_eq ▸ names))
  have pair {f g : FieldSpec} (mem : (f, g) ∈ d.fields.zip e.fields) :
      (match Datum.field? e.properties f.name with
        | some (.map entries) => verifyField f entries
        | _ => []) = [] ↔ f.SharesSchema g := by
    obtain ⟨among, behind⟩ := List.of_mem_zip mem
    have named : f.name = g.name := (List.forall₂_iff_zip.1 together).2 mem
    rw [named, Descriptor.properties, Datum.field?_map other.nodup_name behind]
    exact verifyField_eq_nil_iff (valid.fields f among)
  rw [List.flatMap_eq_nil_iff, List.forall₂_iff_zip]
  constructor
  · intro clear
    exact ⟨length, fun mem => (pair mem).1 (clear _ (List.of_mem_zip mem).1)⟩
  · intro shares f among
    rw [← List.map_fst_zip length.le] at among
    obtain ⟨⟨f, g⟩, mem, rfl⟩ := List.mem_map.1 among
    exact (pair mem).2 (shares.2 mem)

/-- A descriptor shows no difference from the schema of another one exactly if schemas do not tell the
two apart. -/
theorem Descriptor.IsValid.verifySchema_eq_nil_iff (valid : d.IsValid) (other : e.IsValid) :
    verifySchema d e.schema = [] ↔ d.SharesSchema e := by
  have title : Datum.field? e.schema "title" = some (.text e.typeName) := by
    rw [e.field?_schema (by decide)]
    simp
  have element : Schema.xmlName e.schema = .text e.typeName := by
    unfold Schema.xmlName
    rw [e.field?_schema (by decide)]
    simp
  have properties : Verification.properties e.schema = e.properties := by
    unfold Verification.properties
    rw [e.field?_schema (by decide)]
    simp
  unfold verifySchema
  dsimp only
  rw [e.schemaFault?_schema, title, element, properties, List.nil_append, Option.getD_some,
    List.append_eq_nil_iff, List.append_eq_nil_iff, List.append_eq_nil_iff, compare_names_eq_nil_iff,
    compare_eq_nil_iff, compare_eq_nil_iff, Datum.same_text, beq_iff_eq]
  constructor
  · rintro ⟨⟨⟨typeName, -⟩, names⟩, clear⟩
    exact ⟨typeName, (valid.verifyFields_eq_nil_iff other names).1 clear⟩
  · rintro ⟨typeName, fields⟩
    have together := fields.imp fun _ _ shares => shares.name
    have names : d.fields.map FieldSpec.name = e.fields.map FieldSpec.name :=
      List.forall₂_eq_eq_eq ▸
        List.forall₂_map_left_iff.2 (List.forall₂_map_right_iff.2 together)
    exact ⟨⟨⟨typeName, typeName⟩, names⟩, (valid.verifyFields_eq_nil_iff other names).2 fields⟩

/-- A descriptor that is verified against a record compiled from the source of another one shows no
difference exactly if schemas do not tell the two apart; that of its own source never shows one. -/
theorem Artifact.verify_mismatches_eq_nil_iff {s t : Submission} {source : String}
    (valid : s.validate = .ok d) (other : t.validate = .ok e) (rendered : t.source = .ok source)
    {serial : Nat} {hash : String} {a : Artifact}
    (built : Cache.build serial hash e.qualifiedName source = .ok a) :
    ((a.verify d).mismatches = [] ↔ d.SharesSchema e) ∧ (a.verify e).mismatches = [] := by
  have known := (Submission.validate_eq_ok valid).1
  have declared := (Submission.validate_eq_ok other).1
  obtain rfl : e.moduleText = source :=
    Except.ok.inj ((Submission.source_of_validate other).symm.trans rendered)
  obtain ⟨-, made, -⟩ := declared.parts_of_build built
  have differences (c : Descriptor) : (a.verify c).mismatches = verifySchema c e.schema := by
    rw [Artifact.verify, made, declared.ofRecord_record]
  rw [differences, differences]
  exact ⟨known.verifySchema_eq_nil_iff declared,
    (declared.verifySchema_eq_nil_iff declared).2 (.refl e)⟩

/-- A person with other kinds, none of which schemas tell from those of `person`. -/
def Descriptor.datedPerson : Descriptor where
  typeName := "Person"
  space := "app.archive"
  fields := [⟨"name", "LocalDate", true, .null⟩, ⟨"int", "long", false, .null⟩,
    ⟨"born", "datetime", false, .text "2020-02-29T12:00+01:00"⟩]
  description := none

/-- The record of a person passes for one of the other descriptor. -/
theorem Artifact.verify_datedPerson : ∃ a, Cache.build 0 "" Descriptor.person.qualifiedName
    Descriptor.person.moduleText = .ok a ∧ (a.verify .datedPerson).mismatches = [] := by
  have valid : Descriptor.datedPerson.submission.validate = .ok .datedPerson := by
    with_unfolding_all rfl
  obtain ⟨a, built⟩ := Cache.build_person 0 ""
  have shares : Descriptor.datedPerson.SharesSchema .person :=
    ⟨rfl, .cons ⟨rfl, rfl, by decide⟩ (.cons ⟨rfl, rfl, by decide⟩ (.cons ⟨rfl, rfl, by decide⟩ .nil))⟩
  exact ⟨a, built, (verify_mismatches_eq_nil_iff valid Descriptor.validate_person
    (Submission.source_of_validate Descriptor.validate_person) built).1.2 shares⟩

end FlatRecord
