import FlatRecord.Proofs.Rendering.Populated

/-!
# Coerced values

Binding a document to an instance of a generated class goes by the coercion of kinds alone, whatever the
instance holds: an entry is bound exactly if it gives some field a value, and that value is what the field
then has. Generated setters refuse nothing that coercion to the kind gives, and they keep it as it is.
-/

namespace FlatRecord

/-- An entry of a document gives a field a value. Its key is a text that leads to the setter of the field. Its
value is null, if the field is optional, or another one that coerces to the kind of the field. -/
inductive FieldSpec.Takes (f : FieldSpec) : Datum × Datum → Datum → Prop where
  | null {key : String} (filled : key ≠ "")
    (leads : Naming.setterName f.name = Naming.setterName key) (optional : f.required = false) :
    f.Takes (.text key, .null) .null
  | coerced {key : String} {v w : Datum} (filled : key ≠ "")
    (leads : Naming.setterName f.name = Naming.setterName key) (given : v ≠ .null)
    (coerces : f.kind.coerce v = .ok w) : f.Takes (.text key, v) w

/-- A key addresses a field if it leads to the setter of the field. -/
def FieldSpec.IsAddressedBy (f : FieldSpec) (key : Datum) : Prop :=
  ∃ name, key = .text name ∧ Naming.setterName f.name = Naming.setterName name

section Taking

variable {f : FieldSpec} {entry : Datum × Datum} {w : Datum}

theorem FieldSpec.Takes.isAddressedBy (takes : f.Takes entry w) : f.IsAddressedBy entry.1 := by
  cases takes with
  | null _ leads _ => exact ⟨_, rfl, leads⟩
  | coerced _ leads _ _ => exact ⟨_, rfl, leads⟩

theorem FieldSpec.given?_eq_some_iff : f.given? entry = some w ↔ f.Takes entry w := by
  constructor
  · intro given
    obtain ⟨key, same, filled, leads⟩ := setterName_of_given? given
    obtain ⟨_, v⟩ := entry
    obtain rfl : _ = Datum.text key := same
    have named : key ≠ "" := by simpa using filled
    by_cases null : v = .null
    · subst null
      rw [given?_null filled leads] at given
      cases required : f.required with
      | true => simp [required] at given
      | false =>
        obtain rfl : Datum.null = w := by simpa [required] using given
        exact .null named leads.symm required
    · rw [given?_of_ne_null filled leads null] at given
      exact .coerced named leads.symm null (toOption_eq_some.1 given)
  · intro takes
    cases takes with
    | null filled leads optional =>
      rw [given?_null (by simpa using filled) leads.symm, optional]
      rfl
    | coerced filled leads given coerces =>
      exact given?_of_coerce (by simpa using filled) leads.symm coerces

end Taking

namespace Artifact.Implements

variable {a : Artifact} {d : Descriptor} (implements : a.Implements d)
include implements

/-- An entry writes what it gives some field, and no other entry writes anything. -/
theorem effect_eq_ok_iff {entry : Datum × Datum} {written : Option (String × Datum)} :
    a.effect d.record entry = .ok written ↔
      ∃ f ∈ d.fields, ∃ w, f.Takes entry w ∧ written = some (f.attributeName, w) := by
  simp only [← FieldSpec.given?_eq_some_iff]
  obtain ⟨f, mem, v, given, others, does⟩ | ⟨none, reason, skipped⟩ :=
    implements.valid.effect_cases implements.clean.toIsClean implements.setters entry
  · rw [does, Except.ok.injEq]
    constructor
    · intro same
      exact ⟨f, mem, v, given, same.symm⟩
    · rintro ⟨g, among, w, given', rfl⟩
      obtain rfl : g = f := by
        by_contra other
        rw [others g among other] at given'
        cases given'
      rw [given, Option.some.injEq] at given'
      rw [given']
  · rw [skipped]
    constructor
    · intro done
      cases done
    · rintro ⟨f, mem, w, given, -⟩
      rw [none f mem] at given
      cases given

/-- An entry is bound exactly if it gives some field a value. -/
theorem skipReason?_eq_none_iff {entry : Datum × Datum} :
    a.skipReason? d.record entry = none ↔ ∃ f ∈ d.fields, ∃ w, f.Takes entry w := by
  unfold skipReason?
  constructor
  · intro bound
    cases does : a.effect d.record entry with
    | ok written =>
      obtain ⟨f, mem, w, takes, -⟩ := implements.effect_eq_ok_iff.1 does
      exact ⟨f, mem, w, takes⟩
    | error reason =>
      rw [does] at bound
      cases bound
  · rintro ⟨f, mem, w, takes⟩
    rw [implements.effect_eq_ok_iff.2 ⟨f, mem, w, takes, rfl⟩]

/-- What an entry writes is what it gives some field. -/
theorem written?_eq_some_iff {entry : Datum × Datum} {name : String} {w : Datum} :
    a.written? d.record entry = some (name, w) ↔
      ∃ f ∈ d.fields, f.Takes entry w ∧ name = f.attributeName := by
  rw [written?_eq_some, implements.effect_eq_ok_iff]
  constructor
  · rintro ⟨f, mem, u, takes, same⟩
    obtain ⟨rfl, rfl⟩ : name = f.attributeName ∧ w = u := by simpa using same
    exact ⟨f, mem, takes, rfl⟩
  · rintro ⟨f, mem, takes, rfl⟩
    exact ⟨f, mem, w, takes, rfl⟩

/-- A document in which no two keys address the same field writes to each attribute at most once. -/
theorem nodup_writes {document : Document} (apart : document.Pairwise fun e e' =>
    ∀ f ∈ d.fields, ¬ (f.IsAddressedBy e.1 ∧ f.IsAddressedBy e'.1)) :
    ((a.writes d.record document).map Prod.fst).Nodup := by
  unfold writes List.Nodup
  rw [List.pairwise_map, List.pairwise_filterMap]
  apply apart.imp
  intro e e' apart w written w' written' same
  obtain ⟨f, mem, takes, named⟩ := implements.written?_eq_some_iff.1 written
  obtain ⟨g, among, takes', named'⟩ := implements.written?_eq_some_iff.1 written'
  obtain rfl : f = g := List.inj_on_of_nodup_map implements.valid.nodup_attributeName mem among
    (named.symm.trans (same.trans named'))
  exact apart f mem ⟨takes.isAddressedBy, takes'.isAddressedBy⟩

end Artifact.Implements

/-- Binding agrees with coercion, whatever an instance of the class holds.

Entries are bound in order. An entry is bound exactly if it gives some field a value; then the field has that
value and nothing else is changed, and an entry that is skipped changes nothing. So the report does not depend
on what the instance holds, binding the document again gives the same report and leaves all values, and where
no two keys address the same field the order of the document matters to neither. -/
theorem Artifact.bind_coerces {s : Submission} {d : Descriptor} {source : String}
    (valid : s.validate = .ok d) (rendered : s.source = .ok source) {serial : Nat} {hash : String}
    {a : Artifact} (built : Cache.build serial hash d.qualifiedName source = .ok a) {i : Instance}
    (made : i.record = a.record) (document : Document) :
    (∀ entry, ∃ skipped,
      (a.bind i (document ++ [entry])).2 = (a.bind i document).2 ++ [⟨entry.1, entry.2, skipped⟩] ∧
      (skipped = none ↔ ∃ f ∈ d.fields, ∃ w, f.Takes entry w) ∧
      (∀ f ∈ d.fields, ∀ w, f.Takes entry w → ∀ name,
        (a.bind i (document ++ [entry])).1.value name =
          if name = f.attributeName then .ok w else (a.bind i document).1.value name) ∧
      (skipped ≠ none → (a.bind i (document ++ [entry])).1 = (a.bind i document).1)) ∧
    (∀ j : Instance, j.record = a.record → (a.bind j document).2 = (a.bind i document).2) ∧
    ((a.bind (a.bind i document).1 document).2 = (a.bind i document).2 ∧
      ∀ name, (a.bind (a.bind i document).1 document).1.value name =
        (a.bind i document).1.value name) ∧
    ∀ other, document.Perm other →
      (document.Pairwise fun e e' => ∀ f ∈ d.fields, ¬ (f.IsAddressedBy e.1 ∧ f.IsAddressedBy e'.1)) →
        (∀ name, (a.bind i other).1.value name = (a.bind i document).1.value name) ∧
        (a.bind i other).2.Perm (a.bind i document).2 := by
  have implements := implements_of_build valid rendered built
  have class_eq : i.record = d.record := made.trans implements.record
  refine ⟨fun entry => ⟨a.skipReason? d.record entry, ?_, implements.skipReason?_eq_none_iff, ?_, ?_⟩,
    fun j made' => a.bind_snd_congr (made'.trans made.symm) document,
    ⟨a.bind_snd_congr (by rw [record_bind]) document, a.value_bind_again document⟩, ?_⟩
  · rw [bind_eq, bind_eq, List.map_append, class_eq]
    rfl
  · intro f mem w takes name
    have written : a.written? d.record entry = some (f.attributeName, w) :=
      implements.written?_eq_some_iff.2 ⟨f, mem, takes, rfl⟩
    rw [a.bind_concat_fst, class_eq, written]
    exact Instance.value_poke name
  · intro skipped
    rw [a.bind_concat_fst, class_eq, a.written?_eq_none skipped]
    rfl
  · intro other reordered apart
    have distinct := implements.nodup_writes apart
    rw [← class_eq] at distinct
    refine ⟨a.value_bind_perm reordered distinct, ?_⟩
    rw [bind_eq, bind_eq]
    exact (reordered.map _).symm

/-- A person that holds a list for a number. Binding a number in its place works in either order with another
entry. -/
theorem Artifact.bind_coerces_person : ∃ a, Cache.build 0 "" Descriptor.person.qualifiedName
    Descriptor.person.moduleText = .ok a ∧ ∃ i : Instance, i.record = a.record ∧
      i.value "int_field" = .ok (.list []) ∧
      (a.bind i [(.text "born", .null), (.text "Int", .text " 7 ")]).1.value "int_field" = .ok (.int 7) ∧
      (a.bind i [(.text "Int", .text " 7 "), (.text "born", .null)]).1.value "int_field" =
        .ok (.int 7) := by
  obtain ⟨a, built⟩ := Cache.build_person 0 ""
  let i : Instance := ⟨0, 1, a.record, [("int_field", .list [])]⟩
  have coerces (document : Document) := bind_coerces Descriptor.validate_person
    (Submission.source_of_validate Descriptor.validate_person) built (i := i) rfl document
  have takes : FieldSpec.Takes ⟨"int", "int", false, .int (-5)⟩ (.text "Int", .text " 7 ") (.int 7) :=
    .coerced (by decide) (by decide) (by simp) (by with_unfolding_all rfl)
  have bound : (a.bind i [(.text "born", .null), (.text "Int", .text " 7 ")]).1.value "int_field" =
      .ok (.int 7) := by
    obtain ⟨skipped, -, -, changes, -⟩ := (coerces [(.text "born", .null)]).1 (.text "Int", .text " 7 ")
    exact (changes _ (by simp [Descriptor.person]) _ takes "int_field").trans (if_pos (by decide))
  have apart : [(Datum.text "born", Datum.null), (.text "Int", .text " 7 ")].Pairwise fun e e' =>
      ∀ f ∈ Descriptor.person.fields, ¬ (f.IsAddressedBy e.1 ∧ f.IsAddressedBy e'.1) := by
    refine List.pairwise_pair.2 ?_
    rintro f - ⟨⟨born, named, leads⟩, int, named', leads'⟩
    obtain rfl := Datum.text.inj named
    obtain rfl := Datum.text.inj named'
    exact absurd (leads.symm.trans leads') (by decide)
  have same := ((coerces _).2.2.2 _ (List.Perm.swap _ _ _) apart).1 "int_field"
  exact ⟨a, built, i, rfl, rfl, bound, same.trans bound⟩

end FlatRecord
