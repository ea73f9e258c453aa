import FlatRecord.Proofs.Binding.CoercedValues
import FlatRecord.Proofs.Text.AsciiCapitals

/-!
# Keys and names

A key of a document leads to a field if its setter is the field's. Declared names are ASCII, but keys are any
text: a key leads to a name that it equals up to the case of its first letter, and it also leads to a name if it
has one of the few characters outside ASCII, whose capital forms are in ASCII, in place of its first letters. All
other keys are skipped, wherever they stand in a document, and change nothing.
-/

namespace FlatRecord

namespace Naming

/-- A key equals a name up to the ASCII case of its first letter. -/
def SameButForCase (key name : String) : Prop :=
  key.toList.modifyHead Char.toUpper = name.toList.modifyHead Char.toUpper

instance (key name : String) : Decidable (SameButForCase key name) :=
  inferInstanceAs (Decidable (_ = _))

/-- A key has a character outside ASCII where a name has the letters of its capital form. -/
def Respells (key name : String) : Prop :=
  ∃ entry ∈ Text.asciiCapitals, key.toList.head? = some entry.1 ∧
    entry.2 ++ key.toList.tail = name.toList.modifyHead Char.toUpper

instance (key name : String) : Decidable (Respells key name) :=
  inferInstanceAs (Decidable (∃ entry ∈ Text.asciiCapitals, _))

theorem setterName_inj {key name : String} :
    setterName key = setterName name ↔ (capitalize key).toList = (capitalize name).toList := by
  unfold setterName
  rw [String.append_right_inj, String.toList_inj]

theorem toList_capitalize {name : String} {c : Char} {rest : List Char}
    (shape : name.toList = c :: rest) : (capitalize name).toList = Text.uppercase c ++ rest := by
  unfold capitalize
  rw [shape]
  exact String.toList_ofList

/-- The capital form of a text that begins in ASCII. -/
theorem toList_capitalize_of_lt {name : String} {c : Char} {rest : List Char}
    (shape : name.toList = c :: rest) (native : c.toNat < 0x80) :
    (capitalize name).toList = name.toList.modifyHead Char.toUpper := by
  rw [toList_capitalize shape, Text.uppercase_of_lt native, shape]
  rfl

/-- Respelling begins with a character outside ASCII. -/
theorem Respells.exists_foreign {key name : String} (respells : Respells key name) :
    ∃ c rest, key.toList = c :: rest ∧ 0x80 ≤ c.toNat ∧
      Text.uppercase c ++ rest = name.toList.modifyHead Char.toUpper := by
  obtain ⟨⟨c, letters⟩, mem, first, same⟩ := respells
  obtain ⟨rest, shape⟩ := List.head?_eq_some_iff.1 first
  obtain rfl := Text.uppercase_of_mem_asciiCapitals mem
  rw [shape] at same
  exact ⟨c, rest, shape, (Text.mem_asciiCapitals_iff.1 mem).1, same⟩

section Ascii

variable {key name : String} (filled : name ≠ "") (ascii : ∀ c ∈ name.toList, c.toNat < 0x80)
include ascii

/-- A name in ASCII is in ASCII when it is capitalized, too. -/
theorem toNat_lt_of_mem_modifyHead : ∀ c ∈ name.toList.modifyHead Char.toUpper, c.toNat < 0x80 := by
  cases shape : name.toList with
  | nil => simp
  | cons c rest =>
    rw [shape] at ascii
    obtain ⟨first, others⟩ := List.forall_mem_cons.1 ascii
    exact List.forall_mem_cons.2 ⟨Text.toNat_toUpper_lt_iff.2 first, others⟩

include filled

theorem toList_capitalize_of_ascii :
    (capitalize name).toList = name.toList.modifyHead Char.toUpper := by
  obtain ⟨c, rest, shape⟩ := List.exists_cons_of_ne_nil (mt String.toList_eq_nil_iff.1 filled)
  exact toList_capitalize_of_lt shape (ascii c (by rw [shape]; exact .head _))

/-- What equals an ASCII name up to the case of the first letter begins in ASCII, too. -/
theorem SameButForCase.exists_native (same : SameButForCase key name) :
    ∃ c rest, key.toList = c :: rest ∧ c.toNat < 0x80 := by
  unfold SameButForCase at same
  cases shape : key.toList with
  | nil =>
    rw [shape] at same
    have empty : name.toList = [] := by simpa using same.symm
    exact absurd (String.toList_eq_nil_iff.1 empty) filled
  | cons c rest =>
    refine ⟨c, rest, rfl, Text.toNat_toUpper_lt_iff.1 (toNat_lt_of_mem_modifyHead ascii _ ?_)⟩
    rw [← same, shape]
    exact .head _

/-- A key leads to an ASCII name if it equals it up to the case of the first letter, or respells it, and in no
other case. -/
theorem setterName_eq_iff :
    setterName key = setterName name ↔ SameButForCase key name ∨ Respells key name := by
  rw [setterName_inj, toList_capitalize_of_ascii filled ascii]
  constructor
  · intro leads
    have present : key ≠ "" := by
      rintro rfl
      have empty : name.toList = [] := by simpa [capitalize] using leads.symm
      exact filled (String.toList_eq_nil_iff.1 empty)
    obtain ⟨c, rest, shape⟩ := List.exists_cons_of_ne_nil (mt String.toList_eq_nil_iff.1 present)
    by_cases native : c.toNat < 0x80
    · rw [toList_capitalize_of_lt shape native] at leads
      exact .inl leads
    · rw [toList_capitalize shape] at leads
      have throughout : ∀ d ∈ Text.uppercase c, d.toNat < 0x80 := by
        intro d mem
        apply toNat_lt_of_mem_modifyHead ascii
        rw [← leads]
        exact List.mem_append_left _ mem
      have known := Text.mem_asciiCapitals_iff.2 ⟨Nat.le_of_not_lt native, throughout⟩
      refine .inr ⟨_, known, ?_, ?_⟩ <;> rw [shape]
      · rfl
      · exact leads
  · rintro (same | respells)
    · obtain ⟨c, rest, shape, native⟩ := same.exists_native filled ascii
      rw [toList_capitalize_of_lt shape native]
      exact same
    · obtain ⟨c, rest, shape, -, same⟩ := respells.exists_foreign
      rw [toList_capitalize shape]
      exact same

end Ascii

end Naming

namespace Artifact.Implements

variable {a : Artifact} {d : Descriptor} (implements : a.Implements d)
include implements

/-- A key leads to a field if it equals the name of the field up to the case of the first letter, or respells
it, and in no other case. -/
theorem setterName_eq_iff {f : FieldSpec} (mem : f ∈ d.fields) (key : String) :
    f.setterName = Naming.setterName key ↔
      Naming.SameButForCase key f.name ∨ Naming.Respells key f.name := by
  have named := implements.valid.isName implements.clean.toIsClean mem
  have filled : f.name ≠ "" := by
    intro empty
    have word := named.1
    rw [empty] at word
    exact absurd word (by decide)
  refine eq_comm.trans (Naming.setterName_eq_iff filled fun c mem => ?_)
  exact Script.toNat_lt_of_isFollowing (Naming.isFollowing_of_isWord named.1 c mem)

/-- A key that leads to no field is skipped, whatever its value. -/
theorem skipReason?_of_forall_ne {key : String}
    (unlike : ∀ f ∈ d.fields, f.setterName ≠ Naming.setterName key) (v : Datum) :
    a.skipReason? d.record (.text key, v) = some (if key = "" then .notText else .noSetter) := by
  have missing : a.setter? (Naming.setterName key) = none := by
    rw [d.setter?_eq implements.setters, List.find?_eq_none.2 fun f mem => by simpa using unlike f mem]
    rfl
  unfold skipReason? effect
  dsimp only
  by_cases empty : key = ""
  · rw [if_pos (String.isEmpty_iff.2 empty), if_pos empty]
  · rw [if_neg (mt String.isEmpty_iff.1 empty), if_neg empty, missing]

end Artifact.Implements

/-- A key that equals no declared name up to the case of its first letter, and respells none, is skipped without
any effect: because there is no setter for it, or because it is empty. Wherever it stands in a document, the
instance and the rest of the report are those of the document without it. -/
theorem Artifact.bind_undeclared_key {s : Submission} {d : Descriptor} {source : String}
    (valid : s.validate = .ok d) (rendered : s.source = .ok source) {serial : Nat} {hash : String}
    {a : Artifact} (built : Cache.build serial hash d.qualifiedName source = .ok a) {i : Instance}
    (made : i.record = a.record) (key : String)
    (undeclared : ∀ f ∈ d.fields, ¬ Naming.SameButForCase key f.name)
    (plain : ∀ f ∈ d.fields, ¬ Naming.Respells key f.name) (v : Datum) (before after : Document) :
    a.bind i (before ++ (.text key, v) :: after) = ((a.bind i (before ++ after)).1,
      (a.bind i before).2 ++ ⟨.text key, v, some (if key = "" then .notText else .noSetter)⟩ ::
        (a.bind i after).2) := by
  have implements := implements_of_build valid rendered built
  have unlike : ∀ f ∈ d.fields, f.setterName ≠ Naming.setterName key := by
    intro f mem leads
    obtain same | respells := (implements.setterName_eq_iff mem key).1 leads
    · exact undeclared f mem same
    · exact plain f mem respells
  apply a.bind_skipped
  rw [made, implements.record]
  exact implements.skipReason?_of_forall_ne unlike v

/-- A ligature stands for the first two letters of no field of a person. -/
theorem Artifact.bind_undeclared_ligature : ∃ a, Cache.build 0 "" Descriptor.person.qualifiedName
    Descriptor.person.moduleText = .ok a ∧ ∃ i : Instance, i.record = a.record ∧
      a.bind i [(.text "born", .null), (.text "ﬁnt", .int 7)] = ((a.bind i [(.text "born", .null)]).1,
        (a.bind i [(.text "born", .null)]).2 ++ [⟨.text "ﬁnt", .int 7, some .noSetter⟩]) := by
  obtain ⟨a, built⟩ := Cache.build_person 0 ""
  have skipped := bind_undeclared_key Descriptor.validate_person
    (Submission.source_of_validate Descriptor.validate_person) built (i := ⟨0, 1, a.record, []⟩) rfl
    "ﬁnt" (by decide) (by decide) (.int 7) [(.text "born", .null)] []
  exact ⟨a, built, _, rfl, skipped⟩

/-- A dotless letter changes a number of a person, although no field has it in its name; and an empty key is
not skipped for want of a setter. -/
theorem Artifact.bind_undeclared_dotless : Descriptor.person.submission.validate = .ok .person ∧
    (∀ f ∈ Descriptor.person.fields, ¬ Naming.SameButForCase "ınt" f.name ∧
      ¬ Naming.SameButForCase "" f.name) ∧
    ∃ a, Cache.build 0 "" Descriptor.person.qualifiedName Descriptor.person.moduleText = .ok a ∧
      ∃ i, a.instantiate 0 = .ok i ∧ i.value "int_field" = .ok (.int (-5)) ∧
        boundKeys (a.bind i [(.text "", .int 6), (.text "ınt", .int 7)]).2 = [.text "ınt"] ∧
        skippedKeys (a.bind i [(.text "", .int 6), (.text "ınt", .int 7)]).2 = [(.text "", .notText)] ∧
        (a.bind i [(.text "", .int 6), (.text "ınt", .int 7)]).1.value "int_field" = .ok (.int 7) := by
  obtain ⟨a, built⟩ := Cache.build_person 0 ""
  have valid := Descriptor.validate_person
  have implements := implements_of_build valid (Submission.source_of_validate valid) built
  have minutes : ∀ f ∈ Descriptor.person.fields, f.initial.hasMinuteOffset := by
    with_unfolding_all decide
  obtain ⟨i, created⟩ := (implements.exists_instantiate_iff 0).2 ⟨by decide, minutes⟩
  have fresh := implements.instantiate_eq_ok created
  have made : i.record = Descriptor.person.record := by rw [fresh]; rfl
  have takes : FieldSpec.Takes ⟨"int", "int", false, .int (-5)⟩ (.text "ınt", .int 7) (.int 7) :=
    .coerced (by decide) (by decide) (by simp) (by with_unfolding_all rfl)
  have written : a.written? i.record (.text "ınt", .int 7) = some ("int_field", .int 7) := by
    rw [made]
    exact implements.written?_eq_some_iff.2 ⟨_, by simp [Descriptor.person], takes, by decide⟩
  have bound : a.skipReason? i.record (.text "ınt", .int 7) = none := by
    rw [made]
    exact implements.skipReason?_eq_none_iff.2 ⟨_, by simp [Descriptor.person], _, takes⟩
  have skipped : a.skipReason? i.record (.text "", .int 6) = some .notText := rfl
  refine ⟨valid, by decide, a, built, i, created, ?_, ?_, ?_, ?_⟩
  · rw [fresh]
    rfl
  · simp [boundKeys_bind, bound, skipped]
  · simp [skippedKeys_bind, bound, skipped]
  · have last := a.bind_concat_fst i [(.text "", .int 6)] (.text "ınt", .int 7)
    rw [written, List.singleton_append] at last
    rw [last]
    exact (Instance.value_poke "int_field").trans (if_pos rfl)

end FlatRecord
