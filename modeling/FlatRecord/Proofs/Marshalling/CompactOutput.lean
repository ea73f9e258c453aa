import FlatRecord.Proofs.Marshalling.RoundTrip
import FlatRecord.Proofs.Marshalling.XmlTexts

/-!
# Compact output

Compact documents have no layout of their own. In a JSON document the control characters of texts are
escaped, so it is one line whatever the fields of a record hold. In an XML document the characters of texts
stand as they are, so it has the line breaks of its texts and no others.
-/

namespace FlatRecord

open FlatRecord.Number FlatRecord.Text

/-- The characters that end a line. -/
def IsLineEnd (c : Char) : Prop := c = '\n' ∨ c = '\r'

namespace Json

/-- A text without control characters. -/
def IsLine (cs : List Char) : Prop := ∀ c ∈ cs, 0x20 ≤ c.toNat

theorem IsLine.not_mem {cs : List Char} (line : IsLine cs) {c : Char} (ends : IsLineEnd c) : c ∉ cs := by
  intro mem
  have printed := line c mem
  obtain rfl | rfl := ends <;> exact absurd printed (by decide)

section IsLine

variable {cs ds : List Char}

theorem isLine_nil : IsLine [] := List.forall_mem_nil _

theorem IsLine.append (first : IsLine cs) (second : IsLine ds) : IsLine (cs ++ ds) :=
  List.forall_mem_append.2 ⟨first, second⟩

theorem IsLine.cons {c : Char} (printed : 0x20 ≤ c.toNat) (line : IsLine cs) : IsLine (c :: cs) :=
  List.forall_mem_cons.2 ⟨printed, line⟩

private theorem isLine_of_all (printed : (cs.all fun c => 0x20 ≤ c.toNat) = true) : IsLine cs :=
  fun c mem => of_decide_eq_true (List.all_eq_true.1 printed c mem)

private theorem isLine_number (number : ∀ c ∈ cs, InNumber c) : IsLine cs :=
  fun c mem => (Xml.isVisible_of_inNumber (number c mem)).1.le

/-- Control characters are escaped in strings. -/
private theorem isLine_documentChar (c : Char) : IsLine (documentChar c) := by
  have escaped : ∀ n < 0x20, ((unitEscape n).all fun c => 0x20 ≤ c.toNat) = true := by decide
  unfold documentChar
  split_ifs with quote backslash feed ret tab back form control
  iterate 7 exact isLine_of_all (by decide)
  · exact isLine_of_all (escaped _ control)
  · exact List.forall_mem_singleton.2 (Nat.not_lt.1 control)

private theorem isLine_documentString (s : String) : IsLine (documentString s) := by
  have inner : IsLine (s.toList.flatMap documentChar) := by
    intro c mem
    obtain ⟨d, -, among⟩ := List.mem_flatMap.1 mem
    exact isLine_documentChar d c among
  exact .cons (by decide) (inner.append (isLine_of_all (by decide)))

private theorem isLine_documentNumber (x : Binary64) : IsLine (documentNumber x) := by
  cases x with
  | finite negative m e canonical => exact isLine_number (inNumber_magnitudeText .json negative m e)
  | infinite negative => exact isLine_of_all (by cases negative <;> decide)
  | nan => exact isLine_of_all (by decide)

end IsLine

mutual

/-- What is written of a value on one line has no control characters. -/
theorem isLine_write : ∀ (v : Datum) (depth : Nat) {cs : List Char},
    write (.document .compact) depth v = .ok cs → IsLine cs
  | .null, _, _, written => by
    obtain rfl := Except.ok.inj written
    exact isLine_of_all (by decide)
  | .bool b, _, _, written => by
    obtain rfl := Except.ok.inj written
    exact isLine_of_all (by cases b <;> decide)
  | .int n, _, _, written => by
    obtain rfl := Except.ok.inj written
    exact isLine_number (inNumber_integerText n)
  | .float x, _, _, written => by
    obtain rfl := Except.ok.inj written
    exact isLine_documentNumber x
  | .text s, _, _, written => by
    obtain rfl := Except.ok.inj written
    exact isLine_documentString s
  | .list [], _, _, written => by
    obtain rfl := Except.ok.inj written
    exact isLine_of_all (by decide)
  | .list (x :: xs), depth, _, written => by
    rw [write, List.isEmpty_cons, if_neg Bool.false_ne_true] at written
    obtain ⟨body, items, written⟩ := bind_eq_ok.1 written
    obtain rfl := Except.ok.inj written
    exact .cons (by decide) (((isLine_writeItems (x :: xs) (depth + 1) items).append isLine_nil).append
      (isLine_of_all (by decide)))
  | .map [], _, _, written => by
    obtain rfl := Except.ok.inj written
    exact isLine_of_all (by decide)
  | .map (e :: es), depth, _, written => by
    rw [write, List.isEmpty_cons, if_neg Bool.false_ne_true] at written
    obtain ⟨body, entries, written⟩ := bind_eq_ok.1 written
    obtain rfl := Except.ok.inj written
    exact .cons (by decide) (((isLine_writeEntries (e :: es) (depth + 1) entries).append
      isLine_nil).append (isLine_of_all (by decide)))

theorem isLine_writeItems : ∀ (xs : List Datum) (depth : Nat) {cs : List Char},
    writeItems (.document .compact) depth xs = .ok cs → IsLine cs
  | [], _, _, written => by
    obtain rfl := Except.ok.inj written
    exact isLine_nil
  | [x], depth, _, written => by
    rw [writeItems] at written
    obtain ⟨item, first, written⟩ := bind_eq_ok.1 written
    obtain rfl := Except.ok.inj written
    exact isLine_nil.append (isLine_write x depth first)
  | x :: y :: ys, depth, _, written => by
    rw [writeItems_cons] at written
    obtain ⟨item, first, written⟩ := bind_eq_ok.1 written
    obtain ⟨more, others, written⟩ := bind_eq_ok.1 written
    obtain rfl := Except.ok.inj written
    exact (isLine_nil.append (isLine_write x depth first)).append
      (.cons (by decide) (isLine_writeItems (y :: ys) depth others))

theorem isLine_writeEntries : ∀ (es : List (Datum × Datum)) (depth : Nat) {cs : List Char},
    writeEntries (.document .compact) depth es = .ok cs → IsLine cs
  | [], _, _, written => by
    obtain rfl := Except.ok.inj written
    exact isLine_nil
  | [(k, v)], depth, _, written => by
    rw [writeEntries] at written
    obtain ⟨key, named, written⟩ := bind_eq_ok.1 written
    obtain ⟨item, first, written⟩ := bind_eq_ok.1 written
    obtain rfl := Except.ok.inj written
    rw [keyText_eq_ok named]
    exact ((isLine_nil.append (isLine_documentString _)).append (isLine_of_all (by decide))).append
      (isLine_write v depth first)
  | (k, v) :: e :: es, depth, _, written => by
    rw [writeEntries_cons] at written
    obtain ⟨key, named, written⟩ := bind_eq_ok.1 written
    obtain ⟨item, first, written⟩ := bind_eq_ok.1 written
    obtain ⟨more, others, written⟩ := bind_eq_ok.1 written
    obtain rfl := Except.ok.inj written
    rw [keyText_eq_ok named]
    exact (((isLine_nil.append (isLine_documentString _)).append (isLine_of_all (by decide))).append
      (isLine_write v depth first)).append (.cons (by decide) (isLine_writeEntries (e :: es) depth others))

end

end Json

/-- The compact JSON document of an instance is one line, whatever its class is and its fields hold. -/
theorem JsonDocument.not_mem_document {i : Instance} {text : String}
    (written : document false i = .ok text) {c : Char} (ends : IsLineEnd c) : c ∉ text.toList := by
  unfold document at written
  obtain ⟨entries, -, written⟩ := bind_eq_ok.1 written
  cases shown : Json.write (.document .compact) 0 (.map entries) with
  | error typeName =>
    simp only [Bool.false_eq_true, if_false, shown] at written
    cases written
  | ok cs =>
    simp only [Bool.false_eq_true, if_false, shown] at written
    obtain rfl := Except.ok.inj written
    rw [String.toList_ofList]
    exact (Json.isLine_write _ 0 shown).not_mem ends

/-- Of two lists whose items are related one by one, some item of the one has a property exactly if some item
of the other has the property that answers it. -/
private theorem exists_mem_iff_of_forall₂ {α β : Type} {r : α → β → Prop} {p : α → Prop} {q : β → Prop}
    {xs : List α} {ys : List β} (related : List.Forall₂ r xs ys) (same : ∀ x y, r x y → (p x ↔ q y)) :
    (∃ x ∈ xs, p x) ↔ ∃ y ∈ ys, q y := by
  induction related with
  | nil => simp
  | cons first others ih => simp [same _ _ first, ih]

namespace Xml

/-- The canonical text of a value has a line end exactly if the value is a text that has it. -/
private theorem mem_valueText_iff {field : String} {v : Datum} {text : List Char}
    (shown : valueText field v = .ok text) {c : Char} (ends : IsLineEnd c) :
    c ∈ text ↔ ∃ t, v = .text t ∧ c ∈ t.toList := by
  constructor
  · intro mem
    obtain visible | ⟨-, held⟩ := mem_valueText shown mem
    · obtain rfl | rfl := ends <;> exact absurd visible.1 (by decide)
    · exact held
  · rintro ⟨t, rfl, mem⟩
    simp only [valueText] at shown
    split_ifs at shown
    obtain rfl := Except.ok.inj shown
    exact mem

/-- The name of an element holds no line end. -/
theorem IsElementName.not_mem {name : List Char} (named : IsElementName name) {c : Char}
    (ends : IsLineEnd c) : c ∉ name := by
  obtain ⟨first, others, rfl, start, following⟩ := named
  have plain : isNameStart c = false ∧ isNameCharacter c = false := by
    obtain rfl | rfl := ends <;> decide
  intro mem
  obtain rfl | among := List.mem_cons.1 mem
  · rw [plain.1] at start
    cases start
  · have follows := following c among
    rw [plain.2] at follows
    cases follows

/-- The line ends of a text stand in its markup as they are. -/
private theorem mem_flatMap_escape {text : List Char} {c : Char} (ends : IsLineEnd c) :
    c ∈ text.flatMap escape ↔ c ∈ text := by
  have same (d : Char) : c ∈ escape d ↔ c = d := by
    unfold escape
    split_ifs with ampersand less greater
    · subst ampersand
      obtain rfl | rfl := ends <;> decide
    · subst less
      obtain rfl | rfl := ends <;> decide
    · subst greater
      obtain rfl | rfl := ends <;> decide
    · exact List.mem_singleton
  rw [List.mem_flatMap]
  constructor
  · rintro ⟨d, mem, among⟩
    rwa [(same d).1 among]
  · intro mem
    exact ⟨c, mem, (same c).2 rfl⟩

/-- An element has the line ends of its text. -/
private theorem mem_element {name : String} (named : IsElementName name.toList) {text : List Char}
    {c : Char} (ends : IsLineEnd c) : c ∈ element name text ↔ c ∈ text := by
  have apart := named.not_mem ends
  have marks : c ≠ '<' ∧ c ≠ '>' ∧ c ≠ '/' ∧ c ≠ ' ' := by
    obtain rfl | rfl := ends <;> decide
  unfold element
  split_ifs with empty
  · obtain rfl := List.isEmpty_iff.1 empty
    simp [apart, marks]
  · simp only [List.mem_cons, List.mem_append, mem_flatMap_escape ends]
    simp [apart, marks]

/-- A compact document has the line ends of the texts of its fields. -/
theorem mem_enclosed {name : String} (root : IsElementName name.toList)
    {fields : List (String × List Char)} (named : ∀ f ∈ fields, IsElementName f.1.toList) {c : Char}
    (ends : IsLineEnd c) :
    c ∈ enclosed false name (fields.map fun f => element f.1 f.2) ↔ ∃ f ∈ fields, c ∈ f.2 := by
  have apart := root.not_mem ends
  have marks : c ≠ '<' ∧ c ≠ '>' ∧ c ≠ '/' := by
    obtain rfl | rfl := ends <;> decide
  have inner : c ∈ fields.flatMap (fun f => element f.1 f.2) ↔ ∃ f ∈ fields, c ∈ f.2 := by
    rw [List.mem_flatMap]
    exact exists_congr fun f => and_congr_right fun mem => mem_element (named f mem) ends
  rw [← inner]
  simp [enclosed, fieldBreak, endBreak, List.flatMap_map, apart, marks]

end Xml

namespace Artifact

/-- The compact documents of every instance of the class of an accepted descriptor, whatever its fields hold.
The JSON document has no line feed and no carriage return. The XML document has one exactly if some field
holds a text with it, and such a text stands in the document as it is. -/
theorem mem_marshal_compact {s : Submission} {d : Descriptor} {source : String}
    (valid : s.validate = .ok d) (rendered : s.source = .ok source) {serial : Nat} {hash : String}
    {a : Artifact} (built : Cache.build serial hash d.qualifiedName source = .ok a) {i : Instance}
    (made : i.record = a.record) {c : Char} (ends : IsLineEnd c) :
    (∀ text, i.marshal .json false = .ok text → c ∉ text.toList) ∧
    ∀ text, i.marshal .xml false = .ok text →
      (c ∈ text.toList ↔ ∃ f ∈ d.fields, ∃ t, f.stored i = .text t ∧ c ∈ t.toList) := by
  refine ⟨fun text marshalled => JsonDocument.not_mem_document marshalled ends, ?_⟩
  intro text marshalled
  have implements := implements_of_build valid rendered built
  have known := implements.valid
  rw [Instance.marshal, known.xmlDocument_eq (made.trans implements.record)] at marshalled
  obtain ⟨shown, texts, rfl⟩ := map_eq_ok.1 marshalled
  have root : Xml.IsElementName d.typeName.toList :=
    Xml.isElementName_of_isWord (known.named.isName implements.clean.typeName).1
  have named : ∀ g ∈ shown, Xml.IsElementName g.1.toList := by
    intro g mem
    obtain ⟨f, among, given⟩ := exists_mem_of_mapM_eq_ok texts g mem
    obtain ⟨letters, -, rfl⟩ := map_eq_ok.1 given
    exact Xml.isElementName_of_isWord
      ((known.fields f among).named.isName (implements.clean.fields f among)).1
  rw [String.toList_ofList, Xml.mem_enclosed root named ends]
  refine exists_mem_iff_of_forall₂ (mapM_eq_ok_iff.1 texts).flip ?_
  intro g f given
  obtain ⟨letters, canonical, rfl⟩ := map_eq_ok.1 given
  exact Xml.mem_valueText_iff canonical ends

/-- A name of two lines. -/
def nameOfTwoLines : Document := [(.text "name", .text "a\nb")]

private theorem marshal_nameOfTwoLines {a : Artifact} (implements : a.Implements .person) :
    (Descriptor.person.holding a.serial 0 nameOfTwoLines).marshal .xml false =
      .ok "<Person><name>a\nb</name><int>-5</int><born>2020-02-29</born></Person>" := by
  rw [Instance.marshal, implements.valid.document_eq_interpret rfl rfl]
  with_unfolding_all rfl

/-- The documents of a person whose name is two lines: the one in JSON is one line, and the one in XML has
the line feed of a field. -/
theorem mem_marshal_compact_person : ∃ a, Cache.build 0 "" Descriptor.person.qualifiedName
    Descriptor.person.moduleText = .ok a ∧ ∃ i json xml, a.Populates i ∧
      i.marshal .json false = .ok json ∧ '\n' ∉ json.toList ∧ '\r' ∉ json.toList ∧
      i.marshal .xml false = .ok xml ∧ '\n' ∈ xml.toList ∧
      ∃ f ∈ Descriptor.person.fields, ∃ t, f.stored i = .text t ∧ '\n' ∈ t.toList := by
  have valid := Descriptor.validate_person
  have rendered := Submission.source_of_validate valid
  obtain ⟨a, built, implements, populated⟩ := exists_populates_person nameOfTwoLines
  obtain ⟨json, written, -⟩ :=
    implements.valid.exists_marshal_json nameOfTwoLines a.serial 0 false
  have xml := marshal_nameOfTwoLines implements
  have made : (Descriptor.person.holding a.serial 0 nameOfTwoLines).record = a.record :=
    implements.record.symm
  have feeds := mem_marshal_compact valid rendered built made (.inl rfl)
  have returns := mem_marshal_compact valid rendered built made (.inr rfl)
  exact ⟨a, built, _, json, _, populated, written, feeds.1 _ written, returns.1 _ written, xml,
    by decide, (feeds.2 _ xml).1 (by decide)⟩

/-- A compact XML document with a line feed in it. -/
theorem marshal_compact_line_feed : Descriptor.person.submission.validate = .ok .person ∧
    ∃ a, Cache.build 0 "" Descriptor.person.qualifiedName Descriptor.person.moduleText = .ok a ∧
    ∃ i text, a.Populates i ∧ i.get "getName" = .ok (.text "a\nb") ∧
      i.marshal .xml false = .ok text ∧ '\n' ∈ text.toList := by
  obtain ⟨a, built, implements, populated⟩ := exists_populates_person nameOfTwoLines
  have name : Descriptor.person.fields.head (by decide) ∈ Descriptor.person.fields :=
    List.head_mem _
  exact ⟨Descriptor.validate_person, a, built, _, _, populated, implements.get_holding name _ _ _,
    marshal_nameOfTwoLines implements, by decide⟩

end Artifact

end FlatRecord
