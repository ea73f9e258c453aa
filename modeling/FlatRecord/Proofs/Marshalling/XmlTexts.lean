import FlatRecord.Proofs.Marshalling.XmlReader
import FlatRecord.Proofs.Rendering.Populated

/-!
# Texts read back from XML documents

A processor accepts every document of a record and reports its fields in order, each with the canonical text
of its value. Only carriage returns are lost: they are written as they are, and line ends are normalised
before a document is read.
-/

namespace FlatRecord

open FlatRecord.Text FlatRecord.Number FlatRecord.Calendar

namespace Xml

/-- Line breaks of a text are unified in its markup before a tag. -/
theorem unifyBreaks_escaped (text rest : List Char) :
    unifyBreaks (text.flatMap escape ++ '<' :: rest) =
      (unifyBreaks text).flatMap escape ++ '<' :: unifyBreaks rest := by
  fun_induction unifyBreaks text with
  | case1 => exact unifyBreaks_cons (by decide) rest
  | case2 more ih =>
    show unifyBreaks ('\r' :: '\n' :: (more.flatMap escape ++ '<' :: rest)) =
      '\n' :: ((unifyBreaks more).flatMap escape ++ '<' :: unifyBreaks rest)
    rw [unifyBreaks, ih]
  | case3 more next ih =>
    show unifyBreaks ('\r' :: (more.flatMap escape ++ '<' :: rest)) =
      '\n' :: ((unifyBreaks more).flatMap escape ++ '<' :: unifyBreaks rest)
    rw [unifyBreaks_return, ih]
    intro head
    cases more with
    | nil => exact absurd (Option.some.inj head) (by decide)
    | cons c more =>
      rw [List.flatMap_cons, List.append_assoc] at head
      obtain same | ⟨rfl, -⟩ := head?_escape head
      · exact absurd same (by decide)
      · exact next more rfl
  | case4 c more next other ih =>
    have feeds : ∀ d ∈ escape c, d ≠ '\r' := by
      unfold escape
      split_ifs
      case neg => simpa using fun same => other same
      all_goals decide
    rw [List.flatMap_cons, List.flatMap_cons, List.append_assoc, List.append_assoc,
      unifyBreaks_append feeds, ih]

private theorem isEmpty_unifyBreaks (text : List Char) :
    (unifyBreaks text).isEmpty = text.isEmpty := by
  fun_cases unifyBreaks text <;> rfl

section Elements

variable {name : String}

/-- Line breaks are unified in the text of an element. -/
theorem unifyBreaks_element (named : IsElementName name.toList) (text rest : List Char) :
    unifyBreaks (element name text ++ rest) =
      element name (unifyBreaks text) ++ unifyBreaks rest := by
  have feeds := named.feeds
  unfold element
  rw [isEmpty_unifyBreaks]
  cases text.isEmpty with
  | true =>
    refine unifyBreaks_append (List.forall_mem_cons.2 ⟨by decide, ?_⟩) rest
    exact List.forall_mem_append.2 ⟨feeds, by decide⟩
  | false =>
    have opened : ∀ c ∈ '<' :: (name.toList ++ ['>']), c ≠ '\r' :=
      List.forall_mem_cons.2 ⟨by decide, List.forall_mem_append.2 ⟨feeds, by decide⟩⟩
    have closed : ∀ c ∈ '/' :: (name.toList ++ ['>']), c ≠ '\r' :=
      List.forall_mem_cons.2 ⟨by decide, List.forall_mem_append.2 ⟨feeds, by decide⟩⟩
    have inner := unifyBreaks_escaped text ('/' :: (name.toList ++ ['>']) ++ rest)
    rw [unifyBreaks_append closed] at inner
    have whole := unifyBreaks_append opened
      (text.flatMap escape ++ '<' :: ('/' :: (name.toList ++ ['>']) ++ rest))
    rw [inner] at whole
    simpa using whole

/-- An element with a text is read back from its markup. -/
theorem Reads.element_text (named : IsElementName name.toList) {text rest left : List Char}
    {more : List Item} (legal : ∀ c ∈ text, isCharacter c) (reads : Reads rest more left) :
    Reads (Xml.element name text ++ rest)
      (.element name.toList (text.map .character) :: more) left := by
  unfold Xml.element
  split_ifs with empty
  · obtain rfl := List.isEmpty_iff.1 empty
    exact reads.emptyElement named
  · have inner := (reads_endTag (name.toList ++ '>' :: rest)).escaped legal
    rw [List.append_nil] at inner
    simpa using inner.element named reads

end Elements

section Fields

variable (pretty : Bool) {fields : List (String × List Char)}

/-- Blanks before a tag are read as characters. -/
private theorem Reads.blanks {blanks cs left : List Char} {content : List Item}
    (spaces : ∀ c ∈ blanks, isSpace c) (reads : Reads ('<' :: cs) content left) :
    Reads (blanks ++ '<' :: cs) (blanks.map .character ++ content) left := by
  have plain : ∀ c ∈ blanks, escape c = [c] ∧ isCharacter c := by
    intro c mem
    have space := spaces c mem
    simp only [isSpace, Bool.or_eq_true, decide_eq_true_eq] at space
    obtain ((rfl | rfl) | rfl) | rfl := space <;> decide
  have same : blanks.flatMap escape = blanks := by
    rw [List.flatMap_congr fun c mem => (plain c mem).1, List.flatMap_singleton']
  have whole := reads.escaped fun c mem => (plain c mem).2
  rwa [same] at whole

private theorem exists_element_eq (name : String) (text : List Char) :
    ∃ tail, element name text = '<' :: tail := by
  unfold element
  split_ifs <;> exact ⟨_, rfl⟩

private theorem elements_map (cs : List Char) : elements (cs.map .character) = [] := by
  rw [elements, List.filterMap_map]
  exact List.filterMap_eq_nil_iff.2 fun _ _ => rfl

/-- The characters of a text are the text. -/
theorem characterData_map (cs : List Char) : characterData (cs.map .character) = cs := by
  rw [characterData, List.filterMap_map]
  exact List.filterMap_some

/-- The elements of fields are read back, with nothing but blanks between them. -/
theorem reads_fieldElements (named : ∀ f ∈ fields, IsElementName f.1.toList)
    (legal : ∀ f ∈ fields, ∀ c ∈ f.2, isCharacter c) (rest : List Char) : ∃ content,
      Reads (fields.flatMap (fun f => fieldBreak pretty ++ element f.1 f.2) ++
        (endBreak pretty ++ '<' :: '/' :: rest)) content ('<' :: '/' :: rest) ∧
      elements content = fields.map (fun f => (f.1.toList, f.2.map .character)) ∧
      ∀ c ∈ characterData content, isSpace c := by
  have breaks : (∀ c ∈ fieldBreak pretty, isSpace c) ∧ ∀ c ∈ endBreak pretty, isSpace c := by
    cases pretty <;> decide
  induction fields with
  | nil =>
    refine ⟨_, (reads_endTag rest).blanks breaks.2, ?_, ?_⟩
    · rw [List.append_nil, elements_map]
      rfl
    · rw [List.append_nil, characterData_map]
      exact breaks.2
  | cons f more ih =>
    obtain ⟨here, others⟩ := List.forall_mem_cons.1 named
    obtain ⟨letters, texts⟩ := List.forall_mem_cons.1 legal
    obtain ⟨content, reads, found, spaces⟩ := ih others texts
    obtain ⟨tail, begun⟩ := exists_element_eq f.1 f.2
    have first := reads.element_text here letters
    rw [begun, List.cons_append] at first
    refine ⟨(fieldBreak pretty).map .character ++
      .element f.1.toList (f.2.map .character) :: content, ?_, ?_, ?_⟩
    · have whole := first.blanks breaks.1
      rw [← List.cons_append, ← begun] at whole
      simpa using whole
    · rw [elements, List.filterMap_append, ← elements, elements_map, List.filterMap_cons, ← elements,
        found]
      rfl
    · rw [characterData, List.filterMap_append, ← characterData, characterData_map, List.filterMap_cons,
        ← characterData]
      exact List.forall_mem_append.2 ⟨breaks.1, spaces⟩

/-- Line breaks are unified in the texts of fields. -/
private theorem unifyBreaks_fieldElements (named : ∀ f ∈ fields, IsElementName f.1.toList)
    (rest : List Char) :
    unifyBreaks (fields.flatMap (fun f => fieldBreak pretty ++ element f.1 f.2) ++ rest) =
      fields.flatMap (fun f => fieldBreak pretty ++ element f.1 (unifyBreaks f.2)) ++
        unifyBreaks rest := by
  have breaks : ∀ c ∈ fieldBreak pretty, c ≠ '\r' := by cases pretty <;> decide
  induction fields with
  | nil => rfl
  | cons f more ih =>
    obtain ⟨here, others⟩ := List.forall_mem_cons.1 named
    simp only [List.flatMap_cons, List.append_assoc]
    rw [unifyBreaks_append breaks, unifyBreaks_element here, ih others]

variable {name : String} (root : IsElementName name.toList)
  (named : ∀ f ∈ fields, IsElementName f.1.toList)
include root named

/-- Line breaks are unified in the texts of the fields of a document. -/
theorem unifyBreaks_enclosed :
    unifyBreaks (enclosed pretty name (fields.map fun f => element f.1 f.2)) =
      enclosed pretty name (fields.map fun f => element f.1 (unifyBreaks f.2)) := by
  have opened : ∀ c ∈ '<' :: (name.toList ++ ['>']), c ≠ '\r' :=
    List.forall_mem_cons.2 ⟨by decide, List.forall_mem_append.2 ⟨root.feeds, by decide⟩⟩
  have closed : ∀ c ∈ endBreak pretty ++ "</".toList ++ name.toList ++ ['>'], c ≠ '\r' := by
    have breaks : ∀ c ∈ endBreak pretty ++ "</".toList, c ≠ '\r' := by cases pretty <;> decide
    exact List.forall_mem_append.2 ⟨List.forall_mem_append.2 ⟨breaks, root.feeds⟩, by decide⟩
  have fieldsOnly := unifyBreaks_fieldElements pretty named
    (endBreak pretty ++ "</".toList ++ name.toList ++ ['>'])
  rw [unifyBreaks_eq_self closed] at fieldsOnly
  have whole := unifyBreaks_append opened
    (fields.flatMap (fun f => fieldBreak pretty ++ element f.1 f.2) ++
      (endBreak pretty ++ "</".toList ++ name.toList ++ ['>']))
  rw [fieldsOnly] at whole
  simpa [enclosed, List.flatMap_map] using whole

/-- The document of a record is read as one element with an element for each field. -/
theorem exists_read?_enclosed (legal : ∀ f ∈ fields, ∀ c ∈ f.2, isCharacter c) : ∃ content,
    read? (String.ofList (enclosed pretty name (fields.map fun f => element f.1 f.2))) =
      some (name.toList, content) ∧
    elements content = fields.map (fun f => (f.1.toList, (unifyBreaks f.2).map .character)) ∧
    ∀ c ∈ characterData content, isSpace c := by
  set unified := fields.map fun f => (f.1, unifyBreaks f.2) with at_unified
  have plain : ∀ f ∈ unified, IsElementName f.1.toList ∧ ∀ c ∈ f.2, isCharacter c := by
    intro g mem
    obtain ⟨f, among, rfl⟩ := List.mem_map.1 mem
    refine ⟨named f among, fun c inside => ?_⟩
    obtain ⟨-, rfl | before⟩ := mem_unifyBreaks inside
    · decide
    · exact legal f among c before
  obtain ⟨content, inner, found, spaces⟩ := reads_fieldElements pretty
    (fun f mem => (plain f mem).1) (fun f mem => (plain f mem).2) (name.toList ++ ['>'])
  refine ⟨content, ?_, by rw [found, at_unified, List.map_map]; rfl, spaces⟩
  have text : unifyBreaks (String.ofList (enclosed pretty name
      (fields.map fun f => element f.1 f.2))).toList = '<' :: (name.toList ++ '>' ::
        (unified.flatMap (fun f => fieldBreak pretty ++ element f.1 f.2) ++ endBreak pretty ++
          '<' :: '/' :: (name.toList ++ ['>']))) := by
    rw [String.toList_ofList, unifyBreaks_enclosed pretty root named]
    simp [enclosed, at_unified, List.flatMap_map]
  rw [← List.append_assoc] at inner
  have whole := inner.element root reads_nil
  rw [← text] at whole
  unfold read?
  dsimp only
  rw [whole _ (Nat.lt_succ_self _)]

end Fields

/-- A printed character of ASCII. -/
def IsVisible (c : Char) : Prop := 0x20 < c.toNat ∧ c.toNat < 0x7f

theorem IsVisible.isLegal {c : Char} (visible : IsVisible c) : isLegal c := by
  have ascii : ∀ n < 0x7f, 0x20 < n → Xml.isLegal (Char.ofNat n) := by decide
  have known := ascii c.toNat visible.2 visible.1
  rwa [Char.ofNat_toNat] at known

/-- Digits are printed, as the marks of numbers and of dates are. -/
theorem isVisible_of_isDigit {c : Char} (digit : c.isDigit) : IsVisible c := by
  have bounds := toNat_of_isDigit digit
  exact ⟨by omega, by omega⟩

theorem isVisible_of_inNumber {c : Char} (known : InNumber c) : IsVisible c :=
  known.elim (P := fun c => 0x20 < c.toNat ∧ c.toNat < 0x7f) (by decide) (by decide)

private theorem isVisible_of_isCalendarText {cs : List Char} (known : IsCalendarText cs) :
    ∀ c ∈ cs, IsVisible c := by
  intro c mem
  obtain digit | mark := known c mem
  · exact isVisible_of_isDigit digit
  · simp only [List.mem_cons, List.not_mem_nil, or_false] at mark
    obtain rfl | rfl | rfl | rfl | rfl | rfl := mark <;> exact ⟨by decide, by decide⟩

/-- The canonical text of a value has printed characters only, unless the value is a text itself. -/
theorem mem_valueText {field : String} {v : Datum} {text : List Char}
    (shown : valueText field v = .ok text) {c : Char} (mem : c ∈ text) :
    IsVisible c ∨ isLegal c ∧ ∃ s, v = .text s ∧ c ∈ s.toList := by
  have words (cs : List Char) (printed : (cs.all fun c => 0x20 < c.toNat && c.toNat < 0x7f) = true)
      (among : c ∈ cs) : IsVisible c := by
    have known := List.all_eq_true.1 printed c among
    rw [Bool.and_eq_true, decide_eq_true_eq, decide_eq_true_eq] at known
    exact known
  cases v with
  | text s =>
    simp only [valueText] at shown
    split_ifs at shown with legal
    obtain rfl := Except.ok.inj shown
    exact .inr ⟨List.all_eq_true.1 legal c mem, s, rfl, mem⟩
  | int n =>
    simp only [valueText] at shown
    split_ifs at shown
    obtain rfl := Except.ok.inj shown
    exact .inl (isVisible_of_inNumber (inNumber_integerText n c mem))
  | float x =>
    obtain rfl := Except.ok.inj shown
    cases x with
    | nan => exact .inl (words _ (by decide) mem)
    | infinite negative => cases negative <;> exact .inl (words _ (by decide) mem)
    | finite negative m e =>
      exact .inl (isVisible_of_inNumber (inNumber_magnitudeText .plain negative m e c mem))
  | decimal d =>
    simp only [valueText] at shown
    split_ifs at shown with finite
    obtain rfl := Except.ok.inj shown
    obtain digit | rfl | rfl := Decimal.mem_plainText finite c mem
    · exact .inl (isVisible_of_isDigit digit)
    · exact .inl ⟨by decide, by decide⟩
    · exact .inl ⟨by decide, by decide⟩
  | date d =>
    obtain rfl := Except.ok.inj shown
    exact .inl (isVisible_of_isCalendarText (isCalendarText_date d) c mem)
  | dateTime t =>
    obtain rfl := Except.ok.inj shown
    exact .inl (isVisible_of_isCalendarText (isCalendarText_dateTime t) c mem)
  | bool b =>
    obtain rfl := Except.ok.inj shown
    cases b <;> exact .inl (words _ (by decide) mem)
  | null =>
    obtain rfl := Except.ok.inj shown
    exact absurd mem List.not_mem_nil
  | _ => cases shown

/-- The canonical text of a value has characters that can stand in a document. -/
theorem isLegal_of_valueText {field : String} {v : Datum} {text : List Char}
    (shown : valueText field v = .ok text) : ∀ c ∈ text, isLegal c := by
  intro c mem
  obtain visible | ⟨legal, -⟩ := mem_valueText shown mem
  · exact visible.isLegal
  · exact legal

end Xml

namespace Artifact

/-- The XML document of every instance of the class of an accepted descriptor, whatever its fields hold, is
read as one element with the name of the type. Its elements are those of the fields, in order, and apart
from them it has blanks only. The characters of each field are those of its canonical text with line breaks
unified, which are all of them exactly if the text holds no carriage return. -/
theorem read_marshal_xml {s : Submission} {d : Descriptor} {source : String}
    (valid : s.validate = .ok d) (rendered : s.source = .ok source) {serial : Nat} {hash : String}
    {a : Artifact} (built : Cache.build serial hash d.qualifiedName source = .ok a) {i : Instance}
    (made : i.record = a.record) {pretty : Bool} {text : String}
    (marshalled : i.marshal .xml pretty = .ok text) :
    ∃ content, Xml.read? text = some (d.typeName.toList, content) ∧
      (∀ c ∈ Xml.characterData content, Xml.isSpace c) ∧
      List.Forall₂ (fun f child => ∃ shown, Xml.valueText f.name (f.stored i) = .ok shown ∧
          child = (f.name.toList, (unifyBreaks shown).map Xml.Item.character) ∧
          (Xml.characterData child.2 = shown ↔ '\r' ∉ shown))
        d.fields (Xml.elements content) := by
  have implements := implements_of_build valid rendered built
  have known := implements.valid
  rw [Instance.marshal, known.xmlDocument_eq (made.trans implements.record)] at marshalled
  obtain ⟨shown, texts, rfl⟩ := map_eq_ok.1 marshalled
  have root : Xml.IsElementName d.typeName.toList :=
    Xml.isElementName_of_isWord (known.named.isName implements.clean.typeName).1
  have fields : ∀ g ∈ shown, Xml.IsElementName g.1.toList ∧ ∀ c ∈ g.2, Xml.isCharacter c := by
    intro g mem
    obtain ⟨f, among, given⟩ := exists_mem_of_mapM_eq_ok texts g mem
    obtain ⟨letters, canonical, rfl⟩ := map_eq_ok.1 given
    refine ⟨Xml.isElementName_of_isWord
      ((known.fields f among).named.isName (implements.clean.fields f among)).1, fun c inside => ?_⟩
    rw [Xml.isCharacter_eq_isLegal]
    exact Xml.isLegal_of_valueText canonical c inside
  obtain ⟨content, read, found, spaces⟩ := Xml.exists_read?_enclosed pretty root
    (fun g mem => (fields g mem).1) fun g mem => (fields g mem).2
  refine ⟨content, read, spaces, ?_⟩
  rw [found, List.forall₂_map_right_iff]
  refine (mapM_eq_ok_iff.1 texts).imp fun f g given => ?_
  obtain ⟨letters, canonical, rfl⟩ := map_eq_ok.1 given
  refine ⟨letters, canonical, rfl, ?_⟩
  rw [Xml.characterData_map, unifyBreaks_eq_self_iff]

/-- A name with markup, a line feed and blanks at both ends. -/
def markedName : Document := [(.text "name", .text " <a>]]>&amp;\n")]

/-- The document of a person whose name is made of markup is read back with its three fields. -/
theorem read_marshal_xml_person : ∃ a, Cache.build 0 "" Descriptor.person.qualifiedName
    Descriptor.person.moduleText = .ok a ∧ ∃ i text content, a.Populates i ∧
      i.get "getName" = .ok (.text " <a>]]>&amp;\n") ∧ i.marshal .xml true = .ok text ∧
      Xml.read? text = some ("Person".toList, content) ∧ (Xml.elements content).length = 3 := by
  have valid := Descriptor.validate_person
  obtain ⟨a, built, implements, populated⟩ := exists_populates_person markedName
  obtain ⟨text, marshalled⟩ : ∃ text,
      (Descriptor.person.holding a.serial 0 markedName).marshal .xml true = .ok text := by
    rw [Instance.marshal, implements.valid.xmlDocument_eq rfl]
    exact ⟨_, by with_unfolding_all rfl⟩
  obtain ⟨content, read, -, each⟩ := read_marshal_xml valid (Submission.source_of_validate valid) built
    implements.record.symm marshalled
  have name : Descriptor.person.fields.head (by decide) ∈ Descriptor.person.fields :=
    List.head_mem _
  exact ⟨a, built, _, text, content, populated, implements.get_holding name _ _ _, marshalled, read,
    each.length_eq.symm⟩

/-- A name with a carriage return in it. -/
def returnedName : Document := [(.text "name", .text "a\rb")]

/-- A name with a carriage return in it is written, and it is read back with a line feed instead. -/
theorem read_marshal_xml_return : Descriptor.person.submission.validate = .ok .person ∧
    ∃ a, Cache.build 0 "" Descriptor.person.qualifiedName Descriptor.person.moduleText = .ok a ∧
    ∃ i text content, a.Populates i ∧ i.get "getName" = .ok (.text "a\rb") ∧
      i.marshal .xml false = .ok text ∧ Xml.read? text = some ("Person".toList, content) ∧
      ((Xml.elements content).map fun child => (child.1, Xml.characterData child.2)).head? =
        some ("name".toList, "a\nb".toList) := by
  obtain ⟨a, built, implements, populated⟩ := exists_populates_person returnedName
  have marshalled : (Descriptor.person.holding a.serial 0 returnedName).marshal .xml false =
      .ok "<Person><name>a\rb</name><int>-5</int><born>2020-02-29</born></Person>" := by
    rw [Instance.marshal, implements.valid.document_eq_interpret rfl rfl]
    with_unfolding_all rfl
  have name : Descriptor.person.fields.head (by decide) ∈ Descriptor.person.fields :=
    List.head_mem _
  exact ⟨Descriptor.validate_person, a, built, _, _, _, populated,
    implements.get_holding name _ _ _, marshalled, by with_unfolding_all rfl,
    by with_unfolding_all rfl⟩

end Artifact

end FlatRecord
