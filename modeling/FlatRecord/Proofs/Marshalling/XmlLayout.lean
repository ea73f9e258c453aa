import FlatRecord.Proofs.Generation.Recovered
import FlatRecord.Proofs.Rendering.Interpreter

/-!
# Layout of XML documents

Indentation leaves an element without children as it is and puts line breaks around the elements of a
record. So the document of a record consists of the elements of its fields, the same in both layouts.
-/

namespace FlatRecord

namespace Xml

/-- An identifier without a line feed is the name of an element. -/
theorem isName_of_isAllowed {name : String} (allowed : Naming.IsAllowed name) :
    isName name = true := by
  have word := allowed.identifier
  unfold Naming.isIdentifier at word
  unfold isName
  cases letters : Naming.dropFinalLineFeed name.toList with
  | nil => simp [letters, Naming.isWord] at word
  | cons c rest =>
    rw [letters] at word
    simp only [Naming.isWord, Bool.and_eq_true, List.all_eq_true] at word
    simp only [Bool.and_eq_true, List.all_eq_true]
    refine ⟨?_, fun d mem => ?_⟩
    · simpa [Naming.isInitial, isInitial] using word.1
    · have following : d.isAlphanum = true ∨ d = '_' := by
        simpa [Naming.isFollowing] using word.2 d mem
      simp only [isFollowing, Bool.or_eq_true, decide_eq_true_eq]
      tauto

/-- The element of the given name. -/
theorem elementName_xmlObject {name : String} (allowed : Naming.IsAllowed name)
    (default : String) :
    elementName (some (Generation.xmlObject name)) default = .ok name := by
  unfold elementName
  rw [Descriptor.givenName?_xmlObject]
  exact if_pos (isName_of_isAllowed allowed)

/-- The element of a name with a text and no children. -/
def Element.leaf (f : String × List Char) : Element := .node f.1 f.2 [] []

/-- Line breaks before the elements of fields, in a pretty document. -/
def fieldBreak (pretty : Bool) : List Char := if pretty then "\n  ".toList else []

/-- The line break before the end of the element of a record, in a pretty document. -/
def endBreak (pretty : Bool) : List Char := if pretty then "\n".toList else []

/-- The element of a record around the elements of its fields. -/
def enclosed (pretty : Bool) (name : String) (elements : List (List Char)) : List Char :=
  "<".toList ++ name.toList ++ ">".toList ++ elements.flatMap (fun e => fieldBreak pretty ++ e) ++
    endBreak pretty ++ "</".toList ++ name.toList ++ ">".toList

theorem markup_leaf (f : String × List Char) : (Element.leaf f).markup = element f.1 f.2 := by
  obtain ⟨name, text⟩ := f
  unfold Element.leaf element
  cases text <;> simp [Element.markup, markupAll]

/-- No level changes an element without children. -/
theorem Element.indented_leaf (level : Nat) (f : String × List Char) :
    (leaf f).indented level = leaf f := by
  unfold leaf
  rw [indented]
  rfl

/-- Line breaks are not escaped. -/
theorem flatMap_escape_lineBreak (level : Nat) :
    (lineBreak level).flatMap escape = lineBreak level := by
  unfold lineBreak
  rw [List.flatMap_cons, List.flatMap_replicate]
  simp [escape]

/-- A line break behind an element without a tail. -/
theorem Element.markup_followed_leaf (level : Nat) (f : String × List Char) :
    ((leaf f).followed level).markup = element f.1 f.2 ++ lineBreak level := by
  rw [← markup_leaf, ← flatMap_escape_lineBreak level]
  show (Element.node f.1 f.2 [] (lineBreak level)).markup = _
  simp [leaf, markup]

/-- The elements of fields with line breaks between them. -/
private theorem lineBreak_markupAll_indentedAll {fields : List (String × List Char)}
    (nonempty : fields ≠ []) :
    lineBreak 1 ++ markupAll (indentedAll 0 (fields.map Element.leaf)) =
      fields.flatMap (fun f => lineBreak 1 ++ element f.1 f.2) ++ lineBreak 0 := by
  induction fields with
  | nil => exact absurd rfl nonempty
  | cons f rest ih =>
    cases rest with
    | nil =>
      simp only [List.map_cons, List.map_nil, indentedAll, markupAll, Element.indented_leaf,
        Element.markup_followed_leaf, List.flatMap_cons, List.flatMap_nil, List.append_nil,
        List.append_assoc]
    | cons g more =>
      have others := ih (List.cons_ne_nil g more)
      rw [List.map_cons] at others
      rw [List.map_cons, List.map_cons, indentedAll, markupAll, Element.indented_leaf,
        Element.markup_followed_leaf, List.append_assoc, others]
      · simp
      · exact List.cons_ne_nil _ _

private theorem markupAll_leaves (fields : List (String × List Char)) :
    markupAll (fields.map Element.leaf) = fields.flatMap fun f => element f.1 f.2 := by
  induction fields with
  | nil => rfl
  | cons f rest ih => rw [List.map_cons, markupAll, markup_leaf, ih, List.flatMap_cons]

private theorem isEmpty_indentedAll (level : Nat) (children : List Element) :
    (indentedAll level children).isEmpty = children.isEmpty := by
  cases children with
  | nil => rfl
  | cons child rest => cases rest <;> rfl

/-- The markup of an element around elements of fields, in both layouts. -/
theorem markup_root (pretty : Bool) (name : String) {fields : List (String × List Char)}
    (nonempty : fields ≠ []) :
    (if pretty then (Element.node name [] (fields.map Element.leaf) []).indented 0
      else .node name [] (fields.map Element.leaf) []).markup =
      enclosed pretty name (fields.map fun f => element f.1 f.2) := by
  have some_leaf : (fields.map Element.leaf).isEmpty = false := by simpa using nonempty
  cases pretty with
  | false =>
    rw [if_neg Bool.false_ne_true, Element.markup, some_leaf, markupAll_leaves, Bool.and_false,
      if_neg Bool.false_ne_true]
    simp [enclosed, fieldBreak, endBreak, List.flatMap_map]
  | true =>
    rw [if_pos rfl, Element.indented, some_leaf, if_neg Bool.false_ne_true, Element.markup,
      isEmpty_indentedAll, some_leaf, Bool.and_false, if_neg Bool.false_ne_true]
    show '<' :: (name.toList ++ '>' :: ((lineBreak 1).flatMap escape ++ _ ++ _)) ++ [] = _
    rw [flatMap_escape_lineBreak, lineBreak_markupAll_indentedAll nonempty]
    simp [enclosed, fieldBreak, endBreak, List.flatMap_map, lineBreak]

end Xml

/-- The value of a field of an instance: null, if the instance has none. -/
def FieldSpec.stored (f : FieldSpec) (i : Instance) : Datum :=
  (i.values.lookup f.attributeName).getD .null

/-- The canonical texts of the fields of an instance, with the names of the fields. -/
def Descriptor.shownTexts (d : Descriptor) (i : Instance) :
    Except MarshalFault (List (String × List Char)) :=
  d.fields.mapM fun f => (Xml.valueText f.name (f.stored i)).map fun text => (f.name, text)

section Document

variable {d : Descriptor} (valid : d.IsValid)
include valid

/-- The element of a field of an instance of the class. -/
theorem Descriptor.IsValid.fieldElement_planned {f : FieldSpec} (mem : f ∈ d.fields) (i : Instance) :
    Xml.fieldElement i (Generation.fieldOf f.planned) =
      (Xml.valueText f.name (f.stored i)).map fun text => .leaf (f.name, text) := by
  have known := valid.fields f mem
  have named : Xml.fieldName (Generation.fieldOf f.planned) = f.name := by
    show (if f.name.isEmpty then f.attributeName else f.name) = f.name
    rw [known.isEmpty_name, if_neg Bool.false_ne_true]
  unfold Xml.fieldElement
  rw [named]
  show (do
    let name ← Xml.elementName (some (Generation.xmlObject f.name)) f.name
    let text ← Xml.valueText f.name (f.stored i)
    return Xml.Element.leaf (name, text)) = _
  rw [Xml.elementName_xmlObject known.named]
  cases Xml.valueText f.name (f.stored i) <;> rfl

/-- The document of an instance of the class, whatever its fields hold: the element of the record around
those of the fields, with the canonical texts. -/
theorem Descriptor.IsValid.xmlDocument_eq {i : Instance} (made : i.record = d.record) (pretty : Bool) :
    Xml.document pretty i = (d.shownTexts i).map fun shown =>
      String.ofList (Xml.enclosed pretty d.typeName (shown.map fun f => Xml.element f.1 f.2)) := by
  have leaves : d.record.fields.mapM (Xml.fieldElement i) =
      (d.shownTexts i).map (List.map Xml.Element.leaf) := by
    show ((d.fields.map FieldSpec.planned).map Generation.fieldOf).mapM _ = _
    rw [List.map_map, List.mapM_map]
    refine mapM_eq_map_result fun f mem => ?_
    refine (valid.fieldElement_planned mem i).trans ?_
    cases Xml.valueText f.name (f.stored i) <;> rfl
  unfold Xml.document
  rw [made]
  show (do
    let name ← Xml.elementName (some (Generation.xmlObject d.typeName)) d.typeName
    let fields ← d.record.fields.mapM (Xml.fieldElement i)
    return String.ofList (if pretty then (Xml.Element.node name [] fields []).indented 0
      else .node name [] fields []).markup) = _
  rw [Xml.elementName_xmlObject valid.named, ok_bind, leaves]
  cases shown_eq : d.shownTexts i with
  | error fault => rfl
  | ok shown =>
    have nonempty : shown ≠ [] := by
      rintro rfl
      exact valid.nonempty (List.forall₂_nil_right_iff.1 (mapM_eq_ok_iff.1 shown_eq))
    show Except.ok _ = Except.ok (String.ofList _)
    rw [← Xml.markup_root pretty d.typeName nonempty]

end Document

end FlatRecord
