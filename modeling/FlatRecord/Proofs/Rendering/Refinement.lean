import FlatRecord.Proofs.Cache.Transparency
import FlatRecord.Proofs.Generation.BrokenNames
import FlatRecord.Proofs.Generation.Recovered
import FlatRecord.Proofs.Generation.Totality
import FlatRecord.Proofs.Marshalling.XmlLayout
import FlatRecord.Proofs.Rendering.Bound

/-!
# Rendering refines reading

A document that is rendered through the source of a descriptor, by way of generated code, a loaded
class, its setters and its fields, becomes the text that reading the descriptor and the document
directly gives.
-/

namespace FlatRecord

open FlatRecord.Number FlatRecord.Execution

/-- Integers within the bounds of a kind are written. -/
theorem Kind.Holds.isUnwritable_eq {kind : Kind} {n : Int} (holds : kind.Holds (.int n)) :
    isUnwritable n = false := by
  unfold isUnwritable
  split
  · rfl
  · exact decide_eq_false (Nat.not_lt.2 holds.length_naturalText_le)

/-- The text of a value of a kind: it has one unless it holds characters that cannot stand in a
document. -/
theorem Kind.Holds.valueText_eq {kind : Kind} {v : Datum} (holds : v = .null ∨ kind.Holds v)
    (name : String) : Xml.valueText name v =
      if !v.isRepresentable then .error (.illegalCharacters name) else .ok v.canonicalText := by
  obtain rfl | holds := holds
  · rfl
  have carried := holds.carried
  cases v with
  | int n => exact if_neg (Bool.not_eq_true _ ▸ holds.isUnwritable_eq)
  | decimal d =>
    have finite : d.isFinite = true := by
      cases carrier : kind.carrier <;> rw [carrier] at carried <;> first
        | exact carried
        | exact absurd carried id
    exact if_pos finite
  | text s =>
    show (if s.toList.all Xml.isLegal then .ok s.toList else .error (.illegalCharacters name) :
      Except MarshalFault (List Char)) =
        if !s.toList.all Xml.isLegal then .error (.illegalCharacters name) else .ok s.toList
    cases s.toList.all Xml.isLegal <;> rfl
  | bool b => rfl
  | float x => rfl
  | date d => rfl
  | dateTime t => rfl
  | null => rfl
  | _ => cases carrier : kind.carrier <;> rw [carrier] at carried <;> exact absurd carried id

section Document

variable {d : Descriptor} (valid : d.IsValid)
include valid

/-- The text of a field of an instance that holds what a document gives. -/
theorem Descriptor.IsValid.valueText_stored {f : FieldSpec} (mem : f ∈ d.fields) {i : Instance}
    {document : Document} (holds : i.values = d.held document) :
    Xml.valueText f.name (f.stored i) =
      if !(f.value document).isRepresentable then .error (.illegalCharacters f.name)
      else .ok (f.value document).canonicalText := by
  have value : f.stored i = f.value document := by
    rw [FieldSpec.stored, holds, valid.lookup_held mem, Option.getD_some]
  rw [value, Kind.Holds.valueText_eq ((valid.fields f mem).value_holds document)]

/-- The document of an instance that holds what a document gives. -/
theorem Descriptor.IsValid.document_eq_interpret {i : Instance} (made : i.record = d.record)
    {document : Document} (holds : i.values = d.held document) :
    Xml.document false i = d.interpret document := by
  have shown : d.shownTexts i =
      (d.fields.find? fun f => !(f.value document).isRepresentable).elim
        (.ok (d.fields.map fun f => (f.name, (f.value document).canonicalText)))
        fun f => .error (.illegalCharacters f.name) := by
    refine mapM_eq_find? fun f mem => ?_
    rw [valid.valueText_stored mem holds]
    cases (f.value document).isRepresentable <;> rfl
  rw [valid.xmlDocument_eq made, shown]
  unfold Descriptor.interpret
  cases d.fields.find? fun f => !(f.value document).isRepresentable with
  | some f => rfl
  | none =>
    show Except.ok (String.ofList (Xml.enclosed false d.typeName
      ((d.fields.map fun f => (f.name, (f.value document).canonicalText)).map fun f =>
        Xml.element f.1 f.2))) = _
    rw [List.map_map]
    simp [Xml.enclosed, Xml.fieldBreak, Xml.endBreak, FieldSpec.element, List.flatMap_map]

end Document

section Rendered

variable {d : Descriptor} (valid : d.IsValid)
include valid

/-- If an artifact is built from the source of a descriptor, the names of the descriptor hold no line
feed, and the artifact has its class and its setters. -/
theorem Descriptor.IsValid.parts_of_build {serial : Nat} {hash : String} {a : Artifact}
    (built : Cache.build serial hash d.qualifiedName d.moduleText = .ok a) :
    d.IsLineFree ∧ a.record = d.record ∧
      a.setters = d.planned.fields.map Generation.setterOf := by
  have clean : d.IsLineFree := by
    unfold Cache.build at built
    obtain ⟨loaded, succeeds, -⟩ := bind_eq_ok.1 built
    cases load_eq : load (Cache.label d.qualifiedName hash) d.qualifiedName d.moduleText with
    | ok loaded => exact valid.isLineFree_of_load load_eq
    | error fault =>
      rw [load_eq] at succeeds
      cases succeeds
  refine ⟨clean, ?_⟩
  by_cases loadable : d.IsLoadable d.moduleText
  · obtain rfl := Except.ok.inj ((valid.build_of_isLoadable clean loadable _ _).symm.trans built)
    exact ⟨rfl, rfl⟩
  · obtain ⟨fault, refused⟩ := valid.build_of_not_isLoadable clean loadable serial hash
    rw [refused] at built
    cases built

/-- Rendering a document through the class of a descriptor gives what the descriptor reads off the
document, and binds the keys that give a field a value. -/
theorem Descriptor.IsValid.render_eq_interpret {a : Artifact} (clean : d.IsClean) (made : a.record = d.record)
    (setters : a.setters = d.planned.fields.map Generation.setterOf) {identity : Nat} {i : Instance}
    (created : a.instantiate identity = .ok i) (stats : Cache.Stats) (document : Document) :
    (a.render stats document .xml false).map (fun r => (r.text, boundKeys r.keys)) =
      ((d.interpret document).mapError RenderFault.marshal).map fun text =>
        (text, (document.filter d.takes).map Prod.fst) := by
  obtain ⟨j, begun⟩ : ∃ j, a.instantiate 0 = .ok j := by
    unfold Artifact.instantiate at created ⊢
    obtain ⟨values, constructed, -⟩ := map_eq_ok.1 created
    exact ⟨_, by rw [constructed]; rfl⟩
  obtain ⟨-, fresh⟩ := valid.instantiate_eq_ok clean made begun
  have record : j.record = d.record := by rw [fresh]
  have initial : j.values = d.held [] := by rw [fresh]
  obtain ⟨held, keys⟩ := valid.bind_held clean setters record initial document
  rw [List.nil_append] at held
  have text : (a.bind j document).1.marshal .xml false = d.interpret document := by
    rw [held]
    exact valid.document_eq_interpret (i := { j with values := d.held document }) record rfl
  unfold Artifact.render
  rw [begun]
  show ((do
    let text ← ((a.bind j document).1.marshal .xml false).mapError RenderFault.marshal
    return ⟨text, stats, (a.bind j document).2⟩ : Except RenderFault Rendered).map _) = _
  rw [text, ← keys]
  cases d.interpret document <;> rfl

end Rendered

/-- Whatever has been asked of a cache before, what it compiles for a pair is what building the pair
gives, up to its number. -/
theorem Cache.build_of_compile {name source : String} {capacity : Nat} (positive : 0 < capacity)
    {earlier : List Request} {request : Request} (asked : request.pair? = some (name, source))
    (apart : PairsApart (earlier ++ [request])) {a : Artifact}
    (compiled : ((earlier.foldl Cache.after (Cache.empty capacity positive)).compile
      name source).1 = .ok a) :
    ∃ (b : Artifact) (serial : Nat),
      Cache.build 0 (contentHash name source) name source = .ok b ∧ a = b.renumber serial := by
  have qualified : Naming.isQualified name = true := by
    by_contra unqualified
    unfold Cache.compile at compiled
    rw [if_neg unqualified] at compiled
    cases compiled
  have current := (IsCurrent.empty positive).foldl_after earlier
  have different : ∀ p ∈ [] ++ earlier.filterMap Request.pair?,
      contentHash p.1 p.2 = contentHash name source → p = (name, source) := by
    intro p mem
    rw [PairsApart, List.filterMap_append] at apart
    have last : (name, source) ∈ [request].filterMap Request.pair? := by simp [asked]
    exact apart p (List.mem_append_left _ mem) (name, source) (List.mem_append_right _ last)
  obtain ⟨serial, fresh⟩ := current.compile_fst qualified different
  rw [compiled] at fresh
  obtain ⟨b, built, same⟩ := map_eq_ok.1 fresh.symm
  exact ⟨b, serial, built, same.symm⟩

/-- Rendering a document through the source of an accepted descriptor gives what reading the descriptor
and the document directly does, whatever has been asked of the cache before, provided that the source
compiles and that its class has instances. -/
theorem Cache.render_source_eq_interpret {s : Submission} {d : Descriptor} {source : String}
    (valid : s.validate = .ok d) (rendered : s.source = .ok source) {capacity : Nat}
    (positive : 0 < capacity) (earlier : List Request) (document : Document)
    (apart : PairsApart
      (earlier ++ [.render (.text d.qualifiedName) (.text source) document .xml false]))
    {a : Artifact}
    (compiled : ((earlier.foldl Cache.after (Cache.empty capacity positive)).compile
      d.qualifiedName source).1 = .ok a)
    {identity : Nat} {i : Instance} (created : a.instantiate identity = .ok i) :
    ((earlier.foldl Cache.after (Cache.empty capacity positive)).render (.text d.qualifiedName)
        (.text source) document .xml false).1.map (fun r => (r.text, boundKeys r.keys)) =
      ((d.interpret document).mapError RenderFault.marshal).map fun text =>
        (text, (document.filter d.takes).map Prod.fst) := by
  have known := (Submission.validate_eq_ok valid).1
  obtain rfl : d.moduleText = source :=
    Except.ok.inj ((Submission.source_of_validate valid).symm.trans rendered)
  obtain ⟨b, serial, built, rfl⟩ := Cache.build_of_compile positive rfl apart compiled
  obtain ⟨clean, made, setters⟩ := known.parts_of_build built
  rw [render_fst, compiled]
  exact known.render_eq_interpret (a := b.renumber serial) clean.toIsClean made setters created _
    document

/-- Entries for a person: the first name is overwritten, the number is no name, and the date cannot be
read. -/
def Descriptor.personEntries : Document :=
  [(.text "name", .text "Ada"), (.text "name", .text "Eve & co"), (.int 1, .text "x"),
    (.text "int", .null), (.text "born", .text "soon")]

/-- The document of a person. -/
theorem Cache.render_person :
    ((Cache.empty 1 Nat.one_pos).render (.text Descriptor.person.qualifiedName)
        (.text Descriptor.person.moduleText) Descriptor.personEntries .xml false).1.map
        (fun r => (r.text, boundKeys r.keys)) =
      .ok ("<Person><name>Eve &amp; co</name><int /><born>2020-02-29</born></Person>",
        [.text "name", .text "name", .text "int"]) := by
  have valid := Descriptor.validate_person
  have known := (Submission.validate_eq_ok valid).1
  have clean : Descriptor.person.IsLineFree := ⟨⟨by decide, by decide⟩, by decide⟩
  have loadable : Descriptor.person.IsLoadable Descriptor.person.moduleText :=
    ⟨by decide, by decide, Descriptor.utf8ByteSize_moduleText_person⟩
  have built := known.build_of_isLoadable clean loadable 0
    (contentHash Descriptor.person.qualifiedName Descriptor.person.moduleText)
  have compiled := (Cache.empty 1 Nat.one_pos).compile_fst
    (known.isQualified_qualifiedName.2 clean.space) Descriptor.person.moduleText
  have kept (hash : String) : (Cache.empty 1 Nat.one_pos).artifact? hash = none := rfl
  have first : (Cache.empty 1 Nat.one_pos).compilations = 0 := rfl
  rw [kept, first] at compiled
  dsimp only at compiled
  rw [built] at compiled
  obtain ⟨values, constructed⟩ : ∃ values, Descriptor.person.record.construct = .ok values :=
    ⟨_, by with_unfolding_all rfl⟩
  have apart : PairsApart ([] ++ [.render (.text Descriptor.person.qualifiedName)
      (.text Descriptor.person.moduleText) Descriptor.personEntries .xml false]) := by
    intro p mem q mem' _
    rw [List.mem_singleton.1 mem, List.mem_singleton.1 mem']
  have whole := Cache.render_source_eq_interpret valid (Submission.source_of_validate valid)
    Nat.one_pos [] Descriptor.personEntries apart compiled
    (congrArg (Except.map fun values => (⟨0, 0, Descriptor.person.record, values⟩ : Instance))
      constructed)
  exact whole.trans (by with_unfolding_all rfl)

end FlatRecord
