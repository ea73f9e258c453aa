import FlatRecord.ContentHash
import FlatRecord.Proofs.Generation.KeptValues
import FlatRecord.Proofs.Generation.Recovered

/-!
# Descriptors with equal sources

The record modules of two descriptors have the same text exactly if the descriptors describe the same
class. The text is read back as the module, and running the module makes the class, which shows what the
descriptor declares; so nothing that a descriptor declares is lost. In the other direction, everything in
the text is made of what the class shows, but for the defaults, which are made of their literals.
-/

namespace FlatRecord

open FlatRecord.Generation FlatRecord.Script

/-- Whether the annotations of two kinds are the same: only the floating point numbers of both sizes
share theirs. -/
def Kind.SharesHint (k l : Kind) : Prop :=
  k = l ∨ k ∈ [float32, float64] ∧ l ∈ [float32, float64]

/-- The text of the literal that stands for the default of a field. -/
def FieldSpec.literalText (f : FieldSpec) : List Char := (literal (defaultLiteral f.initial)).print

/-- Whether two fields are declared alike: type names, and the texts of defaults, may be spelled
differently. -/
structure FieldSpec.DeclaresSame (f g : FieldSpec) : Prop where
  name : f.name = g.name
  required : f.required = g.required
  kind : f.kind.SharesHint g.kind
  default : f.default = .null ∧ g.default = .null ∨
    f.default ≠ .null ∧ g.default ≠ .null ∧ f.literalText = g.literalText

/-- Whether two descriptors describe the same class: an empty description counts as none. -/
structure Descriptor.DescribesSame (d e : Descriptor) : Prop where
  typeName : d.typeName = e.typeName
  space : d.space = e.space
  description : d.description.getD "" = e.description.getD ""
  fields : List.Forall₂ FieldSpec.DeclaresSame d.fields e.fields

/-- Items that are made of related items in the same way. -/
theorem map_eq_of_forall₂ {α β γ : Type} {r : α → β → Prop} {f : α → γ} {g : β → γ} {xs : List α}
    {ys : List β} (related : List.Forall₂ r xs ys)
    (same : ∀ x ∈ xs, ∀ y ∈ ys, r x y → f x = g y) : xs.map f = ys.map g := by
  induction related with
  | nil => rfl
  | cons here _ ih =>
    have others := ih fun x mem y mem' => same x (.tail _ mem) y (.tail _ mem')
    rw [List.map_cons, List.map_cons, same _ (.head _) _ (.head _) here, others]

/-- Items of which the same is made are related if the items of every such pair are. -/
theorem forall₂_of_map_eq {α β γ : Type} {r : α → β → Prop} {f : α → γ} {g : β → γ} {xs : List α}
    {ys : List β} (made : xs.map f = ys.map g) (related : ∀ x ∈ xs, ∀ y ∈ ys, f x = g y → r x y) :
    List.Forall₂ r xs ys := by
  induction xs generalizing ys with
  | nil =>
    obtain rfl : ys = [] := by simpa using made.symm
    exact .nil
  | cons x xs ih =>
    obtain _ | ⟨y, ys⟩ := ys
    · simp at made
    · obtain ⟨here, others⟩ := List.cons_eq_cons.1 made
      exact .cons (related x (.head _) y (.head _) here)
        (ih others fun x mem y mem' => related x (.tail _ mem) y (.tail _ mem'))

namespace Kind.SharesHint

variable {k l : Kind}

theorem kindHint_eq (shares : k.SharesHint l) : kindHint k = kindHint l := by
  obtain rfl | ⟨float, float'⟩ := shares
  · rfl
  · fin_cases float <;> fin_cases float' <;> rfl

theorem carrier_eq (shares : k.SharesHint l) : k.carrier = l.carrier := by
  obtain rfl | ⟨float, float'⟩ := shares
  · rfl
  · fin_cases float <;> fin_cases float' <;> rfl

theorem isTextDefault_eq (shares : k.SharesHint l) {v w : Datum} (given : v ≠ .null)
    (given' : w ≠ .null) : isTextDefault v k = isTextDefault w l := by
  have known {v : Datum} (given : v ≠ .null) (kind : Kind) : isTextDefault v kind =
      (kind = .date || kind = .dateTime || kind = .decimal) := by
    unfold isTextDefault
    split
    · exact absurd rfl given
    · rfl
  rw [known given, known given']
  obtain rfl | ⟨float, float'⟩ := shares
  · rfl
  · fin_cases float <;> fin_cases float' <;> rfl

end Kind.SharesHint

/-- The values that a field accepts show whether it is required, and its kind as far as its annotation
does. -/
theorem Generation.of_fieldShape_eq {f g : FieldPlan} (same : fieldShape f = fieldShape g) :
    f.required = g.required ∧ f.kind.SharesHint g.kind := by
  have scalar : f.required = g.required ∧ f.kind.carrier = g.kind.carrier ∧
      kindLimits f.kind = kindLimits g.kind := by
    unfold fieldShape at same
    cases required : f.required <;> cases required' : g.required <;>
      simp_all only [Bool.false_eq_true, if_false, if_true, Shape.nullable.injEq, Shape.scalar.injEq,
        reduceCtorEq, and_self]
  obtain ⟨required, carrier, limits⟩ := scalar
  refine ⟨required, ?_⟩
  revert carrier limits
  generalize f.kind = k, g.kind = l
  cases k <;> cases l <;> intro carrier limits <;>
    first
      | exact .inl rfl
      | exact .inr ⟨by decide, by decide⟩
      | exact absurd carrier (by decide)
      | simp [kindLimits, Kind.bounds?] at limits

/-- A field starts as null only if no default is declared. -/
theorem FieldSpec.IsValid.initial_eq_null_iff {f : FieldSpec} (valid : f.IsValid) :
    f.initial = .null ↔ f.default = .null := by
  constructor
  · intro null
    by_contra given
    have converts := valid.converts given
    rw [null] at converts
    exact Carrier.not_holds_null _ (Kind.coerce_holds converts).carried
  · intro absent
    rw [initial, absent]

/-- A literal is null only if the value is. -/
theorem Generation.defaultLiteral_eq_null_iff {v : Datum} : defaultLiteral v = .null ↔ v = .null := by
  cases v <;> simp [defaultLiteral]

section Printed

variable {f g : FieldSpec} (valid : f.IsValid) (valid' : g.IsValid) (same : f.DeclaresSame g)
include same

theorem FieldSpec.DeclaresSame.hint_eq : hint f.planned = hint g.planned := by
  unfold hint
  rw [show kindHint f.planned.kind = kindHint g.planned.kind from same.kind.kindHint_eq,
    show f.planned.required = g.planned.required from same.required]

include valid valid'

/-- Fields that are declared alike have declarations with the same text. -/
theorem FieldSpec.DeclaresSame.print_fieldStatement (depth : Nat) :
    (fieldStatement f.planned).print depth = (fieldStatement g.planned).print depth := by
  have texts : f.literalText = g.literalText ∧
      isTextDefault f.initial f.kind = isTextDefault g.initial g.kind := by
    obtain ⟨absent, absent'⟩ | ⟨given, given', literals⟩ := same.default
    · unfold literalText
      rw [valid.initial_eq_null_iff.2 absent, valid'.initial_eq_null_iff.2 absent']
      exact ⟨rfl, rfl⟩
    · exact ⟨literals, same.kind.isTextDefault_eq (mt valid.initial_eq_null_iff.1 given)
        (mt valid'.initial_eq_null_iff.1 given')⟩
  have literals : (literal (defaultLiteral f.planned.default)).print =
      (literal (defaultLiteral g.planned.default)).print := texts.1
  have checked : isTextDefault f.planned.default f.planned.kind =
      isTextDefault g.planned.default g.planned.kind := texts.2
  have named : f.planned.name = g.planned.name := same.name
  simp only [fieldStatement, Stmt.print, callName, Expr.print, Expr.printEach, same.hint_eq, named,
    checked, literals]

end Printed

/-- The pieces of a text form are made of the names of the fields. -/
theorem Generation.textPieces_congr {fields others : List FieldPlan}
    (names : fields.map FieldPlan.name = others.map FieldPlan.name) (beginning : String) :
    textPieces beginning fields = textPieces beginning others := by
  induction fields generalizing others beginning with
  | nil =>
    obtain rfl : others = [] := by simpa using names.symm
    rfl
  | cons f fields ih =>
    obtain _ | ⟨g, others⟩ := others
    · simp at names
    · obtain ⟨named, rest⟩ := List.cons_eq_cons.1 names
      rw [textPieces, textPieces, named, ih rest]

namespace Descriptor.DescribesSame

variable {d e : Descriptor} (valid : d.IsValid) (valid' : e.IsValid) (same : d.DescribesSame e)
include same

/-- What is made of the fields of descriptors that describe the same class. -/
theorem map_planned {α : Type} {make : FieldPlan → α}
    (alike : ∀ f g : FieldSpec, f.DeclaresSame g → make f.planned = make g.planned) :
    d.planned.fields.map make = e.planned.fields.map make := by
  show (d.fields.map FieldSpec.planned).map make = (e.fields.map FieldSpec.planned).map make
  rw [List.map_map, List.map_map]
  exact map_eq_of_forall₂ same.fields fun f _ g _ => alike f g

theorem map_name : d.planned.fields.map FieldPlan.name = e.planned.fields.map FieldPlan.name :=
  same.map_planned fun _ _ fields => fields.name

theorem any_planned {test : FieldPlan → Bool}
    (alike : ∀ f g : FieldSpec, f.DeclaresSame g → test f.planned = test g.planned) :
    d.planned.fields.any test = e.planned.fields.any test := by
  have tests := congrArg (List.any · id) (same.map_planned alike)
  rwa [List.any_map, List.any_map] at tests

theorem qualifiedName_eq : d.qualifiedName = e.qualifiedName := by
  rw [qualifiedName, qualifiedName, same.space, same.typeName]

theorem imports_eq : imports d.planned = imports e.planned := by
  have needed (carriers : List Carrier) : needs d.planned carriers = needs e.planned carriers := by
    refine same.any_planned fun f g fields => ?_
    rw [show f.planned.kind.carrier = g.planned.kind.carrier from fields.kind.carrier_eq]
  have optional : (d.planned.fields.any fun f => !f.required) =
      e.planned.fields.any fun f => !f.required := by
    refine same.any_planned fun f g fields => ?_
    rw [show f.planned.required = g.planned.required from fields.required]
  unfold imports
  rw [needed, needed, needed, optional]

theorem documentation_eq : documentation d.planned = documentation e.planned := by
  have shown (description : Option String) {plan : RecordPlan}
      (described : plan.description = Datum.ofText? description) : documentation plan =
        if (description.getD "").isEmpty then []
        else [.expr 0 (textLiteral (description.getD ""))] := by
    rw [documentation, described]
    cases description with
    | none => rfl
    | some text =>
      cases empty : text.isEmpty <;>
        simp [Datum.isTruthy, Datum.ofText?, empty, textLiteral]
  rw [shown d.description rfl, shown e.description rfl, same.description]

theorem preamble_eq : preamble d.planned = preamble e.planned := by
  unfold preamble
  rw [same.imports_eq, show d.planned.title = e.planned.title from same.qualifiedName_eq,
    show d.planned.space = e.planned.space from congrArg Datum.text same.space,
    show d.planned.typeName = e.planned.typeName from same.typeName]

/-- The methods of the classes are the same. -/
theorem methods_eq : (d.planned.fields.flatMap (fun f => [getter f, setter f]) ++
    [textMethod d.planned, equalityMethod d.planned, hashMethod d.planned]) =
      e.planned.fields.flatMap (fun f => [getter f, setter f]) ++
        [textMethod e.planned, equalityMethod e.planned, hashMethod e.planned] := by
  have accessors : d.planned.fields.flatMap (fun f => [getter f, setter f]) =
      e.planned.fields.flatMap fun f => [getter f, setter f] := by
    rw [List.flatMap_def, List.flatMap_def]
    refine congrArg List.flatten (same.map_planned fun f g fields => ?_)
    have named : f.planned.name = g.planned.name := fields.name
    rw [getter, getter, setter, setter, fields.hint_eq, named]
  have tuple (owner : String) : attributeTuple owner d.planned.fields =
      attributeTuple owner e.planned.fields := by
    refine congrArg (Expr.tuple · .load) (same.map_planned fun f g fields => ?_)
    rw [show f.planned.name = g.planned.name from fields.name]
  have pieces := textPieces_congr same.map_name (d.planned.typeName ++ "\x7b")
  have named : d.planned.typeName = e.planned.typeName := same.typeName
  rw [accessors, textMethod, textMethod, equalityMethod, equalityMethod, hashMethod, hashMethod,
    tuple, tuple, pieces, named]

include valid valid'

/-- The declarations of the fields have the same text. -/
theorem printAll_fieldStatements (depth : Nat) :
    Stmt.printAll depth (d.planned.fields.map fieldStatement) =
      Stmt.printAll depth (e.planned.fields.map fieldStatement) := by
  have joined (fields : List FieldPlan) : Stmt.printAll depth (fields.map fieldStatement) =
      (fields.map fun f => (fieldStatement f).print depth).flatten := by
    induction fields with
    | nil => rfl
    | cons f fields ih => rw [List.map_cons, Stmt.printAll, ih, List.map_cons, List.flatten_cons]
  rw [joined, joined]
  refine congrArg List.flatten ?_
  show (d.fields.map FieldSpec.planned).map _ = (e.fields.map FieldSpec.planned).map _
  rw [List.map_map, List.map_map]
  exact map_eq_of_forall₂ same.fields fun f mem g mem' fields =>
    fields.print_fieldStatement (valid.fields f mem) (valid'.fields g mem') depth

/-- Descriptors that describe the same class have record modules with the same text. -/
theorem moduleText_eq : d.moduleText = e.moduleText := by
  have body (plan : RecordPlan) : Stmt.printBody 1 (classBody plan) =
      Stmt.printBody 1 (documentation plan ++ [settings plan]) ++
        (Stmt.printAll 1 (plan.fields.map fieldStatement) ++ Stmt.printAll 1 (constructor ::
          (plan.fields.flatMap (fun f => [getter f, setter f]) ++
            [textMethod plan, equalityMethod plan, hashMethod plan]))) := by
    rw [classBody, List.append_cons, Stmt.printBody_append _ (by simp), Stmt.printAll_append]
  have bodies : Stmt.printBody 1 (classBody d.planned) = Stmt.printBody 1 (classBody e.planned) := by
    rw [body, body, same.documentation_eq, same.methods_eq,
      same.printAll_fieldStatements valid valid', settings, settings,
      show d.planned.typeName = e.planned.typeName from same.typeName]
  have classes : (recordClass d.planned).print 0 = (recordClass e.planned).print 0 := by
    show Stmt.print 0 (.classDef 0 d.typeName _ _ (classBody d.planned) _) =
      Stmt.print 0 (.classDef 0 e.typeName _ _ (classBody e.planned) _)
    rw [Stmt.print, Stmt.print, bodies, same.typeName]
  have nonempty (plan : RecordPlan) : preamble plan ≠ [] := by simp [preamble]
  rw [moduleText, moduleText, Module.print, Module.print, body_module, body_module,
    Stmt.printBody_append _ (nonempty _), Stmt.printBody_append _ (nonempty _), same.preamble_eq,
    Stmt.printAll, Stmt.printAll, classes]
  rfl

end Descriptor.DescribesSame

/-- The first statement of a module gives the qualified name of its type. -/
theorem Generation.head?_placed_module (plan : RecordPlan) : (module plan).placed.body.head? =
    some (.expr 1 (textLiteral ("Generated record type " ++ plan.title ++ "."))) := rfl

/-- Fields that the class shows alike are declared alike. -/
theorem FieldSpec.IsValid.declaresSame_of_fieldOf_eq {f g : FieldSpec} (valid : f.IsValid)
    (valid' : g.IsValid) (same : fieldOf f.planned = fieldOf g.planned) : f.DeclaresSame g := by
  have name : f.name = g.name := Option.some.inj (congrArg Field.otherName same)
  have shape : fieldShape f.planned = fieldShape g.planned := congrArg Field.shape same
  have literals : defaultLiteral f.initial = defaultLiteral g.initial := by
    have defaults := congrArg Field.default same
    simpa [fieldOf, FieldSpec.planned] using defaults
  obtain ⟨required, kind⟩ := of_fieldShape_eq shape
  refine ⟨name, required, kind, ?_⟩
  by_cases absent : f.default = .null
  · have null := defaultLiteral_eq_null_iff.2 (valid.initial_eq_null_iff.2 absent)
    rw [literals, defaultLiteral_eq_null_iff, valid'.initial_eq_null_iff] at null
    exact .inl ⟨absent, null⟩
  · have given : g.default ≠ .null := by
      intro null
      rw [← valid'.initial_eq_null_iff, ← defaultLiteral_eq_null_iff, ← literals,
        defaultLiteral_eq_null_iff, valid.initial_eq_null_iff] at null
      exact absent null
    exact .inr ⟨absent, given, by rw [literalText, literalText, literals]⟩

namespace Descriptor

variable {d e : Descriptor}

/-- Descriptors whose record modules have the same text describe the same class. -/
theorem IsValid.describesSame_of_moduleText_eq (valid : d.IsValid) (valid' : e.IsValid)
    (clean : d.IsClean) (clean' : e.IsClean) (same : d.moduleText = e.moduleText) :
    d.DescribesSame e := by
  have sound := valid.planned_isSound clean
  have sound' := valid'.planned_isSound clean'
  have modules : (module d.planned).placed = (module e.planned).placed := by
    have read := Generation.read_print sound
    rw [show (module d.planned).print = (module e.planned).print from String.ofList_injective same,
      Generation.read_print sound'] at read
    exact (Except.ok.inj read).symm
  have records : recordOf d.planned "" = recordOf e.planned "" := by
    have ran := run_module sound "" ""
    rw [modules, run_module sound' "" ""] at ran
    have loaded := congrArg LoadedModule.record (Except.ok.inj ran)
    exact (Option.some.inj loaded).symm
  have typeName : d.typeName = e.typeName := congrArg RecordClass.name records
  have space : d.space = e.space := by
    -- The class knows the namespace it is loaded in, so the one of the descriptor is read off the title.
    have heads := congrArg (fun m => m.body.head?) modules
    simp only [head?_placed_module] at heads
    have titles : d.space.toList ++ '.' :: (d.typeName.toList ++ ['.']) =
        e.space.toList ++ '.' :: (e.typeName.toList ++ ['.']) := by
      simpa [textLiteral, literal, planned, qualifiedName, String.ext_iff] using heads
    rw [typeName] at titles
    exact String.ext (List.append_cancel_right titles)
  have description : d.description.getD "" = e.description.getD "" := by
    have shown := congrArg RecordClass.documentation records
    have kept (description : Option String) :
        (description.filter fun s => !s.isEmpty).getD "" = description.getD "" := by
      cases description with
      | none => rfl
      | some text => by_cases empty : text = "" <;> simp [Option.filter, empty]
    rw [← kept d.description, ← kept e.description, ← documentationOf_documentation d,
      ← documentationOf_documentation e]
    exact congrArg (Option.getD · "") shown
  have fields : (d.fields.map fun f => fieldOf f.planned) = e.fields.map fun g => fieldOf g.planned := by
    have shown : (d.fields.map FieldSpec.planned).map fieldOf =
        (e.fields.map FieldSpec.planned).map fieldOf := congrArg RecordClass.fields records
    rwa [List.map_map, List.map_map] at shown
  exact ⟨typeName, space, description, forall₂_of_map_eq fields fun f mem g mem' alike =>
    (valid.fields f mem).declaresSame_of_fieldOf_eq (valid'.fields g mem') alike⟩

end Descriptor

/-- Two accepted submissions have the same source text exactly if their descriptors describe the same
class, and so do their content hashes, if these tell the two apart at all. -/
theorem Submission.sources_eq_iff {s t : Submission} {d e : Descriptor} (valid : s.validate = .ok d)
    (valid' : t.validate = .ok e) (clean : d.IsClean) (clean' : e.IsClean) :
    ∃ source source', s.source = .ok source ∧ t.source = .ok source' ∧
      (source = source' ↔ d.DescribesSame e) ∧
      ((contentHash d.qualifiedName source = contentHash e.qualifiedName source' →
          (d.qualifiedName, source) = (e.qualifiedName, source')) →
        (contentHash d.qualifiedName source = contentHash e.qualifiedName source' ↔
          d.DescribesSame e)) := by
  have known := (validate_eq_ok valid).1
  have known' := (validate_eq_ok valid').1
  have texts : d.moduleText = e.moduleText ↔ d.DescribesSame e :=
    ⟨known.describesSame_of_moduleText_eq known' clean clean',
      Descriptor.DescribesSame.moduleText_eq known known'⟩
  refine ⟨d.moduleText, e.moduleText, source_of_validate valid, source_of_validate valid', texts,
    fun apart => ⟨fun hashes => ?_, fun same => ?_⟩⟩
  · exact texts.1 (Prod.mk.inj (apart hashes)).2
  · rw [texts.2 same, same.qualifiedName_eq]

/-- A descriptor with defaults in texts. -/
def Descriptor.spelled : Descriptor where
  typeName := "P"
  space := "a"
  fields := [⟨"n", "int", false, .text " 5 "⟩, ⟨"x", "float", false, .text "1.50"⟩,
    ⟨"s", "string", false, .text "None"⟩]
  description := none

/-- The same descriptor with other type names, other defaults and an empty description. -/
def Descriptor.respelled : Descriptor where
  typeName := "P"
  space := "a"
  fields := [⟨"n", "Integer", false, .int 5⟩, ⟨"x", "Double", false, .text "15e-1"⟩,
    ⟨"s", "str", false, .text "None"⟩]
  description := some ""

/-- The two spellings have the same source and the same content hash. -/
theorem Submission.sources_respelled : ∃ source,
    Descriptor.spelled.submission.source = .ok source ∧
      Descriptor.respelled.submission.source = .ok source ∧
      contentHash Descriptor.spelled.qualifiedName source =
        contentHash Descriptor.respelled.qualifiedName source := by
  have valid : Descriptor.spelled.submission.validate = .ok .spelled := by
    with_unfolding_all rfl
  have valid' : Descriptor.respelled.submission.validate = .ok .respelled := by
    with_unfolding_all rfl
  have integer : FieldSpec.DeclaresSame ⟨"n", "int", false, .text " 5 "⟩
      ⟨"n", "Integer", false, .int 5⟩ := ⟨rfl, rfl, .inl (by decide), .inr ⟨by simp, by simp, by decide +kernel⟩⟩
  have number : FieldSpec.DeclaresSame ⟨"x", "float", false, .text "1.50"⟩
      ⟨"x", "Double", false, .text "15e-1"⟩ :=
    ⟨rfl, rfl, .inr ⟨by decide, by decide⟩, .inr ⟨by simp, by simp, by decide +kernel⟩⟩
  have text : FieldSpec.DeclaresSame ⟨"s", "string", false, .text "None"⟩
      ⟨"s", "str", false, .text "None"⟩ :=
    ⟨rfl, rfl, .inl (by decide), .inr ⟨by simp, by simp, by decide +kernel⟩⟩
  have same : Descriptor.spelled.DescribesSame .respelled :=
    ⟨rfl, rfl, rfl, .cons integer (.cons number (.cons text .nil))⟩
  obtain ⟨source, source', made, made', texts, hashes⟩ :=
    sources_eq_iff valid valid' ⟨by decide, by decide⟩ ⟨by decide, by decide⟩
  obtain rfl := texts.2 same
  exact ⟨source, made, made', (hashes fun _ => by rw [same.qualifiedName_eq]).2 same⟩

end FlatRecord
