import FlatRecord.Generation
import FlatRecord.Record.Setter
import FlatRecord.Proofs.Generation.SoundPlan
import FlatRecord.Proofs.Outcome

/-!
# Types of generated fields

The annotation that generation writes for a field means a type, which depends on the kind of the field
and on whether it is required. The field accepts the values of this type, and a setter takes the
carrier of the kind, with null unless the field is required.
-/

namespace FlatRecord.Generation

open FlatRecord.Execution FlatRecord.Script

/-- The bounds of a kind, as settings of a field. -/
def boundSettings (low high : Int) : Bindings :=
  [("ge", .datum (.int low)), ("le", .datum (.int high))]

/-- The type that the annotation of a kind means. -/
def kindType (kind : Kind) : Object :=
  let base := .type (.ofCarrier kind.carrier)
  match kind.bounds? with
  | none => base
  | some (low, high) => .annotated base [.field (boundSettings low high)]

/-- The type that the annotation of a field means. -/
def fieldType (f : FieldPlan) : Object :=
  if f.required then kindType f.kind else .union [kindType f.kind, .type .null]

/-- The bounds of a kind, as those of a shape. -/
def kindLimits (kind : Kind) : Limits :=
  match kind.bounds? with
  | none => .free
  | some (low, high) => { greatest := some (.int high), least := some (.int low) }

/-- The values that a field accepts. -/
def fieldShape (f : FieldPlan) : Shape :=
  let shape := .scalar f.kind.carrier (kindLimits f.kind)
  if f.required then shape else .nullable shape

/-- The names that the annotation of a carrier looks up, with what they have to mean. -/
def carrierMeanings : Carrier → Bindings
  | .text => [("str", .type .text)]
  | .integer =>
    [("int", .type .integer), ("Annotated", .type .annotated), ("Field", .function .field)]
  | .float => [("float", .type .float)]
  | .boolean => [("bool", .type .boolean)]
  | .date => [("datetime", .module "datetime")]
  | .dateTime => [("datetime", .module "datetime")]
  | .decimal => [("decimal", .module "decimal")]

/-- The names that the annotation of a field looks up, with what they have to mean. -/
def hintMeanings (f : FieldPlan) : Bindings :=
  carrierMeanings f.kind.carrier ++ if f.required then [] else [("Optional", .optionalForm)]

variable {scope : Scope} {f : FieldPlan}

/-- Whether names that are not hidden stay as they are in a scope. -/
def Keeps (scope : Scope) : Prop :=
  ∀ name : String, name.toList.head? ≠ some '_' → scope.nameOf name = name

/-- The member of a module means what it should. -/
private theorem evaluate_attributeOf {module attr : String} {o : Object} (plain : Keeps scope)
    (known : scope.resolve module = .ok (.module module)) (shown : attr.toList.head? ≠ some '_')
    (meaning : memberOf (.module module) attr = .ok o) :
    evaluate scope (attributeOf module attr) = .ok o := by
  show (do let o ← scope.resolve module; memberOf o (scope.nameOf attr)) = _
  rw [known, plain attr shown]
  exact meaning

/-- The annotation of a carrier means its type where its names mean what they should. -/
theorem evaluate_carrierHint {carrier : Carrier} (plain : Keeps scope)
    (known : ∀ b ∈ carrierMeanings carrier, scope.resolve b.1 = .ok b.2) :
    evaluate scope (carrierHint carrier) = .ok (.type (.ofCarrier carrier)) := by
  cases carrier with
  | text => exact known ("str", .type .text) (.head _)
  | integer => exact known ("int", .type .integer) (.head _)
  | float => exact known ("float", .type .float) (.head _)
  | boolean => exact known ("bool", .type .boolean) (.head _)
  | date => exact evaluate_attributeOf plain (known ("datetime", _) (.head _)) (by decide) rfl
  | dateTime => exact evaluate_attributeOf plain (known ("datetime", _) (.head _)) (by decide) rfl
  | decimal => exact evaluate_attributeOf plain (known ("decimal", _) (.head _)) (by decide) rfl

/-- The kinds with bounds are those of integers. -/
theorem carrier_of_bounds {kind : Kind} {low high : Int} (bounds : kind.bounds? = some (low, high)) :
    kind.carrier = .integer := by
  cases kind <;> first | rfl | simp [Kind.bounds?] at bounds

/-- The annotation of a kind means its type where its names mean what they should. -/
theorem evaluate_kindHint {kind : Kind} (plain : Keeps scope)
    (known : ∀ b ∈ carrierMeanings kind.carrier, scope.resolve b.1 = .ok b.2) :
    evaluate scope (kindHint kind) = .ok (kindType kind) := by
  have base := evaluate_carrierHint plain known
  unfold kindHint kindType
  cases bounds : kind.bounds? with
  | none => exact base
  | some range =>
    obtain ⟨low, high⟩ := range
    have integer := carrier_of_bounds bounds
    rw [integer] at known base
    have notes : scope.resolve "Annotated" = .ok (.type .annotated) :=
      known ("Annotated", _) (.tail _ (.head _))
    have field : scope.resolve "Field" = .ok (.function .field) :=
      known ("Field", _) (.tail _ (.tail _ (.head _)))
    have call : evaluate scope
        (callName "Field" [] [("ge", literal (.int low)), ("le", literal (.int high))]) =
          .ok (.field (boundSettings low high)) := by
      show (do let o ← scope.resolve "Field"; applyCall o [] (boundSettings low high)) = _
      rw [field]
      rfl
    have tuple : evaluate scope (.tuple [carrierHint .integer, callName "Field" []
        [("ge", literal (.int low)), ("le", literal (.int high))]] .load) =
          .ok (.tuple [.type .integer, .field (boundSettings low high)]) := by
      simp only [evaluate, meanings, collect, base, call]
      rfl
    rw [integer]
    show (do
      let o ← scope.resolve "Annotated"
      let i ← evaluate scope (.tuple [carrierHint .integer, callName "Field" []
        [("ge", literal (.int low)), ("le", literal (.int high))]] .load)
      applyType o i) = _
    rw [notes, tuple]
    rfl

/-- The type of a kind beside that of null is a choice of both. -/
theorem unionOf_kindType (kind : Kind) :
    unionOf [kindType kind, .type .null] = .union [kindType kind, .type .null] := by
  cases kind <;>
    simp [unionOf, kindType, Kind.bounds?, Kind.carrier, TypeName.ofCarrier, membersOf, distinct,
      Object.same]

/-- The annotation of a field means its type where its names mean what they should. -/
theorem evaluate_hint (plain : Keeps scope)
    (known : ∀ b ∈ hintMeanings f, scope.resolve b.1 = .ok b.2) :
    evaluate scope (hint f) = .ok (fieldType f) := by
  obtain ⟨carried, more⟩ := List.forall_mem_append.1 known
  have base := evaluate_kindHint plain carried
  unfold hint fieldType
  split
  · exact base
  · rename_i optional
    rw [if_neg optional] at more
    have form : scope.resolve "Optional" = .ok .optionalForm := more ("Optional", _) (.head _)
    have single : asType "Optional[t] requires a single type." (kindType f.kind) =
        .ok (kindType f.kind) := by
      cases f.kind <;> rfl
    show (do
      let o ← scope.resolve "Optional"
      let i ← evaluate scope (kindHint f.kind)
      applyType o i) = _
    rw [form, base]
    show (do
      let inner ← asType "Optional[t] requires a single type." (kindType f.kind)
      return unionOf [inner, .type .null]) = _
    rw [single, ← unionOf_kindType]
    rfl

/-- The type of a kind holds no source text to be read. -/
theorem resolveType_kindType (scope : Scope) (depth : Nat) (kind : Kind) :
    resolveType scope depth (kindType kind) = .ok (kindType kind) := by
  match depth with
  | 0 => rfl
  | 1 => cases kind <;> rfl
  | depth + 2 => cases kind <;> rfl

/-- The type of a field holds no source text to be read. -/
theorem typeOfHint_fieldType (scope : Scope) (f : FieldPlan) :
    typeOfHint scope (fieldType f) = .ok (fieldType f) := by
  have resolved (depth : Nat) : resolveType scope depth (fieldType f) = .ok (fieldType f) := by
    unfold fieldType
    split
    · exact resolveType_kindType scope depth f.kind
    · cases depth with
      | zero => rfl
      | succ depth =>
        have null : resolveType scope depth (.type .null) = .ok (.type .null) := by
          cases depth <;> rfl
        show ([kindType f.kind, .type .null].mapM (resolveType scope depth)).map unionOf = _
        rw [List.mapM_cons, resolveType_kindType, List.mapM_cons, null, ← unionOf_kindType]
        rfl
  have shape : typeOfHint scope (fieldType f) =
      resolveType scope ((fieldType f).written.length + 2) (fieldType f) := by
    unfold fieldType
    split
    · cases f.kind <;> rfl
    · rfl
  rw [shape, resolved]

/-- The values that a kind accepts. -/
theorem ofType_kindType (depth : Nat) (kind : Kind) :
    Shape.ofType (depth + 2) (kindType kind) = .ok (.scalar kind.carrier (kindLimits kind)) := by
  cases kind <;> rfl

/-- The values that a field accepts, by its type. -/
theorem ofType_fieldType (depth : Nat) (f : FieldPlan) :
    Shape.ofType (depth + 3) (fieldType f) = .ok (fieldShape f) := by
  unfold fieldType fieldShape
  split
  · exact ofType_kindType (depth + 1) f.kind
  · have other : ([kindType f.kind, .type .null].filter fun m => !Shape.isNullType m) =
        [kindType f.kind] := by
      cases f.kind <;> rfl
    rw [Shape.ofType, other, List.mapM_cons, ofType_kindType]
    cases f.kind <;> rfl

/-- A type is shown by some text. -/
private theorem length_written_pos (f : FieldPlan) : 0 < (fieldType f).written.length := by
  have kind (kind : Kind) : 0 < (kindType kind).written.length := by
    unfold kindType
    cases kind.bounds? with
    | none =>
      rw [Object.written.eq_def]
      dsimp only
      rw [List.append_assoc, List.length_append]
      exact Nat.add_pos_left (by decide) _
    | some range =>
      rw [Object.written.eq_def]
      dsimp only
      rw [List.append_assoc, List.length_append]
      exact Nat.add_pos_left (by decide) _
  unfold fieldType
  split
  · exact kind f.kind
  · rw [Object.written.eq_def]
    dsimp only
    rw [List.append_assoc, List.length_append]
    exact Nat.add_pos_left (by decide) _

/-- The mapping that gives the name of an XML element. -/
def xmlObject (name : String) : Object :=
  .map [(.text "xml", .map [(.text "name", .text name)])]

/-- The settings that the declaration of a field gives. -/
def declaredSettings (f : FieldPlan) : Bindings :=
  ("default", .datum (defaultLiteral f.default)) :: ("alias", .text f.name) ::
    ("json_schema_extra", xmlObject f.name) ::
      if isTextDefault f.default f.kind then [("validate_default", .datum (.bool true))] else []

/-- The field of the record class. -/
def fieldOf (f : FieldPlan) : Field where
  attr := Naming.attributeName f.name
  otherName := some f.name
  default := some (.datum (defaultLiteral f.default))
  factory := none
  checksDefault := isTextDefault f.default f.kind
  shape := fieldShape f
  extra := some (xmlObject f.name)

/-- The settings in the notes on the type of a field. -/
private def notedSettings (f : FieldPlan) : Bindings :=
  match f.required, f.kind.bounds? with
  | true, some (low, high) => boundSettings low high
  | _, _ => []

/-- The settings of a field are those in the notes on its type and those of its declaration. -/
private theorem fieldSettings_eq (f : FieldPlan) (default other extra checked : Object) (b : Bool) :
    let declared := ("default", default) :: ("alias", other) :: ("json_schema_extra", extra) ::
      if b then [("validate_default", checked)] else []
    RecordClass.fieldSettings (fieldType f) (some (.field declared)) =
      notedSettings f ++ declared := by
  obtain ⟨name, kind, required, value⟩ := f
  cases required <;> cases kind <;> cases b <;> rfl

/-- The declaration of a field makes the field of the record class. -/
theorem declaredField_eq {members : Bindings}
    (known : members.lookup f.attributeName = some (.field (declaredSettings f))) :
    RecordClass.declaredField scope members f.attributeName (fieldType f) =
      .ok (fieldOf f, none) := by
  have depth : (fieldType f).written.length + 2 = (fieldType f).written.length - 1 + 3 := by
    have := length_written_pos f
    omega
  have shape := ofType_fieldType ((fieldType f).written.length - 1) f
  have settings : RecordClass.fieldSettings (fieldType f) (some (.field (declaredSettings f))) =
      notedSettings f ++ declaredSettings f := fieldSettings_eq f _ _ _ _ _
  have made : RecordClass.makeField f.attributeName (notedSettings f ++ declaredSettings f)
      (fieldShape f) = fieldOf f := by
    obtain ⟨name, kind, required, value⟩ := f
    unfold declaredSettings fieldOf
    generalize isTextDefault value kind = b
    cases required <;> cases kind <;> cases b <;> rfl
  unfold RecordClass.declaredField
  simp only [typeOfHint_fieldType, depth, shape, known, settings]
  show Except.ok (RecordClass.makeField _ _ _, none) = _
  rw [made]

/-- The type of a setter's parameter without notes. -/
def bareType (f : FieldPlan) : Object :=
  let base := .type (.ofCarrier f.kind.carrier)
  if f.required then base else .union [base, .type .null]

/-- The annotation of a setter's parameter gives the type without notes. -/
theorem bareTypeOfHint_fieldType (scope : Scope) (f : FieldPlan) :
    bareTypeOfHint scope (fieldType f) = .ok (bareType f) := by
  have depth : (fieldType f).written.length + 1 = (fieldType f).written.length - 1 + 2 := by
    have := length_written_pos f
    omega
  have bare (depth : Nat) : withoutNotes (depth + 1) (kindType f.kind) =
      .type (.ofCarrier f.kind.carrier) := by
    cases depth <;> cases f.kind <;> rfl
  have union (carrier : Carrier) : unionOf [.type (.ofCarrier carrier), .type .null] =
      .union [.type (.ofCarrier carrier), .type .null] := by
    cases carrier <;> simp [unionOf, TypeName.ofCarrier, membersOf, distinct, Object.same]
  have whole : withoutNotes ((fieldType f).written.length - 1 + 2) (fieldType f) = bareType f := by
    generalize (fieldType f).written.length - 1 = d
    unfold fieldType bareType
    split
    · exact bare (d + 1)
    · show unionOf [withoutNotes (d + 1) (kindType f.kind), withoutNotes (d + 1) (.type .null)] = _
      rw [bare]
      exact union _
  unfold bareTypeOfHint
  rw [typeOfHint_fieldType, Except.map, depth, whole]

/-- A setter takes the carrier of the kind, with null unless the field is required. -/
theorem carrierOf?_bareType (f : FieldPlan) :
    Setter.carrierOf? (bareType f) = some (f.kind.carrier, !f.required) := by
  obtain ⟨name, kind, required, value⟩ := f
  cases required <;> cases kind <;> rfl

end FlatRecord.Generation
