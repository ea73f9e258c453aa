import FlatRecord.Proofs.Datum.TextKeys
import FlatRecord.Proofs.Execution.Bindings
import FlatRecord.Proofs.Execution.Placed
import FlatRecord.Proofs.Generation.Admitted
import FlatRecord.Proofs.Generation.FieldTypes

/-!
# Generated modules run

The record module of a sound plan, as it is read back, runs. Its names are those of the imports, and
its class has the members, the fields and the setters that the plan asks for.
-/

namespace FlatRecord.Generation

open FlatRecord.Execution FlatRecord.Script

variable {plan : RecordPlan} {f : FieldPlan}

/-- A statement that means the same when it is read back runs the same. -/
theorem foldlM_placedAll {σ ε : Type} {step : σ → Stmt → Except ε σ} {depth : Nat} {ss : List Stmt}
    (h : ∀ s ∈ ss, ∀ line m, step m (s.placed depth line) = step m s) (line : Nat) (m : σ) :
    (Stmt.placedAll depth line ss).foldlM step m = ss.foldlM step m := by
  induction ss generalizing line m with
  | nil => rfl
  | cons s ss ih =>
    obtain ⟨first, others⟩ := List.forall_mem_cons.1 h
    rw [Stmt.placedAll, List.foldlM_cons, List.foldlM_cons, first]
    exact bind_congr fun m => ih others _ m

/-- The names of a module after its imports and its assignments, by what is imported. -/
private def bindings (date decimal integer optional : Bool) (space : Datum) (typeName : String) :
    Bindings :=
  (if date then [("datetime", .module "datetime")] else []) ++
  (if decimal then [("decimal", .module "decimal")] else []) ++
  (if integer then [("Annotated", .type .annotated)] else []) ++
  (if optional then [("Optional", .optionalForm)] else []) ++
  [("BaseModel", .type .base), ("ConfigDict", .type .settings), ("Field", .function .field),
   ("__namespace__", .datum space), ("__all__", .list [.text typeName])]

/-- The names of a generated module before its class is defined. -/
def globals (plan : RecordPlan) : Bindings :=
  bindings (needs plan [.date, .dateTime]) (needs plan [.decimal]) (needs plan [.integer])
    (plan.fields.any fun f => !f.required) plan.space plan.typeName

/-- What stands before the class binds the names of the module. -/
theorem run_header (plan : RecordPlan) (space : String) :
    (Stmt.placedBody 0 1 (header plan)).foldlM (Loading.step space) ⟨[], none⟩ =
      .ok ⟨globals plan, none⟩ := by
  have same : ∀ s ∈ imports plan ++ [assignName "__namespace__" (literal plan.space),
      assignName "__all__" (.list [textLiteral plan.typeName] .load)], ∀ line m,
      Loading.step space m (s.placed 0 line) = Loading.step space m s := by
    have assigned (target : String) (value : Expr) (line : Nat) (m : LoadedModule) :
        Loading.step space m ((assignName target value).placed 0 line) =
          Loading.step space m (assignName target value) := by
      show (do
        let o ← evaluate (.module m.globals) (value.placed line)
        return { m with globals := bindName target o m.globals }) = _
      rw [evaluate_placed]
      rfl
    have imported (module : String) (names : List String) : ∀ s ∈ importNames module names,
        ∀ line m, Loading.step space m (s.placed 0 line) = Loading.step space m s := by
      intro s mem line m
      unfold importNames at mem
      split at mem
      · simp at mem
      · obtain rfl := List.mem_singleton.1 mem
        rfl
    refine List.forall_mem_append.2 ⟨?_, ?_⟩
    · intro s mem line m
      simp only [imports, List.mem_append, List.mem_ite_nil_right] at mem
      obtain ((⟨-, mem⟩ | ⟨-, mem⟩) | mem) | mem := mem
      · obtain rfl := List.mem_singleton.1 mem
        rfl
      · obtain rfl := List.mem_singleton.1 mem
        rfl
      · exact imported _ _ s mem line m
      · exact imported _ _ s mem line m
    · exact List.forall_mem_cons.2 ⟨assigned _ _, List.forall_mem_singleton.2 (assigned _ _)⟩
  rw [header, Stmt.placedBody, List.foldlM_cons]
  show (Stmt.placedAll 0 _ _).foldlM (Loading.step space) ⟨[], none⟩ = _
  rw [foldlM_placedAll same]
  unfold imports globals
  generalize needs plan [.date, .dateTime] = date
  generalize needs plan [.decimal] = decimal
  generalize needs plan [.integer] = integer
  generalize (plan.fields.any fun f => !f.required) = optional
  cases date <;> cases decimal <;> cases integer <;> cases optional <;> rfl

/-- A name that no member of a class has, and what it means in the module. -/
structure Means (plan : RecordPlan) (id : String) (o : Object) : Prop where
  listed : id ∈ Naming.annotationNames ++ Naming.moduleNames
  meaning : ((globals plan).lookup id).or (builtins.lookup id) = some o

/-- Names that mean the same in every generated module. -/
private theorem means_always {b : String × Object} (mem : b ∈ ([("str", .type .text),
    ("int", .type .integer), ("float", .type .float), ("bool", .type .boolean),
    ("object", .type .object), ("BaseModel", .type .base), ("ConfigDict", .type .settings),
    ("Field", .function .field)] : Bindings)) : Means plan b.1 b.2 := by
  constructor
  · revert b
    simp [Naming.annotationNames, Naming.moduleNames]
  · revert b
    unfold globals
    generalize needs plan [.date, .dateTime] = date
    generalize needs plan [.decimal] = decimal
    generalize needs plan [.integer] = integer
    generalize (plan.fields.any fun f => !f.required) = optional
    cases date <;> cases decimal <;> cases integer <;> cases optional <;>
      simp [bindings, builtins, List.lookup_cons]

/-- Names that a generated module imports because a field needs them. -/
private theorem means_needed (date decimal integer optional : Bool) (space : Datum)
    (typeName : String) :
    (date = true → (bindings date decimal integer optional space typeName).lookup "datetime" =
      some (.module "datetime")) ∧
    (decimal = true → (bindings date decimal integer optional space typeName).lookup "decimal" =
      some (.module "decimal")) ∧
    (integer = true → (bindings date decimal integer optional space typeName).lookup "Annotated" =
      some (.type .annotated)) ∧
    (optional = true → (bindings date decimal integer optional space typeName).lookup "Optional" =
      some .optionalForm) := by
  cases date <;> cases decimal <;> cases integer <;> cases optional <;> simp [bindings, List.lookup_cons]

/-- The names that the annotation of a field looks up have their meaning in the module. -/
theorem means_hintMeanings (mem : f ∈ plan.fields) : ∀ b ∈ hintMeanings f, Means plan b.1 b.2 := by
  have needed {carriers : List Carrier} (listed : f.kind.carrier ∈ carriers) :
      needs plan carriers = true :=
    List.any_eq_true.2 ⟨f, mem, by simpa using listed⟩
  have given {id : String} {o : Object} (listed : id ∈ Naming.annotationNames ++ Naming.moduleNames)
      (bound : (globals plan).lookup id = some o) : Means plan id o :=
    ⟨listed, by rw [bound]; rfl⟩
  obtain ⟨date, decimal, integer, optional⟩ := means_needed (needs plan [.date, .dateTime])
    (needs plan [.decimal]) (needs plan [.integer]) (plan.fields.any fun f => !f.required) plan.space
    plan.typeName
  refine List.forall_mem_append.2 ⟨?_, ?_⟩
  · cases carrier : f.kind.carrier with
    | text => exact List.forall_mem_singleton.2 (means_always (by simp))
    | integer =>
      refine List.forall_mem_cons.2 ⟨means_always (by simp), List.forall_mem_cons.2 ⟨?_, ?_⟩⟩
      · exact given (by decide) (integer (needed (by simp [carrier])))
      · exact List.forall_mem_singleton.2 (means_always (by simp))
    | float => exact List.forall_mem_singleton.2 (means_always (by simp))
    | boolean => exact List.forall_mem_singleton.2 (means_always (by simp))
    | date =>
      exact List.forall_mem_singleton.2 (given (by decide) (date (needed (by simp [carrier]))))
    | dateTime =>
      exact List.forall_mem_singleton.2 (given (by decide) (date (needed (by simp [carrier]))))
    | decimal =>
      exact List.forall_mem_singleton.2 (given (by decide) (decimal (needed (by simp [carrier]))))
  · cases required : f.required with
    | true => simp
    | false =>
      refine List.forall_mem_singleton.2 (given (by decide) (optional ?_))
      exact List.any_eq_true.2 ⟨f, mem, by simp [required]⟩

/-- A class body whose members leave the names alone that annotations look up. -/
structure Serves (plan : RecordPlan) (body : ClassBody) : Prop where
  named : body.name = plan.typeName
  free : ∀ name ∈ body.members.map Prod.fst, name ∉ Naming.annotationNames ++ Naming.moduleNames

/-- Every name that the annotations look up is shown. -/
private theorem shown_of_listed {id : String}
    (listed : id ∈ Naming.annotationNames ++ Naming.moduleNames) : id.toList.head? ≠ some '_' := by
  revert id
  decide

section Body

variable {body : ClassBody} (serves : Serves plan body)

/-- Names that are not hidden stay as they are in a class body. -/
theorem keeps_scope (body : ClassBody) (bindings : Bindings) : Keeps (body.scope bindings) :=
  fun _ shown => ownName_of_shown body.name shown

include serves

/-- Names that no member has mean what they mean in the module. -/
theorem Means.resolve {id : String} {o : Object} (means : Means plan id o) :
    (body.scope (globals plan)).resolve id = .ok o := by
  have kept := keeps_scope body (globals plan) id (shown_of_listed means.listed)
  have fresh : body.members.lookup id = none :=
    lookup_eq_none fun bound => serves.free id bound means.listed
  have found : (body.scope (globals plan)).lookup? id = some o := by
    show (body.members.lookup id).or (((globals plan).lookup id).or (builtins.lookup id)) = some o
    rw [fresh, means.meaning]
    rfl
  rw [Scope.resolve_eq_ok_iff, kept, found]

/-- The annotation of a field means its type in the body of the class. -/
theorem Serves.evaluate_hint (mem : f ∈ plan.fields) :
    evaluate (body.scope (globals plan)) (hint f) = .ok (fieldType f) :=
  Generation.evaluate_hint (keeps_scope body _) fun b among =>
    (means_hintMeanings mem b among).resolve serves

/-- A class body with one more member serves as well. -/
theorem Serves.bind {name : String} (o : Object) (hints : Bindings)
    (free : name ∉ Naming.annotationNames ++ Naming.moduleNames) :
    Serves plan { body with members := body.members ++ [(name, o)], hints } := by
  refine ⟨serves.named, ?_⟩
  rw [List.map_append]
  exact List.forall_mem_append.2 ⟨serves.free, List.forall_mem_singleton.2 free⟩

end Body

/-- A member that a statement of the class body makes. -/
structure Member where
  statement : Stmt
  name : String
  value : Object
  hint : Option Object

/-- The member with its meaning. -/
def Member.binding (m : Member) : String × Object := (m.name, m.value)

/-- The member with its annotation, if it is declared with one. -/
def Member.declared? (m : Member) : Option (String × Object) := m.hint.map fun o => (m.name, o)

/-- Whether the statement makes the member in every body of the class in which its name is new. -/
def Member.IsMade (plan : RecordPlan) (m : Member) : Prop :=
  ∀ body : ClassBody, Serves plan body → m.name ∉ body.members.map Prod.fst →
    m.name ∉ body.hints.map Prod.fst → ∀ line depth,
      ClassBody.step (globals plan) body (m.statement.placed depth line) =
        .ok { body with
          members := body.members ++ [m.binding], hints := body.hints ++ m.declared?.toList }

/-- Members are made one after the other. -/
theorem run_members {members : List Member} (made : ∀ m ∈ members, m.IsMade plan)
    (free : ∀ m ∈ members, m.name ∉ Naming.annotationNames ++ Naming.moduleNames) :
    ∀ body : ClassBody, Serves plan body →
      ((body.members ++ members.map Member.binding).map Prod.fst).Nodup →
      (∀ name ∈ body.hints.map Prod.fst, name ∈ body.members.map Prod.fst) → ∀ line depth,
      (Stmt.placedAll depth line (members.map Member.statement)).foldlM
          (ClassBody.step (globals plan)) body =
        .ok { body with
          members := body.members ++ members.map Member.binding
          hints := body.hints ++ members.filterMap Member.declared? } := by
  induction members with
  | nil =>
    intro body _ _ _ line depth
    simp [Stmt.placedAll, pure, Except.pure]
  | cons m members ih =>
    intro body serves distinct noted line depth
    obtain ⟨first, others⟩ := List.forall_mem_cons.1 made
    obtain ⟨here, there⟩ := List.forall_mem_cons.1 free
    have fresh : m.name ∉ body.members.map Prod.fst := by
      rw [List.map_append, List.map_cons, List.nodup_append] at distinct
      exact fun mem => distinct.2.2 m.name mem m.name (.head _) rfl
    have step := first body serves fresh (fun mem => fresh (noted _ mem)) line depth
    rw [List.map_cons, Stmt.placedAll, List.foldlM_cons, step]
    refine (ih others there _ (serves.bind _ _ here) ?_ ?_ _ depth).trans ?_
    · rw [List.append_assoc]
      exact distinct
    · intro name mem
      simp only [List.map_append, List.mem_append] at mem ⊢
      obtain mem | mem := mem
      · exact .inl (noted name mem)
      · right
        cases hinted : m.hint <;> simp_all [Member.declared?, Member.binding]
    · simp only [List.append_assoc, List.map_cons, List.singleton_append]
      cases hinted : m.hint <;> simp [Member.declared?, Member.binding, hinted]

/-- A name with two underscores on either side is the same for every class. -/
theorem ownName_of_isSpecial (owner : String) {name : String} (special : Admission.isSpecial name) :
    ownName owner name = name := by
  simp only [Admission.isSpecial, Bool.and_eq_true] at special
  rw [ownName, special.1, special.2]
  rfl

/-- The attributes of sound fields are the same for every class. -/
theorem map_ownName_attributeName {fields : List FieldPlan} (sound : ∀ f ∈ fields, f.IsSound)
    (owner : String) : (fields.map FieldPlan.attributeName).map (ownName owner) =
      fields.map FieldPlan.attributeName := by
  rw [List.map_map]
  exact List.map_congr_left fun f mem =>
    ownName_of_shown owner (sound f mem).attributeName.shown

/-- The parts of a text form are the same for every class. -/
theorem ownBehaviour_spell {fields : List FieldPlan} (sound : ∀ f ∈ fields, f.IsSound)
    (owner beginning : String) :
    ownBehaviour owner (.spell (textParts beginning fields ++ [.text "\x7d"])) =
      .spell (textParts beginning fields ++ [.text "\x7d"]) := by
  have kept : ∀ p ∈ textParts beginning fields ++ [.text "\x7d"], ∀ name, p = .attribute name →
      ownName owner name = name := by
    refine List.forall_mem_append.2 ⟨?_, by simp⟩
    induction fields generalizing beginning with
    | nil => simp [textParts]
    | cons f rest ih =>
      obtain ⟨first, others⟩ := List.forall_mem_cons.1 sound
      refine List.forall_mem_cons.2 ⟨by simp, List.forall_mem_cons.2 ⟨?_, ih others _⟩⟩
      rintro _ ⟨⟩
      exact ownName_of_shown owner first.attributeName.shown
  refine congrArg Behaviour.spell ((List.map_congr_left fun p mem => ?_).trans (List.map_id _))
  cases p with
  | text s => rfl
  | «attribute» name => exact congrArg TextPart.attribute (kept _ mem name rfl)

/-- A method is a member with what its body does. -/
private theorem isMade_method {name : String} {params : List Param} {statements : List Stmt}
    {returns : Expr} (hints : Bindings) {result : Object} {behaviour : Behaviour}
    (kept : ∀ owner, ownName owner name = name)
    (shown : ∀ p ∈ params, p.name.toList.head? ≠ some '_')
    (hinted : ∀ body, Serves plan body → ∀ line,
      ClassBody.parameterHints (body.scope (globals plan)) (params.map (Param.placed line)) = .ok hints)
    (resulted : ∀ body, Serves plan body → evaluate (body.scope (globals plan)) returns = .ok result)
    (known : ∀ depth line, Behaviour.ofBody? plan.typeName name (params.map Param.name)
      (Stmt.placedBody depth line statements) = some behaviour)
    (own : ∀ owner, ownBehaviour owner behaviour = behaviour) :
    Member.IsMade plan ⟨method name params statements returns, name,
      .method name ("self" :: params.map Param.name) (hints ++ [(resultHint, result)]) behaviour,
      none⟩ := by
  intro body serves fresh _ line depth
  have self : (body.scope (globals plan)).nameOf "self" = "self" :=
    keeps_scope body _ "self" (by decide)
  have parameters : (params.map (Param.placed (line + 1))).map
      (fun p => (body.scope (globals plan)).nameOf p.name) = params.map Param.name := by
    rw [List.map_map]
    refine List.map_congr_left fun p mem => ?_
    obtain ⟨_, id, _⟩ := p
    exact keeps_scope body (globals plan) id (shown _ mem)
  have made : ClassBody.method (body.scope (globals plan)) body.name name
      (plainParams (.mk (line + 1) "self" none :: params.map (Param.placed (line + 1))))
      (Stmt.placedBody (depth + 1) (line + 2) statements) (some (returns.placed (line + 1))) =
        .ok (.method name ("self" :: params.map Param.name) (hints ++ [(resultHint, result)])
          behaviour) := by
    have first : ClassBody.parameterHints (body.scope (globals plan))
        (.mk (line + 1) "self" none :: params.map (Param.placed (line + 1))) = .ok hints :=
      hinted body serves (line + 1)
    have second : ClassBody.returnHint (body.scope (globals plan))
        (some (returns.placed (line + 1))) = .ok [(resultHint, result)] := by
      rw [ClassBody.returnHint, evaluate_placed, resulted body serves]
      rfl
    have third : Behaviour.ofBody? body.name name
        ((params.map (Param.placed (line + 1))).map Param.name)
        (Stmt.placedBody (depth + 1) (line + 2) statements) = some behaviour := by
      rw [map_name_placed, serves.named]
      exact known _ _
    unfold ClassBody.method
    simp only [plainParams, Params.args, first, second, List.tail_cons, third]
    show Except.ok (Object.method (ownName body.name name)
      ((body.scope (globals plan)).nameOf "self" :: (params.map (Param.placed (line + 1))).map
        fun p => (body.scope (globals plan)).nameOf p.name) _ (ownBehaviour body.name behaviour)) = _
    rw [kept, self, parameters, own]
  show (do
    let o ← ClassBody.method (body.scope (globals plan)) body.name name
      (plainParams (.mk (line + 1) "self" none :: params.map (Param.placed (line + 1))))
      (Stmt.placedBody (depth + 1) (line + 2) statements) (some (returns.placed (line + 1)))
    return body.bind name o) = _
  rw [made]
  show Except.ok (body.bind name _) = _
  rw [ClassBody.bind, kept, bindName_of_fresh fresh]
  simp [Member.binding, Member.declared?]

/-- What a record class is set to. -/
def settingsObject (typeName : String) : Object :=
  .map [(.text "title", .text typeName), (.text "validate_assignment", .datum (.bool true)),
    (.text "json_schema_extra", xmlObject typeName)]

/-- The getter of a field, as a method. -/
def getterMember (f : FieldPlan) : Member :=
  ⟨getter f, f.getterName, .method f.getterName ["self"] [(resultHint, fieldType f)]
    (.read f.attributeName), none⟩

/-- The setter of a field, as a method. -/
def setterMember (f : FieldPlan) : Member :=
  ⟨setter f, f.setterName, .method f.setterName ["self", "value"]
    [("value", fieldType f), (resultHint, .null)] (.store f.attributeName), none⟩

/-- The members of the class with what they mean. -/
def members (plan : RecordPlan) : List Member :=
  let names := plan.fields.map FieldPlan.attributeName
  ⟨settings plan, "model_config", settingsObject plan.typeName, none⟩ ::
    (plan.fields.map (fun f => ⟨fieldStatement f, f.attributeName, .field (declaredSettings f),
      some (fieldType f)⟩) ++
    ⟨constructor, "__init__", .method "__init__" ["self"] [(resultHint, .null)] .construct, none⟩ ::
    (plan.fields.flatMap (fun f => [getterMember f, setterMember f]) ++
    [⟨textMethod plan, "__str__", .method "__str__" ["self"] [(resultHint, .type .text)]
      (.spell (textParts (plan.typeName ++ "\x7b") plan.fields ++ [.text "\x7d"])), none⟩,
     ⟨equalityMethod plan, "__eq__", .method "__eq__" ["self", "other"]
      [("other", .type .object), (resultHint, .type .boolean)] (.equal names names), none⟩,
     ⟨hashMethod plan, "__hash__", .method "__hash__" ["self"] [(resultHint, .type .integer)]
      (.digest names), none⟩]))

/-- The members are made by the statements of the class, apart from its documentation. -/
theorem classBody_eq (plan : RecordPlan) :
    classBody plan = documentation plan ++ (members plan).map Member.statement := by
  simp only [classBody, members, List.map_cons, List.map_append, List.map_map, List.map_flatMap]
  rfl

/-- The settings of the class are made. -/
private theorem isMade_settings (plan : RecordPlan) : Member.IsMade plan
    ⟨settings plan, "model_config", settingsObject plan.typeName, none⟩ := by
  intro body serves fresh _ line depth
  have callee : (body.scope (globals plan)).resolve "ConfigDict" = .ok (.type .settings) :=
    (means_always (b := ("ConfigDict", .type .settings)) (by simp)).resolve serves
  have value : evaluate (body.scope (globals plan)) (callName "ConfigDict" []
      [("title", textLiteral plan.typeName), ("validate_assignment", literal (.bool true)),
       ("json_schema_extra", xmlBinding plan.typeName)]) = .ok (settingsObject plan.typeName) := by
    show (do
      let o ← (body.scope (globals plan)).resolve "ConfigDict"
      applyCall o [] [("title", .text plan.typeName), ("validate_assignment", .datum (.bool true)),
        ("json_schema_extra", xmlObject plan.typeName)]) = _
    rw [callee]
    rfl
  show (do
    let o ← evaluate (body.scope (globals plan)) (Expr.placed line _)
    [Expr.name "model_config" .store].foldlM (ClassBody.assign (globals plan) o) body) = _
  rw [evaluate_placed, value]
  show Except.ok (body.bind "model_config" _) = _
  rw [ClassBody.bind, ownName_of_shown body.name (by decide), bindName_of_fresh fresh]
  simp [Member.binding, Member.declared?]

/-- A field is declared. -/
private theorem isMade_field (mem : f ∈ plan.fields) (sound : f.IsSound) : Member.IsMade plan
    ⟨fieldStatement f, f.attributeName, .field (declaredSettings f), some (fieldType f)⟩ := by
  intro body serves fresh unhinted line depth
  have callee : (body.scope (globals plan)).resolve "Field" = .ok (.function .field) :=
    (means_always (b := ("Field", .function .field)) (by simp)).resolve serves
  have value : evaluate (body.scope (globals plan)) (callName "Field"
      [literal (defaultLiteral f.default)]
      ([("alias", textLiteral f.name), ("json_schema_extra", xmlBinding f.name)] ++
        if isTextDefault f.default f.kind then [("validate_default", literal (.bool true))]
          else [])) = .ok (.field (declaredSettings f)) := by
    unfold declaredSettings
    generalize isTextDefault f.default f.kind = b
    cases b with
    | false =>
      show (do
        let o ← (body.scope (globals plan)).resolve "Field"
        applyCall o [.datum (defaultLiteral f.default)]
          [("alias", .text f.name), ("json_schema_extra", xmlObject f.name)]) = _
      rw [callee]
      rfl
    | true =>
      show (do
        let o ← (body.scope (globals plan)).resolve "Field"
        applyCall o [.datum (defaultLiteral f.default)]
          [("alias", .text f.name), ("json_schema_extra", xmlObject f.name),
           ("validate_default", .datum (.bool true))]) = _
      rw [callee]
      rfl
  have own : ownName body.name f.attributeName = f.attributeName :=
    ownName_of_shown body.name sound.attributeName.shown
  have bound : body.bind f.attributeName (.field (declaredSettings f)) =
      { body with members := body.members ++ [(f.attributeName, .field (declaredSettings f))] } := by
    rw [ClassBody.bind, own, bindName_of_fresh fresh]
  have hinted := (serves.bind (.field (declaredSettings f)) body.hints
    sound.attributeName.free).evaluate_hint mem
  show ClassBody.declare (globals plan) body (.name f.attributeName .store) ((hint f).placed line)
    (some (Expr.placed line _)) true = _
  unfold ClassBody.declare
  simp only [evaluate_placed, value]
  show (do
    let o ← evaluate ((body.bind f.attributeName (.field (declaredSettings f))).scope (globals plan))
      (hint f)
    return { body.bind f.attributeName (.field (declaredSettings f)) with
      hints := bindName (ownName body.name f.attributeName) o body.hints }) = _
  rw [bound, hinted, own]
  show Except.ok _ = _
  rw [bindName_of_fresh unhinted]
  simp [Member.binding, Member.declared?]

/-- The annotation of a single parameter. -/
private theorem parameterHints_single {body : ClassBody} {name : String} {e : Expr} {o : Object}
    (shown : name.toList.head? ≠ some '_')
    (meaning : evaluate (body.scope (globals plan)) e = .ok o) (line : Nat) :
    ClassBody.parameterHints (body.scope (globals plan))
      ([Param.mk 0 name (some e)].map (Param.placed line)) = .ok [(name, o)] := by
  show (do
    let o ← evaluate (body.scope (globals plan)) (e.placed line)
    return [((body.scope (globals plan)).nameOf name, o)]) = _
  rw [evaluate_placed, meaning, keeps_scope body (globals plan) name shown]
  rfl

/-- A type that every generated module knows is what its name means. -/
private theorem evaluate_read {body : ClassBody} (serves : Serves plan body) {id : String}
    {o : Object} (means : Means plan id o) :
    evaluate (body.scope (globals plan)) (read id) = .ok o :=
  means.resolve serves

/-- The getter of a field is made. -/
private theorem isMade_getter (mem : f ∈ plan.fields) (sound : f.IsSound) :
    (getterMember f).IsMade plan :=
  isMade_method [] (fun owner => ownName_of_shown owner sound.getterName.shown) (by simp)
    (fun _ _ _ => rfl) (fun _ serves => serves.evaluate_hint mem)
    (fun _ _ => ofBody?_getter sound)
    (fun owner => congrArg Behaviour.read (ownName_of_shown owner sound.attributeName.shown))

/-- The setter of a field is made. -/
private theorem isMade_setter (mem : f ∈ plan.fields) (sound : f.IsSound) :
    (setterMember f).IsMade plan :=
  isMade_method [("value", fieldType f)]
    (fun owner => ownName_of_shown owner sound.setterName.shown) (by simp [Param.name])
    (fun _ serves => parameterHints_single (by decide) (serves.evaluate_hint mem))
    (fun _ _ => rfl) (fun _ _ => ofBody?_setter sound)
    (fun owner => congrArg Behaviour.store (ownName_of_shown owner sound.attributeName.shown))

/-- Every member of the class is made. -/
theorem isMade_members (sound : plan.IsSound) : ∀ m ∈ members plan, m.IsMade plan := by
  have special {name : String} (h : Admission.isSpecial name) (owner : String) :
      ownName owner name = name := ownName_of_isSpecial owner h
  have same (owner : String) := map_ownName_attributeName sound.fields owner
  refine List.forall_mem_cons.2 ⟨isMade_settings plan, List.forall_mem_append.2 ⟨?_, ?_⟩⟩
  · intro m mem
    obtain ⟨f, among, rfl⟩ := List.mem_map.1 mem
    exact isMade_field among (sound.fields f among)
  refine List.forall_mem_cons.2 ⟨?_, List.forall_mem_append.2 ⟨?_, ?_⟩⟩
  · exact isMade_method [] (special (by decide)) (by simp) (fun _ _ _ => rfl) (fun _ _ => rfl)
      (fun _ _ => ofBody?_constructor) (fun _ => rfl)
  · intro m mem
    obtain ⟨f, among, mem⟩ := List.mem_flatMap.1 mem
    obtain rfl | rfl : m = getterMember f ∨ m = setterMember f := by simpa using mem
    · exact isMade_getter among (sound.fields f among)
    · exact isMade_setter among (sound.fields f among)
  refine List.forall_mem_cons.2 ⟨?_, List.forall_mem_cons.2 ⟨?_, List.forall_mem_singleton.2 ?_⟩⟩
  · exact isMade_method [] (special (by decide)) (by simp) (fun _ _ _ => rfl)
      (fun _ serves => evaluate_read serves (means_always (b := ("str", .type .text)) (by simp)))
      (fun _ _ => ofBody?_textMethod _ _) (fun owner => ownBehaviour_spell sound.fields owner _)
  · exact isMade_method [("other", .type .object)] (special (by decide)) (by simp [Param.name])
      (fun _ serves => parameterHints_single (by decide)
        (evaluate_read serves (means_always (b := ("object", .type .object)) (by simp))))
      (fun _ serves => evaluate_read serves (means_always (b := ("bool", .type .boolean)) (by simp)))
      (fun _ _ => ofBody?_equalityMethod plan.fields)
      (fun owner => by rw [ownBehaviour, same])
  · exact isMade_method [] (special (by decide)) (by simp) (fun _ _ _ => rfl)
      (fun _ serves => evaluate_read serves (means_always (b := ("int", .type .integer)) (by simp)))
      (fun _ _ => ofBody?_hashMethod plan.fields) (fun owner => by rw [ownBehaviour, same])

/-- The names of the members. -/
theorem map_name_members (plan : RecordPlan) : (members plan).map Member.name =
    "model_config" :: (plan.fields.map FieldPlan.attributeName ++ "__init__" ::
      (plan.fields.flatMap (fun f => [f.getterName, f.setterName]) ++
        ["__str__", "__eq__", "__hash__"])) := by
  simp only [members, List.map_cons, List.map_append, List.map_map, List.map_flatMap]
  rfl

/-- Names that members of fields have. -/
private theorem isMember_of_memberNames (sound : plan.IsSound) :
    ∀ name ∈ plan.fields.flatMap FieldPlan.memberNames, Naming.IsMember name := by
  intro name mem
  obtain ⟨f, among, mem⟩ := List.mem_flatMap.1 mem
  have known := sound.fields f among
  simp only [FieldPlan.memberNames, List.mem_cons, List.not_mem_nil, or_false] at mem
  obtain rfl | rfl | rfl := mem
  · exact known.attributeName
  · exact known.getterName
  · exact known.setterName

/-- The attributes, and the getters and setters, are all different. -/
private theorem perm_memberNames (fields : List FieldPlan) :
    (fields.map FieldPlan.attributeName ++
      fields.flatMap fun f => [f.getterName, f.setterName]).Perm
        (fields.flatMap FieldPlan.memberNames) :=
  List.map_append_flatMap_perm fields FieldPlan.attributeName fun f => [f.getterName, f.setterName]

/-- A name among the members is that of a field's member, of the settings or of a special method. -/
private theorem name_cases (sound : plan.IsSound) {name : String}
    (mem : name ∈ (members plan).map Member.name) : Naming.IsMember name ∨
      name ∈ ["model_config", "__init__", "__str__", "__eq__", "__hash__"] := by
  rw [map_name_members] at mem
  have fields := isMember_of_memberNames sound
  simp only [(perm_memberNames plan.fields).mem_iff.symm, List.mem_append] at fields
  simp only [List.mem_cons, List.mem_append, List.not_mem_nil, or_false] at mem ⊢
  obtain rfl | mem | rfl | mem | rfl | rfl | rfl := mem
  · simp
  · exact .inl (fields name (.inl mem))
  · simp
  · exact .inl (fields name (.inr mem))
  all_goals simp

/-- No member has a name that annotations look up. -/
theorem free_members (sound : plan.IsSound) : ∀ m ∈ members plan,
    m.name ∉ Naming.annotationNames ++ Naming.moduleNames := by
  intro m mem
  obtain known | special := name_cases sound (List.mem_map_of_mem mem)
  · exact known.free
  · revert special
    generalize m.name = name
    revert name
    decide

/-- The members have different names. -/
theorem nodup_members (sound : plan.IsSound) : ((members plan).map Member.name).Nodup := by
  have fields := (perm_memberNames plan.fields).nodup_iff.2 sound.members
  have known : ∀ name ∈ plan.fields.map FieldPlan.attributeName ++
      plan.fields.flatMap (fun f => [f.getterName, f.setterName]), Naming.IsMember name :=
    fun name mem => isMember_of_memberNames sound name
      ((perm_memberNames plan.fields).mem_iff.1 mem)
  rw [map_name_members]
  generalize plan.fields.map FieldPlan.attributeName = attributes at fields known
  generalize plan.fields.flatMap (fun f => [f.getterName, f.setterName]) = accessors at fields known
  have special : ∀ name ∈ attributes ++ accessors,
      name ∉ ["model_config", "__init__", "__str__", "__eq__", "__hash__"] := by
    intro name mem among
    have shown := (known name mem).shown
    have unlike := (known name mem).unlike
    simp only [List.mem_cons, List.not_mem_nil, or_false] at among
    obtain rfl | rfl | rfl | rfl | rfl := among <;> first | exact unlike rfl | exact shown rfl
  have apart : (attributes ++ accessors ++
      ["model_config", "__init__", "__str__", "__eq__", "__hash__"]).Nodup :=
    List.nodup_append.2 ⟨fields, by decide, fun a mem b among same =>
      special a mem (same ▸ among)⟩
  refine (List.Perm.nodup_iff (List.perm_iff_count.2 fun name => ?_)).2 apart
  simp only [List.count_cons, List.count_append, List.count_nil]
  omega

/-- The class body when it has been run. -/
def classBodyOf (plan : RecordPlan) : ClassBody where
  name := plan.typeName
  documentation := ClassBody.documentationOf (documentation plan)
  members := (members plan).map Member.binding
  hints := plan.fields.map fun f => (f.attributeName, fieldType f)

/-- The declared members are the fields. -/
private theorem filterMap_declared? (plan : RecordPlan) :
    (members plan).filterMap Member.declared? =
      plan.fields.map fun f => (f.attributeName, fieldType f) := by
  have accessors : (plan.fields.flatMap fun f => [getterMember f, setterMember f]).filterMap
      Member.declared? = [] := by
    refine List.filterMap_eq_nil_iff.2 fun m mem => ?_
    obtain ⟨f, -, mem⟩ := List.mem_flatMap.1 mem
    obtain rfl | rfl : m = getterMember f ∨ m = setterMember f := by simpa using mem
    · rfl
    · rfl
  have fields : (plan.fields.map fun f => (⟨fieldStatement f, f.attributeName,
      .field (declaredSettings f), some (fieldType f)⟩ : Member)).filterMap Member.declared? =
        plan.fields.map fun f => (f.attributeName, fieldType f) := by
    rw [List.filterMap_map]
    exact List.filterMap_eq_map ▸ rfl
  simp only [members, List.filterMap_cons, List.filterMap_append, accessors, fields]
  simp [Member.declared?]

/-- The body of the class runs. -/
theorem run_classBody (sound : plan.IsSound) (depth line : Nat) :
    ClassBody.run (globals plan) plan.typeName (Stmt.placedBody depth line (classBody plan)) =
      .ok (classBodyOf plan) := by
  have start (text : Option String) : Serves plan ⟨plan.typeName, text, [], []⟩ := ⟨rfl, by simp⟩
  have distinct : ((([] : Bindings) ++ (members plan).map Member.binding).map Prod.fst).Nodup := by
    rw [List.nil_append, List.map_map]
    exact nodup_members sound
  have run (text : Option String) (line : Nat) :=
    run_members (isMade_members sound) (free_members sound) _ (start text) distinct (by simp) line
      depth
  simp only [filterMap_declared?, List.nil_append] at run
  obtain ⟨description, described⟩ := sound.described
  rw [classBody_eq]
  unfold classBodyOf documentation
  split
  · rename_i given
    rw [described] at given ⊢
    cases description with
    | none => contradiction
    | some text => exact run (some text) _
  · exact run none line

/-- The record class of a plan. -/
def recordOf (plan : RecordPlan) (space : String) : RecordClass where
  name := plan.typeName
  space
  documentation := ClassBody.documentationOf (documentation plan)
  title := plan.typeName
  checksAssignment := true
  extra := some (xmlObject plan.typeName)
  fields := plan.fields.map fieldOf
  methods := (classBodyOf plan).methods
  unresolved := none

/-- The members of the class have different names. -/
theorem nodup_binding (sound : plan.IsSound) :
    ((classBodyOf plan).members.map Prod.fst).Nodup := by
  have names := nodup_members sound
  rwa [classBodyOf, List.map_map]

/-- Every member is the settings, a method or a declared field. -/
private theorem member_cases {m : Member} (mem : m ∈ members plan) :
    m.name = "model_config" ∨ (∃ name parameters hints behaviour,
      m.value = .method name parameters hints behaviour) ∨
      ∃ f ∈ plan.fields, m = ⟨fieldStatement f, f.attributeName, .field (declaredSettings f),
        some (fieldType f)⟩ := by
  simp only [members, List.mem_cons, List.mem_append, List.mem_map, List.mem_flatMap,
    List.not_mem_nil, or_false] at mem
  obtain rfl | ⟨f, among, rfl⟩ | rfl | ⟨f, among, rfl | rfl⟩ | rfl | rfl | rfl := mem
  · exact .inl rfl
  · exact .inr (.inr ⟨f, among, rfl⟩)
  all_goals exact .inr (.inl ⟨_, _, _, _, rfl⟩)

/-- The entries of what a record class is set to. -/
private def settingsEntries (typeName : String) : List (Object × Object) :=
  [(.text "title", .text typeName), (.text "validate_assignment", .datum (.bool true)),
    (.text "json_schema_extra", xmlObject typeName)]

private theorem settingsOf_classBodyOf (plan : RecordPlan) :
    RecordClass.settingsOf (classBodyOf plan) = .ok (settingsEntries plan.typeName) := rfl

private theorem lookup?_title (typeName : String) :
    Object.lookup? (settingsEntries typeName) (.text "title") = some (.text typeName) := by
  simp [settingsEntries, Object.lookup?, Object.same, Object.text]

private theorem lookup?_validateAssignment (typeName : String) :
    Object.lookup? (settingsEntries typeName) (.text "validate_assignment") =
      some (.datum (.bool true)) := by
  simp [settingsEntries, Object.lookup?, Object.same, Object.text]

private theorem lookup?_schemaExtra (typeName : String) :
    Object.lookup? (settingsEntries typeName) (.text "json_schema_extra") =
      some (xmlObject typeName) := by
  simp [settingsEntries, Object.lookup?, Object.same, Object.text]

/-- The name of a field is shown. -/
private theorem isHidden_attributeName (sound : plan.IsSound) {f : FieldPlan} (among : f ∈ plan.fields) :
    RecordClass.isHidden f.attributeName = false :=
  decide_eq_false (sound.fields f among).attributeName.shown

/-- Every member of the class is set up in a way that classes take. -/
private theorem checkMember_classBodyOf (sound : plan.IsSound) {b : String × Object}
    (mem : b ∈ (classBodyOf plan).members) :
    RecordClass.checkMember (classBodyOf plan).hints b = .ok () := by
  obtain ⟨m, among, rfl⟩ := List.mem_map.1 mem
  unfold RecordClass.checkMember
  obtain setting | ⟨_, _, _, _, value⟩ | ⟨f, inside, rfl⟩ := member_cases among
  · rw [Member.binding, setting]
    rfl
  · rw [Member.binding, value]
    split <;> rfl
  · have hinted : ((classBodyOf plan).hints.lookup f.attributeName).isSome := by
      rw [List.lookup_isSome_iff]
      exact ⟨_, List.mem_map_of_mem inside, by simp⟩
    simp only [Member.binding, isHidden_attributeName sound inside, hinted, Bool.false_eq_true,
      if_false, if_true]
    split <;> rfl

/-- The members with annotations are the fields. -/
private theorem declared_classBodyOf (sound : plan.IsSound) :
    RecordClass.declared (classBodyOf plan) =
      plan.fields.map fun f => (f.attributeName, fieldType f) := by
  refine List.filter_eq_self.2 fun b mem => ?_
  obtain ⟨f, among, rfl⟩ := List.mem_map.1 mem
  have unlike := (sound.fields f among).attributeName.unlike
  simp only [isHidden_attributeName sound among, Bool.not_false, Bool.and_true, bne_iff_ne]
  exact unlike

/-- The fields are made of their settings and types, and every name in the types has a meaning. -/
private theorem declaredFields_classBodyOf (sound : plan.IsSound) (scope : Scope) :
    ((plan.fields.map fun f => (f.attributeName, fieldType f)).mapM fun h =>
      RecordClass.declaredField scope (classBodyOf plan).members h.1 h.2) =
        .ok (plan.fields.map fun f => (fieldOf f, none)) := by
  refine mapM_map_eq_pure fun f among => declaredField_eq
    (lookup_eq_some (nodup_binding sound) (List.mem_map.2 ⟨⟨fieldStatement f, f.attributeName,
      .field (declaredSettings f), some (fieldType f)⟩, ?_, rfl⟩))
  exact .tail _ (List.mem_append_left _ (List.mem_map_of_mem among))

/-- The class of a plan is made of its body. -/
theorem ofBody_classBodyOf (sound : plan.IsSound) (space : String) :
    RecordClass.ofBody space (classBodyOf plan) = .ok (recordOf plan space) := by
  have title : RecordClass.settingText? (settingsEntries plan.typeName) "title" =
      some plan.typeName := by
    rw [RecordClass.settingText?, lookup?_title]
    rfl
  have nonempty : plan.typeName.isEmpty = false := by
    rw [Bool.eq_false_iff, ne_eq, String.isEmpty_iff]
    intro empty
    have word := sound.named.1
    simp [empty, Naming.isWord] at word
  have resolved : (plan.fields.map fun f => (fieldOf f, (none : Option String))).filterMap
      Prod.snd = [] := by
    refine List.filterMap_eq_nil_iff.2 fun p mem => ?_
    obtain ⟨f, -, rfl⟩ := List.mem_map.1 mem
    rfl
  unfold RecordClass.ofBody
  rw [settingsOf_classBodyOf, declared_classBodyOf sound,
    forM_eq_ok fun _ => checkMember_classBodyOf sound, declaredFields_classBodyOf sound]
  refine congrArg Except.ok ?_
  simp only [title, lookup?_validateAssignment, lookup?_schemaExtra, Option.getD_some, nonempty,
    resolved, List.map_map]
  rfl

/-- The names of the module when it has been run. -/
def finalGlobals (plan : RecordPlan) (space : String) : Bindings :=
  bindName plan.typeName (.type (.record space plan.typeName)) (globals plan)

/-- The module runs. -/
theorem run_module (sound : plan.IsSound) (label space : String) :
    Loading.run label space (module plan).placed =
      .ok ⟨finalGlobals plan space, some (recordOf plan space)⟩ := by
  obtain ⟨line, body⟩ := placed_module plan
  have base : collect (meanings (.module (globals plan)) [read "BaseModel"]) =
      .ok [.type .base] := by
    have means : Means plan "BaseModel" (.type .base) :=
      means_always (b := ("BaseModel", .type .base)) (by simp)
    have found : (Scope.module (globals plan)).resolve "BaseModel" = .ok (.type .base) :=
      Scope.resolve_eq_ok_iff.2 means.meaning
    show collect [(Scope.module (globals plan)).resolve "BaseModel"] = _
    rw [found]
    rfl
  have last : Loading.step space ⟨globals plan, none⟩ ((recordClass plan).placed 0 line) =
      .ok ⟨finalGlobals plan space, some (recordOf plan space)⟩ := by
    show Loading.runClass space plan.typeName [read "BaseModel"]
      (Stmt.placedBody 1 (line + 2) (classBody plan)) ⟨globals plan, none⟩ = _
    unfold Loading.runClass
    simp only [base, run_classBody sound]
    show (do
      let record ← RecordClass.ofBody space (classBodyOf plan)
      return (⟨_, some record⟩ : LoadedModule)) = _
    rw [ofBody_classBodyOf sound]
    rfl
  rw [Loading.run, staticFault?_module sound, body, List.foldlM_append, run_header]
  show [(recordClass plan).placed 0 line].foldlM (Loading.step space) ⟨globals plan, none⟩ = _
  rw [List.foldlM_cons, last]
  rfl

/-- The namespace that the module declares is that of the plan, unless the type has the name that
declares it. -/
theorem lookup_space (plan : RecordPlan) (space : String) :
    (finalGlobals plan space).lookup "__namespace__" =
      if plan.typeName = "__namespace__" then some (.type (.record space plan.typeName))
      else some (.datum plan.space) := by
  have before : (globals plan).lookup "__namespace__" = some (.datum plan.space) := by
    unfold globals
    generalize needs plan [.date, .dateTime] = date
    generalize needs plan [.decimal] = decimal
    generalize needs plan [.integer] = integer
    generalize (plan.fields.any fun f => !f.required) = optional
    cases date <;> cases decimal <;> cases integer <;> cases optional <;> rfl
  rw [finalGlobals, lookup_bindName, before]
  simp only [eq_comm (a := plan.typeName)]

/-- The module has a class for its type in its namespace, unless the type has the name that declares
the namespace. -/
theorem classOf_module {space : String} (spaced : plan.space = .text space) :
    Loading.classOf space plan.typeName ⟨finalGlobals plan space, some (recordOf plan space)⟩ =
      if plan.typeName = "__namespace__" then
        .error (.otherSpace (.type (.record space plan.typeName)) space)
      else .ok (recordOf plan space) := by
  have found : (finalGlobals plan space).lookup plan.typeName =
      some (.type (.record space plan.typeName)) := by
    rw [finalGlobals, lookup_bindName, if_pos rfl]
  unfold Loading.classOf
  simp only [lookup_space, found]
  split
  · simp [Object.text?]
  · rw [spaced]
    simp [Object.text?]

end FlatRecord.Generation
