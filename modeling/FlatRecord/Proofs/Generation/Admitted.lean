import FlatRecord.Loading
import FlatRecord.Proofs.Generation.Methods
import FlatRecord.Proofs.Script.Nodes

/-!
# Generated modules are admitted

The record module of a sound plan, as it is read back, passes admission if the name of the type may be
declared, and has no fault that shows before it is run.
-/

namespace FlatRecord.Generation

open FlatRecord.Script FlatRecord.Admission

/-- A node that admission lets pass and that gives no named argument twice. -/
structure Admits (className : String) (n : Node) : Prop where
  passes : Admission.node className n = .ok ()
  single : Loading.repeatedKeyword? n = none

/-- A node that admission lets pass wherever no operators may stand. -/
structure AdmitsPlainly (className : String) (n : Node) : Prop extends Admits className n where
  plain : isOperation n = false

variable {c : String} {line : Nat} {f : FieldPlan} {plan : RecordPlan}

/-- A node without conditions. -/
private theorem admits_unconditional {n : Node} (passes : Admission.node c n = .ok ())
    (single : Loading.repeatedKeyword? n = none) (plain : isOperation n = false)
    (parts : ∀ p ∈ n.parts, Node.Each (AdmitsPlainly c) p) : Node.Each (AdmitsPlainly c) n :=
  Node.each_iff.2 ⟨⟨⟨passes, single⟩, plain⟩, parts⟩

/-- A use of a name that is no deletion. -/
theorem each_use {u : Use} (known : u ≠ .delete) : Node.Each (AdmitsPlainly c) (.use u) := by
  cases u with
  | delete => contradiction
  | _ => exact admits_unconditional rfl rfl rfl (by simp [Node.parts])

/-- A name that is read. -/
theorem each_read {id : String} (known : usable.contains id ∨ id = c) :
    Node.Each (AdmitsPlainly c) (.expr (read id)) := by
  have condition : (usable.contains id || id == c) = true := by simpa using known
  exact admits_unconditional (if_pos condition) rfl rfl
    (List.forall_mem_singleton.2 (each_use (by decide)))

/-- A name that is stored. -/
theorem each_stored {id : String} (free : isDeclarable id) :
    Node.Each (AdmitsPlainly c) (.expr (.name id .store)) :=
  admits_unconditional (if_pos free) rfl rfl (List.forall_mem_singleton.2 (each_use (by decide)))

/-- A literal. -/
theorem each_literal {v : Datum} (plain : (Constant.datum v).IsPlain) :
    Node.Each (AdmitsPlainly c) (.expr ((literal v).placed line)) := by
  have atom (v : Datum) (known : foreignConstant? (.datum v) = none) :
      Node.Each (AdmitsPlainly c) (.expr (.constant (.datum v))) := by
    refine admits_unconditional ?_ rfl rfl (by simp [Node.parts, Expr.parts])
    cases v with
    | bytes bs => cases known
    | _ => rfl
  have signed (v : Datum) (known : foreignConstant? (.datum v) = none) :
      Node.Each (AdmitsPlainly c) (.expr (.unary .minus (.constant (.datum v)))) := by
    refine admits_unconditional rfl rfl rfl (List.forall_mem_cons.2 ⟨?_, ?_⟩)
    · exact admits_unconditional rfl rfl rfl (by simp [Node.parts])
    · exact List.forall_mem_singleton.2 (atom v known)
  show Node.Each (AdmitsPlainly c) (.expr (Constant.placed (.datum v)))
  unfold Constant.placed
  split
  · exact signed _ rfl
  · exact signed _ rfl
  · cases v with
    | bytes bs => simp [Constant.IsPlain] at plain
    | _ => exact atom _ rfl

/-- A text. -/
theorem each_textLiteral (s : String) : Node.Each (AdmitsPlainly c) (.expr (textLiteral s)) := by
  have placed : (literal (.text s)).placed 0 = textLiteral s := rfl
  exact placed ▸ each_literal trivial

/-- An attribute of an instance. -/
theorem each_attributeOf {owner attr : String} (instance' : owner = "self" ∨ owner = "other")
    (free : isDeclarable attr) : Node.Each (AdmitsPlainly c) (.expr (attributeOf owner attr)) := by
  have condition : isInstance (read owner) := by
    obtain rfl | rfl := instance' <;> decide
  have known : usable.contains owner := by
    obtain rfl | rfl := instance' <;> decide
  refine admits_unconditional ?_ rfl rfl (List.forall_mem_cons.2 ⟨each_read (.inl known),
    List.forall_mem_singleton.2 (each_use (by decide))⟩)
  show (if isInstance (read owner) then require (isDeclarable attr) (.reservedName attr)
    else require (isMember (read owner) attr) (.member attr)) = .ok ()
  rw [if_pos condition, require, if_pos free]

/-- A member of a module. -/
theorem each_memberOf {module attr : String} (known : usable.contains module)
    (other : isInstance (read module) = false) (listed : isMember (read module) attr) :
    Node.Each (AdmitsPlainly c) (.expr (attributeOf module attr)) := by
  refine admits_unconditional ?_ rfl rfl (List.forall_mem_cons.2 ⟨each_read (.inl known),
    List.forall_mem_singleton.2 (each_use (by decide))⟩)
  show (if isInstance (read module) then require (isDeclarable attr) (.reservedName attr)
    else require (isMember (read module) attr) (.member attr)) = .ok ()
  rw [other, if_neg (by simp), require, if_pos listed]

/-- Distinct names are not repeated. -/
theorem repeatedName?_eq_none {names : List (String × Nat)} (distinct : (names.map Prod.fst).Nodup) :
    Loading.repeatedName? names = none := by
  induction names with
  | nil => rfl
  | cons name rest ih =>
    obtain ⟨fresh, others⟩ := List.nodup_cons.1 distinct
    have absent : rest.find? (fun other => other.1 = name.1) = none := by
      refine List.find?_eq_none.2 fun other mem => ?_
      simp only [decide_eq_true_eq]
      exact fun same => fresh (same ▸ List.mem_map_of_mem mem)
    rw [Loading.repeatedName?, absent]
    exact ih others

/-- A call of a named function, with named arguments of different names. -/
theorem each_callName (callee : String) (args : List Expr) (keywords : List (String × Expr))
    (known : callable.contains callee) (usual : usable.contains callee) (plain : callee ≠ "super")
    (values : ∀ e ∈ args, Node.Each (AdmitsPlainly c) (.expr (e.placed line)))
    (named : ∀ k ∈ keywords, Node.Each (AdmitsPlainly c) (.expr (k.2.placed line)))
    (distinct : (keywords.map Prod.fst).Nodup) :
    Node.Each (AdmitsPlainly c) (.expr ((callName callee args keywords).placed line)) := by
  let placed := keywords.map fun k => Keyword.mk line (some k.1) (k.2.placed line)
  have shape : (callName callee args keywords).placed line =
      .call (read callee) (args.map (Expr.placed line)) placed := by
    simp [callName, Expr.placed, read, placed, Keyword.name, Keyword.value]
  have labels : placed.filterMap (fun k => k.name.map fun n => (n, k.line)) =
      keywords.map fun k => (k.1, line) := by
    rw [List.filterMap_map]
    exact List.filterMap_eq_map (f := fun k : String × Expr => (k.1, line)) ▸ rfl
  have single : Loading.repeatedName? (placed.filterMap fun k => k.name.map fun n => (n, k.line)) =
      none := by
    rw [labels]
    refine repeatedName?_eq_none ?_
    rwa [List.map_map]
  rw [shape]
  refine admits_unconditional ?_ single rfl ?_
  · have all : placed.all fun k => k.name.isSome := by
      simp [placed, Keyword.name]
    show (do
      require (placed.all fun k => k.name.isSome) .unpackedArguments
      require (callable.contains callee) .callTarget
      require (callee != "super" || ((args.map (Expr.placed line)).isEmpty && placed.isEmpty))
        .superArguments) = Except.ok ()
    simp only [require, all, known, plain, bne_iff_ne, ne_eq, not_false_eq_true,
      if_true, Bool.or_eq_true, true_or]
    rfl
  · refine List.forall_mem_cons.2 ⟨each_read (.inl usual), List.forall_mem_append.2 ⟨?_, ?_⟩⟩
    · intro p mem
      obtain ⟨e, among, rfl⟩ := List.mem_map.1 mem
      obtain ⟨e, inner, rfl⟩ := List.mem_map.1 among
      exact values e inner
    · intro p mem
      obtain ⟨k, among, rfl⟩ := List.mem_map.1 mem
      obtain ⟨k, inner, rfl⟩ := List.mem_map.1 among
      exact admits_unconditional rfl rfl rfl (List.forall_mem_singleton.2 (named k inner))

/-- A mapping with one text key. -/
theorem each_singleton {key : String} {value : Expr}
    (h : Node.Each (AdmitsPlainly c) (.expr (value.placed line))) :
    Node.Each (AdmitsPlainly c) (.expr ((singleton key value).placed line)) := by
  refine admits_unconditional rfl rfl rfl ?_
  exact List.forall_mem_cons.2 ⟨each_textLiteral key, List.forall_mem_singleton.2 h⟩

/-- The mapping that gives the name of an XML element. -/
theorem each_xmlBinding (name : String) :
    Node.Each (AdmitsPlainly c) (.expr ((xmlBinding name).placed line)) :=
  each_singleton (each_singleton (each_textLiteral name))

/-- A sequence of expressions. -/
theorem each_tuple {items : List Expr}
    (h : ∀ e ∈ items, Node.Each (AdmitsPlainly c) (.expr (e.placed line))) :
    Node.Each (AdmitsPlainly c) (.expr ((Expr.tuple items .load).placed line)) := by
  refine admits_unconditional rfl rfl rfl (List.forall_mem_append.2 ⟨?_, ?_⟩)
  · intro p mem
    obtain ⟨e, among, rfl⟩ := List.mem_map.1 mem
    rw [Expr.placedEach_eq] at among
    obtain ⟨e, inner, rfl⟩ := List.mem_map.1 among
    exact h e inner
  · exact List.forall_mem_singleton.2 (each_use (by decide))

/-- A type expression with an argument. -/
theorem each_subscript {owner : String} {index : Expr} (known : usable.contains owner)
    (h : Node.Each (AdmitsPlainly c) (.expr (index.placed line))) :
    Node.Each (AdmitsPlainly c) (.expr ((Expr.subscript (read owner) index .load).placed line)) :=
  admits_unconditional rfl rfl rfl (List.forall_mem_cons.2 ⟨each_read (.inl known),
    List.forall_mem_cons.2 ⟨h, List.forall_mem_singleton.2 (each_use (by decide))⟩⟩)

/-- The annotation of a carrier. -/
theorem each_carrierHint (carrier : Carrier) :
    Node.Each (AdmitsPlainly c) (.expr ((carrierHint carrier).placed line)) := by
  cases carrier with
  | date => exact each_memberOf (by decide) (by decide) (by decide)
  | dateTime => exact each_memberOf (by decide) (by decide) (by decide)
  | decimal => exact each_memberOf (by decide) (by decide) (by decide)
  | _ => exact each_read (.inl (by decide))

/-- The annotation of a kind. -/
theorem each_kindHint (kind : Kind) :
    Node.Each (AdmitsPlainly c) (.expr ((kindHint kind).placed line)) := by
  unfold kindHint
  cases bounds : kind.bounds? with
  | none => exact each_carrierHint _
  | some range =>
    obtain ⟨low, high⟩ := range
    have proper := isPlain_bounds bounds
    refine each_subscript (by decide) (each_tuple ?_)
    refine List.forall_mem_cons.2 ⟨each_carrierHint _, List.forall_mem_singleton.2 ?_⟩
    refine each_callName _ _ _ (by decide) (by decide) (by decide) (by simp) ?_ (by simp)
    exact List.forall_mem_cons.2 ⟨each_literal proper.1,
      List.forall_mem_singleton.2 (each_literal proper.2)⟩

/-- The annotation of a field. -/
theorem each_hint (f : FieldPlan) :
    Node.Each (AdmitsPlainly c) (.expr ((hint f).placed line)) := by
  unfold hint
  split
  · exact each_kindHint _
  · exact each_subscript (by decide) (each_kindHint _)

/-- Where nothing below a node is an operator, none is found. -/
theorem any_isOperation_eq_false {n : Node} (h : n.Each (AdmitsPlainly c)) :
    n.walk.any isOperation = false := by
  rw [List.any_eq_false]
  intro m mem
  have plain := (Node.forall_mem_walk.2 h m mem).plain
  simp [plain]

theorem withoutOperators_eq_ok {place : String} {e : Expr}
    (h : Node.Each (AdmitsPlainly c) (.expr e)) : withoutOperators place e = .ok () := by
  rw [withoutOperators, any_isOperation_eq_false h]
  rfl

/-- The parameters of a method, as its class knows them. -/
def methodParameters? (owner : String) : Stmt → Option (List (String × Nat))
  | .functionDef _ _ params _ _ _ => some (Loading.parameterNames owner params)
  | _ => none

/-- A member of a class that admission lets pass, without a parameter given twice. -/
structure AdmitsMember (className : String) (s : Stmt) : Prop where
  passes : classMember className s = .ok ()
  each : Node.Each (Admits className) (.stmt s)
  distinct : ∀ parameters ∈ methodParameters? className s, Loading.repeatedName? parameters = none

/-- The settings and the fields of a class. -/
private theorem admits_assignment {s : Stmt} (h : Node.Each (AdmitsPlainly c) (.stmt s))
    (shape : classMember c s = memberWithoutOperators c s) (other : methodParameters? c s = none) :
    AdmitsMember c s := by
  refine ⟨?_, h.mono fun _ => AdmitsPlainly.toAdmits, by simp [other]⟩
  rw [shape, memberWithoutOperators, any_isOperation_eq_false h]
  rfl

/-- An assignment to a name, in the class or outside of it. -/
private theorem each_assignName {target : String} {value : Expr} {depth : Nat}
    (free : isDeclarable target) (h : Node.Each (AdmitsPlainly c) (.expr (value.placed line))) :
    Node.Each (AdmitsPlainly c) (.stmt ((assignName target value).placed depth line)) :=
  admits_unconditional rfl rfl rfl (List.forall_mem_cons.2 ⟨each_stored free,
    List.forall_mem_singleton.2 h⟩)

private theorem not_hidden {name : String} (shown : name.toList.head? ≠ some '_') :
    "__".toList.isPrefixOf name.toList = false := by
  rw [Bool.eq_false_iff, ne_eq, List.isPrefixOf_iff_prefix]
  rintro ⟨rest, equal⟩
  rw [← equal] at shown
  exact shown rfl

/-- A name that is not hidden may be declared. -/
theorem isDeclarable_of_shown {name : String} (shown : name.toList.head? ≠ some '_') :
    isDeclarable name := by
  rw [isDeclarable, isSpecial, not_hidden shown]
  rfl

/-- A name that is not hidden is the same for every class. -/
theorem ownName_of_shown (owner : String) {name : String} (shown : name.toList.head? ≠ some '_') :
    Execution.ownName owner name = name := by
  rw [Execution.ownName, not_hidden shown]
  rfl

/-- The settings of the class. -/
theorem admits_settings {depth : Nat} (plan : RecordPlan) :
    AdmitsMember c ((settings plan).placed depth line) := by
  refine admits_assignment (each_assignName (by decide) ?_) rfl rfl
  refine each_callName _ _ _ (by decide) (by decide) (by decide) (by simp) ?_ (by simp)
  refine List.forall_mem_cons.2 ⟨each_textLiteral _, ?_⟩
  exact List.forall_mem_cons.2 ⟨each_literal trivial, List.forall_mem_singleton.2 (each_xmlBinding _)⟩

/-- The declaration of a field. -/
theorem admits_fieldStatement {depth : Nat} (sound : f.IsSound) :
    AdmitsMember c ((fieldStatement f).placed depth line) := by
  have free := isDeclarable_of_shown sound.attributeName.shown
  have default : ∀ e ∈ [literal (defaultLiteral f.default)],
      Node.Each (AdmitsPlainly c) (.expr (e.placed line)) :=
    List.forall_mem_singleton.2 (each_literal (isPlain_defaultLiteral sound))
  have named : ∀ k ∈ [("alias", textLiteral f.name), ("json_schema_extra", xmlBinding f.name)] ++
      (if isTextDefault f.default f.kind then [("validate_default", literal (.bool true))] else []),
      Node.Each (AdmitsPlainly c) (.expr (k.2.placed line)) := by
    intro k mem
    simp only [List.cons_append, List.nil_append, List.mem_cons, List.mem_ite_nil_right] at mem
    obtain rfl | rfl | ⟨-, rfl | none⟩ := mem
    · exact each_textLiteral _
    · exact each_xmlBinding _
    · exact each_literal trivial
    · simp at none
  have distinct : (([("alias", textLiteral f.name), ("json_schema_extra", xmlBinding f.name)] ++
      if isTextDefault f.default f.kind then [("validate_default", literal (.bool true))]
        else []).map Prod.fst).Nodup := by
    split <;> simp
  refine admits_assignment ?_ rfl rfl
  refine admits_unconditional rfl rfl rfl (List.forall_mem_cons.2 ⟨each_stored free, ?_⟩)
  exact List.forall_mem_cons.2 ⟨each_hint f, List.forall_mem_singleton.2
    (each_callName _ _ _ (by decide) (by decide) (by decide) default named distinct)⟩

section Parameters

variable {args : List Param} (shown : ∀ p ∈ args, p.name.toList.head? ≠ some '_')
include shown

/-- Parameters without defaults are admitted with their annotations. -/
private theorem each_plainParams
    (hinted : ∀ p ∈ args, ∀ hint ∈ p.hint, Node.Each (AdmitsPlainly c) (.expr hint)) :
    Node.Each (AdmitsPlainly c) (.params (plainParams args)) := by
  have parts : (Node.params (plainParams args)).parts = args.map .param := by
    simp [Node.parts, Params.parts, plainParams]
  refine admits_unconditional rfl rfl rfl fun n mem => ?_
  rw [parts] at mem
  obtain ⟨p, among, rfl⟩ := List.mem_map.1 mem
  refine admits_unconditional (if_pos (isDeclarable_of_shown (shown p among))) rfl rfl fun n mem => ?_
  obtain ⟨e, given, rfl⟩ := List.mem_map.1 mem
  exact hinted p among e (Option.mem_toList.1 given)

/-- Different parameters stay different in a class. -/
private theorem repeatedName?_plainParams (distinct : (args.map Param.name).Nodup) :
    Loading.repeatedName? (Loading.parameterNames c (plainParams args)) = none := by
  have all : (plainParams args).all = args := by simp [Params.all, plainParams]
  have same : (Loading.parameterNames c (plainParams args)).map Prod.fst = args.map Param.name := by
    rw [Loading.parameterNames, all, List.map_map]
    exact List.map_congr_left fun p mem => ownName_of_shown c (shown p mem)
  exact repeatedName?_eq_none (by rwa [same])

end Parameters

/-- The check of a method with a recognised body and annotations without operators. -/
private theorem method_eq_ok {name : String} {receiver : Param} {params : List Param}
    {body : List Stmt} {returns : Expr} (self : receiver.name = "self")
    (hinted : ∀ p ∈ receiver :: params, ∀ hint ∈ p.hint, Node.Each (AdmitsPlainly c) (.expr hint))
    (result : Node.Each (AdmitsPlainly c) (.expr returns))
    (known : (Behaviour.ofBody? c name (params.map Param.name) body).isSome) :
    Admission.method c name (plainParams (receiver :: params)) body [] (some returns) = .ok () := by
  have results : (some returns).toList.forM (withoutOperators ("method " ++ name)) = .ok () :=
    forM_eq_ok (List.forall_mem_singleton.2 (withoutOperators_eq_ok result))
  have checked : ∀ p ∈ receiver :: params,
      p.hint.toList.forM (withoutOperators ("method " ++ name)) = .ok () := fun p mem =>
    forM_eq_ok fun e given => withoutOperators_eq_ok (hinted p mem e (Option.mem_toList.1 given))
  have first : ((plainParams (receiver :: params)).args.head?.map Param.name == some "self") = true := by
    simp [plainParams, Params.args, self]
  unfold Admission.method
  dsimp only
  rw [results, first, plainParams, Params.args, forM_eq_ok checked]
  exact if_pos known

/-- A method whose body is recognised. -/
theorem admits_method {name : String} {params : List Param} {body : List Stmt} {returns : Expr}
    {depth : Nat} (free : isDeclarable name)
    (named : ∀ p ∈ params, p.name.toList.head? ≠ some '_' ∧
      ∀ hint ∈ p.hint, Node.Each (AdmitsPlainly c) (.expr (hint.placed (line + 1))))
    (distinct : ("self" :: params.map Param.name).Nodup)
    (result : Node.Each (AdmitsPlainly c) (.expr (returns.placed (line + 1))))
    (inner : ∀ s ∈ Stmt.placedBody (depth + 1) (line + 2) body, Node.Each (Admits c) (.stmt s))
    {behaviour : Behaviour} (known : Behaviour.ofBody? c name (params.map Param.name)
      (Stmt.placedBody (depth + 1) (line + 2) body) = some behaviour) :
    AdmitsMember c ((method name params body returns).placed depth line) := by
  let receiver : Param := .mk (line + 1) "self" none
  let placed := params.map (Param.placed (line + 1))
  have names : placed.map Param.name = params.map Param.name := map_name_placed _ params
  have hints : ∀ p ∈ placed, p.name.toList.head? ≠ some '_' ∧
      ∀ hint ∈ p.hint, Node.Each (AdmitsPlainly c) (.expr hint) := by
    intro p mem
    obtain ⟨⟨at_line, id, hint⟩, among, rfl⟩ := List.mem_map.1 mem
    refine ⟨(named _ among).1, fun e given => ?_⟩
    obtain ⟨e, original, rfl⟩ := Option.mem_map.1 given
    exact (named _ among).2 e original
  have shown : ∀ p ∈ receiver :: placed, p.name.toList.head? ≠ some '_' :=
    List.forall_mem_cons.2 ⟨by simp [receiver, Param.name], fun p mem => (hints p mem).1⟩
  have hinted : ∀ p ∈ receiver :: placed, ∀ hint ∈ p.hint, Node.Each (AdmitsPlainly c) (.expr hint) :=
    List.forall_mem_cons.2 ⟨by simp [receiver, Param.hint], fun p mem => (hints p mem).2⟩
  have parameters := each_plainParams shown hinted
  refine ⟨method_eq_ok rfl hinted result (by rw [names, known]; rfl),
    Node.each_iff.2 ⟨⟨if_pos free, rfl⟩, ?_⟩, ?_⟩
  · refine List.forall_mem_cons.2 ⟨parameters.mono fun _ => AdmitsPlainly.toAdmits, ?_⟩
    refine List.forall_mem_append.2 ⟨List.forall_mem_append.2 ⟨?_, by simp⟩, ?_⟩
    · intro n mem
      obtain ⟨s, among, rfl⟩ := List.mem_map.1 mem
      exact inner s among
    · exact List.forall_mem_singleton.2 (result.mono fun _ => AdmitsPlainly.toAdmits)
  · have different : ((receiver :: placed).map Param.name).Nodup := by rwa [List.map_cons, names]
    rintro _ ⟨⟩
    exact repeatedName?_plainParams shown different

/-- A value that is returned. -/
private theorem each_ret {e : Expr} {depth : Nat} (h : Node.Each (Admits c) (.expr (e.placed line))) :
    Node.Each (Admits c) (.stmt ((Stmt.ret 0 (some e)).placed depth line)) :=
  Node.each_iff.2 ⟨⟨rfl, rfl⟩, List.forall_mem_singleton.2 h⟩

/-- The same for a value without operators. -/
private theorem each_ret_plain {e : Expr} (depth : Nat)
    (h : Node.Each (AdmitsPlainly c) (.expr (e.placed line))) :
    Node.Each (Admits c) (.stmt ((Stmt.ret 0 (some e)).placed depth line)) :=
  each_ret (h.mono fun _ => AdmitsPlainly.toAdmits)

/-- The constructor. -/
theorem admits_constructor {depth : Nat} : AdmitsMember c (constructor.placed depth line) := by
  have view : Node.Each (AdmitsPlainly c) (.expr (.call (read "super") [] [])) :=
    admits_unconditional rfl rfl rfl (List.forall_mem_singleton.2 (each_read (.inl (by decide))))
  have member : Node.Each (AdmitsPlainly c)
      (.expr (.member (.call (read "super") [] []) "__init__" .load)) :=
    admits_unconditional rfl rfl rfl
      (List.forall_mem_cons.2 ⟨view, List.forall_mem_singleton.2 (each_use (by decide))⟩)
  have call : Node.Each (AdmitsPlainly c)
      (.expr (.call (.member (.call (read "super") [] []) "__init__" .load) [] [])) :=
    admits_unconditional rfl rfl rfl (List.forall_mem_singleton.2 member)
  refine admits_method (by decide) (by simp) (by simp) (each_literal trivial) ?_
    ofBody?_constructor
  refine List.forall_mem_singleton.2 (Node.each_iff.2 ⟨⟨rfl, rfl⟩, ?_⟩)
  exact List.forall_mem_singleton.2 (call.mono fun _ => AdmitsPlainly.toAdmits)

/-- The getter of a field. -/
theorem admits_getter {depth : Nat} (sound : f.IsSound) :
    AdmitsMember c ((getter f).placed depth line) := by
  have free := isDeclarable_of_shown sound.attributeName.shown
  refine admits_method (isDeclarable_of_shown sound.getterName.shown) (by simp) (by simp) (each_hint f) ?_
    (ofBody?_getter sound)
  exact List.forall_mem_singleton.2 (each_ret_plain _ (each_attributeOf (.inl rfl) free))

/-- The setter of a field. -/
theorem admits_setter {depth : Nat} (sound : f.IsSound) :
    AdmitsMember c ((setter f).placed depth line) := by
  have free := isDeclarable_of_shown sound.attributeName.shown
  have parameters : ∀ p ∈ [Param.mk 0 "value" (some (hint f))], p.name.toList.head? ≠ some '_' ∧
      ∀ e ∈ p.hint, Node.Each (AdmitsPlainly c) (.expr (e.placed (line + 1))) := by
    refine List.forall_mem_singleton.2 ⟨by simp [Param.name], ?_⟩
    rintro _ ⟨⟩
    exact each_hint f
  refine admits_method (isDeclarable_of_shown sound.setterName.shown) parameters
    (by simp [Param.name]) (each_literal trivial) ?_ (ofBody?_setter sound)
  have target : Node.Each (AdmitsPlainly c)
      (.expr (.member (read "self") (Naming.attributeName f.name) .store)) :=
    admits_unconditional (if_pos free) rfl rfl (List.forall_mem_cons.2
      ⟨each_read (.inl (by decide)), List.forall_mem_singleton.2 (each_use (by decide))⟩)
  have stored : Node.Each (AdmitsPlainly c) (.stmt ((Stmt.assign 0
      [.member (read "self") (Naming.attributeName f.name) .store] (read "value")).placed
        (depth + 1) (line + 2))) :=
    admits_unconditional rfl rfl rfl (List.forall_mem_cons.2
      ⟨target, List.forall_mem_singleton.2 (each_read (.inl (by decide)))⟩)
  exact List.forall_mem_singleton.2 (stored.mono fun _ => AdmitsPlainly.toAdmits)

/-- Every piece of a text form. -/
private theorem each_textPieces {beginning : String} {fields : List FieldPlan}
    (sound : ∀ f ∈ fields, f.IsSound) : ∀ e ∈ textPieces beginning fields,
      Node.Each (Admits c) (.expr (e.placed line)) := by
  induction fields generalizing beginning with
  | nil => simp [textPieces]
  | cons f rest ih =>
    obtain ⟨first, others⟩ := List.forall_mem_cons.1 sound
    have free := isDeclarable_of_shown first.attributeName.shown
    have stored : ∀ e ∈ [attributeOf "self" (Naming.attributeName f.name)],
        Node.Each (AdmitsPlainly c) (.expr (e.placed line)) :=
      List.forall_mem_singleton.2 (each_attributeOf (.inl rfl) free)
    have spelled : Node.Each (AdmitsPlainly c) _ :=
      each_callName "str" _ [] (by decide) (by decide) (by decide) stored
        (by simp) (by simp)
    refine List.forall_mem_cons.2
      ⟨(each_textLiteral _).mono fun _ => AdmitsPlainly.toAdmits, ?_⟩
    exact List.forall_mem_cons.2 ⟨spelled.mono fun _ => AdmitsPlainly.toAdmits, ih others⟩

/-- Pieces that are joined from left to right. -/
private theorem each_joined {pieces : List Expr}
    (h : ∀ e ∈ pieces, Node.Each (Admits c) (.expr (e.placed line))) :
    Node.Each (Admits c) (.expr ((joined pieces).placed line)) := by
  have plus : Node.Each (Admits c) (.binaryOp .add) :=
    Node.each_iff.2 ⟨⟨rfl, rfl⟩, by simp [Node.parts]⟩
  refine joined_induction (P := fun e => Node.Each (Admits c) (.expr (e.placed line)))
    (fun _ piece => piece) (fun left right here next => Node.each_iff.2 ⟨⟨rfl, rfl⟩, ?_⟩)
    ((each_textLiteral _).mono fun _ => AdmitsPlainly.toAdmits) h
  exact List.forall_mem_cons.2 ⟨here, List.forall_mem_cons.2 ⟨plus, List.forall_mem_singleton.2 next⟩⟩

/-- The text form. -/
theorem admits_textMethod {depth : Nat} (sound : plan.IsSound) :
    AdmitsMember c ((textMethod plan).placed depth line) := by
  refine admits_method (by decide) (by simp) (by simp) (each_read (.inl (by decide))) ?_
    (ofBody?_textMethod _ _)
  refine List.forall_mem_singleton.2 (each_ret (each_joined ?_))
  refine List.forall_mem_append.2 ⟨each_textPieces sound.fields, ?_⟩
  exact List.forall_mem_singleton.2
    ((each_textLiteral _).mono fun _ => AdmitsPlainly.toAdmits)

/-- The values of all fields of an instance. -/
private theorem each_attributeTuple {owner : String} {fields : List FieldPlan}
    (instance' : owner = "self" ∨ owner = "other") (sound : ∀ f ∈ fields, f.IsSound) :
    Node.Each (AdmitsPlainly c) (.expr ((attributeTuple owner fields).placed line)) := by
  refine each_tuple fun e mem => ?_
  obtain ⟨f, among, rfl⟩ := List.mem_map.1 mem
  exact each_attributeOf instance' (isDeclarable_of_shown (sound f among).attributeName.shown)

/-- A comparison without chaining. -/
private theorem each_compare {left right : Expr} {op : CompareOp} (known : op = .equal ∨ op = .same)
    (h : Node.Each (AdmitsPlainly c) (.expr (left.placed line)))
    (h' : Node.Each (AdmitsPlainly c) (.expr (right.placed line))) :
    Node.Each (AdmitsPlainly c) (.expr ((Expr.compare left [op] [right]).placed line)) := by
  have sign : Node.Each (AdmitsPlainly c) (.compareOp op) := by
    obtain rfl | rfl := known <;> exact admits_unconditional rfl rfl rfl (by simp [Node.parts])
  exact admits_unconditional rfl rfl rfl (List.forall_mem_cons.2
    ⟨h, List.forall_mem_cons.2 ⟨sign, List.forall_mem_singleton.2 h'⟩⟩)

/-- An early return of a truth value. -/
private theorem each_branch {test : Expr} {b : Bool} {depth : Nat}
    (h : Node.Each (AdmitsPlainly c) (.expr (test.placed line))) :
    Node.Each (Admits c) (.stmt ((Stmt.branch 0 test [.ret 0 (some (literal (.bool b)))] []).placed
      depth line)) := by
  refine Node.each_iff.2 ⟨⟨rfl, rfl⟩, List.forall_mem_cons.2
    ⟨h.mono fun _ => AdmitsPlainly.toAdmits, List.forall_mem_singleton.2 ?_⟩⟩
  exact each_ret_plain (depth + 1) (each_literal trivial)

/-- Equality. -/
theorem admits_equalityMethod {depth : Nat} (sound : plan.IsSound) :
    AdmitsMember plan.typeName ((equalityMethod plan).placed depth line) := by
  have parameters : ∀ p ∈ [Param.mk 0 "other" (some (read "object"))], p.name.toList.head? ≠ some '_' ∧
      ∀ e ∈ p.hint, Node.Each (AdmitsPlainly plan.typeName) (.expr (e.placed (line + 1))) := by
    refine List.forall_mem_singleton.2 ⟨by simp [Param.name], ?_⟩
    rintro _ ⟨⟩
    exact each_read (.inl (by decide))
  have other {c : String} : Node.Each (AdmitsPlainly c) (.expr (read "other")) :=
    each_read (.inl (by decide))
  have foreign (line : Nat) : Node.Each (AdmitsPlainly plan.typeName) (.expr
      ((Expr.unary .not (callName "isinstance" [read "other", read plan.typeName] [])).placed
        line)) := by
    have call : Node.Each (AdmitsPlainly plan.typeName) (.expr
        ((callName "isinstance" [read "other", read plan.typeName] []).placed line)) :=
      each_callName _ _ _ (by decide) (by decide) (by decide)
        (List.forall_mem_cons.2 ⟨other, List.forall_mem_singleton.2 (each_read (.inr rfl))⟩)
        (by simp) (by simp)
    have sign : Node.Each (AdmitsPlainly plan.typeName) (.unaryOp .not) :=
      admits_unconditional rfl rfl rfl (by simp [Node.parts])
    exact admits_unconditional rfl rfl rfl
      (List.forall_mem_cons.2 ⟨sign, List.forall_mem_singleton.2 call⟩)
  refine admits_method (by decide) parameters (by simp [Param.name])
    (each_read (.inl (by decide))) ?_
    (ofBody?_equalityMethod plan.fields)
  refine List.forall_mem_cons.2
    ⟨each_branch (each_compare (.inr rfl) (each_read (.inl (by decide))) other), ?_⟩
  refine List.forall_mem_cons.2 ⟨each_branch (foreign _), ?_⟩
  exact List.forall_mem_singleton.2 (each_ret_plain _ (each_compare (.inl rfl)
    (each_attributeTuple (.inl rfl) sound.fields) (each_attributeTuple (.inr rfl) sound.fields)))

/-- The hash code. -/
theorem admits_hashMethod {depth : Nat} (sound : plan.IsSound) :
    AdmitsMember c ((hashMethod plan).placed depth line) := by
  refine admits_method (by decide) (by simp) (by simp) (each_read (.inl (by decide))) ?_
    (ofBody?_hashMethod plan.fields)
  refine List.forall_mem_singleton.2 (each_ret_plain _ ?_)
  exact each_callName _ _ _ (by decide) (by decide) (by decide)
    (List.forall_mem_singleton.2 (each_attributeTuple (.inl rfl) sound.fields)) (by simp) (by simp)

/-- The members of the class. -/
def classBody (plan : RecordPlan) : List Stmt :=
  documentation plan ++ settings plan :: (plan.fields.map fieldStatement ++ constructor ::
    (plan.fields.flatMap (fun f => [getter f, setter f]) ++
      [textMethod plan, equalityMethod plan, hashMethod plan]))

/-- A text that stands alone. -/
private theorem each_text (s : String) {depth : Nat} : Node.Each (AdmitsPlainly c)
    (.stmt ((Stmt.expr 0 (textLiteral s)).placed depth line)) :=
  admits_unconditional rfl rfl rfl (List.forall_mem_singleton.2 (each_textLiteral s))

/-- Every member of the class passes. -/
theorem admits_classBody (sound : plan.IsSound) : ∀ s ∈ classBody plan, ∀ line depth,
    AdmitsMember plan.typeName (s.placed depth line) := by
  refine List.forall_mem_append.2 ⟨?_, List.forall_mem_cons.2 ⟨fun _ _ => admits_settings plan, ?_⟩⟩
  · intro s mem line depth
    obtain ⟨text, rfl⟩ := exists_text_of_mem_documentation sound.described mem
    exact ⟨rfl, (each_text text).mono fun _ => AdmitsPlainly.toAdmits, by rintro _ ⟨⟩⟩
  refine List.forall_mem_append.2 ⟨?_, List.forall_mem_cons.2 ⟨fun _ _ => admits_constructor, ?_⟩⟩
  · intro s mem line depth
    obtain ⟨f, among, rfl⟩ := List.mem_map.1 mem
    exact admits_fieldStatement (sound.fields f among)
  refine List.forall_mem_append.2 ⟨?_, ?_⟩
  · intro s mem line depth
    obtain ⟨f, among, mem⟩ := List.mem_flatMap.1 mem
    have known := sound.fields f among
    obtain rfl | rfl : s = getter f ∨ s = setter f := by simpa using mem
    · exact admits_getter known
    · exact admits_setter known
  · refine List.forall_mem_cons.2 ⟨fun _ _ => admits_textMethod sound, ?_⟩
    refine List.forall_mem_cons.2 ⟨fun _ _ => admits_equalityMethod sound, ?_⟩
    exact List.forall_mem_singleton.2 fun _ _ => admits_hashMethod sound

/-- The members of the class as they are read back. -/
private theorem admits_placedBody (sound : plan.IsSound) (depth line : Nat) :
    ∀ s ∈ Stmt.placedBody depth line (classBody plan), AdmitsMember plan.typeName s := by
  intro s mem
  obtain ⟨t, among, at_line, rfl⟩ := Stmt.mem_placedBody mem
  exact admits_classBody sound t among at_line depth

/-- The class passes if its name may be declared. -/
theorem moduleStatement_recordClass (sound : plan.IsSound) (depth line : Nat) :
    moduleStatement none ((recordClass plan).placed depth line) =
      if isDeclarable plan.typeName then .ok (some plan.typeName)
      else .error (.reservedName plan.typeName) := by
  have body : (Stmt.placedBody (depth + 1) (line + 2) (classBody plan)).forM
      (classMember plan.typeName) = .ok () :=
    forM_eq_ok fun s mem => (admits_placedBody sound _ _ s mem).passes
  have base : Behaviour.isName "BaseModel" (read "BaseModel") := by decide
  show (do
    Admission.recordClass plan.typeName [read "BaseModel"] []
      (Stmt.placedBody (depth + 1) (line + 2) (classBody plan)) []
    return some plan.typeName) = _
  unfold Admission.recordClass
  rw [body]
  simp only [require, base]
  split <;> rfl

/-- The nodes of the class pass. -/
theorem each_recordClass (sound : plan.IsSound) (depth line : Nat) :
    Node.Each (Admits plan.typeName) (.stmt ((recordClass plan).placed depth line)) := by
  refine Node.each_iff.2 ⟨⟨rfl, rfl⟩, ?_⟩
  refine List.forall_mem_append.2 ⟨List.forall_mem_append.2 ⟨?_, ?_⟩, by simp⟩
  · exact List.forall_mem_singleton.2
      ((each_read (.inl (by decide))).mono fun _ => AdmitsPlainly.toAdmits)
  · intro n mem
    obtain ⟨s, among, rfl⟩ := List.mem_map.1 mem
    exact (admits_placedBody sound _ _ s among).each

/-- What stands before the class. -/
def header (plan : RecordPlan) : List Stmt :=
  .expr 0 (textLiteral s!"Generated record type {plan.title}.") :: (imports plan ++
    [assignName "__namespace__" (literal plan.space),
     assignName "__all__" (.list [textLiteral plan.typeName] .load)])

/-- A statement before the class that passes. -/
structure AdmitsBefore (className : String) (s : Stmt) : Prop where
  passes : moduleStatement none s = .ok none
  each : Node.Each (Admits className) (.stmt s)
  unlisted : Loading.parameterLists ⟨[s]⟩ = []

/-- An assignment outside of the class. -/
private theorem admits_assignName {target : String} {value : Expr} {depth : Nat}
    (free : isDeclarable target) (known : target = "__namespace__" ∨ target = "__all__")
    (h : Node.Each (AdmitsPlainly c) (.expr (value.placed line))) :
    AdmitsBefore c ((assignName target value).placed depth line) := by
  refine ⟨?_, (each_assignName free h).mono fun _ => AdmitsPlainly.toAdmits, rfl⟩
  have passes : moduleAssignment line [.name target .store] (value.placed line) = .ok () := by
    rw [moduleAssignment, withoutOperators_eq_ok h]
    obtain rfl | rfl := known <;> rfl
  show (do moduleAssignment line [.name target .store] (value.placed line); return none) =
    Except.ok none
  rw [passes]
  rfl

/-- Names that an import gives. -/
private theorem each_aliases {names : List Alias} :
    ∀ n ∈ names.map Node.alias, Node.Each (Admits c) n := by
  intro n mem
  obtain ⟨a, -, rfl⟩ := List.mem_map.1 mem
  exact Node.each_iff.2 ⟨⟨rfl, rfl⟩, by simp [Node.parts]⟩

/-- An import of a module. -/
private theorem admits_importModule {name : String} {depth : Nat}
    (known : (moduleMembers.lookup name).isSome) :
    AdmitsBefore c ((Stmt.importModules 0 [⟨name, none⟩]).placed depth line) := by
  refine ⟨?_, Node.each_iff.2 ⟨⟨rfl, rfl⟩, each_aliases⟩, rfl⟩
  show (do Admission.importModules [⟨name, none⟩]; return none) = Except.ok none
  have passes : Admission.importModules [⟨name, none⟩] = .ok () :=
    forM_eq_ok (List.forall_mem_singleton.2 (if_pos (by simpa using known)))
  rw [passes]
  rfl

/-- An import of names from a module. -/
private theorem admits_importFrom {module : String} {names allowed : List String} {depth : Nat}
    (listed : importableNames.lookup module = some allowed) (known : ∀ n ∈ names, n ∈ allowed) :
    ∀ s ∈ importNames module names, AdmitsBefore c (s.placed depth line) := by
  intro s mem
  unfold importNames at mem
  split at mem
  · simp at mem
  obtain rfl := List.mem_singleton.1 mem
  refine ⟨?_, Node.each_iff.2 ⟨⟨rfl, rfl⟩, each_aliases⟩, rfl⟩
  show (do
    Admission.importFrom (some module) (names.map fun n => ⟨n, none⟩) 0
    return none) = Except.ok none
  have passes : Admission.importFrom (some module) (names.map fun n => ⟨n, none⟩) 0 = .ok () := by
    simp only [Admission.importFrom, Option.bind_some, listed]
    refine forM_eq_ok fun a mem => ?_
    obtain ⟨n, among, rfl⟩ := List.mem_map.1 mem
    exact if_pos (by simpa using known n among)
  rw [passes]
  rfl

/-- Everything before the class passes. -/
theorem admits_header (sound : plan.IsSound) : ∀ s ∈ header plan, ∀ line,
    AdmitsBefore plan.typeName (s.placed 0 line) := by
  refine List.forall_mem_cons.2 ⟨fun line => ?_, List.forall_mem_append.2 ⟨?_, ?_⟩⟩
  · exact ⟨rfl, (each_text _).mono fun _ => AdmitsPlainly.toAdmits, rfl⟩
  · intro s mem line
    simp only [imports, List.mem_append, List.mem_ite_nil_right] at mem
    obtain ((⟨-, mem⟩ | ⟨-, mem⟩) | mem) | mem := mem
    · obtain rfl := List.mem_singleton.1 mem
      exact admits_importModule (by decide)
    · obtain rfl := List.mem_singleton.1 mem
      exact admits_importModule (by decide)
    · exact admits_importFrom rfl (by split <;> split <;> decide) s mem
    · exact admits_importFrom rfl (by decide) s mem
  · obtain ⟨space, spaced⟩ := sound.spaced
    rw [spaced]
    refine List.forall_mem_cons.2
      ⟨fun line => admits_assignName (by decide) (.inl rfl) (each_textLiteral space), ?_⟩
    refine List.forall_mem_singleton.2
      fun line => admits_assignName (by decide) (.inr rfl) ?_
    exact admits_unconditional rfl rfl rfl (List.forall_mem_cons.2
      ⟨each_textLiteral _, List.forall_mem_singleton.2 (each_use (by decide))⟩)

/-- The generated module as it is read back: what stands before the class, and the class. -/
theorem placed_module (plan : RecordPlan) : ∃ line, (module plan).placed.body =
    Stmt.placedBody 0 1 (header plan) ++ [(recordClass plan).placed 0 line] := by
  have body : (module plan).body = header plan ++ [recordClass plan] := by
    simp [module, header]
  rw [Module.placed, body]
  simp only [header, List.cons_append, Stmt.placedBody, Stmt.placedAll_append, Stmt.placedAll]
  exact ⟨_, rfl⟩

/-- What is read back from before the class passes. -/
private theorem admits_placedHeader (sound : plan.IsSound) :
    ∀ s ∈ Stmt.placedBody 0 1 (header plan), AdmitsBefore plan.typeName s := by
  intro s mem
  obtain ⟨t, among, at_line, rfl⟩ := Stmt.mem_placedBody mem
  exact admits_header sound t among at_line

/-- Every node of the module passes. -/
theorem admits_walk (sound : plan.IsSound) : ∀ n ∈ (module plan).placed.walk,
    Admits plan.typeName n := by
  obtain ⟨line, body⟩ := placed_module plan
  rw [Module.forall_mem_walk, body]
  exact List.forall_mem_append.2 ⟨fun s mem => (admits_placedHeader sound s mem).each,
    List.forall_mem_singleton.2 (each_recordClass sound 0 line)⟩

/-- The module is admitted if the name of the type may be declared, and rejected for that name if
not. -/
theorem admit_module (sound : plan.IsSound) : Module.admit (module plan).placed =
    if isDeclarable plan.typeName then .ok plan.typeName
    else .error (.reservedName plan.typeName) := by
  obtain ⟨line, body⟩ := placed_module plan
  have before : (Stmt.placedBody 0 1 (header plan)).foldlM moduleStatement none = .ok none := by
    have passes := fun s mem => (admits_placedHeader sound s mem).passes
    generalize Stmt.placedBody 0 1 (header plan) = ss at passes
    induction ss with
    | nil => rfl
    | cons s ss ih =>
      rw [List.foldlM_cons, passes s (.head _)]
      exact ih fun t mem => passes t (.tail _ mem)
  have nodes : (module plan).placed.walk.forM (Admission.node plan.typeName) = .ok () :=
    forM_eq_ok fun n mem => (admits_walk sound n mem).passes
  have last := moduleStatement_recordClass sound 0 line
  have whole : (module plan).placed.body.foldlM moduleStatement none =
      if isDeclarable plan.typeName then .ok (some plan.typeName)
      else .error (.reservedName plan.typeName) := by
    rw [body, List.foldlM_append, before]
    show [(recordClass plan).placed 0 line].foldlM moduleStatement none = _
    rw [List.foldlM_cons, last]
    split <;> rfl
  rw [ Module.admit, whole]
  split
  · show (do
      (module plan).placed.walk.forM (Admission.node plan.typeName)
      return plan.typeName) = Except.ok plan.typeName
    rw [nodes]
    rfl
  · rfl

/-- Nothing prevents the module from being run. -/
theorem staticFault?_module (sound : plan.IsSound) (label : String) :
    Loading.staticFault? label (module plan).placed = none := by
  obtain ⟨line, body⟩ := placed_module plan
  have keywords : (module plan).placed.walk.filterMap Loading.repeatedKeyword? = [] :=
    List.filterMap_eq_nil_iff.2 fun n mem => (admits_walk sound n mem).single
  have lists : ∀ parameters ∈ Loading.parameterLists (module plan).placed,
      Loading.repeatedName? parameters = none := by
    intro parameters mem
    rw [Loading.parameterLists, body, List.flatMap_append, List.mem_append] at mem
    obtain mem | mem := mem
    · obtain ⟨s, among, mem⟩ := List.mem_flatMap.1 mem
      have listed : parameters ∈ Loading.parameterLists ⟨[s]⟩ :=
        List.mem_flatMap.2 ⟨s, .head _, mem⟩
      rw [(admits_placedHeader sound s among).unlisted] at listed
      simp at listed
    · obtain ⟨s, among, mem⟩ := List.mem_flatMap.1 mem
      obtain rfl := List.mem_singleton.1 among
      obtain ⟨member, inside, given⟩ := List.mem_filterMap.1 mem
      exact (admits_placedBody sound _ _ member inside).distinct parameters given
  have parameters : (Loading.parameterLists (module plan).placed).findSome? Loading.repeatedName? =
      none := List.findSome?_eq_none_iff.2 lists
  rw [Loading.staticFault?, parameters, keywords]
  rfl

end FlatRecord.Generation
