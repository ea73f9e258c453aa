import FlatRecord.Proofs.Admission.TrustedNames
import FlatRecord.Proofs.Execution.SourceText

/-!
# Annotations without texts

A text in an annotation is read as source text when the type is needed, and admission does not look
into texts. An annotation in the class of an admitted module gives the same type in every scope, and
nothing is read for it, unless a text stands in it, `str` is called in it, or a name is used in it that
the module or its class has bound to an object of its own.
-/

namespace FlatRecord.Admission

open FlatRecord.Script FlatRecord.Execution
open FlatRecord.Execution.Object (IsTextFree)
open FlatRecord.Generation (read)

/-- The annotations that running a statement of a class body evaluates. -/
def annotationsOf : Stmt → List Expr
  | .annotated _ _ hint _ _ => [hint]
  | .functionDef _ _ params _ _ returns => params.args.filterMap Param.hint ++ returns.toList
  | _ => []

/-- The names that a module declares itself with. -/
def declaredNames : List String := ["__namespace__", "__all__"]

/-- A node that is no text, no call of `str`, and none of the names that the module or the body of its
class has bound to an object of its own. -/
def IsTextless (owner : String) (bound : List String) : Node → Prop
  | .expr (.constant (.datum (.text _))) => False
  | .expr (.call (.name id _) _ _) => id ≠ "str"
  | .expr (.name id _) => ownName owner id ∉ declaredNames ++ bound.map (ownName owner)
  | _ => True

/-- A node that is no call but one of those that record modules make. -/
def MakesKnownCalls : Node → Prop
  | .expr (.call callee args keywords) => IsCall callee args keywords
  | _ => True

/-- A meaning of a name that brings no text: an object in which none stands, and the type of texts
under the name `str` only. -/
def IsHarmless (id : String) (o : Object) : Prop := IsTextFree o ∧ (o = .type .text → id = "str")

variable {className owner id : String} {names : List String} {globals : Bindings} {s : Stmt}
  {hint e : Expr} {m : Module} {o : Object} {body : ClassBody}

/-- What holds of everything in a statement holds of everything in its annotations. -/
theorem each_of_mem_annotationsOf {P : Node → Prop} (each : Node.Each P (.stmt s)) :
    ∀ hint ∈ annotationsOf s, Node.Each P (.expr hint) := by
  cases s with
  | annotated line target type value simple =>
    exact List.forall_mem_singleton.2 (Node.each_annotated.1 each).2.2.1
  | functionDef line name params body decorators returns =>
    obtain ⟨-, inParams, -, -, inResult⟩ := Node.each_functionDef.1 each
    refine List.forall_mem_append.2 ⟨fun hint mem => ?_, fun hint mem => ?_⟩
    · obtain ⟨p, among, annotates⟩ := List.mem_filterMap.1 mem
      have inParam : Node.Each P (.param p) := (Node.each_iff.1 inParams).2 _ (by
        cases params
        simp only [Node.parts, Params.parts, List.mem_append, List.mem_map]
        simp_all [Params.args])
      exact (Node.each_iff.1 inParam).2 _ (by simp [Node.parts, annotates])
    · exact inResult hint (Option.mem_toList.1 mem)
  | _ => exact fun _ mem => absurd mem List.not_mem_nil

/-- In an admitted module, only known calls are made. -/
theorem makesKnownCalls_of_admitted {source : List Char} (parsed : Module.read source = .ok m)
    (admitted : m.admit = .ok className) :
    ∀ s ∈ m.body, Node.Each MakesKnownCalls (.stmt s) := by
  have nodes := (passed_of_admitted admitted).2
  have fits := fits_of_mem_walk (Module.fits_of_read parsed) nodes
  refine Module.forall_mem_walk.1 fun n mem => ?_
  unfold MakesKnownCalls
  split
  · obtain ⟨use, called⟩ := fits _ mem
    cases called with
    | call target each eachNamed => exact isCall_of_node (.call target each eachNamed) (nodes _ mem)
  · trivial

/-- What can be imported is harmless. -/
theorem fitsHeaders_harmless : FitsHeaders fun id o => id ∉ declaredNames → IsHarmless id o where
  modules := ⟨fun _ => ⟨.module, by rintro ⟨⟩⟩, fun _ => ⟨.module, by rintro ⟨⟩⟩⟩
  names := by
    simp only [importable, List.forall_mem_cons]
    exact ⟨fun _ => ⟨.type, by rintro ⟨⟩⟩, fun _ => ⟨.optionalForm, by rintro ⟨⟩⟩,
      fun _ => ⟨.type, by rintro ⟨⟩⟩, fun _ => ⟨.type, by rintro ⟨⟩⟩,
      fun _ => ⟨.function, by rintro ⟨⟩⟩, fun _ mem => absurd mem List.not_mem_nil⟩
  declared := by simp [declaredNames]

/-- What every module knows is harmless. -/
theorem isHarmless_of_builtins (found : builtins.lookup id = some o) : IsHarmless id o := by
  have each : ∀ entry ∈ builtins, IsHarmless entry.1 entry.2 := by
    simp only [builtins, List.forall_mem_cons]
    exact ⟨⟨.type, by rintro ⟨⟩⟩, ⟨.type, by rintro ⟨⟩⟩, ⟨.function, by rintro ⟨⟩⟩,
      ⟨.type, by rintro ⟨⟩⟩, ⟨.function, by rintro ⟨⟩⟩, ⟨.type, by rintro ⟨⟩⟩,
      ⟨.type, fun _ => rfl⟩, ⟨.type, by rintro ⟨⟩⟩, fun _ mem => absurd mem List.not_mem_nil⟩
  exact each _ (mem_of_lookup found)

section Scope

variable (bound : Binds owner names body)
  (harmless : EachMeaning (fun id o => id ∉ declaredNames → IsHarmless id o) globals)

include bound harmless

/-- A name that neither the module nor the body of its class has bound to an object of its own is
harmless. -/
theorem isHarmless_of_resolve (free : ownName owner id ∉ declaredNames ++ names.map (ownName owner))
    (resolved : (body.scope globals).resolve id = .ok o) : IsHarmless (ownName owner id) o := by
  obtain ⟨foreign, unbound⟩ := not_or.1 (mt List.mem_append.2 free)
  have fresh : body.members.lookup (ownName owner id) = none := by
    rwa [← bound.members, Option.not_isSome_iff_eq_none] at unbound
  have known : (body.scope globals).nameOf id = ownName owner id := by
    rw [← bound.named]
    rfl
  rw [Scope.resolve_eq_ok_iff, known] at resolved
  have found : (body.members.lookup (ownName owner id)).or
      ((globals.lookup (ownName owner id)).or (builtins.lookup (ownName owner id))) = some o := resolved
  rw [fresh, Option.none_or, Option.or_eq_some_iff] at found
  obtain inModule | ⟨-, everywhere⟩ := found
  · exact harmless _ o inModule foreign
  · exact isHarmless_of_builtins everywhere

/-- The functions that record modules call give no text, except for `str`. -/
theorem evaluate_callee_ne {callee : Expr} {args : List Expr} {keywords : List Keyword}
    (known : IsCall callee args keywords)
    (here : IsTextless owner names (.expr (.call callee args keywords)))
    (textless : IsTextless owner names (.expr callee)) :
    evaluate (body.scope globals) callee ≠ .ok (.type .text) := by
  have named {id : String} (other : id ≠ "str")
      (free : ownName owner id ∉ declaredNames ++ names.map (ownName owner)) :
      evaluate (body.scope globals) (read id) ≠ .ok (.type .text) := fun means => by
    have same := (isHarmless_of_resolve bound harmless free means).2 rfl
    exact other ((ownName_eq_iff (by decide)).1 same)
  cases known with
  | function => exact named here textless
  | super => exact named here textless
  | constructor =>
    intro means
    obtain ⟨owner, -, taken⟩ := bind_eq_ok.1 means
    unfold memberOf at taken
    split at taken <;> cases taken

/-- No text comes into an expression without texts, calls of `str`, and names that have been bound to
other objects. -/
theorem each_bringsNoText (textless : Node.Each (IsTextless owner names) (.expr e))
    (known : Node.Each MakesKnownCalls (.expr e)) :
    Node.Each (BringsNoText (body.scope globals)) (.expr e) := by
  intro n below
  have here := textless.below below
  unfold BringsNoText
  split
  · exact here _ .self
  · exact fun o resolved => (isHarmless_of_resolve bound harmless (here _ .self) resolved).1
  · exact evaluate_callee_ne bound harmless (known _ below) (here _ .self)
      ((Node.each_call.1 here).2.1 _ .self)
  · trivial

end Scope

/-- The statements before the class of an admitted module are headers. -/
theorem isHeader_of_layout {source : List Char} (parsed : Module.read source = .ok m)
    (admitted : m.admit = .ok className) {before members after : List Stmt} {line : Nat}
    {name : String} {bases decorators : List Expr} {keywords : List Keyword}
    (layout : m.body = before ++ .classDef line name bases keywords members decorators :: after) :
    ∀ s ∈ before, IsHeader s := by
  obtain ⟨before', line', body', after', layout', beside, -⟩ := layout_of_admitted parsed admitted
  have outside : ∀ ss : List Stmt, (∀ t ∈ ss, t ∈ before' ++ after') →
      Stmt.classDef line name bases keywords members decorators ∉ ss :=
    fun _ among mem => nomatch (beside _ (among _ mem)).2.1
  obtain ⟨rfl, -, -⟩ := (List.append_cons_inj_of_notMem
    (outside before' fun t mem => List.mem_append_left _ mem)
    (outside after' fun t mem => List.mem_append_right _ mem)).1 (layout'.symm.trans layout)
  exact fun t mem => (beside t (List.mem_append_left _ mem)).2.1

/-- While the body of an admitted class runs, an annotation gives the same type in every scope unless
there is a text in it, a call of `str`, or a name that the module declares itself with or that the body
has bound by then. -/
theorem settled_of_admitted {source : List Char} (parsed : Module.read source = .ok m)
    (admitted : m.admit = .ok className) {before front back after : List Stmt} {line : Nat}
    {name : String} {bases decorators : List Expr} {keywords : List Keyword}
    (layout : m.body =
      before ++ .classDef line name bases keywords (front ++ s :: back) decorators :: after)
    {space : String} {loaded : LoadedModule}
    (headers : before.foldlM (Loading.step space) ⟨[], none⟩ = .ok loaded)
    {documentation : Option String} {state next : ClassBody} {own : List String}
    (ran : front.foldlM (ClassBody.step loaded.globals) ⟨name, documentation, [], []⟩ = .ok state)
    (here : EvaluatesIn loaded.globals state s own next) (annotates : hint ∈ annotationsOf s)
    (textless : Node.Each (IsTextless name (front.flatMap boundNames ++ own)) (.expr hint))
    (evaluated : evaluate (next.scope loaded.globals) hint = .ok o) : IsSettled o := by
  have harmless : EachMeaning (fun id o => id ∉ declaredNames → IsHarmless id o) loaded.globals :=
    EachMeaning.run (by simp [EachMeaning]) fitsHeaders_harmless
      (isHeader_of_layout parsed admitted layout) headers
  have bound := ((Binds.nothing name documentation []).run ran).evaluatesIn here
  have inClass := makesKnownCalls_of_admitted parsed admitted _
    (layout ▸ List.mem_append_right _ (.head _))
  have inMember : Node.Each MakesKnownCalls (.stmt s) :=
    (Node.each_iff.1 inClass).2 _ (by simp [Node.parts, Stmt.parts])
  have inHint := each_of_mem_annotationsOf inMember hint annotates
  have textFree := each_bringsNoText bound harmless textless inHint
  exact isSettled_of_isTextFree (evaluate_isTextFree textFree evaluated)

/-- A module with one member and its annotation. -/
def annotatedSource (hint : String) : String :=
  "from typing import Optional\nfrom pydantic import BaseModel\nclass P(BaseModel):\n    x: " ++ hint ++
    " = None\n"

/-- The statements of that module before its class. -/
def annotatedImports (first second : Nat) : List Stmt :=
  [.importFrom first (some "typing") [⟨"Optional", none⟩] 0,
    .importFrom second (some "pydantic") [⟨"BaseModel", none⟩] 0]

/-- What these statements bind. -/
def annotatedGlobals : Bindings := [("Optional", .optionalForm), ("BaseModel", .type .base)]

/-- The member of its class. -/
def annotatedMember (line : Nat) (hint : Expr) : Stmt :=
  .annotated line (.name "x" .store) hint (some (Generation.literal .null)) true

/-- Whether a module is made of these statements, with an annotation that passes a test. -/
def isAnnotated (test : Expr → Bool) (m : Module) : Bool :=
  match m.body with
  | [.importFrom _ (some "typing") [⟨"Optional", none⟩] 0,
      .importFrom _ (some "pydantic") [⟨"BaseModel", none⟩] 0,
      .classDef _ "P" [.name "BaseModel" .load] []
        [.annotated _ (.name "x" .store) hint (some (.constant (.datum .null))) true] []] => test hint
  | _ => false

theorem of_isAnnotated {test : Expr → Bool} (h : isAnnotated test m = true) :
    ∃ first second line at_line hint, m.body = annotatedImports first second ++
      [.classDef line "P" [read "BaseModel"] [] [annotatedMember at_line hint] []] ∧
      test hint = true := by
  unfold isAnnotated at h
  split at h
  · rename_i body
    exact ⟨_, _, _, _, _, body, h⟩
  · cases h

/-- `Optional[int]`. -/
def optionalInteger : Expr := .subscript (read "Optional") (read "int") .load

/-- Whether an annotation is `Optional[int]`. -/
def isOptionalInteger : Expr → Bool
  | .subscript (.name "Optional" .load) (.name "int" .load) .load => true
  | _ => false

theorem eq_optionalInteger (h : isOptionalInteger hint = true) : hint = optionalInteger := by
  unfold isOptionalInteger at h
  split at h
  · rfl
  · cases h

/-- In a module whose annotation is `Optional[int]`, nothing is read for it. -/
theorem settled_optionalInteger : ∃ m first second line at_line loaded,
    Module.read (annotatedSource "Optional[int]").toList = .ok m ∧ m.admit = .ok "P" ∧
      m.body = annotatedImports first second ++
        [.classDef line "P" [read "BaseModel"] [] [annotatedMember at_line optionalInteger] []] ∧
      (annotatedImports first second).foldlM (Loading.step "a") ⟨[], none⟩ = .ok loaded ∧
      ∃ o, evaluate ((⟨"P", none, [], []⟩ : ClassBody).scope loaded.globals) optionalInteger = .ok o ∧
        IsSettled o := by
  have holds : admitsAs "P" (isAnnotated isOptionalInteger) (annotatedSource "Optional[int]") =
      true := by
    decide +kernel
  obtain ⟨m, parsed, admitted, shape⟩ := of_admitsAs holds
  obtain ⟨first, second, line, at_line, hint, layout, same⟩ := of_isAnnotated shape
  obtain rfl := eq_optionalInteger same
  have placed : m.body = annotatedImports first second ++ .classDef line "P" [read "BaseModel"] []
    ([] ++ annotatedMember at_line optionalInteger :: []) [] :: [] := layout
  have headers : (annotatedImports first second).foldlM (Loading.step "a") ⟨[], none⟩ =
      .ok ⟨annotatedGlobals, none⟩ := rfl
  have ran : [].foldlM (ClassBody.step annotatedGlobals) ⟨"P", none, [], []⟩ =
      .ok ⟨"P", none, [], []⟩ := rfl
  have textless : Node.Each (IsTextless "P" []) (.expr optionalInteger) := by
    simp only [optionalInteger, Generation.read, Node.each_subscript, Node.each_name, IsTextless]
    decide
  have settled := settled_of_admitted parsed admitted placed headers ran (.start _)
    (List.mem_singleton.2 rfl) textless rfl
  exact ⟨m, first, second, line, at_line, _, parsed, admitted, layout, headers, _, rfl, settled⟩

/-- The text `int | None` as an annotation. -/
def quotedHint : Expr := Generation.textLiteral "int | None"

/-- Whether an annotation is that text. -/
def isQuotedHint : Expr → Bool
  | .constant (.datum (.text s)) => s == "int | None"
  | _ => false

theorem eq_quotedHint (h : isQuotedHint hint = true) : hint = quotedHint := by
  unfold isQuotedHint at h
  split at h
  · rw [eq_of_beq h]
    rfl
  · cases h

/-- The type of a number that may be missing. -/
def missingOrInteger : Object := .union [.type .integer, .type .null]

/-- Whether a result is that type. -/
def isMissingOrInteger : Except Fault Object → Bool
  | .ok (.union [.type .integer, .type .null]) => true
  | _ => false

theorem eq_missingOrInteger {result : Except Fault Object} (h : isMissingOrInteger result = true) :
    result = .ok missingOrInteger := by
  unfold isMissingOrInteger at h
  split at h
  · rfl
  · cases h

/-- Whether a text is that of a module that is not admitted. -/
def isRefused (source : String) : Bool :=
  match Module.read source.toList with
  | .ok m => m.admit.toOption.isNone
  | .error _ => false

theorem of_isRefused {source : String} (h : isRefused source = true) :
    ∃ m rejection, Module.read source.toList = .ok m ∧ m.admit = .error rejection := by
  unfold isRefused at h
  split at h
  · rename_i m parsed
    cases refused : m.admit with
    | error rejection => exact ⟨m, rejection, parsed, refused⟩
    | ok name => simp [refused, Except.toOption] at h
  · cases h

/-- A module is admitted whose annotation is a text. The text is evaluated when the type is needed, with
an operator that admission refuses in the annotation itself. -/
theorem admit_quotedHint : ∃ m first second line at_line,
    Module.read (annotatedSource "'int | None'").toList = .ok m ∧ m.admit = .ok "P" ∧
      m.body = annotatedImports first second ++
        [.classDef line "P" [read "BaseModel"] [] [annotatedMember at_line quotedHint] []] ∧
      quotedHint ∈ annotationsOf (annotatedMember at_line quotedHint) ∧
      typeOfHint (.module annotatedGlobals) (.text "int | None") = .ok missingOrInteger ∧
      ∃ bare rejection, Module.read (annotatedSource "int | None").toList = .ok bare ∧
        bare.admit = .error rejection := by
  have holds : admitsAs "P" (isAnnotated isQuotedHint) (annotatedSource "'int | None'") = true := by
    decide +kernel
  obtain ⟨m, parsed, admitted, shape⟩ := of_admitsAs holds
  obtain ⟨first, second, line, at_line, hint, layout, same⟩ := of_isAnnotated shape
  obtain rfl := eq_quotedHint same
  have evaluated : isMissingOrInteger
      (typeOfHint (.module annotatedGlobals) (.text "int | None")) = true := by decide +kernel
  have refused : isRefused (annotatedSource "int | None") = true := by decide +kernel
  exact ⟨m, first, second, line, at_line, parsed, admitted, layout, List.mem_singleton.2 rfl,
    eq_missingOrInteger evaluated, of_isRefused refused⟩

end FlatRecord.Admission
