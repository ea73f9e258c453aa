import FlatRecord.Proofs.Admission.ModuleNames
import FlatRecord.Proofs.Admission.Soundness

/-!
# Names that admission trusts

Admission knows functions, types and modules by their names only. While the body of an admitted class
runs, such a name has the meaning that an import or the language gives it, unless a statement of the
body has bound it before: then it means what that statement has made of it. Admission does not keep
statements from doing so.
-/

namespace FlatRecord.Admission

open FlatRecord.Script FlatRecord.Execution
open FlatRecord.Generation (read)

mutual

/-- The names that a target binds. -/
def targetNames : Expr → List String
  | .name id _ => [id]
  | .tuple items _ => targetNamesEach items
  | .list items _ => targetNamesEach items
  | _ => []

/-- The names that targets bind. -/
def targetNamesEach : List Expr → List String
  | [] => []
  | e :: rest => targetNames e ++ targetNamesEach rest

end

/-- The names that a statement of a class body binds. -/
def boundNames : Stmt → List String
  | .assign _ targets _ => targets.flatMap targetNames
  | .annotated _ target _ (some _) _ => targetNames target
  | .functionDef _ name _ _ _ _ => [name]
  | _ => []

/-- The names that may be called or that members may be taken of, with what they mean in the body of a
class: the two instances mean nothing there. -/
def trustedMeanings : List (String × Option Object) :=
  [("ConfigDict", some (.type .settings)), ("Field", some (.function .field)),
   ("hash", some (.function .hash)), ("isinstance", some (.function .isInstance)),
   ("str", some (.type .text)), ("super", some (.type .parent)),
   ("datetime", some (.module "datetime")), ("decimal", some (.module "decimal")),
   ("self", none), ("other", none)]

/-- The class of a body, and the names that its members have been bound to. -/
structure Binds (owner : String) (names : List String) (body : ClassBody) : Prop where
  named : body.name = owner
  members : ∀ id, (body.members.lookup id).isSome ↔ id ∈ names.map (ownName owner)

variable {owner id : String} {names : List String} {globals : Bindings} {o : Object}
  {body body' : ClassBody}

theorem Binds.bind (h : Binds owner names body) (name : String) (o : Object) :
    Binds owner (names ++ [name]) (body.bind name o) := by
  refine ⟨h.named, fun id => ?_⟩
  rw [ClassBody.bind, lookup_bindName, h.named, List.map_append, List.mem_append, List.map_singleton,
    List.mem_singleton]
  by_cases same : id = ownName owner name
  · rw [if_pos same]
    exact iff_of_true rfl (.inr same)
  · rw [if_neg same, h.members id, or_iff_left same]

mutual

theorem Binds.assign {names : List String} {body body' : ClassBody} {o : Object}
    (h : Binds owner names body) {target : Expr}
    (assigned : ClassBody.assign globals o body target = .ok body') :
    Binds owner (names ++ targetNames target) body' := by
  cases target with
  | name id use =>
    obtain rfl := Except.ok.inj assigned
    exact h.bind id o
  | tuple items use =>
    obtain ⟨parts, -, assigned⟩ := bind_eq_ok.1 assigned
    exact h.assignEach assigned
  | list items use =>
    obtain ⟨parts, -, assigned⟩ := bind_eq_ok.1 assigned
    exact h.assignEach assigned
  | member inner attr use =>
    obtain ⟨_, -, assigned⟩ := bind_eq_ok.1 assigned
    obtain rfl := Except.ok.inj assigned
    simpa [targetNames] using h
  | subscript inner index use =>
    obtain ⟨_, -, assigned⟩ := bind_eq_ok.1 assigned
    obtain ⟨_, -, assigned⟩ := bind_eq_ok.1 assigned
    cases assigned
  | _ => cases assigned

theorem Binds.assignEach {names : List String} {body body' : ClassBody}
    (h : Binds owner names body) {targets : List Expr} {items : List Object}
    (assigned : ClassBody.assignEach globals items body targets = .ok body') :
    Binds owner (names ++ targetNamesEach targets) body' := by
  cases targets with
  | nil =>
    obtain rfl := Except.ok.inj assigned
    rwa [targetNamesEach, List.append_nil]
  | cons target rest =>
    rw [ClassBody.assignEach] at assigned
    obtain ⟨next, first, others⟩ := bind_eq_ok.1 assigned
    rw [targetNamesEach, ← List.append_assoc]
    exact (h.assign first).assignEach others

end

theorem Binds.assignAll (h : Binds owner names body) {targets : List Expr}
    (assigned : targets.foldlM (ClassBody.assign globals o) body = .ok body') :
    Binds owner (names ++ targets.flatMap targetNames) body' := by
  induction targets generalizing body names with
  | nil =>
    obtain rfl := Except.ok.inj assigned
    simpa using h
  | cons target rest ih =>
    rw [List.foldlM_cons] at assigned
    obtain ⟨next, first, others⟩ := bind_eq_ok.1 assigned
    rw [List.flatMap_cons, ← List.append_assoc]
    exact ih (h.assign first) others

/-- A declaration binds its target if it gives a value. -/
theorem Binds.declare (h : Binds owner names body) {line : Nat} {target hint : Expr}
    {value : Option Expr} {simple : Bool}
    (ran : ClassBody.declare globals body target hint value simple = .ok body') :
    Binds owner (names ++ boundNames (.annotated line target hint value simple)) body' := by
  -- the annotation is noted beside the members, which it leaves alone
  cases value with
  | none =>
    obtain ⟨next, same, noted⟩ := bind_eq_ok.1 ran
    obtain rfl := Except.ok.inj same
    have bound : Binds owner (names ++ []) body := by rwa [List.append_nil]
    obtain ⟨o, -, noted⟩ := bind_eq_ok.1 noted
    split at noted <;> obtain rfl := Except.ok.inj noted <;> exact ⟨bound.named, bound.members⟩
  | some e =>
    obtain ⟨_, -, ran⟩ := bind_eq_ok.1 ran
    obtain ⟨next, assigned, noted⟩ := bind_eq_ok.1 ran
    have bound := h.assign assigned
    obtain ⟨o, -, noted⟩ := bind_eq_ok.1 noted
    split at noted <;> obtain rfl := Except.ok.inj noted <;> exact ⟨bound.named, bound.members⟩

/-- What one statement binds. -/
theorem Binds.step (h : Binds owner names body) {s : Stmt}
    (ran : ClassBody.step globals body s = .ok body') :
    Binds owner (names ++ boundNames s) body' := by
  cases s with
  | assign line targets value =>
    obtain ⟨o, -, assigned⟩ := bind_eq_ok.1 ran
    exact h.assignAll assigned
  | annotated line target hint value simple => exact h.declare ran
  | functionDef line name params statements decorators returns =>
    obtain ⟨o, -, bound⟩ := bind_eq_ok.1 ran
    obtain rfl := Except.ok.inj bound
    exact h.bind name o
  | _ =>
    obtain rfl := Except.ok.inj ran
    simpa [boundNames] using h

/-- What a run of statements binds. -/
theorem Binds.run (h : Binds owner names body) {statements : List Stmt}
    (ran : statements.foldlM (ClassBody.step globals) body = .ok body') :
    Binds owner (names ++ statements.flatMap boundNames) body' := by
  induction statements generalizing body names with
  | nil =>
    obtain rfl := Except.ok.inj ran
    simpa using h
  | cons s rest ih =>
    rw [List.foldlM_cons] at ran
    obtain ⟨next, first, others⟩ := bind_eq_ok.1 ran
    rw [List.flatMap_cons, ← List.append_assoc]
    exact ih (h.step first) others

/-- Whether names mean in a module what admission trusts that they mean, if they mean anything. -/
def KeepsMeanings (globals : Bindings) : Prop :=
  ∀ id meaning o, (id, meaning) ∈ trustedMeanings → globals.lookup id = some o → meaning = some o

/-- What can be imported has the meaning that it is trusted to have. -/
theorem fitsHeaders_trusted :
    FitsHeaders fun id o => ∀ meaning, (id, meaning) ∈ trustedMeanings → meaning = some o where
  modules := by simp [trustedMeanings]
  names := by simp [importable, trustedMeanings, Loading.imported?]
  declared := by simp [trustedMeanings]

/-- The statements beside the class of a record module keep the meanings of trusted names. -/
theorem KeepsMeanings.run {space : String} {m m' : LoadedModule} {statements : List Stmt}
    (h : KeepsMeanings m.globals) (headers : ∀ s ∈ statements, IsHeader s)
    (ran : statements.foldlM (Loading.step space) m = .ok m') : KeepsMeanings m'.globals := by
  have each := EachMeaning.run (fun id o found meaning listed => h id meaning o listed found)
    fitsHeaders_trusted headers ran
  exact fun id meaning o listed found => each id o found meaning listed

/-- A name without an underscore at its beginning is not that of a hidden member. -/
theorem ownName_eq_iff {name : String} (shown : id.toList.head? ≠ some '_') :
    ownName owner name = id ↔ name = id := by
  constructor
  · intro same
    unfold ownName at same
    dsimp only at same
    split at same
    · refine absurd ?_ shown
      rw [← same]
      simp
    · exact same
  · rintro rfl
    exact Generation.ownName_of_shown owner shown

/-- The states of a class body in which the values and the annotations of a statement are evaluated,
each with the names that the statement itself has bound by then: an annotation is evaluated when the
value beside it has been bound. -/
inductive EvaluatesIn (globals : Bindings) (state : ClassBody) :
    Stmt → List String → ClassBody → Prop where
  | start (s : Stmt) : EvaluatesIn globals state s [] state
  | annotation {line : Nat} {target hint value : Expr} {simple : Bool} {o : Object}
      {next : ClassBody} (assigned : ClassBody.assign globals o state target = .ok next) :
      EvaluatesIn globals state (.annotated line target hint (some value) simple)
        (targetNames target) next

/-- The names that the class body knows before its first statement: none. -/
theorem Binds.nothing (owner : String) (documentation : Option String) (hints : Bindings) :
    Binds owner [] ⟨owner, documentation, [], hints⟩ :=
  ⟨rfl, fun _ => by simp⟩

/-- Trusted names are those of no hidden members. -/
theorem shown_of_trusted {meaning : Option Object} (listed : (id, meaning) ∈ trustedMeanings) :
    id.toList.head? ≠ some '_' := by
  have each : ∀ entry ∈ trustedMeanings, entry.1.toList.head? ≠ some '_' := by
    simp [trustedMeanings]
  exact each _ listed

/-- What every module knows has the meaning that it is trusted to have. -/
theorem keepsMeanings_builtins : KeepsMeanings builtins := by
  have each : ∀ entry ∈ builtins, ∀ meaning, (entry.1, meaning) ∈ trustedMeanings →
      meaning = some entry.2 := by
    simp [builtins, trustedMeanings]
  exact fun id meaning o listed found => each _ (mem_of_lookup found) meaning listed

/-- In a state of a class body in which names are bound, a trusted name that is not among them means
what it is trusted to mean, and one that is among them means what it has been bound to. -/
theorem Binds.trusted (h : Binds owner names body) (kept : KeepsMeanings globals)
    {meaning : Option Object} (listed : (id, meaning) ∈ trustedMeanings) :
    (id ∉ names → ∀ o, evaluate (body.scope globals) (read id) = .ok o → meaning = some o) ∧
    (id ∈ names → ∃ o, body.members.lookup id = some o ∧
      evaluate (body.scope globals) (read id) = .ok o) := by
  have shown := shown_of_trusted listed
  have own : ownName body.name id = id := (ownName_eq_iff shown).2 rfl
  have bound : (body.members.lookup id).isSome ↔ id ∈ names := by
    rw [h.members id, List.mem_map]
    exact ⟨fun ⟨name, mem, same⟩ => (ownName_eq_iff shown).1 same ▸ mem, fun mem =>
      ⟨id, mem, (ownName_eq_iff shown).2 rfl⟩⟩
  have resolved (o : Object) : evaluate (body.scope globals) (read id) = .ok o ↔
      (body.members.lookup id).or ((globals.lookup id).or (builtins.lookup id)) = some o := by
    have kept : (body.scope globals).nameOf id = id := own
    show (body.scope globals).resolve id = _ ↔ _
    rw [Scope.resolve_eq_ok_iff, kept]
    rfl
  constructor
  · intro free o evaluated
    have fresh : body.members.lookup id = none := by
      rwa [← bound, Option.not_isSome_iff_eq_none] at free
    rw [resolved, fresh, Option.none_or, Option.or_eq_some_iff] at evaluated
    obtain inModule | ⟨-, known⟩ := evaluated
    · exact kept id meaning o listed inModule
    · exact keepsMeanings_builtins id meaning o listed known
  · intro mem
    obtain ⟨o, found⟩ := Option.isSome_iff_exists.1 (bound.2 mem)
    refine ⟨o, found, ?_⟩
    rw [resolved, found]
    rfl

/-- The names that have been bound where an expression of a statement is evaluated. -/
theorem Binds.evaluatesIn {next : ClassBody} {s : Stmt} {own : List String}
    (h : Binds owner names body) (here : EvaluatesIn globals body s own next) :
    Binds owner (names ++ own) next := by
  cases here with
  | start => rwa [List.append_nil]
  | annotation assigned => exact h.assign assigned

/-- While the body of an admitted class runs, a name that admission trusts has the meaning that it is
trusted to have unless a statement of the body has bound it by then; if one has, the name means what
it has been bound to. -/
theorem trusted_of_admitted {source : List Char} {m : Module} {className : String}
    (parsed : Module.read source = .ok m) (admitted : m.admit = .ok className)
    {before front back after : List Stmt} {s : Stmt} {line : Nat} {name : String}
    {bases decorators : List Expr} {keywords : List Keyword}
    (layout : m.body =
      before ++ .classDef line name bases keywords (front ++ s :: back) decorators :: after)
    {space : String} {loaded : LoadedModule}
    (headers : before.foldlM (Loading.step space) ⟨[], none⟩ = .ok loaded)
    {documentation : Option String} {state next : ClassBody} {own : List String}
    (ran : front.foldlM (ClassBody.step loaded.globals) ⟨name, documentation, [], []⟩ = .ok state)
    (here : EvaluatesIn loaded.globals state s own next) {id : String} {meaning : Option Object}
    (listed : (id, meaning) ∈ trustedMeanings) :
    (id ∉ front.flatMap boundNames ++ own → ∀ o,
      evaluate (next.scope loaded.globals) (read id) = .ok o → meaning = some o) ∧
    (id ∈ front.flatMap boundNames ++ own → ∃ o, next.members.lookup id = some o ∧
      evaluate (next.scope loaded.globals) (read id) = .ok o) := by
  obtain ⟨before', line', body', after', layout', beside, -⟩ := layout_of_admitted parsed admitted
  have outside : ∀ ss : List Stmt, (∀ t ∈ ss, t ∈ before' ++ after') →
      Stmt.classDef line name bases keywords (front ++ s :: back) decorators ∉ ss :=
    fun _ among mem => nomatch (beside _ (among _ mem)).2.1
  obtain ⟨rfl, -, -⟩ := (List.append_cons_inj_of_notMem
    (outside before' fun t mem => List.mem_append_left _ mem)
    (outside after' fun t mem => List.mem_append_right _ mem)).1 (layout'.symm.trans layout)
  have kept : KeepsMeanings loaded.globals :=
    KeepsMeanings.run (by simp [KeepsMeanings])
      (fun t mem => (beside t (List.mem_append_left _ mem)).2.1) headers
  exact (((Binds.nothing name documentation []).run ran).evaluatesIn here).trusted kept listed

/-- A module whose class calls a field what are settings. -/
def shadowingSource : String :=
  "from pydantic import BaseModel, ConfigDict, Field\nclass P(BaseModel):\n" ++
    "    Field = ConfigDict\n    x: str = Field(title='x')\n"

/-- The import of that module. -/
def shadowingImport (line : Nat) : Stmt :=
  .importFrom line (some "pydantic")
    [⟨"BaseModel", none⟩, ⟨"ConfigDict", none⟩, ⟨"Field", none⟩] 0

/-- The statement that gives the name another meaning. -/
def shadowingAssignment (line : Nat) : Stmt :=
  .assign line [.name "Field" .store] (read "ConfigDict")

/-- The statement that calls what the name means. -/
def shadowedCall (line argument : Nat) : Stmt :=
  .annotated line (.name "x" .store) (read "str")
    (some (.call (read "Field") [] [.mk argument (some "title") (Generation.textLiteral "x")])) true

/-- Whether a module is made of these statements. -/
def isShadowing (m : Module) : Bool :=
  match m.body with
  | [.importFrom _ (some "pydantic") [⟨"BaseModel", none⟩, ⟨"ConfigDict", none⟩, ⟨"Field", none⟩] 0,
      .classDef _ "P" [.name "BaseModel" .load] []
        [.assign _ [.name "Field" .store] (.name "ConfigDict" .load),
          .annotated _ (.name "x" .store) (.name "str" .load)
            (some (.call (.name "Field" .load) []
              [.mk _ (some "title") (.constant (.datum (.text "x")))])) true] []] => true
  | _ => false

/-- Admission lets the module pass. -/
theorem admit_shadowing : ∃ m imports line assigns calls argument,
    Module.read shadowingSource.toList = .ok m ∧ m.admit = .ok "P" ∧
      m.body = [shadowingImport imports, .classDef line "P" [read "BaseModel"] []
        [shadowingAssignment assigns, shadowedCall calls argument] []] := by
  have holds : admitsAs "P" isShadowing shadowingSource = true := by decide +kernel
  obtain ⟨m, parsed, admitted, shape⟩ := of_admitsAs holds
  unfold isShadowing at shape
  split at shape
  · rename_i body
    exact ⟨m, _, _, _, _, _, parsed, admitted, body⟩
  · cases shape

/-- The names of that module before its class. -/
def shadowingGlobals : Bindings :=
  [("BaseModel", .type .base), ("ConfigDict", .type .settings), ("Field", .function .field)]

theorem run_shadowingImport (line : Nat) :
    [shadowingImport line].foldlM (Loading.step "a") ⟨[], none⟩ = .ok ⟨shadowingGlobals, none⟩ :=
  rfl

theorem run_shadowingAssignment (line : Nat) :
    [shadowingAssignment line].foldlM (ClassBody.step shadowingGlobals) ⟨"P", none, [], []⟩ =
      .ok ⟨"P", none, [("Field", .type .settings)], []⟩ :=
  rfl

/-- In that module, the name that is called means what it has been bound to, and the others keep their
meaning. -/
theorem trusted_shadowing : ∃ m before after front s line state,
    Module.read shadowingSource.toList = .ok m ∧ m.admit = .ok "P" ∧
      m.body = before ++ .classDef line "P" [read "BaseModel"] [] (front ++ [s]) [] :: after ∧
      before.foldlM (Loading.step "a") ⟨[], none⟩ = .ok ⟨shadowingGlobals, none⟩ ∧
      front.foldlM (ClassBody.step shadowingGlobals) ⟨"P", none, [], []⟩ = .ok state ∧
      (∀ o, evaluate (state.scope shadowingGlobals) (read "ConfigDict") = .ok o →
        some (.type .settings) = some o) ∧
      ∃ o, state.members.lookup "Field" = some o ∧
        evaluate (state.scope shadowingGlobals) (read "Field") = .ok o := by
  obtain ⟨m, imports, line, assigns, calls, argument, parsed, admitted, body⟩ := admit_shadowing
  have layout : m.body = [shadowingImport imports] ++ .classDef line "P" [read "BaseModel"] []
    ([shadowingAssignment assigns] ++ shadowedCall calls argument :: []) [] :: [] := body
  have headers := run_shadowingImport imports
  have ran := run_shadowingAssignment assigns
  have settings : ("ConfigDict", some (.type .settings)) ∈ trustedMeanings := by
    simp [trustedMeanings]
  have field : ("Field", some (.function .field)) ∈ trustedMeanings := by simp [trustedMeanings]
  have names : [shadowingAssignment assigns].flatMap boundNames ++ [] = ["Field"] := rfl
  have kept := (trusted_of_admitted parsed admitted layout headers ran (.start _) settings).1
    (by rw [names]; decide)
  have bound := (trusted_of_admitted parsed admitted layout headers ran (.start _) field).2
    (by rw [names]; decide)
  exact ⟨m, _, _, _, _, line, _, parsed, admitted, layout, headers, ran, kept, bound⟩

/-- An admitted module calls the type of settings where it says `Field`. -/
theorem admit_untrusted : ∃ m imports line assigns calls argument,
    Module.read shadowingSource.toList = .ok m ∧ m.admit = .ok "P" ∧
      m.body = [shadowingImport imports, .classDef line "P" [read "BaseModel"] []
        [shadowingAssignment assigns, shadowedCall calls argument] []] ∧
      ∃ loaded state, [shadowingImport imports].foldlM (Loading.step "a") ⟨[], none⟩ = .ok loaded ∧
        [shadowingAssignment assigns].foldlM (ClassBody.step loaded.globals) ⟨"P", none, [], []⟩ =
          .ok state ∧
        evaluate (state.scope loaded.globals) (read "Field") = .ok (.type .settings) := by
  obtain ⟨m, imports, line, assigns, calls, argument, parsed, admitted, body⟩ := admit_shadowing
  exact ⟨m, imports, line, assigns, calls, argument, parsed, admitted, body, _, _,
    run_shadowingImport imports, run_shadowingAssignment assigns, rfl⟩

end FlatRecord.Admission
