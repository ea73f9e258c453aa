import FlatRecord.Proofs.Script.Nodes
import FlatRecord.Script.Reading.Expression

/-!
# Trees whose parts fit

Trees can be well-formed in ways that their type does not tell: what is assigned to is used as a target
and everything else for its value, a comparison has as many operators as operands on their right, and
so on. `Module.Fits` says so of a module and `Node.Fits` of any place in it; what a node consists of
fits again. Nothing is said about the inside of foreign constructs.
-/

namespace FlatRecord.Script

/-- An expression that can stand in a place of some use. -/
inductive Expr.Fits : Use → Expr → Prop where
  | constant {value : Constant} : Fits .load (.constant value)
  | name {use : Use} {id : String} : Fits use (.name id use)
  | member {use : Use} {owner : Expr} {attr : String} (inside : Fits .load owner) :
      Fits use (.member owner attr use)
  | subscript {use : Use} {owner index : Expr} (inside : Fits .load owner)
      (key : Fits .load index) : Fits use (.subscript owner index use)
  | list {use : Use} {items : List Expr} (each : ∀ e ∈ items, Fits use e) :
      Fits use (.list items use)
  | tuple {use : Use} {items : List Expr} (each : ∀ e ∈ items, Fits use e) :
      Fits use (.tuple items use)
  | dict {keys : List (Option Expr)} {values : List Expr}
      (eachKey : ∀ e, some e ∈ keys → Fits .load e) (each : ∀ e ∈ values, Fits .load e) :
      Fits .load (.dict keys values)
  | call {callee : Expr} {args : List Expr} {keywords : List Keyword}
      (target : Fits .load callee) (each : ∀ e ∈ args, Fits .load e)
      (eachNamed : ∀ k ∈ keywords, Fits .load k.value) : Fits .load (.call callee args keywords)
  | unary {op : UnaryOp} {operand : Expr} (inside : Fits .load operand) :
      Fits .load (.unary op operand)
  | binary {left right : Expr} {op : BinaryOp} (first : Fits .load left)
      (second : Fits .load right) : Fits .load (.binary left op right)
  | compare {left : Expr} {ops : List CompareOp} {rights : List Expr}
      (arity : ops.length = rights.length) (first : Fits .load left)
      (each : ∀ e ∈ rights, Fits .load e) : Fits .load (.compare left ops rights)
  | foreign {use : Use} {construct : String} {parts : List Node} :
      Fits use (.foreign construct parts)

/-- A parameter whose annotation can stand there. -/
def Param.Fits (p : Param) : Prop := ∀ e ∈ p.hint, e.Fits .load

/-- The defaults of the parameters that can only be given by name. -/
def Params.namedDefaults : Params → List (Option Expr)
  | .mk _ _ _ _ namedDefaults _ _ => namedDefaults

/-- A parameter list of such parameters, and of defaults that can stand there as well. -/
structure Params.Fits (ps : Params) : Prop where
  each : ∀ p ∈ ps.all, p.Fits
  arity : ps.namedDefaults.length = ps.named.length
  eachNamedDefault : ∀ e, some e ∈ ps.namedDefaults → e.Fits .load
  eachDefault : ∀ e ∈ ps.defaults, e.Fits .load

/-- A statement whose expressions can stand where they do. -/
inductive Stmt.Fits : Stmt → Prop where
  | expr {line : Nat} {value : Expr} (inside : value.Fits .load) : Fits (.expr line value)
  | assign {line : Nat} {targets : List Expr} {value : Expr}
      (each : ∀ e ∈ targets, e.Fits .store) (inside : value.Fits .load) :
      Fits (.assign line targets value)
  | annotated {line : Nat} {target hint : Expr} {value : Option Expr} {simple : Bool}
      (left : target.Fits .store) (type : hint.Fits .load) (right : ∀ e ∈ value, e.Fits .load) :
      Fits (.annotated line target hint value simple)
  | importModules {line : Nat} {names : List Alias} : Fits (.importModules line names)
  | importFrom {line : Nat} {module : Option String} {names : List Alias} {level : Nat} :
      Fits (.importFrom line module names level)
  | classDef {line : Nat} {name : String} {bases : List Expr} {keywords : List Keyword}
      {body : List Stmt} {decorators : List Expr} (eachBase : ∀ e ∈ bases, e.Fits .load)
      (eachNamed : ∀ k ∈ keywords, k.value.Fits .load) (each : ∀ s ∈ body, Fits s)
      (eachMark : ∀ e ∈ decorators, e.Fits .load) :
      Fits (.classDef line name bases keywords body decorators)
  | functionDef {line : Nat} {name : String} {params : Params} {body : List Stmt}
      {decorators : List Expr} {returns : Option Expr} (signature : params.Fits)
      (each : ∀ s ∈ body, Fits s) (eachMark : ∀ e ∈ decorators, e.Fits .load)
      (result : ∀ e ∈ returns, e.Fits .load) :
      Fits (.functionDef line name params body decorators returns)
  | ret {line : Nat} {value : Option Expr} (inside : ∀ e ∈ value, e.Fits .load) :
      Fits (.ret line value)
  | branch {line : Nat} {test : Expr} {body otherwise : List Stmt} (condition : test.Fits .load)
      (each : ∀ s ∈ body, Fits s) (eachOther : ∀ s ∈ otherwise, Fits s) :
      Fits (.branch line test body otherwise)
  | foreign {line : Nat} {construct : String} : Fits (.foreign line construct)

/-- A module of such statements. -/
def Module.Fits (m : Module) : Prop := ∀ s ∈ m.body, s.Fits

section Targets

mutual

/-- An expression that is turned into a target can stand where it is used. -/
theorem Expr.fits_of_target? {use : Use} {e target : Expr} (fits : e.Fits .load)
    (turned : e.target? use = some target) : target.Fits use := by
  cases fits with
  | name =>
    obtain rfl := Option.some.inj turned
    exact .name
  | member inside =>
    obtain rfl := Option.some.inj turned
    exact .member inside
  | subscript inside key =>
    obtain rfl := Option.some.inj turned
    exact .subscript inside key
  | list each =>
    obtain ⟨_, turnedItems, rfl⟩ := Option.map_eq_some_iff.1 turned
    exact .list (Expr.fits_of_targets? each turnedItems)
  | tuple each =>
    obtain ⟨_, turnedItems, rfl⟩ := Option.map_eq_some_iff.1 turned
    exact .tuple (Expr.fits_of_targets? each turnedItems)
  | foreign =>
    obtain ⟨_, _, rfl⟩ : ∃ construct parts, target = .foreign construct parts := by
      unfold Expr.target? at turned
      split at turned <;> simp_all
      obtain ⟨_, _, _, rfl⟩ := turned
      exact ⟨_, _, rfl⟩
    exact .foreign
  | _ => cases turned

theorem Expr.fits_of_targets? {use : Use} {items targets : List Expr}
    (each : ∀ e ∈ items, e.Fits .load) (turned : Expr.targets? use items = some targets) :
    ∀ e ∈ targets, e.Fits use := by
  cases items with
  | nil =>
    obtain rfl := Option.some.inj turned
    exact fun _ mem => absurd mem List.not_mem_nil
  | cons first rest =>
    simp only [Expr.targets?, Option.bind_eq_bind, Option.bind_eq_some_iff] at turned
    obtain ⟨target, turnedFirst, others, turnedRest, same⟩ := turned
    obtain rfl := Option.some.inj same
    intro e mem
    rcases List.mem_cons.1 mem with rfl | mem
    · exact Expr.fits_of_target? (each first (.head _)) turnedFirst
    · exact Expr.fits_of_targets? (fun e mem => each e (.tail _ mem)) turnedRest e mem

end

end Targets

namespace Node

variable {n : Node}

/-- Whether a node is a construct of which only the name and the parts are kept. -/
def isForeign : Node → Bool
  | .expr (.foreign ..) => true
  | .group .. => true
  | _ => false

/-- A node inside of an expression or a parameter list that is there for its value. -/
def Loads : Node → Prop
  | .expr e => e.Fits .load
  | .stmt _ => False
  | .keyword k => k.value.Fits .load
  | .param p => p.Fits
  | .params ps => ps.Fits
  | _ => True

/-- A node that can stand in some place of a tree. -/
def Fits : Node → Prop
  | .expr e => ∃ use, e.Fits use
  | .stmt s => s.Fits
  | n => n.Loads

theorem Loads.fits (h : n.Loads) : n.Fits := by
  cases n with
  | expr e => exact ⟨_, h⟩
  | stmt s => cases h
  | _ => exact h

private theorem loads_options {es : List (Option Expr)} (h : ∀ e, some e ∈ es → e.Fits .load) :
    ∀ n ∈ es.filterMap (·.map Node.expr), n.Loads := by
  intro n mem
  obtain ⟨e?, among, same⟩ := List.mem_filterMap.1 mem
  obtain ⟨e, rfl, rfl⟩ := Option.map_eq_some_iff.1 same
  exact h e among

/-- What a node that is there for its value consists of is there for its value as well. -/
theorem Loads.part (known : n.isForeign = false) (h : n.Loads) : ∀ p ∈ n.parts, p.Loads := by
  cases n with
  | stmt s => cases h
  | group construct parts => cases known
  | keyword k => exact List.forall_mem_singleton.2 h
  | param p =>
    intro m mem
    obtain ⟨e, annotates, rfl⟩ := List.mem_map.1 mem
    exact h e (Option.mem_toList.1 annotates)
  | params ps =>
    obtain ⟨positional, args, rest, named, namedDefaults, mapping, defaults⟩ := ps
    have each : ∀ p ∈ positional ++ args ++ rest.toList ++ named ++ mapping.toList, p.Fits := h.each
    simp only [List.forall_mem_append] at each
    obtain ⟨⟨⟨⟨eachPositional, eachArg⟩, eachRest⟩, eachNamed⟩, eachMapping⟩ := each
    simp only [parts, Params.parts, List.forall_mem_append, List.forall_mem_map]
    exact ⟨⟨⟨⟨⟨⟨eachPositional, eachArg⟩, eachRest⟩, eachNamed⟩,
      loads_options h.eachNamedDefault⟩, eachMapping⟩, h.eachDefault⟩
  | expr e =>
    change e.Fits .load at h
    cases h with
    | foreign => cases known
    | dict eachKey each =>
      exact List.forall_mem_append.2 ⟨loads_options eachKey, List.forall_mem_map.2 each⟩
    | _ => simp_all [parts, Expr.parts, Loads, or_imp, forall_and]
  | _ => exact fun _ mem => absurd mem List.not_mem_nil

/-- What a node consists of can stand where it does. -/
theorem Fits.part (known : n.isForeign = false) (h : n.Fits) : ∀ p ∈ n.parts, p.Fits := by
  have loading (h : n.Loads) : ∀ p ∈ n.parts, p.Fits :=
    fun p mem => (Loads.part known h p mem).fits
  cases n with
  | expr e =>
    obtain ⟨use, fits⟩ := h
    have items {es : List Expr} (each : ∀ e ∈ es, e.Fits use) :
        ∀ p ∈ es.map Node.expr ++ [.use use], p.Fits :=
      List.forall_mem_append.2 ⟨List.forall_mem_map.2 fun e mem => ⟨use, each e mem⟩,
        List.forall_mem_singleton.2 trivial⟩
    cases fits with
    | list each => exact items each
    | tuple each => exact items each
    | name => exact List.forall_mem_singleton.2 trivial
    | member inside => exact List.forall_mem_cons.2 ⟨⟨_, inside⟩, List.forall_mem_singleton.2 trivial⟩
    | subscript inside key =>
      exact List.forall_mem_cons.2 ⟨⟨_, inside⟩, List.forall_mem_cons.2 ⟨⟨_, key⟩,
        List.forall_mem_singleton.2 trivial⟩⟩
    | foreign => cases known
    | constant => exact loading .constant
    | dict eachKey each => exact loading (.dict eachKey each)
    | call target each eachNamed => exact loading (.call target each eachNamed)
    | unary inside => exact loading (.unary inside)
    | binary first second => exact loading (.binary first second)
    | compare arity first each => exact loading (.compare arity first each)
  | stmt s =>
    change s.Fits at h
    have exprs {es : List Expr} {use : Use} (each : ∀ e ∈ es, e.Fits use) :
        ∀ p ∈ es.map Node.expr, p.Fits :=
      List.forall_mem_map.2 fun e mem => ⟨use, each e mem⟩
    have option {e? : Option Expr} (h : ∀ e ∈ e?, e.Fits .load) :
        ∀ p ∈ e?.toList.map Node.expr, p.Fits :=
      exprs fun e mem => h e (Option.mem_toList.1 mem)
    have stmts {ss : List Stmt} (each : ∀ s ∈ ss, s.Fits) : ∀ p ∈ ss.map Node.stmt, p.Fits :=
      List.forall_mem_map.2 each
    cases h with
    | expr inside => exact List.forall_mem_singleton.2 ⟨_, inside⟩
    | assign each inside =>
      exact List.forall_mem_append.2 ⟨exprs each, List.forall_mem_singleton.2 ⟨_, inside⟩⟩
    | annotated left type right =>
      exact List.forall_mem_cons.2 ⟨⟨_, left⟩, List.forall_mem_cons.2 ⟨⟨_, type⟩, option right⟩⟩
    | importModules => exact List.forall_mem_map.2 fun _ _ => trivial
    | importFrom => exact List.forall_mem_map.2 fun _ _ => trivial
    | classDef eachBase eachNamed each eachMark =>
      exact List.forall_mem_append.2 ⟨List.forall_mem_append.2 ⟨List.forall_mem_append.2
        ⟨exprs eachBase, List.forall_mem_map.2 eachNamed⟩, stmts each⟩, exprs eachMark⟩
    | functionDef signature each eachMark result =>
      exact List.forall_mem_cons.2 ⟨signature, List.forall_mem_append.2 ⟨List.forall_mem_append.2
        ⟨stmts each, exprs eachMark⟩, option result⟩⟩
    | ret inside => exact option inside
    | branch condition each eachOther =>
      exact List.forall_mem_cons.2 ⟨⟨_, condition⟩,
        List.forall_mem_append.2 ⟨stmts each, stmts eachOther⟩⟩
    | foreign => exact fun _ mem => absurd mem List.not_mem_nil
  | _ => exact loading h

end Node
end FlatRecord.Script
