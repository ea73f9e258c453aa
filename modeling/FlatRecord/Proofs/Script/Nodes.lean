import FlatRecord.Script.Tree
import Mathlib.Tactic.Common

/-!
# Nodes of syntax trees

A walk through a tree visits exactly the nodes below its root, so that a property of all nodes that
are visited is one of the root and of everything below its parts.
-/

namespace FlatRecord.Script

namespace Node

/-- Whether a node is the given one or stands below it. -/
inductive Below (n : Node) : Node → Prop where
  | self : Below n n
  | part {p m : Node} (h : p ∈ m.parts) (below : Below n p) : Below n m

theorem below_iff {n m : Node} : Below n m ↔ n = m ∨ ∃ p ∈ m.parts, Below n p := by
  constructor
  · rintro (_ | ⟨h, below⟩)
    · exact .inl rfl
    · exact .inr ⟨_, h, below⟩
  · rintro (rfl | ⟨p, h, below⟩)
    · exact .self
    · exact .part h below

theorem mem_walkLevel {n : Node} {level : List Node} :
    n ∈ walkLevel level ↔ ∃ m ∈ level, Below n m := by
  induction level using walkLevel.induct with
  | case1 => simp [walkLevel]
  | case2 level nonempty ih =>
    rw [walkLevel, dif_neg nonempty, List.mem_append, ih]
    constructor
    · rintro (mem | ⟨p, mem, below⟩)
      · exact ⟨n, mem, .self⟩
      · obtain ⟨m, among, part⟩ := List.mem_flatMap.1 mem
        exact ⟨m, among, .part part below⟩
    · rintro ⟨m, among, below⟩
      obtain rfl | ⟨p, part, below⟩ := below_iff.1 below
      · exact .inl among
      · exact .inr ⟨p, List.mem_flatMap.2 ⟨m, among, part⟩, below⟩

/-- Whether a property holds of a node and of everything below it. -/
def Each (P : Node → Prop) (n : Node) : Prop := ∀ m, Below m n → P m

variable {P Q : Node → Prop} {n : Node}

theorem each_iff : Each P n ↔ P n ∧ ∀ p ∈ n.parts, Each P p := by
  constructor
  · exact fun h => ⟨h n .self, fun p part m below => h m (.part part below)⟩
  · rintro ⟨here, parts⟩ m below
    obtain rfl | ⟨p, part, below⟩ := below_iff.1 below
    · exact here
    · exact parts p part m below

theorem Each.mono (h : Each P n) (le : ∀ m, P m → Q m) : Each Q n :=
  fun m below => le m (h m below)

/-- What holds of everything below a node holds of everything below what stands below it. -/
theorem Each.below {m : Node} (h : Each P n) (below : Below m n) : Each P m := by
  induction below with
  | self => exact h
  | part mem _ ih => exact ih ((each_iff.1 h).2 _ mem)

/-- A property that passes from a node to its parts, where all nodes have another property, holds of
everything below a node that has it. -/
theorem Each.descend (all : Each Q n) (here : P n)
    (step : ∀ m, Q m → P m → ∀ p ∈ m.parts, P p) : Each P n := by
  intro m below
  induction below with
  | self => exact here
  | part mem _ ih =>
    exact ih (fun m below => all m (.part mem below)) (step _ (all _ .self) here _ mem)

section Constructs

variable {id attr name : String} {use : Use} {value : Constant} {line : Nat}
  {e owner index callee left right test target hint : Expr} {items args rights targets : List Expr}
  {keywords : List Keyword} {op : BinaryOp} {sign : UnaryOp} {ops : List CompareOp}
  {returned initial returns : Option Expr} {body otherwise : List Stmt} {simple : Bool}

@[simp]
theorem each_use : Each P (.use use) ↔ P (.use use) := by
  rw [each_iff]
  simp [parts]

@[simp]
theorem each_unaryOp : Each P (.unaryOp sign) ↔ P (.unaryOp sign) := by
  rw [each_iff]
  simp [parts]

@[simp]
theorem each_binaryOp : Each P (.binaryOp op) ↔ P (.binaryOp op) := by
  rw [each_iff]
  simp [parts]

@[simp]
theorem each_compareOp {comparison : CompareOp} :
    Each P (.compareOp comparison) ↔ P (.compareOp comparison) := by
  rw [each_iff]
  simp [parts]

@[simp]
theorem each_alias {a : Alias} : Each P (.alias a) ↔ P (.alias a) := by
  rw [each_iff]
  simp [parts]

@[simp]
theorem each_constant : Each P (.expr (.constant value)) ↔ P (.expr (.constant value)) := by
  rw [each_iff]
  simp [parts, Expr.parts]

@[simp]
theorem each_name : Each P (.expr (.name id use)) ↔ P (.expr (.name id use)) ∧ P (.use use) := by
  rw [each_iff]
  simp [parts, Expr.parts]

@[simp]
theorem each_member : Each P (.expr (.member owner attr use)) ↔
    P (.expr (.member owner attr use)) ∧ Each P (.expr owner) ∧ P (.use use) := by
  rw [each_iff]
  simp [parts, Expr.parts]

@[simp]
theorem each_subscript : Each P (.expr (.subscript owner index use)) ↔
    P (.expr (.subscript owner index use)) ∧ Each P (.expr owner) ∧ Each P (.expr index) ∧
      P (.use use) := by
  rw [each_iff]
  simp [parts, Expr.parts]

@[simp]
theorem each_list : Each P (.expr (.list items use)) ↔
    P (.expr (.list items use)) ∧ (∀ e ∈ items, Each P (.expr e)) ∧ P (.use use) := by
  rw [each_iff]
  simp [parts, Expr.parts, or_imp, forall_and]

@[simp]
theorem each_tuple : Each P (.expr (.tuple items use)) ↔
    P (.expr (.tuple items use)) ∧ (∀ e ∈ items, Each P (.expr e)) ∧ P (.use use) := by
  rw [each_iff]
  simp [parts, Expr.parts, or_imp, forall_and]

@[simp]
theorem each_call : Each P (.expr (.call callee args keywords)) ↔
    P (.expr (.call callee args keywords)) ∧ Each P (.expr callee) ∧
      (∀ e ∈ args, Each P (.expr e)) ∧ ∀ k ∈ keywords, Each P (.keyword k) := by
  rw [each_iff]
  simp [parts, Expr.parts, or_imp, forall_and]

@[simp]
theorem each_unary : Each P (.expr (.unary sign e)) ↔
    P (.expr (.unary sign e)) ∧ P (.unaryOp sign) ∧ Each P (.expr e) := by
  rw [each_iff]
  simp [parts, Expr.parts]

@[simp]
theorem each_binary : Each P (.expr (.binary left op right)) ↔
    P (.expr (.binary left op right)) ∧ Each P (.expr left) ∧ P (.binaryOp op) ∧
      Each P (.expr right) := by
  rw [each_iff]
  simp [parts, Expr.parts]

@[simp]
theorem each_compare : Each P (.expr (.compare left ops rights)) ↔
    P (.expr (.compare left ops rights)) ∧ Each P (.expr left) ∧ (∀ op ∈ ops, P (.compareOp op)) ∧
      ∀ e ∈ rights, Each P (.expr e) := by
  rw [each_iff]
  simp [parts, Expr.parts, or_imp, forall_and]

@[simp]
theorem each_statement : Each P (.stmt (.expr line e)) ↔
    P (.stmt (.expr line e)) ∧ Each P (.expr e) := by
  rw [each_iff]
  simp [parts, Stmt.parts]

@[simp]
theorem each_assign : Each P (.stmt (.assign line targets e)) ↔
    P (.stmt (.assign line targets e)) ∧ (∀ t ∈ targets, Each P (.expr t)) ∧ Each P (.expr e) := by
  rw [each_iff]
  simp [parts, Stmt.parts, or_imp, forall_and]

@[simp]
theorem each_ret : Each P (.stmt (.ret line returned)) ↔
    P (.stmt (.ret line returned)) ∧ ∀ e ∈ returned, Each P (.expr e) := by
  rw [each_iff]
  simp [parts, Stmt.parts]

@[simp]
theorem each_branch : Each P (.stmt (.branch line test body otherwise)) ↔
    P (.stmt (.branch line test body otherwise)) ∧ Each P (.expr test) ∧
      (∀ s ∈ body, Each P (.stmt s)) ∧ ∀ s ∈ otherwise, Each P (.stmt s) := by
  rw [each_iff]
  simp [parts, Stmt.parts, or_imp, forall_and]

@[simp]
theorem each_annotated : Each P (.stmt (.annotated line target hint initial simple)) ↔
    P (.stmt (.annotated line target hint initial simple)) ∧ Each P (.expr target) ∧
      Each P (.expr hint) ∧ ∀ e ∈ initial, Each P (.expr e) := by
  rw [each_iff]
  simp [parts, Stmt.parts]

@[simp]
theorem each_functionDef {params : Params} {decorators : List Expr} :
    Each P (.stmt (.functionDef line name params body decorators returns)) ↔
      P (.stmt (.functionDef line name params body decorators returns)) ∧ Each P (.params params) ∧
        (∀ s ∈ body, Each P (.stmt s)) ∧ (∀ e ∈ decorators, Each P (.expr e)) ∧
        ∀ e ∈ returns, Each P (.expr e) := by
  rw [each_iff]
  simp [parts, Stmt.parts, or_imp, forall_and]

@[simp]
theorem each_importModules {names : List Alias} : Each P (.stmt (.importModules line names)) ↔
    P (.stmt (.importModules line names)) ∧ ∀ a ∈ names, P (.alias a) := by
  rw [each_iff]
  simp [parts, Stmt.parts]

@[simp]
theorem each_importFrom {source : Option String} {names : List Alias} {level : Nat} :
    Each P (.stmt (.importFrom line source names level)) ↔
      P (.stmt (.importFrom line source names level)) ∧ ∀ a ∈ names, P (.alias a) := by
  rw [each_iff]
  simp [parts, Stmt.parts]

end Constructs

theorem forall_mem_walk : (∀ m ∈ n.walk, P m) ↔ Each P n := by
  simp only [walk, mem_walkLevel, List.mem_singleton, exists_eq_left, Each]

end Node

theorem Module.forall_mem_walk {P : Node → Prop} {m : Module} :
    (∀ n ∈ m.walk, P n) ↔ ∀ s ∈ m.body, Node.Each P (.stmt s) := by
  simp only [walk, Node.mem_walkLevel, Node.Each]
  constructor
  · exact fun h s mem n below => h n ⟨_, List.mem_map_of_mem mem, below⟩
  · rintro h n ⟨_, mem, below⟩
    obtain ⟨s, among, rfl⟩ := List.mem_map.1 mem
    exact h s among n below

end FlatRecord.Script
