import FlatRecord.Proofs.Admission.Soundness

/-!
# Attributes that admitted modules store

A method of an admitted class stores an attribute only as the setter that its form makes it: of the
instance itself, as the one target of its one assignment. Everywhere else, the targets of the
assignments in the body of the class are the only places where attributes are stored. Admission looks
at their names, but not at the use that is made of them: a member of a module may stand there.
-/

namespace FlatRecord.Admission

open FlatRecord.Script
open FlatRecord.Generation (read literal textLiteral attributeOf)

/-- Whether a node is an attribute that is stored. -/
def isStoredMember : Node → Bool
  | .expr (.member _ _ .store) => true
  | _ => false

/-- No attribute is stored in a node. -/
abbrev StoresNothing (n : Node) : Prop := n.Each fun inner => isStoredMember inner = false

/-- A target of an assignment in which no attribute is stored but the target itself, or one of the
targets that it is taken apart into. -/
inductive IsTarget : Expr → Prop where
  | name (id : String) : IsTarget (.name id .store)
  | member {owner : Expr} (attr : String) (inside : StoresNothing (.expr owner)) :
      IsTarget (.member owner attr .store)
  | item {owner index : Expr} (inside : StoresNothing (.expr owner))
      (key : StoresNothing (.expr index)) : IsTarget (.subscript owner index .store)
  | list {items : List Expr} (each : ∀ e ∈ items, IsTarget e) : IsTarget (.list items .store)
  | tuple {items : List Expr} (each : ∀ e ∈ items, IsTarget e) : IsTarget (.tuple items .store)

/-- Where a member of a class stores attributes: nowhere; in the targets of an assignment; or, in a
setter, in an attribute of `self` that is the one target of its one assignment. -/
inductive StoresInTargets : Stmt → Prop where
  | nowhere {s : Stmt} (h : StoresNothing (.stmt s)) : StoresInTargets s
  | assignment {line : Nat} {targets : List Expr} {value : Expr} (left : ∀ e ∈ targets, IsTarget e)
      (right : StoresNothing (.expr value)) : StoresInTargets (.assign line targets value)
  | annotated {line : Nat} {target hint : Expr} {value : Option Expr} {simple : Bool}
      (left : IsTarget target) (type : StoresNothing (.expr hint))
      (right : ∀ e ∈ value, StoresNothing (.expr e)) :
      StoresInTargets (.annotated line target hint value simple)
  | setter {line at_line : Nat} {name parameter attr : String} {params : Params}
      {notes : List Stmt} {returns : Option Expr} (signature : StoresNothing (.params params))
      (documentation : IsDocumentation notes)
      (result : ∀ e ∈ returns, StoresNothing (.expr e)) :
      StoresInTargets (.functionDef line name params
        (notes ++ [.assign at_line [.member (read "self") attr .store] (read parameter)])
        [] returns)

variable {className name : String} {parameters : List String} {body : List Stmt} {s : Stmt}
  {n : Node} {e : Expr}

/-- Nothing is stored where everything is there for its value. -/
theorem storesNothing_of_loads (familiar : n.Each IsFamiliar) (h : n.Loads) : StoresNothing n := by
  have each : n.Each Node.Loads :=
    familiar.descend h fun _ known loads => loads.part (isForeign_of_isFamiliar known)
  refine each.mono fun m loads => ?_
  cases m with
  | expr e =>
    cases e with
    | member owner attr use =>
      cases loads
      rfl
    | _ => rfl
  | _ => rfl

theorem isTarget_of_fits (familiar : Node.Each IsFamiliar (.expr e)) (fits : e.Fits .store) :
    IsTarget e := by
  generalize stored : Use.store = use at fits
  induction fits with
  | name =>
    subst stored
    exact .name _
  | member inside =>
    subst stored
    exact .member _ (storesNothing_of_loads (Node.each_member.1 familiar).2.1 inside)
  | subscript inside key =>
    subst stored
    obtain ⟨-, ofOwner, ofIndex, -⟩ := Node.each_subscript.1 familiar
    exact .item (storesNothing_of_loads ofOwner inside) (storesNothing_of_loads ofIndex key)
  | list each ih =>
    subst stored
    exact .list fun e mem => ih e mem ((Node.each_list.1 familiar).2.1 e mem) rfl
  | tuple each ih =>
    subst stored
    exact .tuple fun e mem => ih e mem ((Node.each_tuple.1 familiar).2.1 e mem) rfl
  | foreign => exact absurd (familiar _ .self) (by simp [IsFamiliar, isFamiliar])
  | _ => cases stored

theorem IsDocumentation.storesNothing {notes : List Stmt} (h : IsDocumentation notes) :
    ∀ s ∈ notes, StoresNothing (.stmt s) := by
  cases h <;> simp [StoresNothing, textLiteral, literal, isStoredMember]

/-- The body of a method stores nothing unless it is that of a setter. -/
theorem IsTemplate.stores (h : IsTemplate className name parameters body) :
    (∀ s ∈ body, StoresNothing (.stmt s)) ∨ ∃ line parameter attr,
      body = [.assign line [.member (Generation.read "self") attr .store]
        (Generation.read parameter)] := by
  cases h with
  | store parameter attr => exact .inr ⟨_, parameter, attr, rfl⟩
  | spell sum =>
    refine .inl (List.forall_mem_singleton.2 (Node.each_ret.2 ⟨rfl, ?_⟩))
    rintro _ ⟨⟩
    refine sum.each (fun e part => ?_) (fun _ _ => rfl) rfl
    cases part <;> simp [textLiteral, literal, attributeOf, Generation.read, isStoredMember]
  | _ =>
    simp [StoresNothing, superCall, attributesOf, literal, attributeOf, Generation.read,
      isStoredMember]

/-- A member of a class that has been read and passes stores attributes in targets only. -/
theorem IsMember.storesInTargets (h : IsMember className s) (vetted : IsVetted s) :
    StoresInTargets s := by
  obtain ⟨fits, familiar⟩ := vetted
  cases h with
  | documentation line text =>
    exact .nowhere (by simp [StoresNothing, textLiteral, literal, isStoredMember])
  | assignment =>
    obtain ⟨-, targets, value⟩ := Node.each_assign.1 familiar
    cases fits with
    | assign each inside =>
      exact .assignment (fun e mem => isTarget_of_fits (targets e mem) (each e mem))
        (storesNothing_of_loads value inside)
  | annotated =>
    obtain ⟨-, target, hint, value⟩ := Node.each_annotated.1 familiar
    cases fits with
    | annotated left type right =>
      exact .annotated (isTarget_of_fits target left) (storesNothing_of_loads hint type)
        fun e mem => storesNothing_of_loads (value e mem) (right e mem)
  | method h =>
    cases h with
    | mk documentation template =>
      obtain ⟨-, params, -, -, returns⟩ := Node.each_functionDef.1 familiar
      cases fits with
      | functionDef signature each eachMark result =>
        have ofParams := storesNothing_of_loads params signature
        have ofResult := fun e mem => storesNothing_of_loads (returns e mem) (result e mem)
        obtain nothing | ⟨line, parameter, attr, rfl⟩ := template.stores
        · exact .nowhere (Node.each_functionDef.2 ⟨rfl, ofParams,
            List.forall_mem_append.2 ⟨documentation.storesNothing, nothing⟩,
            fun _ mem => absurd mem List.not_mem_nil, ofResult⟩)
        · exact .setter ofParams documentation ofResult

/-- A statement beside the class of a module stores no attribute. -/
theorem IsHeader.storesNothing (h : IsHeader s) (vetted : IsVetted s) :
    StoresNothing (.stmt s) := by
  obtain ⟨fits, familiar⟩ := vetted
  cases h with
  | assignment =>
    obtain ⟨-, -, value⟩ := Node.each_assign.1 familiar
    cases fits with
    | assign each inside =>
      exact Node.each_assign.2 ⟨rfl, by simp [isStoredMember], storesNothing_of_loads value inside⟩
  | _ => simp [StoresNothing, textLiteral, literal, isStoredMember]

/-- An admitted module stores attributes in setters and in targets of the assignments in the body of
its class, and nowhere else. -/
theorem storesInTargets_of_admitted {source : List Char} {m : Module}
    (parsed : Module.read source = .ok m) (admitted : m.admit = .ok className) :
    ∃ before line body after,
      m.body = before ++ .classDef line className [read "BaseModel"] [] body [] :: after ∧
      (∀ s ∈ before ++ after, StoresNothing (.stmt s)) ∧ ∀ s ∈ body, StoresInTargets s := by
  obtain ⟨before, line, body, after, layout, beside, inside⟩ := layout_of_admitted parsed admitted
  refine ⟨before, line, body, after, layout, fun s mem => ?_, fun s mem => ?_⟩
  · exact (beside s mem).2.1.storesNothing (beside s mem).1
  · exact (inside s mem).2.1.storesInTargets (inside s mem).1

/-- The module that is generated for a person stores attributes nowhere else. -/
theorem storesInTargets_person : ∃ m before line body after,
    Module.read (Generation.module Descriptor.person.planned).print = .ok m ∧
      m.admit = .ok "Person" ∧
      m.body = before ++ .classDef line "Person" [read "BaseModel"] [] body [] :: after ∧
      (∀ s ∈ before ++ after, StoresNothing (.stmt s)) ∧ ∀ s ∈ body, StoresInTargets s := by
  obtain ⟨m, parsed, admitted⟩ := admit_person
  obtain ⟨before, line, body, after, layout, stores⟩ := storesInTargets_of_admitted parsed admitted
  exact ⟨m, before, line, body, after, parsed, admitted, layout, stores⟩

/-- A module whose class assigns to a member of another module. -/
def intrusiveSource : String :=
  "import datetime\nfrom pydantic import BaseModel\nclass P(BaseModel):\n    datetime.datetime = str\n"

/-- Whether a node stores the member `datetime` of the module `datetime`. -/
def storesTimestamp : Node → Bool
  | .expr (.member (.name owner .load) attr .store) => owner == "datetime" && attr == "datetime"
  | _ => false

/-- Admission lets the class assign to the other module's member. -/
theorem admit_intrusiveSource : ∃ m, Module.read intrusiveSource.toList = .ok m ∧
    m.admit = .ok "P" ∧ .expr (.member (read "datetime") "datetime" .store) ∈ m.walk := by
  have holds : admitsAs "P" (fun m => m.walk.any storesTimestamp) intrusiveSource = true := by
    decide +kernel
  obtain ⟨m, parsed, admitted, stored⟩ := of_admitsAs holds
  obtain ⟨n, mem, stores⟩ := List.any_eq_true.1 stored
  refine ⟨m, parsed, admitted, ?_⟩
  unfold storesTimestamp at stores
  split at stores
  · obtain ⟨owner, attr⟩ := Bool.and_eq_true_iff.1 stores
    obtain rfl := eq_of_beq owner
    obtain rfl := eq_of_beq attr
    exact mem
  · cases stores

end FlatRecord.Admission
