import FlatRecord.Execution.TypeSource
import FlatRecord.Proofs.Outcome
import FlatRecord.Proofs.Script.Nodes

/-!
# Source text in annotations

A text where a type is expected is read as source text. An object in which no text stands where a type
is looked for is settled: the type that it gives is the same in every scope, since nothing is read to
find it. What an expression means is such an object, unless a text comes into it: as a literal, by way
of a name that means one, or from a call that makes one.
-/

namespace FlatRecord.Execution

open FlatRecord.Script

/-- No text stands in an object where a type can be looked for. -/
inductive Object.IsTextFree : Object → Prop where
  | datum {v : Datum} (other : ∀ s, v ≠ .text s) : IsTextFree (.datum v)
  | tuple {items : List Object} (each : ∀ o ∈ items, IsTextFree o) : IsTextFree (.tuple items)
  | list {items : List Object} : IsTextFree (.list items)
  | map {entries : List (Object × Object)} : IsTextFree (.map entries)
  | type {name : TypeName} : IsTextFree (.type name)
  | function {name : FunctionName} : IsTextFree (.function name)
  | optionalForm : IsTextFree .optionalForm
  | module {name : String} : IsTextFree (.module name)
  | union {members : List Object} (each : ∀ o ∈ members, IsTextFree o) : IsTextFree (.union members)
  | annotated {base : Object} {notes : List Object} (inner : IsTextFree base) :
      IsTextFree (.annotated base notes)
  | field {settings : Bindings} : IsTextFree (.field settings)
  | method {name : String} {parameters : List String} {hints : Bindings} {behaviour : Behaviour} :
      IsTextFree (.method name parameters hints behaviour)

open Object (IsTextFree)

/-- An annotation is settled if it gives a type in which no name needs to be looked up. -/
def IsSettled (hint : Object) : Prop := ∃ type, ∀ scope, typeOfHint scope hint = .ok type

section Types

variable {o p : Object} {types : List Object} {expectation : String}

theorem distinct_subset : ∀ o ∈ distinct types, o ∈ types := by
  induction types with
  | nil => exact fun _ mem => mem
  | cons first rest ih =>
    intro o mem
    obtain rfl | among := List.mem_cons.1 mem
    · exact .head _
    · exact .tail _ (ih o (List.mem_filter.1 among).1)

theorem isTextFree_membersOf (free : IsTextFree o) : ∀ p ∈ membersOf o, IsTextFree p := by
  unfold membersOf
  split
  · cases free with
    | union each => exact each
  · exact List.forall_mem_singleton.2 free

theorem isTextFree_unionOf (free : ∀ o ∈ types, IsTextFree o) : IsTextFree (unionOf types) := by
  have each : ∀ o ∈ distinct (types.flatMap membersOf), IsTextFree o := fun o mem => by
    obtain ⟨type, among, member⟩ := List.mem_flatMap.1 (distinct_subset o mem)
    exact isTextFree_membersOf (free type among) o member
  unfold unionOf
  split
  · rename_i one same
    exact each one (by simp [same])
  · exact .union each

theorem isTextFree_asType (free : IsTextFree o) (taken : asType expectation o = .ok p) :
    IsTextFree p := by
  unfold asType at taken
  split at taken
  · obtain rfl := Except.ok.inj taken
    exact .type
  · cases free with
    | datum other => exact absurd rfl (other _)
  · cases taken
  · cases taken
  · obtain rfl := Except.ok.inj taken
    exact free

theorem isTextFree_applyType {owner argument : Object} (free : IsTextFree argument)
    (applied : applyType owner argument = .ok p) : IsTextFree p := by
  unfold applyType at applied
  split at applied
  · obtain ⟨inner, taken, applied⟩ := bind_eq_ok.1 applied
    obtain rfl := Except.ok.inj applied
    refine isTextFree_unionOf (List.forall_mem_cons.2 ⟨isTextFree_asType free taken, ?_⟩)
    exact List.forall_mem_singleton.2 .type
  · obtain ⟨inner, taken, applied⟩ := bind_eq_ok.1 applied
    cases free with
    | tuple each =>
      have kept := isTextFree_asType (each _ (.head _)) taken
      split at applied <;> obtain rfl := Except.ok.inj applied
      · cases kept with
        | annotated inner => exact .annotated inner
      · exact .annotated kept
  all_goals cases applied

end Types

section Operations

variable {o p left right : Object}

theorem isTextFree_memberOf {owner : Object} {name : String} (taken : memberOf owner name = .ok p) :
    IsTextFree p := by
  unfold memberOf at taken
  split at taken
  case h_1 | h_2 | h_3 =>
    obtain rfl := Except.ok.inj taken
    exact .type
  all_goals cases taken

theorem isTextFree_applyUnary {op : UnaryOp} (applied : applyUnary op o = .ok p) : IsTextFree p := by
  unfold applyUnary at applied
  split at applied
  case h_5 | h_8 | h_10 => cases applied
  all_goals
    obtain rfl := Except.ok.inj applied
    exact .datum nofun

theorem isTextFree_applyBinary {op : BinaryOp} (first : IsTextFree left) (second : IsTextFree right)
    (applied : applyBinary op left right = .ok p) : IsTextFree p := by
  unfold applyBinary at applied
  split at applied
  · cases first with
    | datum other => exact absurd rfl (other _)
  · obtain rfl := Except.ok.inj applied
    exact .datum nofun
  · cases applied
  · split at applied
    · obtain ⟨a, one, applied⟩ := bind_eq_ok.1 applied
      obtain ⟨b, other, applied⟩ := bind_eq_ok.1 applied
      obtain rfl := Except.ok.inj applied
      refine isTextFree_unionOf (List.forall_mem_cons.2 ⟨isTextFree_asType first one, ?_⟩)
      exact List.forall_mem_singleton.2 (isTextFree_asType second other)
    · cases applied
  · cases applied

theorem isTextFree_fieldWith {settings : Bindings} (made : fieldWith settings = .ok p) :
    IsTextFree p := by
  unfold fieldWith at made
  split at made
  · cases made
  · obtain rfl := Except.ok.inj made
    exact .field

theorem isTextFree_fieldSettings {args : List Object} {keywords : Bindings}
    (made : fieldSettings args keywords = .ok p) : IsTextFree p := by
  unfold fieldSettings at made
  split at made
  · exact isTextFree_fieldWith made
  · split at made
    · cases made
    · exact isTextFree_fieldWith made
  · cases made

/-- A call gives no text unless a text is asked for. -/
theorem isTextFree_applyCall {callee : Object} {args : List Object} {keywords : Bindings}
    (other : callee ≠ .type .text) (applied : applyCall callee args keywords = .ok p) :
    IsTextFree p := by
  unfold applyCall at applied
  split at applied
  · exact isTextFree_fieldSettings applied
  · split at applied
    · cases applied
    · split at applied
      · split at applied
        · cases applied
        · obtain rfl := Except.ok.inj applied
          exact .datum nofun
      · cases applied
  · split at applied
    · cases applied
    · split at applied
      · split at applied
        · obtain rfl := Except.ok.inj applied
          exact .datum nofun
        · cases applied
      · cases applied
  · exact absurd rfl other
  · dsimp only at applied
    split at applied
    case h_1 | h_2 =>
      obtain rfl := Except.ok.inj applied
      exact .map
    all_goals cases applied
  all_goals cases applied

end Operations

/-- No text comes into an expression at a node of it: the node is no text, no name of anything but an
object without texts, and no call that asks for a text. -/
def BringsNoText (scope : Scope) : Node → Prop
  | .expr (.constant (.datum (.text _))) => False
  | .expr (.name id _) => ∀ o, scope.resolve id = .ok o → IsTextFree o
  | .expr (.call callee _ _) => evaluate scope callee ≠ .ok (.type .text)
  | _ => True

mutual

/-- An expression into which no text comes means an object without texts. -/
theorem evaluate_isTextFree {scope : Scope} {e : Expr} {o : Object}
    (each : Node.Each (BringsNoText scope) (.expr e)) (evaluated : evaluate scope e = .ok o) :
    IsTextFree o := by
  cases e with
  | constant c =>
    cases c with
    | datum v =>
      obtain rfl := Except.ok.inj evaluated
      refine .datum ?_
      rintro s rfl
      exact each _ .self
    | _ => cases evaluated
  | name id use => exact each _ .self o evaluated
  | member owner attr use =>
    obtain ⟨container, -, taken⟩ := bind_eq_ok.1 evaluated
    exact isTextFree_memberOf taken
  | subscript owner index use =>
    obtain ⟨-, -, inIndex, -⟩ := Node.each_subscript.1 each
    obtain ⟨container, -, evaluated⟩ := bind_eq_ok.1 evaluated
    obtain ⟨argument, given, applied⟩ := bind_eq_ok.1 evaluated
    exact isTextFree_applyType (evaluate_isTextFree inIndex given) applied
  | list items use =>
    obtain ⟨objects, -, rfl⟩ := map_eq_ok.1 evaluated
    exact .list
  | tuple items use =>
    obtain ⟨objects, collected, rfl⟩ := map_eq_ok.1 evaluated
    exact .tuple (meanings_areTextFree (Node.each_tuple.1 each).2.1 collected)
  | dict keys values =>
    obtain ⟨entries, -, rfl⟩ := map_eq_ok.1 evaluated
    exact .map
  | call callee args keywords =>
    obtain ⟨function, called, evaluated⟩ := bind_eq_ok.1 evaluated
    obtain ⟨objects, -, evaluated⟩ := bind_eq_ok.1 evaluated
    obtain ⟨named, -, applied⟩ := bind_eq_ok.1 evaluated
    refine isTextFree_applyCall ?_ applied
    rintro rfl
    exact each _ .self called
  | unary op operand =>
    obtain ⟨inner, -, applied⟩ := bind_eq_ok.1 evaluated
    exact isTextFree_applyUnary applied
  | binary left op right =>
    obtain ⟨-, inLeft, -, inRight⟩ := Node.each_binary.1 each
    obtain ⟨first, one, evaluated⟩ := bind_eq_ok.1 evaluated
    obtain ⟨second, other, applied⟩ := bind_eq_ok.1 evaluated
    exact isTextFree_applyBinary (evaluate_isTextFree inLeft one)
      (evaluate_isTextFree inRight other) applied
  | compare left ops rights =>
    obtain ⟨first, -, evaluated⟩ := bind_eq_ok.1 evaluated
    obtain ⟨holds, -, made⟩ := bind_eq_ok.1 evaluated
    obtain rfl := Except.ok.inj made
    exact .datum nofun
  | foreign construct parts => cases evaluated

theorem meanings_areTextFree {scope : Scope} {items : List Expr} {objects : List Object}
    (each : ∀ e ∈ items, Node.Each (BringsNoText scope) (.expr e))
    (collected : collect (meanings scope items) = .ok objects) : ∀ o ∈ objects, IsTextFree o := by
  cases items with
  | nil =>
    obtain rfl := Except.ok.inj collected
    exact fun _ mem => absurd mem List.not_mem_nil
  | cons e rest =>
    obtain ⟨first, evaluated, collected⟩ := bind_eq_ok.1 collected
    obtain ⟨others, behind, made⟩ := bind_eq_ok.1 collected
    obtain rfl := Except.ok.inj made
    exact List.forall_mem_cons.2 ⟨evaluate_isTextFree (each e (.head _)) evaluated,
      meanings_areTextFree (fun e mem => each e (.tail _ mem)) behind⟩

end

section Types

/-- What is free of texts gives its type without a name that is looked up. -/
theorem resolveType_of_isTextFree (depth : Nat) {o : Object} (free : IsTextFree o) :
    ∃ type, ∀ scope, resolveType scope depth o = .ok type := by
  induction depth generalizing o with
  | zero => exact ⟨o, fun _ => rfl⟩
  | succ depth ih =>
    cases free with
    | @union members each =>
      choose type settled using fun m : {m // m ∈ members} => ih (each m.1 m.2)
      refine ⟨unionOf (members.attach.map type), fun scope => ?_⟩
      have all : (members.attach.map Subtype.val).mapM (resolveType scope depth) =
          .ok (members.attach.map type) := mapM_map_eq_pure fun m _ => settled m scope
      rw [List.attach_map_subtype_val] at all
      rw [resolveType, all]
      rfl
    | annotated inner =>
      obtain ⟨type, settled⟩ := ih inner
      exact ⟨_, fun scope => by rw [resolveType, settled scope]; rfl⟩
    | _ => exact ⟨_, fun _ => rfl⟩

theorem isSettled_of_isTextFree {hint : Object} (free : IsTextFree hint) : IsSettled hint := by
  cases free with
  | @datum v other =>
    cases v with
    | text s => exact absurd rfl (other s)
    | null => exact ⟨_, fun _ => rfl⟩
    | _ => exact resolveType_of_isTextFree _ (.datum other)
  | _ => exact resolveType_of_isTextFree _ (by constructor <;> assumption)

end Types

end FlatRecord.Execution
