import FlatRecord.Proofs.Script.FittingTrees
import FlatRecord.Script.Reading.Statement

/-!
# Trees that have been read

Whatever is read from a text fits together in the sense of `Module.Fits`.

The reader is a parser in a state monad, so the proof goes through it step by step: `Parse.Ensures`
says that whatever a step reads has a property, no matter which tokens it reads it from.
-/

namespace FlatRecord.Script

namespace Parse

variable {α β : Type} {P : α → Prop} {Q : β → Prop}

/-- Whatever a step reads has a property. -/
def Ensures (p : Parse α) (P : α → Prop) : Prop := ∀ ts a rest, p ts = some (a, rest) → P a

namespace Ensures

theorem pure {a : α} (h : P a) : Ensures (pure a) P := by
  rintro ts _ _ ⟨⟩
  exact h

theorem failure : Ensures failure P := fun _ _ _ read => nomatch read

theorem bind {p : Parse α} {f : α → Parse β} (first : Ensures p P)
    (next : ∀ a, P a → Ensures (f a) Q) : Ensures (p >>= f) Q := by
  intro ts b rest read
  obtain ⟨⟨a, ts'⟩, readFirst, readNext⟩ := Option.bind_eq_some_iff.1 read
  exact next a (first ts a ts' readFirst) ts' b rest readNext

/-- A step whose result is of no account. -/
theorem skip {p : Parse α} {f : α → Parse β} (next : ∀ a, Ensures (f a) Q) :
    Ensures (p >>= f) Q :=
  bind (P := fun _ => True) (fun _ _ _ _ => trivial) fun a _ => next a

theorem ite {c : Prop} [Decidable c] {x y : Parse α} (pos : Ensures x P) (neg : Ensures y P) :
    Ensures (if c then x else y) P := by
  split
  · exact pos
  · exact neg

theorem map {p : Parse α} {f : α → β} (h : Ensures p P) (next : ∀ a, P a → Q (f a)) :
    Ensures (f <$> p) Q := by
  rw [map_eq_pure_bind]
  exact bind h fun a ha => pure (next a ha)

theorem orElse {p q : Parse α} (first : Ensures p P) (second : Ensures q P) :
    Ensures (p <|> q) P := by
  intro ts a rest read
  change (p ts <|> q ts) = _ at read
  cases h : p ts with
  | none =>
    rw [h] at read
    exact second ts a rest read
  | some r =>
    rw [h] at read
    exact first ts a rest (h.trans read)

theorem take {value? : Token → Option α} (h : ∀ token a, value? token = some a → P a) :
    Ensures (take value?) P := by
  rintro (_ | ⟨t, ts⟩) a rest read
  · cases read
  · obtain ⟨b, found, same⟩ := Option.map_eq_some_iff.1 read
    obtain ⟨rfl, -⟩ := Prod.mk.inj same
    exact h t.token b found

theorem commaItems {item : Parse α} {begins : Token → Bool} (each : Ensures item P) (rounds : Nat)
    {done : List α} (before : ∀ a ∈ done, P a) :
    Ensures (Parse.commaItems item begins rounds done) fun r => ∀ a ∈ r.1, P a := by
  induction rounds generalizing done with
  | zero => exact failure
  | succ rounds ih =>
    have all : ∀ a ∈ done.reverse, P a := fun a mem => before a (List.mem_reverse.1 mem)
    refine skip fun _ => ite (skip fun _ => ite ?_ (pure all)) (pure all)
    refine bind each fun next holds => ih fun a mem => ?_
    rcases List.mem_cons.1 mem with rfl | mem
    · exact holds
    · exact before a mem

end Ensures

end Parse

namespace Inner

open Parse

/-- Readers of inner expressions that read what can stand where it is loaded. -/
structure Fits (inner : Inner) : Prop where
  expression : inner.expression.Ensures (Expr.Fits .load)
  named : inner.named.Ensures (Expr.Fits .load)
  starExpressions : inner.starExpressions.Ensures (Expr.Fits .load)
  inversion : inner.inversion.Ensures (Expr.Fits .load)
  bitOr : inner.bitOr.Ensures (Expr.Fits .load)
  factor : inner.factor.Ensures (Expr.Fits .load)

variable {inner : Inner}

theorem fits_tupleUnless {items : List Expr × Bool} (each : ∀ e ∈ items.1, e.Fits .load) :
    (tupleUnless items).Fits .load := by
  unfold tupleUnless
  split
  · exact each _ (.head _)
  · exact .tuple each

theorem ensures_starOr {item : Parse Expr} (each : item.Ensures (Expr.Fits .load)) :
    (inner.starOr item).Ensures (Expr.Fits .load) :=
  .skip fun _ => .ite (.skip fun _ => .pure .foreign) each

theorem ensures_starItems {item : Parse Expr} (each : item.Ensures (Expr.Fits .load))
    {first : Expr} (fits : first.Fits .load) {begins : Token → Bool} :
    (commaItems (inner.starOr item) begins inner.bound [first]).Ensures
      fun r => ∀ e ∈ r.1, e.Fits .load :=
  .commaItems (ensures_starOr each) _ fun e mem => by rwa [List.mem_singleton.1 mem]

theorem ensures_yielded : inner.yielded.Ensures (Expr.Fits .load) :=
  .skip fun _ => .ite (.skip fun _ => .pure .foreign) <|
    .skip fun _ => .ite (.skip fun _ => .pure .foreign) (.pure .foreign)

theorem ensures_joinLiterals (items : List Literal) :
    (inner.joinLiterals items).Ensures (Expr.Fits .load) := by
  unfold joinLiterals
  split
  · exact .pure .constant
  · split
    · exact .pure .constant
    · exact .ite .failure (.skip fun _ => .pure .foreign)

section

variable (fits : inner.Fits)
include fits

theorem ensures_parenthesized : inner.parenthesized.Ensures (Expr.Fits .load) := by
  unfold parenthesized
  refine .skip fun _ => .ite (.pure (.tuple fun _ mem => absurd mem List.not_mem_nil)) ?_
  refine .skip fun _ => .ite (.bind ensures_yielded fun e he => .skip fun _ => .pure he) ?_
  refine .bind (ensures_starOr fits.named) fun first hfirst => .skip fun _ => .ite ?_ ?_
  · exact .ite (.skip fun _ => .skip fun _ => .skip fun _ => .pure .foreign)
      (.skip fun _ => .skip fun _ => .pure .foreign)
  · refine .bind (ensures_starItems fits.named hfirst) fun items each => .skip fun _ => ?_
    split
    · exact .ite .failure (.pure (each _ (.head _)))
    · exact .pure (.tuple each)

theorem ensures_listDisplay : inner.listDisplay.Ensures (Expr.Fits .load) := by
  unfold listDisplay
  refine .skip fun _ => .ite (.pure (.list fun _ mem => absurd mem List.not_mem_nil)) ?_
  refine .bind (ensures_starOr fits.named) fun first hfirst => .skip fun _ => .ite ?_ ?_
  · exact .ite (.skip fun _ => .skip fun _ => .skip fun _ => .pure .foreign)
      (.skip fun _ => .skip fun _ => .pure .foreign)
  · exact .bind (ensures_starItems fits.named hfirst) fun items each =>
      .skip fun _ => .pure (.list each)

/-- An entry whose key, if it has one, and whose value can stand where they are loaded. -/
private def FitsEntry (entry : Option Expr × Expr) : Prop :=
  (∀ e ∈ entry.1, e.Fits .load) ∧ entry.2.Fits .load

private theorem ensures_entry : inner.entry.Ensures FitsEntry := by
  unfold entry
  refine .skip fun _ => .ite ?_ ?_
  · exact .bind fits.bitOr fun e he => .pure ⟨(fun _ missing => nomatch missing), he⟩
  · refine .bind fits.expression fun key hkey => .skip fun _ => ?_
    refine .bind fits.expression fun value hvalue => .pure ⟨?_, hvalue⟩
    rintro _ ⟨⟩
    exact hkey

private theorem ensures_mapping {first : Option Expr × Expr} (hfirst : FitsEntry first) :
    (inner.mapping first).Ensures (Expr.Fits .load) := by
  have all : ∀ entry ∈ [first], FitsEntry entry :=
    fun entry mem => by rwa [List.mem_singleton.1 mem]
  refine .bind (.commaItems (ensures_entry fits) _ all) fun items each => .skip fun _ => .pure ?_
  refine .dict (fun e mem => ?_) fun e mem => ?_
  · obtain ⟨entry, among, same⟩ := List.mem_map.1 mem
    exact (each entry among).1 e same
  · obtain ⟨entry, among, rfl⟩ := List.mem_map.1 mem
    exact (each entry among).2

theorem ensures_braced : inner.braced.Ensures (Expr.Fits .load) := by
  unfold braced
  refine .skip fun _ => .ite (.pure ?_) ?_
  · exact .dict (fun _ mem => absurd mem List.not_mem_nil) fun _ mem => absurd mem List.not_mem_nil
  refine .skip fun _ => .ite (.bind (ensures_entry fits) fun first => ensures_mapping fits) ?_
  refine .skip fun _ => .bind (ensures_starOr fits.named) fun first hfirst => ?_
  refine .skip fun _ => .ite ?_ ?_
  · refine .bind fits.expression fun value hvalue => .skip fun _ => .ite ?_ ?_
    · exact .skip fun _ => .skip fun _ => .pure .foreign
    · refine ensures_mapping fits ⟨?_, hvalue⟩
      rintro _ ⟨⟩
      exact hfirst
  · refine .skip fun _ => .ite ?_ (.skip fun _ => .skip fun _ => .pure .foreign)
    exact .ite (.skip fun _ => .skip fun _ => .skip fun _ => .pure .foreign)
      (.skip fun _ => .skip fun _ => .pure .foreign)

theorem ensures_atom : inner.atom.Ensures (Expr.Fits .load) := by
  unfold atom
  refine .skip fun _ => .ite (ensures_parenthesized fits) ?_
  refine .skip fun _ => .ite (ensures_listDisplay fits) ?_
  refine .skip fun _ => .ite (ensures_braced fits) ?_
  refine .skip fun _ => .ite (.pure .constant) ?_
  refine .skip fun _ => .ite (.skip fun items => ensures_joinLiterals items) ?_
  refine .take fun token e found => ?_
  split at found
  · obtain rfl := Option.some.inj found
    exact .constant
  · split at found
    · obtain rfl := Option.some.inj found
      exact .constant
    · obtain ⟨id, _, rfl⟩ := Option.map_eq_some_iff.1 found
      exact .name
  · cases found

/-- Arguments that can stand where they are loaded. -/
private structure FitsArguments (given : Arguments) : Prop where
  args : ∀ e ∈ given.args, e.Fits .load
  keywords : ∀ k ∈ given.keywords, k.value.Fits .load

private theorem ensures_argument {given : Arguments} (before : FitsArguments given) :
    (inner.argument given).Ensures FitsArguments := by
  have withNamed {line : Nat} {name : Option String} {e : Expr} (he : e.Fits .load) :
      ∀ k ∈ Keyword.mk line name e :: given.keywords, k.value.Fits .load :=
    List.forall_mem_cons.2 ⟨he, before.keywords⟩
  unfold argument
  refine .skip fun line => .skip fun _ => .ite ?_ (.skip fun _ => .ite ?_ ?_)
  · exact .bind fits.expression fun e he => .pure ⟨before.args, withNamed he⟩
  · have read : (do
        let e ← inner.expression
        return { given with args := .foreign starred [.expr e] :: given.args }).Ensures
        FitsArguments :=
      .skip fun _ => .pure ⟨List.forall_mem_cons.2 ⟨.foreign, before.args⟩, before.keywords⟩
    exact .ite (.skip fun _ => read) read
  · refine .skip fun _ => .ite (.skip fun label => .skip fun _ => ?_) ?_
    · exact .bind fits.expression fun e he => .pure ⟨before.args, withNamed he⟩
    · have read : (do
          let e ← inner.named
          return { given with args := e :: given.args }).Ensures FitsArguments :=
        .bind fits.named fun e he =>
          .pure ⟨List.forall_mem_cons.2 ⟨he, before.args⟩, before.keywords⟩
      exact .ite (.skip fun _ => read) read

private theorem ensures_argumentsFrom (rounds : Nat) {given : Arguments}
    (before : FitsArguments given) :
    (inner.argumentsFrom rounds given).Ensures FitsArguments := by
  induction rounds generalizing given with
  | zero => exact .failure
  | succ rounds ih =>
    refine .skip fun _ => .ite (.pure before) ?_
    refine .bind (ensures_argument fits before) fun given after => ?_
    exact .skip fun _ => .ite (ih after) (.skip fun _ => .pure after)

omit fits in
private theorem FitsArguments.call {given : Arguments} (h : FitsArguments given) {callee : Expr}
    (target : callee.Fits .load) :
    (Expr.call callee given.args.reverse given.keywords.reverse).Fits .load :=
  .call target (fun e mem => h.args e (List.mem_reverse.1 mem))
    fun k mem => h.keywords k (List.mem_reverse.1 mem)

theorem ensures_arguments : inner.arguments.Ensures fun given =>
    (∀ e ∈ given.1, e.Fits .load) ∧ ∀ k ∈ given.2, k.value.Fits .load := by
  have none : FitsArguments ⟨[], [], false, false⟩ :=
    ⟨fun _ mem => absurd mem List.not_mem_nil, fun _ mem => absurd mem List.not_mem_nil⟩
  refine .bind (ensures_argumentsFrom fits _ none) fun given all => .pure ⟨?_, ?_⟩
  · exact fun e mem => all.args e (List.mem_reverse.1 mem)
  · exact fun k mem => all.keywords k (List.mem_reverse.1 mem)

theorem ensures_call {callee : Expr} (target : callee.Fits .load) :
    (inner.call callee).Ensures (Expr.Fits .load) := by
  have single {e : Expr} (he : e.Fits .load) : (Expr.call callee [e] []).Fits .load :=
    .call target (List.forall_mem_singleton.2 he) fun _ mem => absurd mem List.not_mem_nil
  unfold call
  refine .skip fun _ => .skip fun _ => .ite ?_ ?_
  · exact .bind (ensures_arguments fits) fun given all => .pure (.call target all.1 all.2)
  · refine .bind fits.named fun first hfirst => .skip fun _ => .ite ?_ ?_
    · exact .skip fun _ => .skip fun _ => .pure (single .foreign)
    · have before : FitsArguments ⟨[first], [], false, false⟩ :=
        ⟨List.forall_mem_singleton.2 hfirst, fun _ mem => absurd mem List.not_mem_nil⟩
      refine .skip fun _ => .ite ?_ (.skip fun _ => .pure (single hfirst))
      exact .bind (ensures_argumentsFrom fits _ before) fun given all => .pure (all.call target)

omit fits in
theorem ensures_range (lower : List Node) : (inner.range lower).Ensures (Expr.Fits .load) :=
  .skip fun _ => .skip fun _ => .ite (.skip fun _ => .pure .foreign) (.pure .foreign)

theorem ensures_index : inner.index.Ensures (Expr.Fits .load) := by
  unfold index
  refine .skip fun _ => .ite (.skip fun _ => .pure .foreign) ?_
  refine .skip fun _ => .ite (ensures_range []) (.skip fun _ => ?_)
  exact .bind fits.named fun e he => .skip fun _ => .ite (ensures_range _) (.pure he)

theorem ensures_indices : inner.indices.Ensures (Expr.Fits .load) := by
  refine .bind (ensures_index fits) fun first hfirst => ?_
  refine .bind (.commaItems (ensures_index fits) _ (List.forall_mem_singleton.2 hfirst))
    fun items each => .skip fun _ => ?_
  split
  · exact .ite (.pure (.tuple (List.forall_mem_singleton.2 (each _ (.head _)))))
      (.pure (each _ (.head _)))
  · exact .pure (.tuple each)

theorem ensures_trailers (rounds : Nat) {e : Expr} (he : e.Fits .load) :
    (inner.trailers rounds e).Ensures (Expr.Fits .load) := by
  induction rounds generalizing e with
  | zero => exact .failure
  | succ rounds ih =>
    refine .skip fun _ => .ite (.skip fun attr => ih (.member he)) ?_
    refine .skip fun _ => .ite (.bind (ensures_call fits he) fun e he => ih he) ?_
    exact .skip fun _ => .ite (.bind (ensures_indices fits) fun i hi => ih (.subscript he hi))
      (.pure he)

theorem ensures_primary : inner.primary.Ensures (Expr.Fits .load) :=
  .bind (ensures_atom fits) fun _ he => ensures_trailers fits _ he

theorem ensures_power : inner.power.Ensures (Expr.Fits .load) := by
  refine .skip fun awaits => .bind (ensures_primary fits) fun e he => ?_
  have base : (if awaits = true then .foreign "Await" [.expr e] else e : Expr).Fits .load := by
    split
    · exact .foreign
    · exact he
  exact .skip fun _ => .ite (.bind fits.factor fun exponent h => .pure (.binary base h))
    (.pure base)

theorem ensures_signed : inner.signed.Ensures (Expr.Fits .load) :=
  .skip fun _ => .ite (.skip fun _ => .bind fits.factor fun _ he => .pure (.unary he))
    (ensures_power fits)

omit fits in
theorem ensures_leftToRight {operand : Parse Expr} (each : operand.Ensures (Expr.Fits .load))
    (operator? : Token → Option BinaryOp) :
    (inner.leftToRight operand operator?).Ensures (Expr.Fits .load) := by
  have chain (rounds : Nat) {left : Expr} (hleft : left.Fits .load) :
      (Inner.chain operand operator? rounds left).Ensures (Expr.Fits .load) := by
    induction rounds generalizing left with
    | zero => exact .failure
    | succ rounds ih =>
      exact .skip fun _ => .ite
        (.skip fun op => .bind each fun right hright => ih (.binary hleft hright)) (.pure hleft)
  exact .bind each fun first hfirst => chain _ hfirst

theorem ensures_union : inner.union.Ensures (Expr.Fits .load) :=
  ensures_leftToRight (ensures_leftToRight (ensures_leftToRight (ensures_leftToRight
    (ensures_leftToRight (ensures_leftToRight (ensures_signed fits) _) _) _) _) _) _

theorem ensures_comparisons (rounds : Nat) : (inner.comparisons rounds).Ensures fun r =>
    r.1.length = r.2.length ∧ ∀ e ∈ r.2, e.Fits .load := by
  induction rounds with
  | zero => exact .failure
  | succ rounds ih =>
    refine .skip fun op => ?_
    cases op with
    | none => exact .pure ⟨rfl, fun _ mem => absurd mem List.not_mem_nil⟩
    | some op =>
      refine .bind (ensures_union fits) fun right hright => .bind ih fun others each => ?_
      exact .pure ⟨congrArg Nat.succ each.1, List.forall_mem_cons.2 ⟨hright, each.2⟩⟩

theorem ensures_comparison : inner.comparison.Ensures (Expr.Fits .load) := by
  refine .bind (ensures_union fits) fun left hleft => ?_
  refine .bind (ensures_comparisons fits _) fun r each => ?_
  split
  · exact .pure hleft
  · exact .pure (.compare each.1 hleft each.2)

theorem ensures_negation : inner.negation.Ensures (Expr.Fits .load) :=
  .skip fun _ => .ite (.bind fits.inversion fun _ he => .pure (.unary he))
    (ensures_comparison fits)

omit fits in
theorem ensures_joined {operand : Parse Expr} (each : operand.Ensures (Expr.Fits .load))
    (text construct : String) : (inner.joined text construct operand).Ensures (Expr.Fits .load) := by
  refine .bind each fun first hfirst => .skip fun others => ?_
  split
  · exact .pure hfirst
  · exact .pure .foreign

theorem ensures_disjunctions : inner.disjunctions.Ensures (Expr.Fits .load) :=
  ensures_joined (ensures_joined (ensures_negation fits) _ _) _ _

theorem ensures_conditional : inner.conditional.Ensures (Expr.Fits .load) := by
  refine .skip fun _ => .ite (.skip fun _ => .skip fun _ => .skip fun _ => .pure .foreign) ?_
  refine .bind (ensures_disjunctions fits) fun e he => .skip fun _ => .ite ?_ (.pure he)
  exact .skip fun _ => .skip fun _ => .skip fun _ => .pure .foreign

theorem ensures_assigned : inner.assigned.Ensures (Expr.Fits .load) :=
  .skip fun _ => .ite (.skip fun _ => .skip fun _ => .skip fun _ => .pure .foreign)
    (ensures_conditional fits)

theorem ensures_tuples : inner.tuples.Ensures (Expr.Fits .load) :=
  .bind (ensures_starOr (ensures_conditional fits)) fun _ hfirst =>
    .bind (ensures_starItems (ensures_conditional fits) hfirst) fun _ each =>
      .pure (fits_tupleUnless each)

theorem ensures_parameter (hinted starHint : Bool) :
    (inner.parameter hinted starHint).Ensures Param.Fits := by
  have plain {line : Nat} {id : String} : (Param.mk line id none).Fits := fun _ same => nomatch same
  have annotated {line : Nat} {id : String} {e : Expr} (he : e.Fits .load) :
      (Param.mk line id (some e)).Fits := by
    rintro _ ⟨⟩
    exact he
  refine .skip fun line => .skip fun id => .ite (.skip fun _ => .ite ?_ (.pure plain)) (.pure plain)
  exact .ite (.bind (ensures_starOr fits.expression) fun e he => .pure (annotated he))
    (.bind fits.expression fun e he => .pure (annotated he))

/-- Parameters whose annotations can stand where they do. -/
private structure FitsParameters (given : Parameters) : Prop where
  positional : ∀ p ∈ given.positional, p.Fits
  args : ∀ p ∈ given.args, p.Fits
  rest : ∀ p ∈ given.rest, p.Fits
  named : ∀ p ∈ given.named, p.Fits
  mapping : ∀ p ∈ given.mapping, p.Fits
  arity : given.namedDefaults.length = given.named.length
  namedDefaults : ∀ e, some e ∈ given.namedDefaults → e.Fits .load
  defaults : ∀ e ∈ given.defaults, e.Fits .load

omit fits in
private theorem FitsParameters.params {given : Parameters} (h : FitsParameters given) :
    given.params.Fits := by
  refine ⟨fun p mem => ?_, ?_, fun e mem => h.namedDefaults e (List.mem_reverse.1 mem),
    fun e mem => h.defaults e (List.mem_reverse.1 mem)⟩
  rotate_left
  · simpa [Parameters.params, Params.namedDefaults, Params.named] using h.arity
  simp only [Parameters.params, Params.all, List.mem_append, List.mem_reverse,
    Option.mem_toList] at mem
  obtain (((mem | mem) | mem) | mem) | mem := mem
  · exact h.positional p mem
  · exact h.args p mem
  · exact h.rest p mem
  · exact h.named p mem
  · exact h.mapping p mem

omit fits in
private theorem mem_some {p : Param} (hp : p.Fits) : ∀ q ∈ some p, q.Fits := by
  rintro _ ⟨⟩
  exact hp

private theorem ensures_namedParameters (hinted : Bool) (close : String) (rounds : Nat)
    {given : Parameters} (before : FitsParameters given) :
    (inner.namedParameters hinted close rounds given).Ensures FitsParameters := by
  induction rounds generalizing given with
  | zero => exact .failure
  | succ rounds ih =>
    refine .skip fun _ => .ite (.pure before) ?_
    refine .skip fun _ => .ite ?_ ?_
    · exact .bind (ensures_parameter fits hinted false) fun p hp => .skip fun _ =>
        .pure { before with mapping := mem_some hp }
    · refine .bind (ensures_parameter fits hinted false) fun p hp => .skip fun _ => ?_
      let extended (value : Option Expr) : Parameters :=
        { given with named := p :: given.named, namedDefaults := value :: given.namedDefaults }
      have next (value : Option Expr) (hvalue : ∀ e, some e = value → e.Fits .load) :
          FitsParameters (extended value) :=
        { before with
          named := List.forall_mem_cons.2 ⟨hp, before.named⟩
          arity := congrArg Nat.succ before.arity
          namedDefaults := fun e mem =>
            (List.mem_cons.1 mem).elim (hvalue e) (before.namedDefaults e) }
      have go (value : Option Expr) (hvalue : ∀ e, some e = value → e.Fits .load) : (do
          if ← mark? "," then inner.namedParameters hinted close rounds (extended value)
          else return extended value : Parse Parameters).Ensures FitsParameters :=
        .skip fun _ => .ite (ih (next value hvalue)) (.pure (next value hvalue))
      refine .ite (.bind (P := fun value => ∀ e, some e = value → e.Fits .load)
        (.map fits.expression ?_) go) (.bind (.pure fun _ missing => nomatch missing) go)
      rintro e he _ ⟨⟩
      exact he

private theorem ensures_parametersFrom (hinted : Bool) (close : String) (rounds : Nat)
    {given : Parameters} (before : FitsParameters given) :
    (inner.parametersFrom hinted close rounds given).Ensures FitsParameters := by
  induction rounds generalizing given with
  | zero => exact .failure
  | succ rounds ih =>
    have named {given : Parameters} (before : FitsParameters given) :=
      ensures_namedParameters fits hinted close inner.bound before
    refine .skip fun _ => .ite (.pure before) ?_
    refine .skip fun _ => .ite ?_ (.skip fun _ => .ite ?_ (.skip fun _ => .ite ?_ ?_))
    · exact .bind (ensures_parameter fits hinted false) fun p hp => .skip fun _ =>
        .pure { before with mapping := mem_some hp }
    · refine .skip fun _ => .ite (.skip fun _ => .ite (named before) .failure) ?_
      refine .bind (ensures_parameter fits hinted true) fun p hp => .skip fun _ => ?_
      have next : FitsParameters { given with rest := some p } :=
        { before with rest := mem_some hp }
      exact .ite (named next) (.pure next)
    · have next : FitsParameters { given with positional := given.args, args := [] } :=
        { before with
          positional := before.args
          args := fun _ mem => absurd mem List.not_mem_nil }
      have read : (do
          if ← mark? "," then
            inner.parametersFrom hinted close rounds
              { given with positional := given.args, args := [] }
          else return { given with positional := given.args, args := [] } :
            Parse Parameters).Ensures FitsParameters :=
        .skip fun _ => .ite (ih next) (.pure next)
      exact .ite (.skip fun _ => read) read
    · refine .bind (ensures_parameter fits hinted false) fun p hp => ?_
      have next : FitsParameters { given with args := p :: given.args } :=
        { before with args := List.forall_mem_cons.2 ⟨hp, before.args⟩ }
      have go {given : Parameters} (before : FitsParameters given) : (do
          if ← mark? "," then inner.parametersFrom hinted close rounds given
          else return given : Parse Parameters).Ensures FitsParameters :=
        .skip fun _ => .ite (ih before) (.pure before)
      refine .skip fun _ => .ite (.bind fits.expression fun e he => ?_) (.ite ?_ ?_)
      · have withDefault : FitsParameters
            { given with args := p :: given.args, defaults := e :: given.defaults } :=
          { next with defaults := List.forall_mem_cons.2 ⟨he, before.defaults⟩ }
        exact .bind (P := FitsParameters) (.pure withDefault) fun given after => go after
      · exact .bind (P := FitsParameters) (.pure next) fun given after => go after
      · exact .bind (P := FitsParameters) .failure fun given after => go after

theorem ensures_parameters (hinted : Bool) (close : String) :
    (inner.parameters hinted close).Ensures Params.Fits := by
  have none : FitsParameters ⟨[], [], [], .none, [], [], .none⟩ :=
    ⟨fun _ mem => absurd mem List.not_mem_nil, fun _ mem => absurd mem List.not_mem_nil,
      (fun _ missing => nomatch missing), fun _ mem => absurd mem List.not_mem_nil,
      (fun _ missing => nomatch missing), rfl, fun _ mem => absurd mem List.not_mem_nil,
      fun _ mem => absurd mem List.not_mem_nil⟩
  exact .bind (ensures_parametersFrom fits hinted close _ none) fun given all => .pure all.params

end

/-- The readers of every level read what can stand where it is loaded. -/
theorem fits_level (n : Nat) : (Inner.level n).Fits := by
  induction n with
  | zero => exact ⟨.failure, .failure, .failure, .failure, .failure, .failure⟩
  | succ n ih =>
    exact ⟨ensures_conditional ih, ensures_assigned ih, ensures_tuples ih, ensures_negation ih,
      ensures_union ih, ensures_signed ih⟩

end Inner

namespace Statement

open Parse

/-- A reader of statements that reads such as can stand where they do. -/
abbrev Sound (p : Parse (List Stmt)) : Prop := p.Ensures fun ss => ∀ s ∈ ss, s.Fits

variable {inner : Inner} {body statement : Parse (List Stmt)}

theorem ensures_blockLines (sound : Sound statement) (rounds : Nat) :
    Sound (blockLines statement rounds) := by
  induction rounds with
  | zero => exact .failure
  | succ rounds ih =>
    refine .bind sound fun first hfirst => .skip fun _ => .ite (.pure hfirst) ?_
    exact .bind ih fun others hothers => .pure (List.forall_mem_append.2 ⟨hfirst, hothers⟩)

section

variable (fits : inner.Fits)
include fits

theorem ensures_assignedValue : (assignedValue inner).Ensures (Expr.Fits .load) :=
  .skip fun _ => .ite Inner.ensures_yielded fits.starExpressions

theorem ensures_assignment (line rounds : Nat) {targets : List Expr}
    (before : ∀ e ∈ targets, e.Fits .store) :
    (assignment inner line rounds targets).Ensures Stmt.Fits := by
  induction rounds generalizing targets with
  | zero => exact .failure
  | succ rounds ih =>
    refine .bind (ensures_assignedValue fits) fun e he => .skip fun _ => .ite ?_ ?_
    · split
      · rename_i target turned
        exact ih (List.forall_mem_cons.2 ⟨Expr.fits_of_target? he turned, before⟩)
      · exact .failure
    · exact .pure (.assign (fun e mem => before e (List.mem_reverse.1 mem)) he)

theorem ensures_expressionStatement (line : Nat) :
    (expressionStatement inner line).Ensures Stmt.Fits := by
  unfold expressionStatement
  refine .skip fun bare => .bind fits.starExpressions fun e he => .skip fun _ => .ite ?_ ?_
  · refine .ite (.skip fun _ => ?_) ?_ <;>
    · refine .bind fits.expression fun hint hhint => .skip fun _ => .ite
        (.bind (P := fun value => ∀ e ∈ value, e.Fits .load)
          (.map (ensures_assignedValue fits) ?_) fun value hvalue => ?_)
        (.bind (P := fun value => ∀ e ∈ value, e.Fits .load)
          (.pure fun _ missing => nomatch missing) fun value hvalue => ?_)
      · rintro v hv _ ⟨⟩
        exact hv
      all_goals
        split
        · rename_i target turned
          exact .pure (.annotated (Expr.fits_of_target? he turned) hhint hvalue)
        · exact .failure
  · refine .skip fun _ => .ite ?_ ?_
    · split
      · rename_i target turned
        exact ensures_assignment fits line _
          (List.forall_mem_singleton.2 (Expr.fits_of_target? he turned))
      · exact .failure
    · refine .skip fun _ => .ite ?_ (.pure (.expr he))
      exact .ite (.skip fun _ => .skip fun _ => .pure .foreign) (.skip fun _ => .pure .foreign)

theorem ensures_returned (line : Nat) : (returned inner line).Ensures Stmt.Fits := by
  refine .skip fun _ => .ite ?_ (.pure (.ret fun _ missing => nomatch missing))
  refine .bind fits.starExpressions fun e he => .pure (.ret ?_)
  rintro _ ⟨⟩
  exact he

omit fits in
theorem ensures_importFrom (line : Nat) : (importFrom inner line).Ensures Stmt.Fits := by
  unfold importFrom
  refine .skip fun level => .skip fun named => .ite
    (.skip fun _ => .ite (.skip fun module => ?_) (.skip fun module => ?_))
    (.ite (.skip fun module => ?_) (.skip fun module => ?_)) <;>
  · refine .skip fun _ => .skip fun _ => .ite (.pure .importFrom) (.skip fun _ => .ite ?_ ?_)
    · exact .skip fun _ => .skip fun _ => .skip fun _ => .pure .importFrom
    · exact .skip fun _ => .pure .importFrom

omit fits in
theorem ensures_keywordStatement (line : Nat) (keyword : String) :
    (keywordStatement inner line keyword).Ensures Stmt.Fits := by
  unfold keywordStatement
  split
  · exact .pure .foreign
  · exact .pure .foreign
  · exact .pure .foreign
  · refine .skip fun _ => .ite (.skip fun _ => .skip fun _ => .ite ?_ ?_) ?_
    · exact .skip fun _ => .pure .foreign
    · exact .pure .foreign
    · exact .pure .foreign
  · exact .skip fun _ => .pure .foreign
  · exact .skip fun _ => .pure .foreign
  · exact .skip fun _ => .skip fun _ => .pure .foreign
  · exact .skip fun _ => .skip fun _ => .ite (.skip fun _ => .pure .foreign) (.pure .foreign)
  · exact .bind Inner.ensures_yielded fun e he => .pure (.expr he)
  · exact .failure

theorem ensures_simple : (simple inner).Ensures Stmt.Fits := by
  unfold simple
  refine .skip fun line => .skip fun _ => .ite (ensures_returned fits line) ?_
  refine .skip fun _ => .ite (.skip fun _ => .pure .importModules) ?_
  refine .skip fun _ => .ite (ensures_importFrom line) ?_
  refine .skip fun _ => .ite (ensures_expressionStatement fits line) ?_
  exact .skip fun keyword => ensures_keywordStatement line keyword

theorem ensures_simpleLine (rounds : Nat) : Sound (simpleLine inner rounds) := by
  induction rounds with
  | zero => exact .failure
  | succ rounds ih =>
    refine .bind (ensures_simple fits) fun first hfirst => .skip fun _ => .ite ?_ ?_
    · refine .skip fun _ => .ite (.pure (List.forall_mem_singleton.2 hfirst)) ?_
      exact .bind ih fun others each => .pure (List.forall_mem_cons.2 ⟨hfirst, each⟩)
    · exact .skip fun _ => .pure (List.forall_mem_singleton.2 hfirst)

theorem ensures_block (sound : Sound statement) : Sound (block inner statement) :=
  .skip fun _ => .skip fun _ => .ite (.skip fun _ => ensures_blockLines sound _)
    (ensures_simpleLine fits _)

theorem ensures_otherBranches (sound : Sound body) (rounds : Nat) :
    Sound (otherBranches inner body rounds) := by
  induction rounds with
  | zero => exact .failure
  | succ rounds ih =>
    refine .skip fun line => .skip fun _ => .ite ?_ ?_
    · refine .bind fits.named fun test htest => .bind sound fun first hfirst => ?_
      exact .bind ih fun others hothers =>
        .pure (List.forall_mem_singleton.2 (.branch htest hfirst hothers))
    · exact .skip fun _ => .ite sound (.pure fun _ mem => absurd mem List.not_mem_nil)

/-- Expressions that can stand where they are loaded. -/
private abbrev FitEach (es : List Expr) : Prop := ∀ e ∈ es, e.Fits .load

theorem ensures_function (sound : Sound body) (line : Nat) {marks : List Expr}
    (eachMark : FitEach marks) : (function inner body line marks).Ensures Stmt.Fits := by
  refine .skip fun id => .skip fun _ => ?_
  refine .bind (Inner.ensures_parameters fits true ")") fun params hparams => .skip fun _ => ?_
  have finish (returns : Option Expr) (result : ∀ e ∈ returns, e.Fits .load) : (do
      let statements ← body
      return .functionDef line id params statements marks returns : Parse Stmt).Ensures Stmt.Fits :=
    .bind sound fun statements each => .pure (.functionDef hparams each eachMark result)
  refine .skip fun _ => .ite ?_ ?_
  · refine .bind (P := fun returns => ∀ e ∈ returns, e.Fits .load)
      (.map fits.expression ?_) finish
    rintro e he _ ⟨⟩
    exact he
  · exact .bind (P := fun returns => ∀ e ∈ returns, e.Fits .load)
      (.pure fun _ missing => nomatch missing) finish

theorem ensures_classOf (sound : Sound body) (line : Nat) {marks : List Expr}
    (eachMark : FitEach marks) : (classOf inner body line marks).Ensures Stmt.Fits := by
  refine .skip fun id => .skip fun _ => .ite
    (.bind (Inner.ensures_arguments fits) fun given all => ?_)
    (.bind (P := fun given => (∀ e ∈ given.1, e.Fits .load) ∧ ∀ k ∈ given.2, k.value.Fits .load)
      (.pure ⟨fun _ mem => absurd mem List.not_mem_nil, fun _ mem => absurd mem List.not_mem_nil⟩)
      fun given all => ?_) <;>
  exact .bind sound fun statements each => .pure (.classDef all.1 all.2 each eachMark)

theorem ensures_decorators (rounds : Nat) : (decorators inner rounds).Ensures FitEach := by
  induction rounds with
  | zero => exact .failure
  | succ rounds ih =>
    refine .skip fun _ => .ite ?_ (.pure fun _ mem => absurd mem List.not_mem_nil)
    refine .bind fits.named fun first hfirst => .skip fun _ => ?_
    exact .bind ih fun others each => .pure (List.forall_mem_cons.2 ⟨hfirst, each⟩)

theorem ensures_decorated (sound : Sound body) : (decorated inner body).Ensures Stmt.Fits := by
  refine .bind (ensures_decorators fits _) fun marks eachMark => .skip fun line => ?_
  refine .skip fun _ => .ite (ensures_function fits sound line eachMark) ?_
  refine .skip fun _ => .ite (ensures_classOf fits sound line eachMark) ?_
  exact .skip fun _ => .skip fun _ => .skip fun _ => .pure .foreign

omit fits in
theorem ensures_attempt (line : Nat) : (attempt inner body line).Ensures Stmt.Fits := by
  unfold attempt
  refine .skip fun _ => .skip fun starred => .skip fun count => ?_
  have finish : (do
      if ← word? "finally" then
        let _ ← body
      else if count = 0 then failure
      return .foreign line (if starred then "TryStar" else "Try") : Parse Stmt).Ensures
      Stmt.Fits :=
    .skip fun _ => .ite (.skip fun _ => .pure .foreign)
      (.ite (.skip fun _ => .pure .foreign) (.pure .foreign))
  exact .ite (.skip fun _ => finish) finish

omit fits in
theorem ensures_loop (line : Nat) (construct : String) :
    (loop inner body line construct).Ensures Stmt.Fits :=
  .skip fun _ => .skip fun _ => .skip fun _ => .skip fun _ => .skip fun _ => .pure .foreign

omit fits in
theorem ensures_asynchronous (line : Nat) : (asynchronous inner body line).Ensures Stmt.Fits :=
  .skip fun _ => .ite (.skip fun _ => .pure .foreign) <| .skip fun _ => .ite
    (.skip fun _ => .skip fun _ => .pure .foreign) (.skip fun _ => ensures_loop line "AsyncFor")

theorem ensures_compound (sound : Sound body) : (compound inner body).Ensures Stmt.Fits := by
  have unmarked : FitEach [] := fun _ mem => absurd mem List.not_mem_nil
  unfold compound
  refine .skip fun line => .skip fun _ => .ite (ensures_function fits sound line unmarked) ?_
  refine .skip fun _ => .ite (ensures_classOf fits sound line unmarked) ?_
  refine .skip fun _ => .ite ?_ ?_
  · refine .bind fits.named fun test htest => .bind sound fun first hfirst => ?_
    exact .bind (ensures_otherBranches fits sound _) fun others hothers =>
      .pure (.branch htest hfirst hothers)
  refine .skip fun _ => .ite (ensures_loop line "For") ?_
  refine .skip fun _ => .ite (.skip fun _ => .skip fun _ => .skip fun _ => .pure .foreign) ?_
  refine .skip fun _ => .ite (ensures_attempt line) ?_
  refine .skip fun _ => .ite (.skip fun _ => .skip fun _ => .pure .foreign) ?_
  exact .skip fun _ => .ite (ensures_asynchronous line) (ensures_decorated fits sound)

omit fits in
theorem ensures_matchStatement : (matchStatement inner body).Ensures Stmt.Fits := by
  unfold matchStatement
  refine .skip fun line => .skip fun _ => .skip fun first => .skip fun items =>
    .ite (.skip fun _ => ?_) ?_ <;>
  exact .skip fun _ => .skip fun _ => .skip fun _ => .skip fun _ => .pure .foreign

theorem ensures_statement (depth : Nat) : Sound (Statement.statement inner depth) := by
  induction depth with
  | zero => exact .failure
  | succ depth ih =>
    have alone {p : Parse Stmt} (h : p.Ensures Stmt.Fits) :
        Sound (do let s ← p; return [s]) :=
      .bind h fun s hs => .pure (List.forall_mem_singleton.2 hs)
    have simples := ensures_simpleLine fits inner.bound
    have read : Sound (statementWith inner fun inside => Statement.statement inner depth inside) := by
      refine .skip fun _ => .ite (alone (ensures_compound fits (ensures_block fits ih))) ?_
      exact .skip fun _ => .ite (.orElse (alone ensures_matchStatement) simples) simples
    exact read

theorem ensures_statements (rounds : Nat) : Sound (statements inner rounds) := by
  induction rounds with
  | zero => exact .failure
  | succ rounds ih =>
    intro ts ss rest read
    unfold statements at read
    split at read
    · obtain ⟨rfl, -⟩ := Prod.mk.inj (Option.some.inj read)
      exact fun _ mem => absurd mem List.not_mem_nil
    · have each : Sound (do
          let first ← Statement.statement inner inner.bound
          let others ← statements inner rounds
          return first ++ others : Parse (List Stmt)) :=
        .bind (ensures_statement fits _) fun first hfirst => .bind ih fun others hothers =>
          .pure (List.forall_mem_append.2 ⟨hfirst, hothers⟩)
      exact each _ ss rest read

end

end Statement

/-- Whatever is read from a text fits. -/
theorem Module.fits_of_read {source : List Char} {m : Module}
    (read : Module.read source = .ok m) : m.Fits := by
  unfold Module.read at read
  split at read
  · cases read
  split at read
  · cases read
  dsimp only at read
  split at read
  · rename_i body found
    obtain rfl := Except.ok.inj read
    exact Statement.ensures_statements (Inner.fits_level _) _ _ _ _ found
  · cases read

end FlatRecord.Script
