import FlatRecord.Loading
import FlatRecord.Proofs.Admission.RecordForm
import FlatRecord.Proofs.Execution.Bindings
import FlatRecord.Proofs.Outcome

/-!
# Names of admitted modules

The statements beside the class of an admitted module bind what they import, and the two names that a
module declares itself with. What is true of these is true of every name that the class finds in its
module.
-/

namespace FlatRecord.Admission

open FlatRecord.Script FlatRecord.Execution

/-- Every name has a meaning that fits it. -/
def EachMeaning (Fits : String → Object → Prop) (globals : Bindings) : Prop :=
  ∀ id o, globals.lookup id = some o → Fits id o

/-- What can be imported fits its name, and the names that a module declares itself with may mean
anything. -/
structure FitsHeaders (Fits : String → Object → Prop) : Prop where
  modules : Fits "datetime" (.module "datetime") ∧ Fits "decimal" (.module "decimal")
  names : ∀ entry ∈ importable, Fits entry.2 ((Loading.imported? entry.2).getD .null)
  declared : ∀ o, Fits "__namespace__" o ∧ Fits "__all__" o

namespace EachMeaning

variable {Fits : String → Object → Prop} {globals : Bindings} {space : String} {m m' : LoadedModule}

theorem bindName {name : String} {o : Object} (h : EachMeaning Fits globals) (fits : Fits name o) :
    EachMeaning Fits (bindName name o globals) := by
  intro id p found
  rw [lookup_bindName] at found
  split at found
  · rename_i same
    subst same
    rwa [← Option.some.inj found]
  · exact h id p found

theorem imports {names : List Alias} {meaningOf : Alias → Object} (h : EachMeaning Fits globals)
    (fits : ∀ a ∈ names, Fits a.name (meaningOf a)) :
    EachMeaning Fits (names.foldl (fun g a => Execution.bindName a.name (meaningOf a) g) globals) := by
  induction names generalizing globals with
  | nil => exact h
  | cons a rest ih => exact ih (h.bindName (fits a (.head _))) fun b mem => fits b (.tail _ mem)

/-- A statement beside the class binds names to what fits them. -/
theorem step {s : Stmt} (h : EachMeaning Fits m.globals) (offered : FitsHeaders Fits)
    (header : IsHeader s) (ran : Loading.step space m s = .ok m') : EachMeaning Fits m'.globals := by
  cases header with
  | documentation line text =>
    obtain rfl := Except.ok.inj ran
    exact h
  | modules listed =>
    obtain rfl := Except.ok.inj ran
    refine h.imports fun a mem => ?_
    obtain ⟨-, same | same⟩ := listed a mem <;> rw [same]
    · exact offered.modules.1
    · exact offered.modules.2
  | names listed =>
    obtain rfl := Except.ok.inj ran
    exact h.imports fun a mem => offered.names _ (listed a mem).2
  | assignment listed =>
    obtain ⟨o, -, ran⟩ := bind_eq_ok.1 ran
    obtain rfl := Except.ok.inj ran
    refine h.bindName ?_
    obtain rfl | rfl := listed
    · exact (offered.declared o).1
    · exact (offered.declared o).2

theorem run {statements : List Stmt} (h : EachMeaning Fits m.globals) (offered : FitsHeaders Fits)
    (headers : ∀ s ∈ statements, IsHeader s)
    (ran : statements.foldlM (Loading.step space) m = .ok m') : EachMeaning Fits m'.globals := by
  induction statements generalizing m with
  | nil =>
    obtain rfl := Except.ok.inj ran
    exact h
  | cons s rest ih =>
    rw [List.foldlM_cons] at ran
    obtain ⟨next, first, others⟩ := bind_eq_ok.1 ran
    exact ih (h.step offered (headers s (.head _)) first) (fun s mem => headers s (.tail _ mem)) others

end EachMeaning

end FlatRecord.Admission
