import FlatRecord.Proofs.Admission.Checks
import FlatRecord.Proofs.Generation.Admitted
import FlatRecord.Proofs.Script.ReadTrees

/-!
# Admitted modules are record modules

A module that has been read from a text and is admitted has the form of `IsRecordModule`. The checks
of the statements tell what the class, its members and the statements beside it look like; the check of
every node tells that no other construct stands anywhere in between, so that no statement hides inside
of an expression.
-/

namespace FlatRecord.Admission

open FlatRecord.Script
open FlatRecord.Generation (read literal textLiteral attributeOf)

variable {className name : String} {parameters : List String} {body : List Stmt} {s : Stmt} {n : Node}

/-- A node whose construct is one that records are made of. -/
abbrev IsFamiliar (n : Node) : Prop := isFamiliar n = true

/-- A node that is no statement. -/
private def IsNoStatement : Node → Prop
  | .stmt _ => False
  | _ => True

/-- Below a familiar node that is no statement there is none. -/
private theorem isNoStatement_of_mem_parts (familiar : IsFamiliar n) (here : IsNoStatement n) :
    ∀ p ∈ n.parts, IsNoStatement p := by
  cases n with
  | stmt s => cases here
  | group construct parts => cases familiar
  | expr e =>
    cases e with
    | foreign construct parts => cases familiar
    | _ => simp [Node.parts, Expr.parts, IsNoStatement, or_imp, forall_and]
  | params ps =>
    cases ps
    simp [Node.parts, Params.parts, IsNoStatement, or_imp, forall_and]
  | _ => simp [Node.parts, IsNoStatement]

/-- Where all constructs are familiar, nothing is defined in a node that is no statement. -/
private theorem definesNothing_of_isNoStatement (familiar : n.Each IsFamiliar)
    (here : IsNoStatement n) : DefinesNothing n := by
  refine (familiar.descend here fun _ => isNoStatement_of_mem_parts).mono fun m h => ?_
  cases m with
  | stmt s => cases h
  | _ => rfl

/-- The same for a statement that consists of no others. -/
private theorem definesNothingInside_of_parts (familiar : Node.Each IsFamiliar (.stmt s))
    (only : ∀ p ∈ s.parts, IsNoStatement p) : DefinesNothingInside s :=
  fun n mem => definesNothing_of_isNoStatement ((Node.each_iff.1 familiar).2 n mem) (only n mem)

/-- What holds of every part of a sum of texts, and wherever two are joined, holds of the sum. -/
theorem IsTextSum.each {P : Node → Prop} {e : Expr} (h : IsTextSum e)
    (part : ∀ e, IsTextPart e → Node.Each P (.expr e))
    (join : ∀ left right, P (.expr (.binary left .add right))) (add : P (.binaryOp .add)) :
    Node.Each P (.expr e) := by
  induction h with
  | part only => exact part _ only
  | join first last ih => exact Node.each_binary.2 ⟨join _ _, ih, add, part _ last⟩

theorem IsTextSum.definesNothing {e : Expr} (h : IsTextSum e) : DefinesNothing (.expr e) := by
  refine h.each (fun e part => ?_) (fun _ _ => rfl) rfl
  cases part <;> simp [textLiteral, literal, attributeOf, Generation.read, isDefinition]

/-- Below a sum of texts, every operator joins texts. -/
theorem IsTextSum.joins {e : Expr} (h : IsTextSum e) {left right : Expr} {op : BinaryOp}
    (below : Node.Below (.expr (.binary left op right)) (.expr e)) :
    IsTextSum (.binary left op right) := by
  have part {e : Expr} (h : IsTextPart e) : IsPlain (.expr e) := by
    cases h <;> simp [IsPlain, textLiteral, literal, attributeOf, Generation.read, isOperation]
  induction h with
  | part only => exact absurd (part only _ below) (by simp [isOperation])
  | join first last ih =>
    obtain same | ⟨p, mem, below⟩ := Node.below_iff.1 below
    · exact Node.expr.inj same ▸ .join first last
    · simp only [Node.parts, Expr.parts, List.mem_cons, List.not_mem_nil, or_false] at mem
      obtain rfl | rfl | rfl := mem
      · exact ih below
      · cases below with
        | part mem _ => cases mem
      · exact absurd (part last _ below) (by simp [isOperation])

theorem IsTemplate.definesNothing (h : IsTemplate className name parameters body) :
    ∀ s ∈ body, DefinesNothing (.stmt s) := by
  cases h with
  | spell sum =>
    exact List.forall_mem_singleton.2
      (Node.each_ret.2 ⟨rfl, fun e same => Option.some.inj same ▸ sum.definesNothing⟩)
  | _ => simp [DefinesNothing, superCall, attributesOf, literal, attributeOf, Generation.read, isDefinition]

/-- The method for the text form returns a sum of texts. -/
theorem IsTemplate.spells (h : IsTemplate className name parameters body) (spells : name = "__str__") :
    ∃ line e, body = [.ret line (some e)] ∧ IsTextSum e := by
  cases h with
  | spell sum => exact ⟨_, _, rfl, sum⟩
  | read _ ordinary => exact absurd (by simp [spells, namedMethods]) ordinary
  | store _ _ ordinary => exact absurd (by simp [spells, namedMethods]) ordinary
  | _ => exact absurd spells (by decide)

/-- Operators stand in the body of a method only if it is the one for the text form. -/
theorem IsTemplate.isPlain (h : IsTemplate className name parameters body) (other : name ≠ "__str__") :
    ∀ s ∈ body, IsPlain (.stmt s) := by
  cases h with
  | spell sum => exact absurd rfl other
  | _ =>
    simp [IsPlain, superCall, attributesOf, literal, attributeOf, Generation.read, isOperation]

theorem IsDocumentation.definesNothing {notes : List Stmt} (h : IsDocumentation notes) :
    ∀ s ∈ notes, DefinesNothing (.stmt s) := by
  cases h <;> simp [DefinesNothing, textLiteral, literal, isDefinition]

theorem IsDocumentation.isPlain {notes : List Stmt} (h : IsDocumentation notes) :
    ∀ s ∈ notes, IsPlain (.stmt s) := by
  cases h <;> simp [IsPlain, textLiteral, literal, isOperation]

section Members

variable {line : Nat} {params : Params} {decorators : List Expr} {returns : Option Expr}

/-- A parameter list that is plain has plain parameters and nothing else. -/
theorem eq_of_isPlain (fits : params.Fits) (h : Admission.isPlain params = true) :
    params = .mk [] params.args none [] [] none [] := by
  unfold Admission.isPlain at h
  split at h
  · obtain rfl := List.length_eq_zero_iff.1 fits.arity
    rfl
  · cases h

/-- No operator stands in plain parameters if there is none in their annotations. -/
theorem isPlain_params {args : List Param} (hints : ∀ p ∈ args, ∀ e ∈ p.hint, IsPlain (.expr e)) :
    IsPlain (.params (.mk [] args none [] [] none [])) := by
  refine Node.each_iff.2 ⟨rfl, fun n mem => ?_⟩
  obtain ⟨p, among, rfl⟩ : ∃ p ∈ args, Node.param p = n := by
    simpa [Node.parts, Params.parts] using mem
  refine Node.each_iff.2 ⟨rfl, fun n mem => ?_⟩
  obtain ⟨e, annotates, rfl⟩ := List.mem_map.1 mem
  exact hints p among e (Option.mem_toList.1 annotates)

theorem isMethod_of_method (fits : (Stmt.functionDef line name params body decorators returns).Fits)
    (h : method className name params body decorators returns = .ok ()) :
    IsMethod className (.functionDef line name params body decorators returns) ∧
      JoinsTextOnly (.functionDef line name params body decorators returns) := by
  obtain ⟨⟨⟩, undecorated, h⟩ := bind_eq_ok.1 h
  obtain ⟨⟨⟩, simple, h⟩ := bind_eq_ok.1 h
  obtain ⟨⟨⟩, receiver, h⟩ := bind_eq_ok.1 h
  obtain ⟨⟨⟩, result, h⟩ := bind_eq_ok.1 h
  obtain ⟨⟨⟩, hints, recognised⟩ := bind_eq_ok.1 h
  rw [require_eq_ok] at undecorated simple receiver recognised
  obtain rfl := List.isEmpty_iff.1 undecorated
  cases fits with
  | functionDef signature each =>
    have shape := eq_of_isPlain signature simple
    obtain ⟨args, rfl⟩ : ∃ args, params = .mk [] args none [] [] none [] := ⟨_, shape⟩
    have plainHints : ∀ p ∈ args, ∀ e ∈ p.hint, IsPlain (.expr e) := fun p mem e annotates =>
      withoutOperators_eq_ok_iff.1
        (forM_eq_ok_iff.1 (forM_eq_ok_iff.1 hints p mem) e (Option.mem_toList.2 annotates))
    have plainResult : ∀ e ∈ returns, IsPlain (.expr e) := fun e mem =>
      withoutOperators_eq_ok_iff.1 (forM_eq_ok_iff.1 result e (Option.mem_toList.2 mem))
    obtain ⟨notes, rest, rfl, documentation, template⟩ := isTemplate_of_ofBody? each recognised
    refine ⟨?_, ?_⟩
    · obtain ⟨⟨at_line, _, hint⟩, first, rfl⟩ := Option.map_eq_some_iff.1 (eq_of_beq receiver)
      obtain ⟨others, rfl⟩ := List.head?_eq_some_iff.1 first
      exact .mk documentation template
    · by_cases spells : name = "__str__"
      · subst spells
        obtain ⟨at_line, e, rfl, sum⟩ := template.spells rfl
        exact .textForm (isPlain_params plainHints) documentation
          (fun _ mem => absurd mem List.not_mem_nil) plainResult fun _ _ _ below => sum.joins below
      · refine .plain (Node.each_functionDef.2 ⟨rfl, isPlain_params plainHints, ?_, ?_, plainResult⟩)
        · exact List.forall_mem_append.2 ⟨documentation.isPlain, template.isPlain spells⟩
        · exact fun _ mem => absurd mem List.not_mem_nil

theorem isMember_of_classMember (fits : s.Fits) (h : classMember className s = .ok ()) :
    IsMember className s ∧ JoinsTextOnly s := by
  unfold classMember at h
  split at h
  · have passed := isMethod_of_method fits h
    exact ⟨.method passed.1, passed.2⟩
  · exact ⟨.assignment, .plain (memberWithoutOperators_eq_ok_iff.1 h)⟩
  · exact ⟨.annotated, .plain (memberWithoutOperators_eq_ok_iff.1 h)⟩
  · obtain ⟨line, text, rfl⟩ := isDocumentation_iff.1 (require_eq_ok.1 h)
    exact ⟨.documentation line text, .plain (by simp [IsPlain, textLiteral, literal, isOperation])⟩

/-- Nothing is defined inside of a member of a class. -/
theorem IsMember.definesNothingInside (familiar : Node.Each IsFamiliar (.stmt s))
    (h : IsMember className s) : DefinesNothingInside s := by
  have plain := definesNothingInside_of_parts familiar
  cases h with
  | documentation line text => exact plain (by simp [Stmt.parts, IsNoStatement])
  | assignment => exact plain (by simp [Stmt.parts, IsNoStatement, or_imp, forall_and])
  | annotated => exact plain (by simp [Stmt.parts, IsNoStatement])
  | method h =>
    cases h with
    | @mk _ _ _ _ others _ _ returns documentation template =>
      have parts := (Node.each_iff.1 familiar).2
      intro n mem
      have either : IsNoStatement n ∨ DefinesNothing n := by
        simp only [Node.parts, Stmt.parts, List.mem_cons, List.mem_append, List.mem_map,
          List.not_mem_nil, false_and, exists_false, or_false] at mem
        obtain rfl | ⟨s, note | statement, rfl⟩ | ⟨e, -, rfl⟩ := mem
        · exact .inl trivial
        · exact .inr (documentation.definesNothing s note)
        · exact .inr (template.definesNothing s statement)
        · exact .inl trivial
      exact either.elim (definesNothing_of_isNoStatement (parts n mem)) id

/-- A class that passes is derived from the base class alone, and consists of members of records. -/
theorem of_recordClass {bases : List Expr} {keywords : List Keyword}
    (fits : (Stmt.classDef line className bases keywords body decorators).Fits)
    (h : recordClass className bases keywords body decorators = .ok ()) :
    bases = [read "BaseModel"] ∧ keywords = [] ∧ decorators = [] ∧
      ∀ s ∈ body, IsMember className s ∧ JoinsTextOnly s := by
  obtain ⟨⟨⟩, -, h⟩ := bind_eq_ok.1 h
  obtain ⟨⟨⟩, bare, h⟩ := bind_eq_ok.1 h
  obtain ⟨⟨⟩, base, members⟩ := bind_eq_ok.1 h
  rw [require_eq_ok] at bare base
  rw [Bool.and_eq_true_iff, List.isEmpty_iff, List.isEmpty_iff] at bare
  cases fits with
  | classDef eachBase eachNamed each eachMark =>
    split at base
    · obtain rfl := eq_name_of_isName (eachBase _ (.head _)) base
      exact ⟨rfl, bare.2, bare.1, fun s mem =>
        isMember_of_classMember (each s mem) (forM_eq_ok_iff.1 members s mem)⟩
    · cases base

end Members

/-- Nothing is defined inside of a statement beside the class of a module. -/
theorem IsHeader.definesNothingInside (familiar : Node.Each IsFamiliar (.stmt s)) (h : IsHeader s) :
    DefinesNothingInside s := by
  refine definesNothingInside_of_parts familiar ?_
  cases h <;> simp [Stmt.parts, IsNoStatement]

section Layout

variable {found found' : Option String}

/-- A statement that passes is the first class, or stands beside it and defines nothing inside. -/
theorem of_moduleStatement (fits : s.Fits) (h : moduleStatement found s = .ok found') :
    (∃ line name bases keywords body decorators,
      s = .classDef line name bases keywords body decorators ∧ found = none ∧ found' = some name ∧
      recordClass name bases keywords body decorators = .ok ()) ∨
    found' = found ∧ IsHeader s ∧ IsPlain (.stmt s) := by
  unfold moduleStatement at h
  split at h
  · obtain ⟨⟨⟩, first, h⟩ := bind_eq_ok.1 h
    obtain ⟨⟨⟩, passed, h⟩ := bind_eq_ok.1 h
    rw [require_eq_ok, Option.isNone_iff_eq_none] at first
    exact .inl ⟨_, _, _, _, _, _, rfl, first, (Except.ok.inj h).symm, passed⟩
  all_goals
    obtain ⟨⟨⟩, passed, h⟩ := bind_eq_ok.1 h
    refine .inr ⟨(Except.ok.inj h).symm, ?_⟩
  · exact ⟨isHeader_of_importModules passed, by simp [IsPlain, isOperation]⟩
  · exact ⟨isHeader_of_importFrom passed, by simp [IsPlain, isOperation]⟩
  · cases fits with
    | assign each => exact isHeader_of_moduleAssignment each passed
  · exact isHeader_of_isDocumentation (require_eq_ok.1 passed)

/-- Behind the class, only statements that define nothing inside pass. -/
theorem headers_of_foldlM (fits : ∀ s ∈ body, s.Fits)
    (h : body.foldlM moduleStatement (some name) = .ok found) :
    found = some name ∧ ∀ s ∈ body, IsHeader s ∧ IsPlain (.stmt s) := by
  induction body with
  | nil => exact ⟨(Except.ok.inj h).symm, fun _ mem => absurd mem List.not_mem_nil⟩
  | cons s rest ih =>
    rw [List.foldlM_cons] at h
    obtain ⟨found', first, others⟩ := bind_eq_ok.1 h
    obtain ⟨_, _, _, _, _, _, -, none, -⟩ | ⟨rfl, header⟩ := of_moduleStatement (fits s (.head _)) first
    · cases none
    · have behind := ih (fun s mem => fits s (.tail _ mem)) others
      exact ⟨behind.1, List.forall_mem_cons.2 ⟨header, behind.2⟩⟩

/-- The statements of a module that pass are one class and statements beside it. -/
theorem layout_of_foldlM (fits : ∀ s ∈ body, s.Fits)
    (h : body.foldlM moduleStatement none = .ok (some className)) :
    ∃ before line members after,
      body = before ++ .classDef line className [read "BaseModel"] [] members [] :: after ∧
      (∀ s ∈ before ++ after, IsHeader s ∧ IsPlain (.stmt s)) ∧
      ∀ s ∈ members, IsMember className s ∧ JoinsTextOnly s := by
  induction body with
  | nil => cases h
  | cons s rest ih =>
    rw [List.foldlM_cons] at h
    obtain ⟨found, first, others⟩ := bind_eq_ok.1 h
    have inRest : ∀ s ∈ rest, s.Fits := fun s mem => fits s (.tail _ mem)
    obtain ⟨line, name, bases, keywords, members, decorators, rfl, -, rfl, passed⟩ | ⟨rfl, header⟩ :=
      of_moduleStatement (fits s (.head _)) first
    · obtain ⟨same, behind⟩ := headers_of_foldlM inRest others
      obtain rfl := Option.some.inj same
      obtain ⟨rfl, rfl, rfl, each⟩ := of_recordClass (fits _ (.head _)) passed
      exact ⟨[], line, members, rest, rfl, behind, each⟩
    · obtain ⟨before, line, members, after, rfl, headers, each⟩ := ih inRest others
      exact ⟨s :: before, line, members, after, rfl, List.forall_mem_cons.2 ⟨header, headers⟩, each⟩

end Layout

section Nodes

/-- What is familiar is not foreign. -/
theorem isForeign_of_isFamiliar (familiar : IsFamiliar n) : n.isForeign = false := by
  cases n with
  | expr e =>
    cases e with
    | foreign => cases familiar
    | _ => rfl
  | group => cases familiar
  | _ => rfl

/-- Where all constructs are familiar, everything below a node that fits does. -/
theorem each_fits (familiar : n.Each IsFamiliar) (fits : n.Fits) : n.Each Node.Fits :=
  familiar.descend fits fun _ known fits => fits.part (isForeign_of_isFamiliar known)

variable {m : Module}

/-- Everything in a module that passes is familiar. -/
theorem each_isFamiliar (passed : ∀ n ∈ m.walk, node className n = .ok ()) :
    ∀ s ∈ m.body, Node.Each IsFamiliar (.stmt s) :=
  Module.forall_mem_walk.1 fun n mem => isFamiliar_of_node (passed n mem)

/-- Everything in a module that has been read and passes fits where it stands. -/
theorem fits_of_mem_walk (fits : m.Fits) (passed : ∀ n ∈ m.walk, node className n = .ok ()) :
    ∀ n ∈ m.walk, n.Fits :=
  Module.forall_mem_walk.2 fun s mem => each_fits (each_isFamiliar passed s mem) (fits s mem)

/-- A module that is admitted has passed all checks. -/
theorem passed_of_admitted (admitted : m.admit = .ok className) :
    m.body.foldlM moduleStatement none = .ok (some className) ∧
      ∀ n ∈ m.walk, node className n = .ok () := by
  obtain ⟨found, statements, rest⟩ := bind_eq_ok.1 admitted
  cases found with
  | none => cases rest
  | some name =>
    obtain ⟨⟨⟩, nodes, same⟩ := bind_eq_ok.1 rest
    obtain rfl := Except.ok.inj same
    exact ⟨statements, forM_eq_ok_iff.1 nodes⟩

end Nodes

/-- A statement that has been read and consists of familiar constructs. -/
structure IsVetted (s : Stmt) : Prop where
  fits : s.Fits
  familiar : Node.Each IsFamiliar (.stmt s)

/-- The class, its members and the statements beside it, as they are known once a module that has been
read is admitted. -/
theorem layout_of_admitted {source : List Char} {m : Module} (parsed : Module.read source = .ok m)
    (admitted : m.admit = .ok className) : ∃ before line body after,
      m.body = before ++ .classDef line className [read "BaseModel"] [] body [] :: after ∧
      (∀ s ∈ before ++ after, IsVetted s ∧ IsHeader s ∧ IsPlain (.stmt s)) ∧
      ∀ s ∈ body, IsVetted s ∧ IsMember className s ∧ JoinsTextOnly s := by
  have fits := Module.fits_of_read parsed
  obtain ⟨statements, nodes⟩ := passed_of_admitted admitted
  obtain ⟨before, line, body, after, layout, beside, inside⟩ := layout_of_foldlM fits statements
  have vetted : ∀ s ∈ m.body, IsVetted s := fun s mem => ⟨fits s mem, each_isFamiliar nodes s mem⟩
  rw [layout, List.forall_mem_append, List.forall_mem_cons] at vetted
  obtain ⟨vettedBefore, vettedClass, vettedAfter⟩ := vetted
  refine ⟨before, line, body, after, layout, fun s mem => ⟨?_, beside s mem⟩,
    fun s mem => ⟨?_, inside s mem⟩⟩
  · exact (List.mem_append.1 mem).elim (vettedBefore s) (vettedAfter s)
  · have known := (Node.each_iff.1 vettedClass.familiar).2
    cases vettedClass.fits with
    | classDef _ _ each =>
      exact ⟨each s mem, known _ (by simp [Node.parts, Stmt.parts, mem])⟩

/-- Whether a text is that of a module that is admitted under a name and passes a test. -/
def admitsAs (name : String) (test : Module → Bool) (source : String) : Bool :=
  match Module.read source.toList with
  | .ok m => m.admit.toOption == some name && test m
  | .error _ => false

theorem of_admitsAs {test : Module → Bool} {source : String}
    (h : admitsAs className test source = true) : ∃ m, Module.read source.toList = .ok m ∧
      m.admit = .ok className ∧ test m = true := by
  unfold admitsAs at h
  split at h
  · rename_i m parsed
    obtain ⟨named, passes⟩ := Bool.and_eq_true_iff.1 h
    refine ⟨m, parsed, ?_, passes⟩
    cases admitted : m.admit with
    | error _ => simp [admitted, Except.toOption] at named
    | ok name => simpa [admitted, Except.toOption] using named
  · cases h

/-- The module that is generated for a person is admitted. -/
theorem admit_person : ∃ m, Module.read (Generation.module Descriptor.person.planned).print = .ok m ∧
    m.admit = .ok "Person" := by
  obtain ⟨valid, -⟩ := Submission.validate_eq_ok Descriptor.validate_person
  have sound := valid.planned_isSound ⟨by decide, by decide⟩
  exact ⟨_, Generation.read_print sound, Generation.admit_module sound⟩

/-- A module that has been read from a text and is admitted is a record module, whose class has the
name that admission gives. -/
theorem isRecordModule_of_admitted {source : List Char} {m : Module}
    (parsed : Module.read source = .ok m) (admitted : m.admit = .ok className) :
    ∃ before body after, IsRecordModule m className before body after := by
  obtain ⟨before, line, body, after, layout, beside, inside⟩ := layout_of_admitted parsed admitted
  have nodes := (passed_of_admitted admitted).2
  have each := fits_of_mem_walk (Module.fits_of_read parsed) nodes
  have header := fun s mem => (beside s mem).2.1.definesNothingInside (beside s mem).1.familiar
  have member := fun s mem => (inside s mem).2.1.definesNothingInside (inside s mem).1.familiar
  refine ⟨before, body, after, ⟨line, layout⟩, fun s mem => (beside s mem).2.1,
    fun s mem => (inside s mem).2.1, fun s mem => ?_, fun s mem => (beside s mem).2.2,
    fun s mem => (inside s mem).2.2, ?_, ?_⟩
  · rw [List.mem_append, List.mem_append] at mem
    obtain (mem | mem) | mem := mem
    · exact header s (List.mem_append_left _ mem)
    · exact member s mem
    · exact header s (List.mem_append_right _ mem)
  · intro callee args keywords mem
    obtain ⟨use, fits⟩ := each _ mem
    have loaded : (Expr.call callee args keywords).Fits .load := by
      cases fits with
      | call target each eachNamed => exact .call target each eachNamed
    exact isCall_of_node loaded (nodes _ mem)
  · intro owner attr use mem
    obtain ⟨_, fits⟩ := each _ mem
    cases fits with
    | member inside => exact isAccess_of_node inside (nodes _ mem)

/-- The module that is generated for a person is a record module. -/
theorem isRecordModule_person : ∃ m before body after,
    Module.read (Generation.module Descriptor.person.planned).print = .ok m ∧
      m.admit = .ok "Person" ∧ IsRecordModule m "Person" before body after := by
  obtain ⟨m, parsed, admitted⟩ := admit_person
  obtain ⟨before, body, after, record⟩ := isRecordModule_of_admitted parsed admitted
  exact ⟨m, before, body, after, parsed, admitted, record⟩

end FlatRecord.Admission
