import FlatRecord.Proofs.Admission.RecordForm
import FlatRecord.Proofs.Outcome
import FlatRecord.Proofs.Script.FittingTrees

/-!
# What the checks let pass

One lemma for each check of admission: what is known of the statement or the node that it has let
pass. The trees that are checked have been read from a text, so that names that are loaded and names
that are stored are told apart.
-/

namespace FlatRecord.Admission

open FlatRecord.Script
open FlatRecord.Behaviour (isName memberOf? membersOf? isSuper isDocumentation)
open FlatRecord.Generation (read literal textLiteral attributeOf)

section Forms

variable {id owner attr : String} {use : Use} {e : Expr} {s : Stmt}

theorem isName_iff : isName id e = true ↔ ∃ use, e = .name id use := by
  cases e <;> simp [isName]

/-- A name that is recognised where it is used in some way. -/
theorem eq_name_of_isName (fits : e.Fits use) (h : isName id e = true) : e = .name id use := by
  obtain ⟨_, rfl⟩ := isName_iff.1 h
  cases fits
  rfl

/-- An attribute that is recognised where it is used in some way. -/
theorem eq_member_of_memberOf? (fits : e.Fits use) (h : memberOf? owner e = some attr) :
    e = .member (read owner) attr use := by
  cases fits with
  | member inside =>
    simp only [memberOf?, Option.ite_none_right_eq_some, Option.some.injEq] at h
    obtain ⟨named, rfl⟩ := h
    obtain rfl := eq_name_of_isName inside named
    rfl
  | _ => cases h

/-- Attributes that are recognised in a tuple. -/
theorem eq_attributesOf_of_membersOf? {attrs : List String} (fits : e.Fits .load)
    (h : membersOf? owner e = some attrs) : e = attributesOf owner attrs := by
  cases fits with
  | @tuple _ items each =>
    have same : items = attrs.map (attributeOf owner) := by
      have found : items.mapM (memberOf? owner) = some attrs := h
      clear h
      induction items generalizing attrs with
      | nil =>
        obtain rfl := Option.some.inj found
        rfl
      | cons first rest ih =>
        simp only [List.mapM_cons, Option.bind_eq_bind, Option.bind_eq_some_iff] at found
        obtain ⟨attr, ofFirst, others, ofRest, same⟩ := found
        obtain rfl := Option.some.inj same
        rw [eq_member_of_memberOf? (each first (.head _)) ofFirst,
          ih (fun e mem => each e (.tail _ mem)) ofRest]
        rfl
    rw [same]
    rfl
  | _ => cases h

/-- `super()`, recognised where it is loaded. -/
theorem eq_superCall_of_isSuper (fits : e.Fits .load) (h : isSuper e = true) : e = superCall := by
  unfold isSuper at h
  split at h
  · cases fits with
    | call target =>
      obtain rfl := eq_name_of_isName target h
      rfl
  · cases h

theorem isDocumentation_iff :
    isDocumentation s = true ↔ ∃ line text, s = .expr line (textLiteral text) := by
  constructor
  · unfold isDocumentation
    split
    · exact fun _ => ⟨_, _, rfl⟩
    · rintro ⟨⟩
  · rintro ⟨line, text, rfl⟩
    rfl

end Forms

@[simp]
theorem require_eq_ok {condition : Bool} {reason : Rejection} :
    require condition reason = .ok () ↔ condition = true := by
  cases condition <;> simp [require]

/-- Where no operator is found in a node, none stands there. -/
theorem isPlain_iff {n : Node} : (!n.walk.any isOperation) = true ↔ IsPlain n := by
  rw [IsPlain, ← Node.forall_mem_walk]
  simp

theorem withoutOperators_eq_ok_iff {place : String} {e : Expr} :
    withoutOperators place e = .ok () ↔ IsPlain (.expr e) := by
  rw [withoutOperators, require_eq_ok, isPlain_iff]

theorem memberWithoutOperators_eq_ok_iff {className : String} {s : Stmt} :
    memberWithoutOperators className s = .ok () ↔ IsPlain (.stmt s) := by
  rw [memberWithoutOperators, require_eq_ok, isPlain_iff]

section Headers

variable {line level : Nat} {names : List Alias} {source : Option String} {s : Stmt}
  {value : Expr}

theorem isHeader_of_importModules (h : importModules names = .ok ()) :
    IsHeader (.importModules line names) := by
  refine .modules fun a mem => ?_
  have passed := forM_eq_ok_iff.1 h a mem
  rw [require_eq_ok, Bool.and_eq_true, Option.isNone_iff_eq_none] at passed
  refine ⟨passed.1, ?_⟩
  obtain ⟨members, known⟩ := Option.isSome_iff_exists.1 passed.2
  have entry := mem_of_lookup known
  simp only [moduleMembers, List.mem_cons, List.not_mem_nil, or_false, Prod.mk.injEq] at entry
  exact entry.imp And.left And.left

/-- Names that may be imported from a module are listed with it. -/
theorem importable_of_lookup {module name : String} {allowed : List String}
    (found : importableNames.lookup module = some allowed) (mem : name ∈ allowed) :
    (module, name) ∈ importable := by
  have listed : ∀ entry ∈ importableNames, ∀ name ∈ entry.2, (entry.1, name) ∈ importable := by
    decide
  exact listed (module, allowed) (mem_of_lookup found) name mem

theorem isHeader_of_importFrom (h : importFrom source names level = .ok ()) :
    IsHeader (.importFrom line source names level) := by
  unfold importFrom at h
  split at h
  · rename_i allowed found
    obtain ⟨module, rfl, listed⟩ := Option.bind_eq_some_iff.1 found
    refine .names fun a mem => ?_
    have passed := forM_eq_ok_iff.1 h a mem
    rw [require_eq_ok, Bool.and_eq_true, Option.isNone_iff_eq_none, List.contains_iff_mem] at passed
    exact ⟨passed.1, importable_of_lookup listed passed.2⟩
  · cases h

theorem isHeader_of_moduleAssignment {targets : List Expr} (fits : ∀ e ∈ targets, e.Fits .store)
    (h : moduleAssignment line targets value = .ok ()) :
    IsHeader (.assign line targets value) ∧ IsPlain (.stmt (.assign line targets value)) := by
  obtain ⟨⟨⟩, single, plain⟩ := bind_eq_ok.1 h
  rw [require_eq_ok] at single
  rw [withoutOperators_eq_ok_iff] at plain
  split at single
  · rename_i target
    obtain ⟨id, listed, named⟩ : ∃ id, (id = "__namespace__" ∨ id = "__all__") ∧
        isName id target = true :=
      (Bool.or_eq_true _ _ ▸ single).elim (fun h => ⟨_, .inl rfl, h⟩) fun h => ⟨_, .inr rfl, h⟩
    obtain rfl := eq_name_of_isName (fits target (.head _)) named
    exact ⟨.assignment listed, by simpa [IsPlain, isOperation] using plain⟩
  · cases single

/-- A documentation text stands beside the class of any module. -/
theorem isHeader_of_isDocumentation (h : isDocumentation s = true) :
    IsHeader s ∧ IsPlain (.stmt s) := by
  obtain ⟨line, text, rfl⟩ := isDocumentation_iff.1 h
  exact ⟨.documentation line text, by simp [IsPlain, isOperation, textLiteral, literal]⟩

end Headers

section Templates

variable {className name parameter : String} {parameters : List String} {body : List Stmt}

theorem isTextPart_of_textPart? {e : Expr} {p : TextPart} (fits : e.Fits .load)
    (h : Behaviour.textPart? e = some p) : IsTextPart e := by
  unfold Behaviour.textPart? at h
  split at h
  · exact .text _
  · simp only [Option.ite_none_right_eq_some, Option.map_eq_some_iff] at h
    obtain ⟨named, attr, taken, -⟩ := h
    cases fits with
    | call target each =>
      obtain rfl := eq_name_of_isName target named
      obtain rfl := eq_member_of_memberOf? (each _ (.head _)) taken
      exact .attribute attr
  · cases h

theorem isTextSum_of_textParts? {e : Expr} {parts : List TextPart} (fits : e.Fits .load)
    (h : Behaviour.textParts? e = some parts) : IsTextSum e := by
  induction e using Behaviour.textParts?.induct generalizing parts with
  | case1 left right ih =>
    simp only [Behaviour.textParts?, Option.bind_eq_bind, Option.bind_eq_some_iff] at h
    obtain ⟨last, ofRight, others, ofLeft, -⟩ := h
    cases fits with
    | binary first second => exact .join (ih first ofLeft) (isTextPart_of_textPart? second ofRight)
  | case2 e other =>
    rw [Behaviour.textParts?.eq_2 e other, Option.map_eq_some_iff] at h
    obtain ⟨p, only, -⟩ := h
    exact .part (isTextPart_of_textPart? fits only)

/-- Statements that do nothing but return a truth value. -/
theorem eq_ret_of_returnsTruth {value : Bool} (h : Behaviour.returnsTruth value body = true) :
    ∃ line, body = [.ret line (some (literal (.bool value)))] := by
  unfold Behaviour.returnsTruth at h
  split at h
  · rename_i line b
    obtain rfl := eq_of_beq h
    exact ⟨line, rfl⟩
  · cases h

theorem eq_of_asksIdentity {e : Expr} (fits : e.Fits .load)
    (h : Behaviour.asksIdentity parameter e = true) :
    e = .compare (read "self") [.same] [read parameter] := by
  unfold Behaviour.asksIdentity at h
  split at h
  · obtain ⟨mine, theirs⟩ := Bool.and_eq_true_iff.1 h
    cases fits with
    | compare arity first each =>
      obtain rfl := List.length_eq_zero_iff.1 (Nat.succ.inj arity).symm
      obtain rfl := eq_name_of_isName first mine
      obtain rfl := eq_name_of_isName (each _ (.head _)) theirs
      rfl
  · cases h

theorem eq_of_asksForeignness {e : Expr} (fits : e.Fits .load)
    (h : Behaviour.asksForeignness parameter className e = true) :
    e = .unary .not (.call (read "isinstance") [read parameter, read className] []) := by
  unfold Behaviour.asksForeignness at h
  split at h
  · rw [Bool.and_eq_true_iff, Bool.and_eq_true_iff] at h
    obtain ⟨⟨called, argument⟩, type⟩ := h
    cases fits with
    | unary inside =>
      cases inside with
      | call target each =>
        obtain rfl := eq_name_of_isName target called
        obtain rfl := eq_name_of_isName (each _ (.head _)) argument
        obtain rfl := eq_name_of_isName (each _ (.tail _ (.head _))) type
        rfl
  · cases h

section Bodies

variable {behaviour : Behaviour} (fits : ∀ s ∈ body, s.Fits)
include fits

theorem isTemplate_of_construct? (h : Behaviour.construct? body = some behaviour) :
    IsTemplate className "__init__" [] body := by
  unfold Behaviour.construct? at h
  split at h
  · simp only [Option.ite_none_right_eq_some] at h
    cases fits _ (.head _) with
    | expr inside =>
      cases inside with
      | call target =>
        cases target with
        | member inside =>
          obtain rfl := eq_superCall_of_isSuper inside h.1
          exact .construct
  · cases h

theorem isTemplate_of_spell? (h : Behaviour.spell? body = some behaviour) :
    IsTemplate className "__str__" [] body := by
  unfold Behaviour.spell? at h
  split at h
  · rename_i e
    obtain ⟨parts, sum, -⟩ := Option.map_eq_some_iff.1 h
    cases fits _ (.head _) with
    | ret inside => exact .spell (isTextSum_of_textParts? (inside e rfl) sum)
  · cases h

theorem isTemplate_of_equal? (h : Behaviour.equal? parameter className body = some behaviour) :
    IsTemplate className "__eq__" [parameter] body := by
  unfold Behaviour.equal? at h
  split at h
  · rename_i identity ifSame line foreign ifForeign at_line left right rest
    simp only [Option.ite_none_right_eq_some, Bool.and_eq_true, Option.bind_eq_bind,
      Option.bind_eq_some_iff] at h
    obtain ⟨⟨⟨⟨yes, same⟩, no⟩, other⟩, mine, ofSelf, theirs, ofOther, -⟩ := h
    obtain ⟨_, rfl⟩ := eq_ret_of_returnsTruth yes
    obtain ⟨_, rfl⟩ := eq_ret_of_returnsTruth no
    obtain rfl : identity = _ := by
      cases fits _ (.head _) with
      | branch condition => exact eq_of_asksIdentity condition same
    obtain rfl : foreign = _ := by
      cases fits _ (.tail _ (.head _)) with
      | branch condition => exact eq_of_asksForeignness condition other
    cases fits _ (.tail _ (.tail _ (.head _))) with
    | ret inside =>
      cases inside _ rfl with
      | compare arity first each =>
        obtain rfl := List.length_eq_zero_iff.1 (Nat.succ.inj arity).symm
        obtain rfl := eq_attributesOf_of_membersOf? first ofSelf
        obtain rfl := eq_attributesOf_of_membersOf? (each _ (.head _)) ofOther
        exact .equal parameter mine theirs
  · cases h

theorem isTemplate_of_digest? (h : Behaviour.digest? body = some behaviour) :
    IsTemplate className "__hash__" [] body := by
  unfold Behaviour.digest? at h
  split at h
  · simp only [Option.ite_none_right_eq_some, Option.map_eq_some_iff] at h
    obtain ⟨called, attrs, taken, -⟩ := h
    cases fits _ (.head _) with
    | ret inside =>
      cases inside _ rfl with
      | call target each =>
        obtain rfl := eq_name_of_isName target called
        obtain rfl := eq_attributesOf_of_membersOf? (each _ (.head _)) taken
        exact .digest attrs
  · cases h

theorem isTemplate_of_read? (ordinary : name ∉ namedMethods)
    (h : Behaviour.read? body = some behaviour) : IsTemplate className name [] body := by
  unfold Behaviour.read? at h
  split at h
  · rename_i e
    obtain ⟨attr, taken, -⟩ := Option.map_eq_some_iff.1 h
    cases fits _ (.head _) with
    | ret inside =>
      obtain rfl := eq_member_of_memberOf? (inside e rfl) taken
      exact .read attr ordinary
  · cases h

theorem isTemplate_of_store? (ordinary : name ∉ namedMethods)
    (h : Behaviour.store? parameter body = some behaviour) :
    IsTemplate className name [parameter] body := by
  unfold Behaviour.store? at h
  split at h
  · simp only [Option.ite_none_right_eq_some, Option.map_eq_some_iff] at h
    obtain ⟨named, attr, taken, -⟩ := h
    cases fits _ (.head _) with
    | assign each inside =>
      obtain rfl := eq_name_of_isName inside named
      obtain rfl := eq_member_of_memberOf? (each _ (.head _)) taken
      exact .store parameter attr ordinary
  · cases h

/-- A body behind a documentation text has the form that the method's name and parameters ask for. -/
private theorem isTemplate_behindDocumentation {line : Nat} {text : String}
    (h : Behaviour.ofBody? className name parameters (.expr line (textLiteral text) :: body) =
      some behaviour) : IsTemplate className name parameters body := by
  unfold Behaviour.ofBody? at h
  simp only [isDocumentation, textLiteral, literal, if_true] at h
  split at h
  · exact isTemplate_of_construct? fits h
  · exact isTemplate_of_spell? fits h
  · exact isTemplate_of_equal? fits h
  · exact isTemplate_of_digest? fits h
  · cases h
  · cases h
  · cases h
  · cases h
  · refine isTemplate_of_read? fits ?_ h
    simp_all [namedMethods]
  · refine isTemplate_of_store? fits ?_ h
    simp_all [namedMethods]
  · cases h

/-- The body of a method that is recognised has the form that the method's name and parameters ask
for, behind a documentation text at most. -/
theorem isTemplate_of_ofBody? (h : (Behaviour.ofBody? className name parameters body).isSome) :
    ∃ notes rest, body = notes ++ rest ∧ IsDocumentation notes ∧
      IsTemplate className name parameters rest := by
  obtain ⟨behaviour, recognised⟩ := Option.isSome_iff_exists.1 h
  have plain (undocumented : ∀ s ∈ body.head?, isDocumentation s = false) :
      IsTemplate className name parameters body := by
    have documented : Behaviour.ofBody? className name parameters
        (.expr 0 (textLiteral "") :: body) = some behaviour := by
      rw [← recognised]
      cases body with
      | nil => rfl
      | cons s rest =>
        simp only [Behaviour.ofBody?, undocumented s rfl, Bool.false_eq_true, if_false]
        rfl
    exact isTemplate_behindDocumentation fits documented
  cases body with
  | nil => exact ⟨[], [], rfl, .none, plain fun _ none => nomatch none⟩
  | cons s rest =>
    by_cases documents : isDocumentation s = true
    · obtain ⟨line, text, rfl⟩ := isDocumentation_iff.1 documents
      exact ⟨[_], rest, rfl, .text line text,
        isTemplate_behindDocumentation (fun s mem => fits s (.tail _ mem)) recognised⟩
    · refine ⟨[], s :: rest, rfl, .none, plain ?_⟩
      rintro _ ⟨⟩
      exact Bool.eq_false_iff.2 documents

end Bodies

end Templates

section Nodes

variable {className id attr : String} {n : Node} {owner callee : Expr} {use : Use}
  {args : List Expr} {keywords : List Keyword}

theorem isFamiliar_of_node (h : node className n = .ok ()) : isFamiliar n = true := by
  obtain ⟨⟨⟩, familiar, -⟩ := bind_eq_ok.1 h
  exact require_eq_ok.1 familiar

theorem isCall_of_node (fits : (Expr.call callee args keywords).Fits .load)
    (h : node className (.expr (.call callee args keywords)) = .ok ()) :
    IsCall callee args keywords := by
  obtain ⟨⟨⟩, -, passed⟩ := bind_eq_ok.1 h
  obtain ⟨⟨⟩, labels, target⟩ := bind_eq_ok.1 passed
  rw [require_eq_ok, List.all_eq_true] at labels
  cases fits with
  | call inside =>
    split at target
    · rename_i id _
      obtain ⟨⟨⟩, listed, plain⟩ := bind_eq_ok.1 target
      rw [require_eq_ok] at listed plain
      cases inside
      by_cases base : id = "super"
      · subst base
        obtain ⟨rfl, rfl⟩ : args = [] ∧ keywords = [] := by simpa using plain
        exact .super
      · have among : id ∈ callable := List.contains_iff_mem.1 listed
        exact .function (by simpa [callable, base] using among) labels
    · rw [require_eq_ok, Bool.and_eq_true_iff] at target
      cases inside with
      | member inside =>
        obtain rfl := eq_of_beq target.1
        obtain rfl := eq_superCall_of_isSuper inside target.2
        exact .constructor labels
    · cases target

/-- The types of the listed modules may be taken. -/
private theorem isAccess_of_listed
    (h : ((moduleMembers.lookup id).getD []).contains attr = true) : IsAccess (read id) attr := by
  have each : ∀ entry ∈ moduleMembers, ∀ attr ∈ entry.2, IsAccess (read entry.1) attr := by
    simp only [moduleMembers, List.forall_mem_cons, List.not_mem_nil, false_implies, implies_true,
      and_true]
    exact ⟨⟨.date, .dateTime⟩, .decimal⟩
  rw [List.contains_iff_mem] at h
  cases found : moduleMembers.lookup id with
  | none =>
    rw [found] at h
    cases h
  | some attrs =>
    rw [found] at h
    exact each (id, attrs) (mem_of_lookup found) attr h

theorem isAccess_of_node (fits : owner.Fits .load)
    (h : node className (.expr (.member owner attr use)) = .ok ()) : IsAccess owner attr := by
  obtain ⟨⟨⟩, -, passed⟩ := bind_eq_ok.1 h
  dsimp only at passed
  split at passed
  · rename_i known
    rw [require_eq_ok] at passed
    obtain mine | theirs := Bool.or_eq_true_iff.1 known
    · obtain rfl := eq_name_of_isName fits mine
      exact .instance (.inl rfl) passed
    · obtain rfl := eq_name_of_isName fits theirs
      exact .instance (.inr rfl) passed
  · rw [require_eq_ok] at passed
    unfold isMember at passed
    split at passed
    · cases fits
      exact isAccess_of_listed passed
    · obtain ⟨base, constructor⟩ := Bool.and_eq_true_iff.1 passed
      obtain rfl := eq_superCall_of_isSuper fits base
      obtain rfl := eq_of_beq constructor
      exact .constructor

end Nodes

end FlatRecord.Admission
