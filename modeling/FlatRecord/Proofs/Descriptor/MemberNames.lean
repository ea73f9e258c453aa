import FlatRecord.Proofs.Descriptor.Validated
import FlatRecord.Proofs.Script.PrintedExpressions

/-!
# Member names

The attribute, the getter and the setter of a field have names that a class can use: identifiers that
are no keywords, not hidden, and different from every name that the class body looks up.
-/

namespace FlatRecord.Naming

open FlatRecord.Script (IsName isFollowing_elim isFollowing_of_isInitial)

/-- A name that a member of a record class may have. -/
structure IsMember (name : String) : Prop where
  word : IsName name
  shown : name.toList.head? ≠ some '_'
  free : name ∉ annotationNames ++ moduleNames
  unlike : name ≠ "model_config"

theorem dropFinalLineFeed_eq {cs : List Char} (clean : '\n' ∉ cs) : dropFinalLineFeed cs = cs := by
  rw [dropFinalLineFeed, if_neg]
  intro last
  exact clean (List.mem_of_getLast? last)

theorem isFollowing_of_isWord {cs : List Char} (h : isWord cs) : ∀ c ∈ cs, isFollowing c := by
  cases cs with
  | nil => simp [isWord] at h
  | cons c cs =>
    simp only [isWord, Bool.and_eq_true, List.all_eq_true] at h
    exact List.forall_mem_cons.2 ⟨isFollowing_of_isInitial h.1, h.2⟩

theorem isWord_append {cs ds : List Char} (h : isWord cs) (follow : ∀ d ∈ ds, isFollowing d) :
    isWord (cs ++ ds) := by
  cases cs with
  | nil => simp [isWord] at h
  | cons c cs =>
    simp only [isWord, Bool.and_eq_true, List.all_eq_true, List.cons_append] at h ⊢
    exact ⟨h.1, List.forall_mem_append.2 ⟨h.2, follow⟩⟩

/-- Validation refuses every keyword. -/
theorem isReserved_of_mem_keywords {name : String} (h : name ∈ Script.keywords) :
    isReserved name := by
  revert name
  decide

/-- An allowed name without a line feed can stand in source text. -/
theorem IsAllowed.isName {name : String} (h : IsAllowed name) (clean : '\n' ∉ name.toList) :
    IsName name := by
  refine ⟨?_, fun mem => ?_⟩
  · have word := h.identifier
    rwa [isIdentifier, dropFinalLineFeed_eq clean] at word
  · have reserved := isReserved_of_mem_keywords mem
    simp [h.free] at reserved

/-- What stands before a name that is moved out of the way. -/
private def movedName (name : String) : String :=
  "field_" ++ String.ofList (name.toList.dropWhile (· = '_'))

/-- The attribute of a field, by whether its name is protected and then taken. -/
private theorem attributeName_cases (name : String) :
    ∃ base, (base = name ∧ isProtected name.toList = false ∨ base = movedName name) ∧
      (attributeName name = base ∧ isTaken base = false ∨ attributeName name = base ++ "_field") := by
  have shape : attributeName name =
      let base := if isProtected name.toList then movedName name else name
      if isTaken base then base ++ "_field" else base := rfl
  generalize moved : (if isProtected name.toList then movedName name else name) = base at shape
  refine ⟨base, ?_, ?_⟩
  · cases given : isProtected name.toList <;> simp_all
  · cases taken : isTaken base <;> simp_all

/-- The attribute of a field is a name that a member may have. -/
theorem isMember_attributeName {name : String} (h : IsName name) : IsMember (attributeName name) := by
  obtain ⟨base, origin, ending⟩ := attributeName_cases name
  have word : isWord base.toList := by
    obtain ⟨rfl, -⟩ | rfl := origin
    · exact h.1
    · rw [movedName, String.toList_append]
      refine isWord_append (by decide) fun c mem => ?_
      rw [String.toList_ofList] at mem
      exact isFollowing_of_isWord h.1 c (List.dropWhile_subset _ mem)
  have shown : base.toList.head? ≠ some '_' := by
    obtain ⟨rfl, unprotected⟩ | rfl := origin
    · simp only [isProtected, Bool.or_eq_false_iff, decide_eq_false_iff_not] at unprotected
      exact unprotected.1
    · simp [movedName]
  have filled : base.toList ≠ [] := by
    rintro empty
    simp [empty, isWord] at word
  have longer (names : List String) (other : ∀ n ∈ names, ¬ "_field".toList <:+ n.toList) :
      base ++ "_field" ∉ names := fun mem => other _ mem ⟨base.toList, by simp⟩
  have unprefixed (names : List String) (other : ∀ n ∈ names, ¬ "field_".toList <+: n.toList) :
      movedName name ∉ names := fun mem => other _ mem ⟨_, by rw [movedName, String.toList_append]⟩
  obtain ⟨same, untaken⟩ | same := ending <;> rw [same]
  · have free : base ∉ annotationNames ++ moduleNames := by
      simp only [isTaken, Bool.or_eq_false_iff, List.contains_eq_mem, decide_eq_false_iff_not] at untaken
      simp [untaken]
    refine ⟨⟨word, ?_⟩, shown, free, ?_⟩
    · obtain ⟨rfl, -⟩ | rfl := origin
      · exact h.2
      · exact unprefixed _ (by decide)
    · obtain ⟨rfl, unprotected⟩ | rfl := origin
      · rintro rfl
        exact absurd unprotected (by decide)
      · exact fun equal => unprefixed ["model_config"] (by decide) (by simp [equal])
  · refine ⟨⟨?_, longer _ (by decide)⟩, ?_, longer _ (by decide), fun equal => ?_⟩
    · rw [String.toList_append]
      exact isWord_append word (by decide)
    · rw [String.toList_append, List.head?_append_of_ne_nil _ filled]
      exact shown
    · exact longer ["model_config"] (by decide) (by simp [equal])

/-- The capital form of a character of a name can stand in a name. -/
private theorem isFollowing_uppercase {c : Char} (h : isFollowing c) :
    ∀ d ∈ Text.uppercase c, isFollowing d :=
  isFollowing_elim (P := fun c => ∀ d ∈ Text.uppercase c, isFollowing d) (by decide) h

/-- A prefix before the capitalized name of a field is a name that a member may have. -/
private theorem isMember_append_capitalize {name start : String} (h : IsName name)
    (word : isWord start.toList) (shown : start.toList.head? ≠ some '_')
    (other : ∀ n ∈ Script.keywords ++ annotationNames ++ moduleNames ++ ["model_config"],
      ¬ start.toList <+: n.toList) : IsMember (start ++ capitalize name) := by
  have differs (n : String) (mem : n ∈ Script.keywords ++ annotationNames ++ moduleNames ++
      ["model_config"]) : start ++ capitalize name ≠ n := by
    rintro rfl
    exact other _ mem ⟨_, by rw [String.toList_append]⟩
  have filled : start.toList ≠ [] := by
    rintro empty
    simp [empty, isWord] at word
  have follow : ∀ c ∈ (capitalize name).toList, isFollowing c := by
    have all := isFollowing_of_isWord h.1
    unfold capitalize
    split
    · rename_i empty
      simp [empty]
    · rename_i c rest shape
      rw [shape] at all
      obtain ⟨first, others⟩ := List.forall_mem_cons.1 all
      rw [String.toList_ofList]
      exact List.forall_mem_append.2 ⟨isFollowing_uppercase first, others⟩
  refine ⟨⟨?_, fun mem => differs _ (by simp [mem]) rfl⟩, ?_, fun mem => differs _ ?_ rfl,
    differs _ (by simp)⟩
  · rw [String.toList_append]
    exact isWord_append word follow
  · rw [String.toList_append, List.head?_append_of_ne_nil _ filled]
    exact shown
  · simp only [List.mem_append] at mem ⊢
    tauto

/-- The getter of a field is a name that a member may have. -/
theorem isMember_getterName {name : String} (h : IsName name) : IsMember (getterName name) :=
  isMember_append_capitalize h (by decide) (by decide) (by decide)

/-- The setter of a field is a name that a member may have. -/
theorem isMember_setterName {name : String} (h : IsName name) : IsMember (setterName name) :=
  isMember_append_capitalize h (by decide) (by decide) (by decide)

end FlatRecord.Naming
