import FlatRecord.Proofs.Descriptor.MemberNames

/-!
# Qualified names

The qualified name of a valid descriptor falls apart at its last dot into the namespace and the name of
the type, and it is a dotted name as long as its namespace holds no line feed.
-/

namespace FlatRecord.Naming

/-- The pieces of a list hold everything but what they are cut at. -/
theorem flatten_splitOn {α : Type} [BEq α] [LawfulBEq α] (a : α) (xs : List α) :
    (xs.splitOn a).flatten = xs.filter (· != a) := by
  induction xs with
  | nil => rfl
  | cons x xs ih =>
    obtain ⟨first, rest, pieces⟩ := List.exists_cons_of_ne_nil (List.splitOn_ne_nil a xs)
    rw [List.splitOn_cons_eq_if_modifyHead]
    cases same : x == a with
    | true => simp [ih, bne, same]
    | false =>
      rw [pieces, List.flatten_cons] at ih
      rw [pieces, if_neg (by simp), List.modifyHead_cons, List.flatten_cons, List.cons_append, ih,
        List.filter_cons_of_pos (by simp [bne, same])]

/-- A line feed at the end is all that goes unnoticed. -/
theorem eq_dropFinalLineFeed (cs : List Char) :
    cs = dropFinalLineFeed cs ∨ cs = dropFinalLineFeed cs ++ ['\n'] := by
  unfold dropFinalLineFeed
  split
  · rename_i last
    exact .inr (List.dropLast_append_getLast? '\n' last).symm
  · exact .inl rfl

/-- A line feed at the end of the second of two parts is at the end of both. -/
theorem dropFinalLineFeed_append (cs : List Char) {c : Char} (other : c ≠ '\n') (ds : List Char) :
    dropFinalLineFeed (cs ++ c :: ds) = cs ++ c :: dropFinalLineFeed ds := by
  unfold dropFinalLineFeed
  cases ds with
  | nil => simp [other]
  | cons d ds =>
    rw [List.getLast?_append_of_ne_nil _ (by simp), List.getLast?_cons_cons]
    split
    · rw [List.dropLast_append_of_ne_nil (by simp), List.dropLast_cons_of_ne_nil (by simp)]
    · rfl

/-- A dotted name consists of dots and the characters of names, and may end with a line feed. -/
theorem mem_of_isQualified {name : String} (qualified : isQualified name) {c : Char}
    (mem : c ∈ name.toList) : c = '.' ∨ isFollowing c ∨ c = '\n' := by
  have word : ∀ c ∈ dropFinalLineFeed name.toList, c = '.' ∨ isFollowing c := by
    intro c mem
    by_cases dot : c = '.'
    · exact .inl dot
    have among : c ∈ ((dropFinalLineFeed name.toList).splitOn '.').flatten := by
      rw [flatten_splitOn]
      simp [mem, dot]
    obtain ⟨piece, held, mem⟩ := List.mem_flatten.1 among
    exact .inr (isFollowing_of_isWord (List.all_eq_true.1 qualified piece held) c mem)
  obtain same | same := eq_dropFinalLineFeed name.toList <;> rw [same] at mem
  · exact (word c mem).imp_right .inl
  · obtain mem | mem := List.mem_append.1 mem
    · exact (word c mem).imp_right .inl
    · exact .inr (.inr (List.mem_singleton.1 mem))

/-- An allowed name holds no dot. -/
theorem IsAllowed.dotless {name : String} (h : IsAllowed name) : '.' ∉ name.toList := by
  have word : '.' ∉ dropFinalLineFeed name.toList := fun mem =>
    absurd (isFollowing_of_isWord h.identifier '.' mem) (by decide)
  intro mem
  obtain same | same := eq_dropFinalLineFeed name.toList <;> rw [same] at mem
  · exact word mem
  · obtain mem | mem := List.mem_append.1 mem
    · exact word mem
    · simp at mem

/-- A dotted name falls apart at its last dot. -/
theorem splitLast_append (space : String) {last : String} (dotless : '.' ∉ last.toList) :
    splitLast (space ++ "." ++ last) = (space, last) := by
  have reversed : (space ++ "." ++ last).toList.reverse =
      last.toList.reverse ++ '.' :: space.toList.reverse := by simp
  have before : ∀ c ∈ last.toList.reverse, (c != '.') = true := by
    intro c mem
    rw [bne_iff_ne]
    rintro rfl
    exact dotless (List.mem_reverse.1 mem)
  unfold splitLast
  simp only [reversed]
  rw [List.takeWhile_append_of_pos before, List.dropWhile_append_of_pos before]
  simp

end FlatRecord.Naming

namespace FlatRecord.Descriptor

variable {d : Descriptor}

/-- The parts of a qualified name. -/
theorem IsValid.splitLast_qualifiedName (valid : d.IsValid) :
    Naming.splitLast d.qualifiedName = (d.space, d.typeName) :=
  Naming.splitLast_append d.space valid.named.dotless

/-- The qualified name of a valid descriptor is a dotted name unless its namespace holds a line
feed. -/
theorem IsValid.isQualified_qualifiedName (valid : d.IsValid) :
    Naming.isQualified d.qualifiedName ↔ '\n' ∉ d.space.toList := by
  have parts : (Naming.dropFinalLineFeed d.qualifiedName.toList).splitOn '.' =
      d.space.toList.splitOn '.' ++ [Naming.dropFinalLineFeed d.typeName.toList] := by
    have name : d.qualifiedName.toList = d.space.toList ++ '.' :: d.typeName.toList := by
      simp [qualifiedName]
    have dotless : '.' ∉ Naming.dropFinalLineFeed d.typeName.toList := fun mem =>
      absurd (Naming.isFollowing_of_isWord valid.named.identifier '.' mem) (by decide)
    rw [name, Naming.dropFinalLineFeed_append _ (by decide), List.splitOn_append_cons_self,
      List.splitOn_eq_singleton dotless]
  have pieces : '\n' ∈ d.space.toList ↔ ∃ piece ∈ d.space.toList.splitOn '.', '\n' ∈ piece := by
    rw [← List.mem_flatten, Naming.flatten_splitOn, List.mem_filter]
    simp
  rw [Naming.isQualified, parts, List.all_append, Bool.and_eq_true, List.all_eq_true, pieces]
  constructor
  · rintro ⟨words, -⟩ ⟨piece, mem, among⟩
    exact absurd (Naming.isFollowing_of_isWord (words piece mem) '\n' among) (by decide)
  · intro clean
    refine ⟨fun piece mem => ?_, (Bool.and_true _).trans valid.named.identifier⟩
    have word := (valid.segments (String.ofList piece) (List.mem_map_of_mem mem)).identifier
    rwa [Naming.isIdentifier, String.toList_ofList,
      Naming.dropFinalLineFeed_eq fun among => clean ⟨piece, mem, among⟩] at word

end FlatRecord.Descriptor
