import FlatRecord.Proofs.Script.Cutting
import FlatRecord.Script.Printer

/-!
# Cutting lines into tokens

`CutsLines p cs ls p'` says that the text `cs`, which begins a line and ends with a line feed, is cut
into the tokens `ls` from the place `p` on, and that the next line begins at `p'`. Printed blocks are
indented by four blanks for each block around them, so a place is known from its line and from the
depth of the block that the line before it belongs to.
-/

namespace FlatRecord.Script

open FlatRecord.Text

/-- The margins of a block of some depth and of the blocks around it. -/
def blockMargins : (depth : Nat) → List Margin
  | 0 => [⟨0, 0⟩]
  | depth + 1 => ⟨4 * (depth + 1), 4 * (depth + 1)⟩ ::
    blockMargins depth

/-- The beginning of a line behind a block of some depth. -/
def Place.behind (line depth : Nat) : Place := ⟨line, [], blockMargins depth⟩

/-- The tokens that announce the step from a block of one depth to a block of another. -/
def moves (line before depth : Nat) : List Lexeme :=
  if before < depth then [⟨.indent, line⟩] else List.replicate (before - depth) ⟨.dedent, line⟩

/-- Whole lines are cut into tokens. A line takes a round more than it has characters at most, and
each one ends with a line feed. -/
def CutsLines (p : Place) (cs : List Char) (ls : List Lexeme) (p' : Place) : Prop :=
  ∃ k ≤ 2 * cs.length, ∀ rounds done rest,
    scan (rounds + k) true p done (cs ++ rest) = scan rounds true p' (ls.reverse ++ done) rest

theorem blockMargins_cons (depth : Nat) :
    ∃ outer, blockMargins depth = ⟨4 * depth, 4 * depth⟩ :: outer ∧ outer.length = depth := by
  induction depth with
  | zero => exact ⟨[], rfl, rfl⟩
  | succ depth ih =>
    obtain ⟨outer, shape, count⟩ := ih
    refine ⟨blockMargins depth, rfl, ?_⟩
    rw [shape, List.length_cons, count]

/-- On the way back to a block, the blocks inside it are left. -/
private theorem leaveMargins_blockMargins (depth deeper : Nat) :
    leaveMargins (4 * depth) (blockMargins (depth + deeper)) = (deeper, blockMargins depth) := by
  induction deeper with
  | zero =>
    obtain ⟨outer, shape, -⟩ := blockMargins_cons depth
    simp [shape, leaveMargins]
  | succ deeper ih =>
    have wider : 4 * depth < 4 * (depth + deeper + 1) := by omega
    rw [← Nat.add_assoc, blockMargins, leaveMargins, if_pos wider, ih]

/-- A line can begin in the block of the line before it, in a block around that one, and in a new
block inside it. -/
theorem Place.indentTo_behind {line before depth : Nat} (near : depth ≤ before + 1)
    (room : depth < maxMargins) :
    (Place.behind line before).indentTo ⟨4 * depth, 4 * depth⟩ =
      some (moves line before depth, .behind line depth) := by
  rcases Nat.lt_or_ge before depth with deeper | outside
  · obtain rfl : depth = before + 1 := by omega
    obtain ⟨outer, shape, count⟩ := blockMargins_cons before
    have stay : ¬ 4 * (before + 1) < 4 * before := by omega
    have other : 4 * before ≠ 4 * (before + 1) := by omega
    have narrow : 4 * before < 4 * (before + 1) := by omega
    have few : outer.length + 1 < maxMargins := by omega
    simp only [indentTo, behind, moves, shape, leaveMargins, stay, other, narrow, few, deeper,
      List.length_cons, if_true, if_false, and_self, blockMargins]
  · obtain ⟨inner, rfl⟩ := Nat.exists_eq_add_of_le outside
    obtain ⟨outer, shape, -⟩ := blockMargins_cons depth
    have level : depth + inner - depth = inner := by omega
    rw [indentTo, behind, leaveMargins_blockMargins, shape, moves, if_neg (by omega), level, behind, shape]
    simp

/-- The blanks at the head of a line are counted. -/
private theorem measure_blanks {c : Char} (shown : c ∉ [' ', '\t', '\x0c', '\\']) (blanks : Nat)
    (margin : Margin) (rest : List Char) :
    measure margin ⟨0, 0⟩ 0 (List.replicate blanks ' ' ++ c :: rest) =
      some ⟨⟨margin.wide + blanks, margin.narrow + blanks⟩, 0, c :: rest⟩ := by
  induction blanks generalizing margin with
  | zero =>
    simp only [List.mem_cons, List.not_mem_nil, or_false, not_or] at shown
    obtain ⟨space, tab, feed, backslash⟩ := shown
    rw [List.replicate_zero, List.nil_append, measure.eq_def]
    split <;> simp_all
  | succ blanks ih =>
    rw [List.replicate_succ, List.cons_append, measure, ih]
    simp only [Nat.add_assoc, Nat.add_comm 1]

/-- Where a line begins, its margin is turned into tokens. -/
theorem scan_line (line : Nat) {before depth : Nat} {c : Char} (near : depth ≤ before + 1)
    (room : depth < maxMargins) (shown : c ∉ [' ', '\t', '\x0c', '\\', '\n', '#'])
    (rounds : Nat) (done : List Lexeme) (cs : List Char) :
    scan (rounds + 1) true (.behind line before) done (indentation depth ++ c :: cs) =
      scan rounds false (.behind line depth) (moves line before depth ++ done) (c :: cs) := by
  simp only [List.mem_cons, List.not_mem_nil, or_false, not_or] at shown
  obtain ⟨space, tab, feed, backslash, newline, comment⟩ := shown
  have margin : measure ⟨0, 0⟩ ⟨0, 0⟩ 0 (indentation depth ++ c :: cs) =
      some ⟨⟨4 * depth, 4 * depth⟩, 0, c :: cs⟩ := by
    have blanks := measure_blanks (c := c) (by simp [space, tab, feed, backslash]) (4 * depth)
      ⟨0, 0⟩ cs
    simpa [indentation] using blanks
  have same : (Place.behind line before).down 0 = .behind line before := rfl
  rw [scan, margin]
  simp only [same]
  split
  · simp_all
  · simp_all
  · simp [Place.indentTo_behind near room]

namespace CutsLines

variable {p p' p'' : Place} {cs cs' : List Char} {ls ls' : List Lexeme}

/-- Lines are cut one after the other. -/
theorem append (first : CutsLines p cs ls p') (second : CutsLines p' cs' ls' p'') :
    CutsLines p (cs ++ cs') (ls ++ ls') p'' := by
  obtain ⟨k, short, step⟩ := first
  obtain ⟨k', short', step'⟩ := second
  refine ⟨k' + k, by simp; omega, fun rounds done rest => ?_⟩
  rw [← Nat.add_assoc, List.append_assoc, step, step', List.reverse_append, List.append_assoc]

/-- A line without tokens. -/
theorem blank : CutsLines p ['\n'] [] (p.down 1) :=
  ⟨1, by simp, fun _ _ _ => rfl⟩

/-- A line with tokens. -/
theorem line {line before depth : Nat} {border : List Char → Prop} {c : Char}
    (near : depth ≤ before + 1) (room : depth < maxMargins)
    (shown : c ∉ [' ', '\t', '\x0c', '\\', '\n', '#'])
    (cut : Cuts border (.behind line depth) (c :: cs) ls p')
    (ends : ∀ rest, border ('\n' :: rest)) (closed : p'.pending = []) :
    CutsLines (.behind line before) (indentation depth ++ (c :: cs ++ ['\n']))
      (moves line before depth ++ (ls ++ [⟨.newline, p'.line⟩])) (p'.down 1) := by
  obtain ⟨k, fits, short, step⟩ := cut
  refine ⟨k + 2, by simp only [List.length_append, List.length_singleton]; omega,
    fun rounds done rest => ?_⟩
  have begin_line : scan (rounds + (k + 2)) true (.behind line before) done
      (indentation depth ++ (c :: cs ++ ['\n']) ++ rest) =
        scan (rounds + 1 + k) false (.behind line depth) (moves line before depth ++ done)
          (c :: cs ++ '\n' :: rest) := by
    have whole := scan_line line near room shown (rounds + 1 + k) done (cs ++ '\n' :: rest)
    rw [show rounds + (k + 2) = rounds + 1 + k + 1 by omega]
    simpa using whole
  have moves_reverse : (moves line before depth).reverse = moves line before depth := by
    unfold moves
    split <;> simp
  have end_line (done : List Lexeme) : scan (rounds + 1) false p' done ('\n' :: rest) =
      scan rounds true (p'.down 1) (⟨.newline, p'.line⟩ :: done) rest := by
    rw [scan.eq_def]
    simp [isGap, closed]
  rw [begin_line, step _ _ _ (ends rest), end_line]
  simp [moves_reverse]

end CutsLines

/-- One character of a text whose line ends become line feeds: what there is of the text in reverse,
and whether a carriage return has just ended a line. -/
private def lineStep (state : List Char × Bool) (c : Char) : List Char × Bool :=
  if c = '\r' then ('\n' :: state.1, true)
  else if c = '\n' ∧ state.2 then (state.1, false)
  else (c :: state.1, false)

private theorem foldl_lineStep {cs : List Char} (feeds : '\r' ∉ cs) (done : List Char) :
    cs.foldl lineStep (done, false) = (cs.reverse ++ done, false) := by
  induction cs generalizing done with
  | nil => rfl
  | cons c cs ih =>
    obtain ⟨other, others⟩ := not_or.1 (List.mem_cons.not.1 feeds)
    simp [lineStep, Ne.symm other, ih others]

private theorem normalizeLines_eq_foldl (cs : List Char) : normalizeLines cs =
    (if (cs.foldl lineStep ([], false)).1.head? = some '\n' then (cs.foldl lineStep ([], false)).1
      else '\n' :: (cs.foldl lineStep ([], false)).1).reverse := rfl

/-- Text with line feeds only, the last line included, is as it should be. -/
theorem normalizeLines_eq {cs : List Char} (feeds : '\r' ∉ cs) (ended : cs.getLast? = some '\n') :
    normalizeLines cs = cs := by
  have last : cs.reverse.head? = some '\n' := by rw [List.head?_reverse, ended]
  simp only [normalizeLines_eq_foldl, foldl_lineStep feeds, List.append_nil, last, if_true,
    List.reverse_reverse]

/-- What has no other line ends than line feeds stays as it is at the beginning of a text. -/
theorem isPrefix_normalizeLines {cs : List Char} (feeds : '\r' ∉ cs) (tail : List Char) :
    cs <+: normalizeLines (cs ++ tail) := by
  have kept (state : List Char × Bool) : state.1 <:+ (tail.foldl lineStep state).1 := by
    induction tail generalizing state with
    | nil => exact List.suffix_rfl
    | cons c tail ih =>
      refine List.IsSuffix.trans ?_ (ih (lineStep state c))
      unfold lineStep
      split
      · exact List.suffix_cons _ _
      split
      · exact List.suffix_rfl
      · exact List.suffix_cons _ _
  have before := kept (cs.reverse, false)
  rw [normalizeLines_eq_foldl, List.foldl_append, foldl_lineStep feeds, List.append_nil]
  refine List.reverse_suffix.1 ?_
  rw [List.reverse_reverse]
  split
  · exact before
  · exact before.trans (List.suffix_cons _ _)

/-- Lines from the beginning of a text to its end are all its tokens; at the end every block is left. -/
theorem CutsLines.lexemes? {cs : List Char} {ls : List Lexeme} {line depth : Nat}
    (cut : CutsLines .start cs ls (.behind line depth)) (feeds : '\r' ∉ cs)
    (ended : cs.getLast? = some '\n') : lexemes? cs = some (ls ++ moves line depth 0) := by
  obtain ⟨k, short, step⟩ := cut
  have last (rounds : Nat) : scan (rounds + 1) true (.behind line depth) ls.reverse [] =
      some (moves line depth 0 ++ ls.reverse) := by
    have same : (Place.behind line depth).down 0 = .behind line depth := rfl
    have left : (Place.behind line depth).indentTo ⟨4 * 0, 4 * 0⟩ =
        some (moves line depth 0, .behind line 0) :=
      Place.indentTo_behind (Nat.zero_le _) (Nat.le_of_ble_eq_true rfl)
    rw [Nat.mul_zero] at left
    rw [scan]
    simp only [measure, if_true, same]
    rw [left]
    simp
  have moves_reverse : (moves line depth 0).reverse = moves line depth 0 := by
    simp [moves]
  have whole := step (2 * cs.length + 1 - k + 1) [] []
  rw [List.append_nil, List.append_nil, last, show 2 * cs.length + 1 - k + 1 + k =
    2 * cs.length + 2 by omega] at whole
  rw [Script.lexemes?, normalizeLines_eq feeds ended]
  simp [whole, moves_reverse]

end FlatRecord.Script
