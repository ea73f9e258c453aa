import FlatRecord.Proofs.Yaml.LeadingTokens
import FlatRecord.Yaml.Meaning

/-!
# Texts that begin with a documentation line

A text whose first line is a documentation text between triple quotes is no document. To JSON it is an
empty string with something behind it. To YAML its first line is three scalars in a row; the line break
makes sure that none of them is a key, so they are the first tokens of the text, and no document has two
scalars without anything between them.
-/

namespace FlatRecord.Yaml

/-- Whether a character stands for itself within double quotes and keeps to its line. -/
def IsQuotable (c : Char) : Prop := c ≠ '"' ∧ c ≠ '\\' ∧ isBreak c = false

/-- Blanks before something else on the line are read up to there. -/
theorem quotedBlanks_eq_ok {gaps rest : List Char} {c : Cursor} {ch : Char}
    (blank : ∀ g ∈ gaps, isGap g = true) (other : isGap ch = false) (inline : isBreak ch = false)
    (shape : c.rest = gaps ++ ch :: rest) :
    quotedBlanks c = .ok (gaps.reverse, c.skip gaps.length) := by
  have taken : c.rest.takeWhile isGap = gaps := by
    rw [shape, List.takeWhile_append_of_pos blank, List.takeWhile_cons_of_neg (by simp [other]),
      List.append_nil]
  have behind : (c.skip gaps.length).rest = ch :: rest := by
    rw [Cursor.rest_skip, shape, List.drop_left]
  have unbroken : (c.skip gaps.length).lineBreak? = none :=
    Cursor.lineBreak?_eq_none (by simpa [Cursor.peek?, behind] using inline)
  unfold quotedBlanks Cursor.takeWhile
  simp only [taken, unbroken, behind]
  rfl

/-- A blank breaks no line. -/
theorem isBreak_of_isGap {c : Char} (gap : isGap c = true) : isBreak c = false := by
  obtain rfl | rfl : c = ' ' ∨ c = '\t' := by simpa [isGap] using gap
  all_goals decide

/-- What is quoted falls apart into blanks and something else. -/
theorem exists_gaps {inner : List Char} (tail : List Char) (plain : ∀ ch ∈ inner, IsQuotable ch) :
    ∃ gaps others ch rest, inner = gaps ++ others ∧ others ++ '"' :: tail = ch :: rest ∧
      (∀ g ∈ gaps, isGap g = true) ∧ isGap ch = false ∧ isBreak ch = false := by
  induction inner with
  | nil => exact ⟨[], [], '"', tail, rfl, rfl, by simp, by decide, by decide⟩
  | cons ch inner ih =>
    by_cases gap : isGap ch = true
    · obtain ⟨gaps, others, next, rest, rfl, shape, blank, other⟩ :=
        ih fun ch mem => plain ch (.tail _ mem)
      exact ⟨ch :: gaps, others, next, rest, rfl, shape, List.forall_mem_cons.2 ⟨gap, blank⟩, other⟩
    · exact ⟨[], ch :: inner, ch, inner ++ '"' :: tail, rfl, rfl, by simp, by simpa using gap,
        (plain ch (.head _)).2.2⟩

/-- Characters that stand for themselves are read up to the closing quote, on one line. -/
theorem quotedRest_eq_ok {tail : List Char} (fuel : Nat) : ∀ {inner : List Char} {c : Cursor}
    (text : List Char), (∀ ch ∈ inner, IsQuotable ch) → c.rest = inner ++ '"' :: tail →
    inner.length < fuel → ∃ s c', quotedRest true fuel c text = .ok (s, c') ∧ c'.rest = tail ∧
      c'.line = c.line := by
  induction fuel with
  | zero => exact fun _ _ _ short => absurd short (Nat.not_lt_zero _)
  | succ fuel ih =>
    intro inner c text plain shape short
    cases inner with
    | nil =>
      have seen : c.peek? = some '"' := by rw [Cursor.peek?, shape]; rfl
      refine ⟨String.ofList text.reverse, c.next, ?_, by simp [Cursor.rest_next, shape],
        Cursor.line_next_eq seen (by decide)⟩
      unfold quotedRest
      rw [seen]
      rfl
    | cons ch inner =>
      have seen : c.peek? = some ch := by rw [Cursor.peek?, shape]; rfl
      obtain ⟨quote, backslash, inline⟩ := plain ch (.head _)
      unfold quotedRest
      simp only [seen, inline, Bool.or_false, if_true, if_neg quote, if_neg backslash]
      split
      · rename_i gap
        obtain ⟨gaps, others, next, rest, parts, front, blank, other, same⟩ := exists_gaps tail plain
        rw [parts, List.append_assoc, front] at shape
        have nonempty : gaps ≠ [] := by
          rintro rfl
          obtain rfl : ch = next := by
            rw [List.nil_append] at parts
            rw [← parts] at front
            exact (List.cons.inj front).1
          rw [gap] at other
          cases other
        have lengths := congrArg List.length parts
        have := List.length_pos_iff.2 nonempty
        simp only [List.length_cons, List.length_append] at lengths short
        rw [quotedBlanks_eq_ok blank other same shape]
        obtain ⟨s, c', read, rest', line⟩ := @ih others (c.skip gaps.length)
          (gaps.reverse ++ text) (fun ch mem => plain ch (by rw [parts]; simp [mem]))
          (by rw [Cursor.rest_skip, shape, List.drop_left, front]) (by omega)
        refine ⟨s, c', read, rest', line.trans (Cursor.line_skip_eq _ fun ch mem => ?_)⟩
        rw [shape, List.take_left] at mem
        exact isBreak_of_isGap (blank ch mem)
      · obtain ⟨s, c', read, rest', line⟩ := ih (c := c.next) (ch :: text)
          (fun ch mem => plain ch (.tail _ mem)) (by simp [Cursor.rest_next, shape])
          (by simpa using short)
        exact ⟨s, c', read, rest', line.trans (Cursor.line_next_eq seen inline)⟩

namespace Lexer

/-- The state on the first line, where only scalars have been cut so far. -/
structure OnLine (ts : List Token) (cs : List Char) (l : Lexer) : Prop where
  rest : l.cursor.rest = cs
  tokens : l.tokens = ts.reverse
  count : l.count = ts.length
  indent : l.indent = -1
  outerIndents : l.outerIndents = []
  /-- No candidate is required, and none is on another line. -/
  candidate : ∀ k ∈ l.candidate, k.required = false ∧ k.line = l.cursor.line
  outerCandidates : l.outerCandidates = []

namespace OnLine

variable {ts : List Token} {cs tail : List Char} {l : Lexer}

/-- Candidates are given up without a fault. -/
theorem giveUp_candidate (h : l.OnLine ts cs) : giveUp l.candidate = .ok none := by
  unfold giveUp
  split
  · rename_i k found
    rw [(h.candidate k found).1]
    rfl
  · rfl

theorem expire (h : l.OnLine ts cs) :
    ∃ l', l.expire = .ok l' ∧ l'.OnLine ts cs ∧ l'.cursor = l.cursor := by
  have one : ∃ candidate, expireOne l.cursor l.candidate = .ok candidate ∧
      ∀ k ∈ candidate, k ∈ l.candidate := by
    unfold expireOne
    split
    · rename_i k found
      split
      · rw [← found, h.giveUp_candidate]
        exact ⟨none, rfl, nofun⟩
      · exact ⟨some k, rfl, fun _ mem => found ▸ mem⟩
    · exact ⟨none, rfl, nofun⟩
  obtain ⟨candidate, same, mem⟩ := one
  refine ⟨{ l with candidate }, ?_, ⟨h.rest, h.tokens, h.count, h.indent, h.outerIndents,
    fun k among => h.candidate k (mem k among), h.outerCandidates⟩, rfl⟩
  unfold Lexer.expire
  have none' := h.outerCandidates
  obtain ⟨cursor, tokens, count, indent, outerIndents, keyAllowed, k, outer⟩ := l
  subst none'
  rw [same]
  rfl

theorem keepCandidate (h : l.OnLine ts cs) :
    ∃ l', l.keepCandidate = .ok l' ∧ l'.OnLine ts cs ∧ l'.cursor = l.cursor := by
  unfold Lexer.keepCandidate
  split
  · unfold dropCandidate
    rw [h.giveUp_candidate]
    refine ⟨_, rfl, ⟨h.rest, h.tokens, h.count, h.indent, h.outerIndents, ?_, h.outerCandidates⟩, rfl⟩
    rintro k ⟨⟩
    have outside : l.indent ≠ l.cursor.column := by
      rw [h.indent]
      omega
    simp [outside]
  · exact ⟨l, rfl, h, rfl⟩

theorem unwind (h : l.OnLine ts cs) (column : Int) : l.unwind column = l := by
  unfold Lexer.unwind inFlow
  rw [h.outerCandidates, h.indent, h.outerIndents]
  show { l with indent := -1, outerIndents := [] } = l
  rw [← h.indent, ← h.outerIndents]

/-- Before a quote there is no gap. -/
theorem skipGaps (h : l.OnLine ts ('"' :: tail)) (fuel : Nat) : l.skipGaps fuel = l := by
  have spaces : l.cursor.skipSpaces = l.cursor := by
    rw [Cursor.skipSpaces, Cursor.skipWhile, Cursor.takeWhile, h.rest]
    rfl
  have comment : l.cursor.skipComment = l.cursor := by
    rw [Cursor.skipComment, Cursor.sees, Cursor.peek?, h.rest]
    rfl
  have unbroken : l.cursor.lineBreak? = none :=
    Cursor.lineBreak?_eq_none (by simp [Cursor.peek?, h.rest, isBreak])
  cases fuel with
  | zero => rfl
  | succ fuel =>
    unfold Lexer.skipGaps
    simp only [spaces, comment, unbroken]

/-- A quote begins a quoted scalar. -/
theorem step (h : l.OnLine ts ('"' :: tail)) :
    l.step '"' = l.nodeToken fun l => (quotedScalar true l.cursor.next).map fun r =>
      (.scalar r.1 false, r.2) := by
  have unmarked {c : Char} (mark : List Char) (other : (c == '"') = false) :
      l.cursor.seesMark (c :: mark) = false := by
    rw [Cursor.seesMark, h.rest, List.isPrefixOf, other]
    rfl
  unfold Lexer.step
  simp [unmarked (c := '-') ['-', '-'] rfl, unmarked (c := '.') ['.', '.'] rfl]

/-- A quoted scalar on the line is cut, and the line goes on behind it. -/
theorem run_quoted {inner : List Char} (tail : List Char) (plain : ∀ ch ∈ inner, IsQuotable ch)
    (h : l.OnLine ts ('"' :: (inner ++ '"' :: tail))) :
    ∃ (s : String) (l' : Lexer), l'.OnLine (ts ++ [.scalar s false]) tail ∧
      ∀ fuel, l.run (fuel + 1) = l'.run fuel := by
  obtain ⟨expired, expires, onLine, same⟩ := h.expire
  obtain ⟨kept, keeps, before, same'⟩ := onLine.keepCandidate
  have begins : kept.cursor.peek? = some '"' := by rw [Cursor.peek?, before.rest]; rfl
  have behind : kept.cursor.next.rest = inner ++ '"' :: tail := by
    rw [Cursor.rest_next, before.rest]
    rfl
  obtain ⟨s, c, read, rest, line⟩ := quotedRest_eq_ok (kept.cursor.next.rest.length + 1) [] plain behind
    (by rw [behind]; simp only [List.length_append, List.length_cons]; omega)
  refine ⟨s, { kept with keyAllowed := false, cursor := c }.emit (.scalar s false), ⟨rest, ?_, ?_,
    before.indent, before.outerIndents, fun k mem => ?_, before.outerCandidates⟩, fun fuel => ?_⟩
  · simp [emit, before.tokens]
  · simp [emit, before.count]
  · obtain ⟨free, inline⟩ := before.candidate k mem
    exact ⟨free, inline.trans ((line.trans (Cursor.line_next_eq begins (by decide))).symm)⟩
  · have seen : expired.cursor.peek? = some '"' := by rw [Cursor.peek?, onLine.rest]; rfl
    show ((l.skipGaps (fuel + 1)).expire >>= _) = _
    rw [h.skipGaps, expires, ok_bind, onLine.unwind]
    simp only [seen]
    rw [onLine.step]
    unfold nodeToken
    rw [keeps, ok_bind]
    simp only [quotedScalar, read]
    rfl

/-- The tokens before a line break are the first ones of the whole text. -/
theorem isPrefix_run {rest : List Char} (h : l.OnLine ts ('\n' :: rest)) {fuel : Nat} {cut : List Token}
    (ran : l.run fuel = .ok cut) : ts <+: cut := by
  refine Lexer.isPrefix_run fuel (fun expired same => ?_) ran
  cases fuel with
  | zero => cases ran
  | succ fuel =>
    have spaces : l.cursor.skipSpaces.skipComment = l.cursor := by
      rw [Cursor.skipSpaces, Cursor.skipWhile, Cursor.takeWhile, h.rest]
      show l.cursor.skipComment = l.cursor
      rw [Cursor.skipComment, Cursor.sees, Cursor.peek?, h.rest]
      rfl
    have broken : l.cursor.lineBreak? = some ('\n', l.cursor.next) := by
      unfold Cursor.lineBreak?
      rw [h.rest]
      rfl
    have line : l.cursor.next.line = l.cursor.line + 1 := by
      unfold Cursor.next
      rw [h.rest]
      rfl
    unfold Lexer.skipGaps at same
    simp only [spaces, broken] at same
    obtain ⟨cursor, keyAllowed, skipped, later⟩ := exists_skipGaps_eq
      { l with cursor := l.cursor.next, keyAllowed := l.keyAllowed || !l.inFlow } fuel
    rw [skipped] at same
    -- The break takes the place off the line of the candidate.
    have gone : expireOne cursor l.candidate = .ok none := by
      unfold expireOne
      split
      · rename_i k found
        obtain ⟨free, inline⟩ := h.candidate k found
        have other : (k.line != cursor.line) = true := bne_iff_ne.2 (by dsimp only at later; omega)
        rw [other, Bool.true_or, if_pos rfl, ← found, h.giveUp_candidate]
      · rfl
    unfold Lexer.expire at same
    simp only [gone, h.outerCandidates] at same
    obtain rfl := Except.ok.inj same
    exact ⟨⟨[], h.tokens⟩, by simp [h.count, h.tokens], by simp, by simp⟩

end OnLine

/-- The state at the beginning of a text is on its first line. -/
theorem onLine_start (cs : List Char) : (start cs).OnLine [] cs :=
  ⟨rfl, rfl, rfl, rfl, rfl, nofun, rfl⟩

end Lexer

/-- The first line of a text that begins with a documentation text is three scalars. -/
theorem exists_isPrefix_tokens {inner rest : List Char} (plain : ∀ ch ∈ inner, IsQuotable ch)
    {cut : List Token}
    (read : tokens ('"' :: '"' :: '"' :: (inner ++ '"' :: '"' :: '"' :: '\n' :: rest)) = .ok cut) :
    ∃ s s' s'', [.scalar s false, .scalar s' false, .scalar s'' false] <+: cut := by
  unfold tokens at read
  split at read
  · have unmarked (cs : List Char) : (Lexer.start ('"' :: cs)).cursor.sees '\ufeff' = false := rfl
    simp only [unmarked, if_neg Bool.false_ne_true] at read
    have none' : ∀ ch ∈ ([] : List Char), IsQuotable ch := by simp
    obtain ⟨s, l, first, ran⟩ := Lexer.OnLine.run_quoted
      ('"' :: (inner ++ '"' :: '"' :: '"' :: '\n' :: rest)) none' (Lexer.onLine_start _)
    obtain ⟨s', l', second, ran'⟩ := first.run_quoted ('"' :: '"' :: '\n' :: rest) plain
    obtain ⟨s'', l'', third, ran''⟩ := Lexer.OnLine.run_quoted ('\n' :: rest) none' second
    replace read : Lexer.run (_ + 1 + 1 + 1) (Lexer.start ('"' :: ([] ++ _))) = .ok cut := read
    rw [ran, ran', ran''] at read
    exact ⟨s, s', s'', third.isPrefix_run read⟩
  · cases read

/-- A document with two scalars in a row is refused. -/
theorem Node.read_of_scalars {cs : List Char} {cut later : List Token} {s s' : String}
    {plain plain' : Bool} (read : tokens cs = .ok cut)
    (shape : cut = .scalar s plain :: .scalar s' plain' :: later) : Node.read cs = .error .malformed := by
  subst shape
  unfold Node.read
  rw [read]
  rfl

/-- A text that begins with a documentation text on a line of its own is no YAML document. -/
theorem read_of_quoted_line {inner rest : List Char} (plain : ∀ ch ∈ inner, IsQuotable ch) :
    ∃ fault, read (String.ofList ('"' :: '"' :: '"' :: (inner ++ '"' :: '"' :: '"' :: '\n' :: rest))) =
      .error fault := by
  unfold read
  rw [String.toList_ofList]
  cases cut : tokens ('"' :: '"' :: '"' :: (inner ++ '"' :: '"' :: '"' :: '\n' :: rest)) with
  | error fault =>
    unfold Node.read
    rw [cut]
    exact ⟨fault, rfl⟩
  | ok ts =>
    obtain ⟨s, s', s'', later, shape⟩ := exists_isPrefix_tokens plain cut
    rw [Node.read_of_scalars cut shape.symm]
    exact ⟨.malformed, rfl⟩

end FlatRecord.Yaml

/-- A text that begins with a documentation text is no JSON document. -/
theorem FlatRecord.Json.read_of_quotes (rest : List Char) :
    ∃ fault, read (String.ofList ('"' :: '"' :: '"' :: rest)) = .error fault := by
  have empty (start position : Nat) :
      stringRest start ('"' :: '"' :: rest) position [] = .ok ("", '"' :: rest, position + 1) := by
    unfold stringRest
    rfl
  unfold read
  rw [String.toList_ofList]
  dsimp only
  rw [if_neg (by simp)]
  simp only [skipSpaces, isSpace]
  unfold value
  simp [empty, bind, Except.bind, pure, Except.pure, skipSpaces, isSpace]
