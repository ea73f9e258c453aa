import FlatRecord.Proofs.Script.PrintedStatements

/-!
# Broken lines

A text is no module if one of its lines begins with a colon, or if the line of a class ends behind its
name. Whatever the lines before it hold and whatever follows, the text is cut into the tokens of these
lines first, and no statement is read from those of the broken one.
-/

namespace FlatRecord.Script

open Parse

/-- The beginning of a source text is cut into tokens, up to a place at the beginning of a line or
inside it. -/
def Starts (cs : List Char) (ls : List Lexeme) (fresh : Bool) (p : Place) : Prop :=
  ∃ k ≤ 2 * cs.length, ∀ rounds rest,
    scan (rounds + k) true .start [] (cs ++ rest) = scan rounds fresh p ls.reverse rest

/-- The tokens that have been cut stay, whatever follows. -/
theorem suffix_of_scan {rounds : Nat} {fresh : Bool} {p : Place} {done all : List Lexeme}
    {cs : List Char} (cut : scan rounds fresh p done cs = some all) : done <:+ all := by
  induction rounds generalizing fresh p done cs with
  | zero => cases cut
  | succ rounds ih =>
    cases fresh with
    | true =>
      rw [scan] at cut
      split at cut
      · cases cut
      dsimp only at cut
      split at cut
      · exact ih cut
      · exact ih cut
      split at cut
      · cases cut
      split at cut
      · obtain rfl := Option.some.inj cut
        exact List.suffix_append _ _
      · exact (List.suffix_append _ _).trans (ih cut)
    | false =>
      cases cs with
      | nil => cases cut
      | cons c rest =>
        rw [scan.eq_def] at cut
        dsimp only at cut
        split at cut
        · exact ih cut
        split at cut
        · exact ih cut
        split at cut
        · split at cut
          · exact (List.suffix_cons _ _).trans (ih cut)
          · exact ih cut
        split at cut
        · split at cut
          · split at cut
            · cases cut
            · exact ih cut
          · cases cut
        split at cut
        · cases cut
        · exact (List.suffix_cons _ _).trans (ih cut)

namespace Starts

variable {cs : List Char} {ls : List Lexeme} {fresh : Bool} {p : Place}

/-- Lines from the beginning of a text on. -/
theorem of_lines (cut : CutsLines .start cs ls p) : Starts cs ls true p := by
  obtain ⟨k, short, step⟩ := cut
  refine ⟨k, short, fun rounds rest => ?_⟩
  rw [step, List.append_nil]

/-- Lines, and the first token of the line behind them. -/
theorem token {line before depth : Nat} {border : List Char → Prop} {c : Char} {cs' : List Char}
    {ls' : List Lexeme} {p' : Place} (lines : CutsLines .start cs ls (.behind line before))
    (near : depth ≤ before + 1) (room : depth < maxMargins)
    (shown : c ∉ [' ', '\t', '\x0c', '\\', '\n', '#'])
    (cut : Cuts border (.behind line depth) (c :: cs') ls' p') (ends : ∀ rest, border rest) :
    Starts (cs ++ (indentation depth ++ c :: cs')) (ls ++ (moves line before depth ++ ls')) false
      p' := by
  obtain ⟨k, short, step⟩ := lines
  obtain ⟨k', -, short', step'⟩ := cut
  refine ⟨k' + 1 + k, ?_, fun rounds rest => ?_⟩
  · simp only [List.length_append, List.length_cons] at short' ⊢
    omega
  have moves_reverse : (moves line before depth).reverse = moves line before depth := by
    unfold moves
    split <;> simp
  have begun := scan_line line near room shown (rounds + k') ls.reverse (cs' ++ rest)
  rw [show rounds + (k' + 1 + k) = rounds + k' + 1 + k by omega, List.append_assoc, step,
    List.append_nil, List.append_assoc, List.cons_append, begun]
  rw [← List.cons_append, step' _ _ _ (ends rest)]
  simp [moves_reverse]

/-- The tokens at the beginning of a text are the first ones of the whole text. -/
theorem lexemes? (start : Starts cs ls fresh p) (feeds : '\r' ∉ cs) {tail : List Char}
    {all : List Lexeme} (cut : Script.lexemes? (cs ++ tail) = some all) : ls <+: all := by
  obtain ⟨k, short, step⟩ := start
  obtain ⟨rest, whole⟩ := isPrefix_normalizeLines feeds tail
  unfold Script.lexemes? at cut
  rw [← whole] at cut
  obtain ⟨reversed, scanned, rfl⟩ := Option.map_eq_some_iff.1 cut
  obtain ⟨rounds, enough⟩ : ∃ rounds, 2 * (cs ++ rest).length + 2 = rounds + k :=
    ⟨2 * (cs ++ rest).length + 2 - k, by simp only [List.length_append]; omega⟩
  rw [enough, step] at scanned
  exact List.reverse_suffix.1 (by rw [List.reverse_reverse]; exact suffix_of_scan scanned)

end Starts

section Lines

variable {line before depth : Nat}

/-- A body of simple statements leaves no block open. -/
theorem Printable.prints_flat {ss : List Stmt} (room : depth < maxMargins) (nonempty : ss ≠ [])
    (h : ∀ s ∈ ss, Printable 0 s) : ∃ ts,
      PrintsLines depth line (Stmt.printBody depth ss) (Stmt.placedBody depth line ss) ts 0 := by
  obtain ⟨ts, owed, few, prints⟩ := Printable.prints_body room nonempty h line
  obtain rfl := Nat.le_zero.1 few
  exact ⟨ts, prints⟩

/-- Neither the lines of statements nor a name hold a carriage return. -/
theorem PrintsLines.feeds {cs : List Char} {ss : List Stmt} {ts : List Lexeme} {owed : Nat}
    (prints : PrintsLines depth line cs ss ts owed) : '\r' ∉ cs :=
  fun mem => prints.clean _ mem (by simp)

theorem feeds_of_isWord {w : String} (word : Naming.isWord w.toList) : '\r' ∉ w.toList :=
  fun mem => (IsInline.word word).clean _ mem (by simp)

/-- Printed statements that leave no block open are cut where their block goes on. -/
theorem PrintsLines.cutsLines {cs : List Char} {ss : List Stmt} {ts : List Lexeme}
    (prints : PrintsLines depth line cs ss ts 0) :
    CutsLines (.behind line depth) cs ts (.behind (line + cs.count '\n') depth) := by
  obtain ⟨begin_line, cut⟩ := prints.cuts depth (Nat.le_succ depth)
  have stay : moves begin_line depth depth = [] := by simp [moves]
  rwa [stay, List.nil_append] at cut

private theorem endsWord_newline (rest : List Char) : EndsWord ('\n' :: rest) :=
  (endsOperand_newline rest).owner.word

private theorem cuts_word {p : Place} {w : String} (word : Naming.isWord w.toList) :
    Cuts EndsWord p w.toList [⟨.word w, p.line⟩] p := by
  have cut := Cuts.word (p := p) word
  rwa [String.ofList_toList] at cut

/-- A line of one word. -/
theorem CutsLines.wordLine {w : String} (line : Nat) (near : depth ≤ before + 1) (room : depth < maxMargins)
    (word : Naming.isWord w.toList) :
    CutsLines (.behind line before) (indentation depth ++ (w.toList ++ ['\n']))
      (moves line before depth ++ [⟨.word w, line⟩, ⟨.newline, line⟩]) (.behind (line + 1) depth) := by
  have cut := cuts_word (p := .behind line depth) word
  obtain ⟨c, cs, shape, shown⟩ := isShown_of_isWord word
  rw [shape] at cut ⊢
  exact CutsLines.line near room shown cut endsWord_newline rfl

private theorem cuts_class :
    Cuts AnyBorder (.behind line 0) "class ".toList [⟨.word "class", line⟩] (.behind line 0) :=
  cuts_word_space (w := "class") (by decide)

/-- The line of a class that ends behind its name. -/
theorem CutsLines.namedClass {w : String} (line : Nat) (word : Naming.isWord w.toList) :
    CutsLines (.behind line 0) ("class ".toList ++ w.toList ++ ['\n'])
      [⟨.word "class", line⟩, ⟨.word w, line⟩, ⟨.newline, line⟩] (.behind (line + 1) 0) :=
  CutsLines.line (Nat.zero_le _) (Nat.le_of_ble_eq_true rfl) (by decide)
    (cuts_class.append_any (cuts_word word)) endsWord_newline rfl

/-- The line of a class with one base. -/
theorem CutsLines.derivedClass {name base : String} (line : Nat) (word : Naming.isWord name.toList)
    (word' : Naming.isWord base.toList) :
    CutsLines (.behind line 0)
      ("class ".toList ++ (name.toList ++ ('(' :: (base.toList ++ [')']) ++ [':'])) ++ ['\n'])
      [⟨.word "class", line⟩, ⟨.word name, line⟩, ⟨.mark "(", line⟩, ⟨.word base, line⟩,
        ⟨.mark ")", line⟩, ⟨.mark ":", line⟩, ⟨.newline, line⟩] (.behind (line + 1) 0) := by
  have admits := admits_behind line 0
  have inside (q : Place) (same : q.line = line) :
      Cuts EndsBracket q base.toList [⟨.word base, line⟩] q := by
    subst same
    exact (cuts_word word').weaken fun _ ends => ends.operand.owner.word
  have bases : Cuts AnyBorder (.behind line 0) ('(' :: (base.toList ++ [')']))
      [⟨.mark "(", line⟩, ⟨.word base, line⟩, ⟨.mark ")", line⟩] (.behind line 0) :=
    Cuts.bracketed (by decide) admits fun q same _ => inside q same
  have colon : Cuts EndsMark (.behind line 0) [':'] [⟨.mark ":", line⟩] (.behind line 0) :=
    Cuts.mark (by decide) admits.closers
  have header := (cuts_word word).append (bases.append_any colon) fun rest _ => by
    rintro _ ⟨⟩
    decide
  exact CutsLines.line (Nat.zero_le _) (Nat.le_of_ble_eq_true rfl) (by decide)
    (cuts_class.append_any header) endsMark_newline rfl

end Lines

/-- A step that stops before some tokens, unless it fails. -/
def Parse.StopsAt {α : Type} (p : Parse α) (ts rest : List Lexeme) : Prop :=
  p ts = none ∨ ∃ a, p ts = some (a, rest)

section Newline

variable (inner : Inner) (line : Nat) (rest : List Lexeme)

private theorem union_newline : inner.union (⟨.newline, line⟩ :: rest) = none := by
  simp [Inner.union, Inner.bitXor, Inner.bitAnd, Inner.shifted, Inner.sum, Inner.product,
    Inner.leftToRight, Inner.signed, Inner.sign?, Inner.power, Inner.primary, Inner.atom]

private theorem negation_newline : inner.negation (⟨.newline, line⟩ :: rest) = none := by
  simp [Inner.negation, Inner.comparison, union_newline]

private theorem conditional_newline : inner.conditional (⟨.newline, line⟩ :: rest) = none := by
  simp [Inner.conditional, Inner.disjunctions, Inner.conjunctions, Inner.joined, negation_newline]

private theorem assigned_newline : inner.assigned (⟨.newline, line⟩ :: rest) = none := by
  cases rest <;> simp [Inner.assigned, conditional_newline, nameAndMark, Token.name?]

/-- No expression begins with the end of a line. -/
private theorem level_newline (n : Nat) :
    (Inner.level n).expression (⟨.newline, line⟩ :: rest) = none ∧
    (Inner.level n).named (⟨.newline, line⟩ :: rest) = none ∧
    (Inner.level n).inversion (⟨.newline, line⟩ :: rest) = none ∧
    (Inner.level n).bitOr (⟨.newline, line⟩ :: rest) = none := by
  cases n with
  | zero => exact ⟨rfl, rfl, rfl, rfl⟩
  | succ n =>
    exact ⟨conditional_newline _ _ _, assigned_newline _ _ _, negation_newline _ _ _,
      union_newline _ _ _⟩

/-- Neither is the end of a line a name. -/
private theorem name?_newline : Token.newline.name? = none := rfl

end Newline

section Word

variable {n depth : Nat} {x : String} (line : Nat) (rest : List Lexeme)

/-- A compound statement does not begin with a line of one word. -/
private theorem compound_word (compound : Statement.beginsCompound (.word x) = true)
    (statement : Parse (List Stmt)) :
    Statement.compound (Inner.level n) (Statement.block (Inner.level n) statement)
      (⟨.word x, line⟩ :: ⟨.newline, line⟩ :: rest) = none := by
  obtain ⟨expression, named, -, bitOr⟩ := level_newline line rest n
  have block : Statement.block (Inner.level n) statement (⟨.newline, line⟩ :: rest) = none := by
    simp [Statement.block]
  have targets : (Inner.level n).loopTargets (⟨.newline, line⟩ :: rest) = none := by
    simp [Inner.loopTargets, Inner.starOr, bitOr]
  have managers : Statement.managers (Inner.level n) (⟨.newline, line⟩ :: rest) = none := by
    unfold Statement.managers
    cases n <;> simp [commaSeparated, Statement.manager, expression, level_bound]
  simp only [Statement.beginsCompound, List.contains_eq_mem, List.mem_cons, List.not_mem_nil,
    or_false, decide_eq_true_eq] at compound
  obtain rfl | rfl | rfl | rfl | rfl | rfl | rfl | rfl := compound
  · rfl
  · rfl
  · show ((Inner.level n).named _).bind _ = none
    rw [named, Option.bind_none]
  · show ((Inner.level n).loopTargets _).bind _ = none
    rw [targets, Option.bind_none]
  · show ((Inner.level n).named _).bind _ = none
    rw [named, Option.bind_none]
  · have reached (inner : Inner) (body : Parse (List Stmt)) (ts : List Lexeme) :
        Statement.compound inner body (⟨.word "try", line⟩ :: ts) =
          Statement.attempt inner body line ts := rfl
    rw [reached]
    simp [Statement.attempt, block]
  · show (Statement.managers (Inner.level n) _).bind _ = none
    rw [managers, Option.bind_none]
  · rfl

/-- A keyword of a simple statement is read up to the end of its line. -/
private theorem keywordStatement_newline (n line : Nat) (rest : List Lexeme) (x : String) :
    (Statement.keywordStatement (Inner.level n) line x).StopsAt (⟨.newline, line⟩ :: rest)
      (⟨.newline, line⟩ :: rest) := by
  obtain ⟨expression, -⟩ := level_newline line rest n
  have begins : Token.newline.beginsExpression = false := rfl
  have names : commaSeparated name n (⟨.newline, line⟩ :: rest) = none := by
    cases n <;> simp [commaSeparated, name?_newline]
  unfold Statement.keywordStatement
  split <;>
    simp [StopsAt, begins, names, level_bound, Statement.deleted, expression, Inner.yielded]

/-- A word that is an expression of its own. -/
private theorem readsExpression_word (opens : (Token.word x).opens) (line : Nat) :
    ∃ e, ReadsExpression [⟨.word x, line⟩] e := by
  have single := Opening.single line opens
  by_cases free : x ∈ keywords
  · have constant : x ∈ Token.constantWords := by simpa [Token.opens, free] using opens
    obtain ⟨value, known⟩ : ∃ value, Inner.keywordConstant? x = some value := by
      simp only [Token.constantWords, List.mem_cons, List.not_mem_nil, or_false] at constant
      obtain rfl | rfl | rfl := constant <;> exact ⟨_, rfl⟩
    exact ⟨_, (ReadsAddend.constantWord known).sum.comparand.expression single⟩
  · exact ⟨_, ((ReadsPrimary.name free).addend single).sum.comparand.expression single⟩

/-- A word that needs an operand is no expression of its own. -/
private theorem starExpressions_word (operator : x ∈ ["not", "lambda", "await"]) :
    (Inner.level n).starExpressions (⟨.word x, line⟩ :: ⟨.newline, line⟩ :: rest) = none := by
  cases n with
  | zero => rfl
  | succ n =>
    obtain ⟨-, -, inversion, -⟩ := level_newline line rest n
    have parameters : (Inner.level n).parameters false ":" (⟨.newline, line⟩ :: rest) = none := by
      unfold Inner.parameters
      cases n <;> simp [level_bound, Inner.parametersFrom, Inner.parameter, name?_newline]
    show (Inner.level n).tuples _ = none
    simp only [List.mem_cons, List.not_mem_nil, or_false] at operator
    obtain rfl | rfl | rfl := operator
    · simp [Inner.tuples, Inner.starOr, Inner.conditional, Inner.disjunctions, Inner.conjunctions,
        Inner.joined, Inner.negation, inversion]
    · simp [Inner.tuples, Inner.starOr, Inner.conditional, Inner.lambda, parameters]
    · rfl

/-- A word that is none of the keywords before them begins an expression, or another statement. -/
private theorem simple_other (inner : Inner) (x : String) (ts : List Lexeme) (returns : x ≠ "return")
    (imports : x ≠ "import") (source : x ≠ "from") :
    Statement.simple inner (⟨.word x, line⟩ :: ts) =
      if (Token.word x).beginsExpression then
        Statement.expressionStatement inner line (⟨.word x, line⟩ :: ts)
      else Statement.keywordStatement inner line x ts := by
  simp [Statement.simple, returns, imports, source]

/-- A simple statement that begins with a line of one word is that word. -/
private theorem simple_word (x : String) (enough : 1 < n) :
    (Statement.simple (Inner.level (n + 1))).StopsAt (⟨.word x, line⟩ :: ⟨.newline, line⟩ :: rest)
      (⟨.newline, line⟩ :: rest) := by
  have begins : Token.newline.beginsExpression = false := rfl
  by_cases opens : (Token.word x).opens = true
  · obtain ⟨e, reads⟩ := readsExpression_word opens line
    exact .inr ⟨_, reads.simple (.single line opens) enough line rest⟩
  by_cases returns : x = "return"
  · subst returns
    exact .inr ⟨_, by simp [Statement.simple, Statement.returned, begins]; rfl⟩
  by_cases imports : x = "import"
  · subst imports
    exact .inl rfl
  by_cases source : x = "from"
  · subst source
    exact .inl rfl
  unfold StopsAt
  rw [simple_other line _ x _ returns imports source]
  by_cases operator : (Token.word x).beginsExpression = true
  · left
    have among : x ∈ ["not", "lambda", "await"] := by
      simp only [Token.opens, Token.constantWords, Token.beginsExpression] at opens operator
      simp_all
    rw [if_pos operator]
    simp [Statement.expressionStatement, starExpressions_word line rest among]
  · rw [if_neg operator]
    exact keywordStatement_newline (n + 1) line rest x

/-- A line of one word is a statement of its own, or no statement begins with it. -/
theorem statement_word (x : String) (enough : 2 < n) :
    (Statement.statement (Inner.level n) (depth + 1)).StopsAt
      (⟨.word x, line⟩ :: ⟨.newline, line⟩ :: rest) rest := by
  obtain ⟨n, rfl⟩ : ∃ m, n = m + 1 := ⟨n - 1, by omega⟩
  unfold StopsAt
  rw [Statement.statement]
  cases compound : Statement.beginsCompound (.word x) with
  | true => exact .inl (by simp [Statement.statementWith, compound, compound_word line rest compound])
  | false =>
    have unmatched (body : Parse (List Stmt)) : Statement.matchStatement (Inner.level (n + 1)) body
        (⟨.word x, line⟩ :: ⟨.newline, line⟩ :: rest) = none := by
      obtain ⟨-, named, -, -⟩ := level_newline line rest (n + 1)
      by_cases same : x = "match" <;> simp [Statement.matchStatement, Inner.starOr, named, same]
    have same : Statement.statementWith (Inner.level (n + 1))
        (fun inside => Statement.statement (Inner.level (n + 1)) depth inside)
        (⟨.word x, line⟩ :: ⟨.newline, line⟩ :: rest) =
        Statement.simpleLine (Inner.level (n + 1)) (n + 1)
          (⟨.word x, line⟩ :: ⟨.newline, line⟩ :: rest) := by
      by_cases word : x = "match"
      · subst word
        simp [Statement.statementWith, compound, unmatched, level_bound]
      · simp [Statement.statementWith, compound, word, level_bound]
    change Statement.statementWith _ _ _ = none ∨ ∃ a, Statement.statementWith _ _ _ = some (a, rest)
    rw [same]
    rcases simple_word line rest x (Nat.lt_of_succ_lt_succ enough) with unread | ⟨s, read⟩
    · exact .inl (by simp [Statement.simpleLine, unread])
    · exact .inr ⟨[s], by simp [Statement.simpleLine, read]⟩

end Word

section Stuck

variable {n depth : Nat} {rest : List Lexeme}

/-- No statement begins with a colon. -/
theorem statement_colon (n depth line : Nat) (rest : List Lexeme) :
    Statement.statement (Inner.level n) depth (⟨.mark ":", line⟩ :: rest) = none := by
  cases depth with
  | zero => rfl
  | succ depth =>
    rw [Statement.statement, Statement.statementWith, level_bound]
    cases n with
    | zero => simp [Statement.beginsCompound, Statement.simpleLine]
    | succ n =>
      simp [Statement.beginsCompound, Statement.simpleLine, Statement.simple,
        Token.beginsExpression]

/-- Tokens that are not read as statements up to the end of the text, in however many rounds. -/
def Stuck (n : Nat) (ts : List Lexeme) : Prop :=
  ∀ rounds, Statement.statements (Inner.level n) rounds ts = none

/-- No statement begins with the tokens. -/
theorem Stuck.of_unread {t : Lexeme} {ts : List Lexeme}
    (unread : Statement.statement (Inner.level n) n (t :: ts) = none) : Stuck n (t :: ts) := by
  intro rounds
  cases rounds with
  | zero => rfl
  | succ rounds => simp [Statement.statements, level_bound, unread]

/-- The tokens behind a statement are stuck. -/
theorem Stuck.behind {t : Lexeme} {ts ts' : List Lexeme} {ss : List Stmt}
    (read : Statement.statement (Inner.level n) n (t :: ts) = some (ss, ts')) (stuck : Stuck n ts') :
    Stuck n (t :: ts) := by
  intro rounds
  cases rounds with
  | zero => rfl
  | succ rounds => simp [Statement.statements, level_bound, read, stuck rounds]

/-- The tokens behind several statements are stuck. -/
theorem ReadsEach.stuck {ts : List Lexeme} {ss : List Stmt} (each : ReadsEach n n ts ss rest)
    (stuck : Stuck n rest) : Stuck n ts := by
  generalize levels : n = depth at each
  induction each with
  | done => exact levels ▸ stuck
  | next read _ _ ih =>
    subst levels
    exact .behind read (ih stuck)

/-- The tokens behind printed lines are stuck. -/
theorem PrintsLines.stuck {line : Nat} {cs : List Char} {ss : List Stmt} {ts : List Lexeme}
    (prints : PrintsLines depth line cs ss ts 0) (enough : cs.length < n) (stuck : Stuck n rest) :
    Stuck n (ts ++ rest) := by
  have fits := prints.fits
  have each := prints.reads.reads n n [] rest (by omega) (by omega) rfl fun owing => absurd rfl owing
  rw [List.nil_append] at each
  exact each.stuck stuck

/-- A block whose last line is a word is read up to its end, or not at all. -/
theorem blockLines_word {ts : List Lexeme} {ss : List Stmt} {x : String} {line line' : Nat}
    (enough : 2 < n) (each : ReadsEach n (depth + 1) ts ss
      (⟨.word x, line⟩ :: ⟨.newline, line⟩ :: ⟨.dedent, line'⟩ :: rest)) (rounds : Nat) :
    (Statement.blockLines (fun inside => Statement.statement (Inner.level n) (depth + 1) inside)
      rounds).StopsAt ts rest := by
  generalize last : (⟨.word x, line⟩ :: ⟨.newline, line⟩ :: ⟨.dedent, line'⟩ :: rest :
    List Lexeme) = behind at each
  induction each generalizing rounds with
  | done =>
    subst last
    cases rounds with
    | zero => exact .inl rfl
    | succ rounds =>
      have word : (Statement.statement (Inner.level n) (depth + 1)).StopsAt _ _ :=
        statement_word line (⟨.dedent, line'⟩ :: rest) x enough
      rcases word with unread | ⟨ss, read⟩
      · exact .inl (by simp [Statement.blockLines, unread])
      · exact .inr ⟨ss, by simp [Statement.blockLines, read]⟩
  | @next _ _ ts' _ _ _ read _ others ih =>
    cases rounds with
    | zero => exact .inl rfl
    | succ rounds =>
      obtain ⟨u, behind, shape, inside⟩ : ∃ u behind, ts' = u :: behind ∧ u.token ≠ .dedent := by
        cases others with
        | done => exact ⟨_, _, last.symm, by simp⟩
        | next _ inside _ => exact ⟨_, _, rfl, inside⟩
      have more := ih rounds last
      rw [shape] at read more
      rcases more with unread | ⟨ss, more⟩
      · exact .inl (by simp [Statement.blockLines, read, unread])
      · exact .inr ⟨_, by simp [Statement.blockLines, read, more]; rfl⟩

/-- A statement that begins with the keyword of a class is read as one. -/
private theorem statement_class (inner : Inner) (depth line : Nat) (ts : List Lexeme) :
    Statement.statement inner (depth + 1) (⟨.word "class", line⟩ :: ts) =
      (Statement.classOf inner
        (Statement.block inner fun inside => Statement.statement inner depth inside) line [] ts).bind
        fun r => some ([r.1], r.2) := rfl

/-- The line of a class does not end behind its name. -/
theorem stuck_class (n : Nat) (name : String) (line line' : Nat) (rest : List Lexeme) :
    Stuck n (⟨.word "class", line⟩ :: ⟨.word name, line⟩ :: ⟨.newline, line'⟩ :: rest) := by
  refine .of_unread ?_
  cases n with
  | zero => rfl
  | succ n =>
    rw [statement_class]
    cases named : (Token.word name).name? <;> simp [Statement.classOf, named, Statement.block]

/-- The first tokens of a class with one base, up to the beginning of its block. -/
def classTokens (name base : String) (line line' line'' : Nat) : List Lexeme :=
  [⟨.word "class", line⟩, ⟨.word name, line⟩, ⟨.mark "(", line⟩, ⟨.word base, line⟩,
    ⟨.mark ")", line⟩, ⟨.mark ":", line⟩, ⟨.newline, line'⟩, ⟨.indent, line''⟩]

/-- A class is not left by a line with a word, and then a line that begins with a colon. -/
theorem stuck_member {name base x : String} {ts : List Lexeme} {ss : List Stmt} (free : name ∉ keywords)
    (free' : base ∉ keywords) (lines : ReadsLines ts ss 0) (enough : ts.length + 3 < n)
    (i j k l m : Nat) :
    Stuck n (classTokens name base i j k ++ (ts ++
      ⟨.word x, l⟩ :: ⟨.newline, l⟩ :: ⟨.dedent, m⟩ :: ⟨.mark ":", m⟩ :: rest)) := by
  obtain ⟨n, rfl⟩ : ∃ m, n = m + 2 := ⟨n - 2, by omega⟩
  have each := lines.reads (n + 2) (n + 1) []
    (⟨.word x, l⟩ :: ⟨.newline, l⟩ :: ⟨.dedent, m⟩ :: ⟨.mark ":", m⟩ :: rest) (by omega) (by omega) rfl
    (fun owing => absurd rfl owing)
  rw [List.nil_append] at each
  have single := Opening.single i (t := .word base) (by simp [Token.opens, free'])
  have first : ReadsExpression [⟨.word base, i⟩] (.name base .load) :=
    ((ReadsPrimary.name free').addend single).sum.comparand.expression single
  have bases (rest : List Lexeme) : (Inner.level (n + 2)).arguments
      (⟨.word base, i⟩ :: ⟨.mark ")", i⟩ :: rest) = some (([.name base .load], []), rest) := by
    have reads : ∀ a ∈ [Argument.mk [⟨.word base, i⟩] none (.name base .load)], ReadsArgument i a :=
      List.forall_mem_singleton.2 ⟨⟨single, first, by simp [Expr.construct, starred]⟩, by simp⟩
    have short : (commaJoined i ([Argument.mk [⟨.word base, i⟩] none (.name base .load)].map
        (Argument.labelled i))).length < n + 1 := by
      simp only [List.map_cons, List.map_nil, commaJoined, behindCommas, Argument.labelled,
        List.flatMap_nil, List.append_nil, List.length_singleton]
      omega
    exact ReadsArgument.arguments reads (by simp [NamedLast]) short rest
  have block := blockLines_word (by omega) each (n + 2)
  have header := bases (⟨.mark ":", i⟩ :: ⟨.newline, j⟩ :: ⟨.indent, k⟩ :: (ts ++
    ⟨.word x, l⟩ :: ⟨.newline, l⟩ :: ⟨.dedent, m⟩ :: ⟨.mark ":", m⟩ :: rest))
  rcases block with unread | ⟨body, read⟩
  · refine .of_unread ?_
    rw [statement_class]
    simp [Statement.classOf, Token.name?, free, header, Statement.block, level_bound, unread]
  · have stuck : Stuck (n + 2) (⟨.mark ":", m⟩ :: rest) := .of_unread (statement_colon _ _ m rest)
    refine Stuck.behind (?_ : _ = some ([.classDef i name [.name base .load] [] body []], _)) stuck
    rw [statement_class]
    simp [Statement.classOf, Token.name?, free, header, Statement.block, level_bound, read]

end Stuck

/-- A text that begins with tokens that are stuck is no module. -/
theorem Module.read_of_stuck {cs : List Char} {ls : List Lexeme} {fresh : Bool} {p : Place}
    (start : Starts cs ls fresh p) (feeds : '\r' ∉ cs) (tail : List Char)
    (stuck : ∀ n rest, cs.length < n → Stuck n (ls ++ rest)) :
    ∃ fault, Module.read (cs ++ tail) = .error fault := by
  unfold Module.read
  split
  · exact ⟨_, rfl⟩
  cases cut : Script.lexemes? (cs ++ tail) with
  | none => exact ⟨_, rfl⟩
  | some all =>
    obtain ⟨rest, rfl⟩ := start.lexemes? feeds cut
    have unread := stuck ((cs ++ tail).length + 10) rest
      (by simp only [List.length_append]; omega) ((cs ++ tail).length + 10)
    refine ⟨.malformed, ?_⟩
    dsimp only
    rw [unread]

end FlatRecord.Script
