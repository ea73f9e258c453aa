import FlatRecord.Proofs.Script.ReadingExpressions

/-!
# Reading statements back

When some tokens read as statements. A block is left by a token for each block that ends, and the
tokens of a statement owe those of the blocks inside it: they come before the tokens of the next
statement, or at the end of the text, and the statement is read up to behind them.
-/

namespace FlatRecord.Script

open Parse

/-- Tokens that are read as statements, one after the other, up to some others. A statement does not
begin where a block ends. -/
inductive ReadsEach (n depth : Nat) : List Lexeme → List Stmt → List Lexeme → Prop where
  | done {rest : List Lexeme} : ReadsEach n depth rest [] rest
  | next {t : Lexeme} {ts ts' rest : List Lexeme} {s : Stmt} {ss : List Stmt}
      (read : Statement.statement (Inner.level n) depth (t :: ts) = some ([s], ts'))
      (inside : t.token ≠ .dedent) (others : ReadsEach n depth ts' ss rest) :
      ReadsEach n depth (t :: ts) (s :: ss) rest

namespace ReadsEach

variable {n depth : Nat} {ts ts' rest : List Lexeme} {ss ss' : List Stmt}

theorem append (first : ReadsEach n depth ts ss ts') (second : ReadsEach n depth ts' ss' rest) :
    ReadsEach n depth ts (ss ++ ss') rest := by
  induction first with
  | done => exact second
  | next read inside _ ih => exact .next read inside (ih second)

/-- Statements up to the end of their block. -/
theorem blockLines {line : Nat} (h : ReadsEach n depth ts ss (⟨.dedent, line⟩ :: rest))
    (nonempty : ss ≠ []) {rounds : Nat} (enough : ss.length ≤ rounds) :
    Statement.blockLines (fun inside => Statement.statement (Inner.level n) depth inside) rounds ts =
      some (ss, rest) := by
  generalize last : (⟨.dedent, line⟩ :: rest : List Lexeme) = behind at h
  induction h generalizing rounds with
  | done => exact absurd rfl nonempty
  | next read inside others ih =>
    obtain ⟨rounds, rfl⟩ : ∃ m, rounds = m + 1 := ⟨rounds - 1, by simp at enough; omega⟩
    subst last
    cases others with
    | done => simp [Statement.blockLines, read]
    | next =>
      have more := ih (by simp) (by simpa using enough) rfl
      simp [Statement.blockLines, read, more]

/-- Statements up to the end of the text. -/
theorem statements (h : ReadsEach n n ts ss []) {rounds : Nat} (enough : ss.length < rounds) :
    Statement.statements (Inner.level n) rounds ts = some (ss, []) := by
  generalize last : ([] : List Lexeme) = behind at h
  induction h generalizing rounds with
  | done =>
    subst last
    obtain ⟨rounds, rfl⟩ : ∃ m, rounds = m + 1 := ⟨rounds - 1, by omega⟩
    rfl
  | next read _ _ ih =>
    subst last
    obtain ⟨rounds, rfl⟩ : ∃ m, rounds = m + 1 := ⟨rounds - 1, by omega⟩
    have more := ih (by simpa using enough) rfl
    rw [Statement.statements]
    simp [read, more]

end ReadsEach

/-- Whether the token goes on with the conditional statement before it. -/
def Token.continues (t : Token) : Bool := t.isWord "elif" || t.isWord "else"

/-- The tokens of statements of a block, up to the ends of blocks that they owe. Statements that owe
none are read whatever follows them. -/
structure ReadsLines (ts : List Lexeme) (ss : List Stmt) (owed : Nat) : Prop where
  few : ss.length ≤ ts.length
  begins : ∀ t ∈ ts.head?, t.token.continues = false
  reads : ∀ n depth closing rest, ts.length < n → ts.length < depth →
    closing.map Lexeme.token = List.replicate owed .dedent →
    (owed ≠ 0 → ∀ t ∈ rest.head?, t.token.continues = false) →
    ReadsEach n depth (ts ++ (closing ++ rest)) ss rest

namespace ReadsLines

variable {ts ts' : List Lexeme} {ss ss' : List Stmt} {owed owed' : Nat}

/-- Statements have tokens. -/
theorem ne_nil (h : ReadsLines ts ss owed) (nonempty : ss ≠ []) : ts ≠ [] := by
  rintro rfl
  have := h.few
  exact nonempty (List.eq_nil_of_length_eq_zero (by simpa using this))

/-- Statements one after the other, with the ends of blocks between them that the first ones owe. -/
theorem append (first : ReadsLines ts ss owed) (second : ReadsLines ts' ss' owed')
    {closing : List Lexeme} (ends : closing.map Lexeme.token = List.replicate owed .dedent)
    (nonempty : ts ≠ []) (nonempty' : ts' ≠ []) :
    ReadsLines (ts ++ (closing ++ ts')) (ss ++ ss') owed' where
  few := by
    have := first.few
    have := second.few
    simp only [List.length_append]
    omega
  begins := by
    have start := first.begins
    obtain ⟨t, ts, rfl⟩ := List.exists_cons_of_ne_nil nonempty
    exact start
  reads := by
    intro n depth closing' rest enough deep ends' follow
    simp only [List.length_append] at enough deep
    have behind : ∀ t ∈ (ts' ++ (closing' ++ rest)).head?, t.token.continues = false := by
      have start := second.begins
      obtain ⟨t, ts', rfl⟩ := List.exists_cons_of_ne_nil nonempty'
      exact start
    have early := first.reads n depth closing (ts' ++ (closing' ++ rest)) (by omega) (by omega) ends
      fun _ => behind
    have late := second.reads n depth closing' rest (by omega) (by omega) ends' follow
    have both := early.append late
    simpa only [List.append_assoc] using both

/-- The block of a compound statement, from its colon on. -/
theorem block (h : ReadsLines ts ss owed) (nonempty : ss ≠ []) {n depth : Nat}
    {closing : List Lexeme} (enough : ts.length < n) (deep : ts.length < depth)
    (ends : closing.map Lexeme.token = List.replicate (owed + 1) .dedent)
    (rest : List Lexeme) (line line' line'' : Nat) :
    Statement.block (Inner.level n)
        (fun inside => Statement.statement (Inner.level n) depth inside)
        (⟨.mark ":", line⟩ :: ⟨.newline, line'⟩ :: ⟨.indent, line''⟩ ::
          (ts ++ (closing ++ rest))) = some (ss, rest) := by
  rw [List.replicate_succ', List.map_eq_append_iff] at ends
  obtain ⟨closing, last, rfl, ends, final⟩ := ends
  obtain ⟨⟨_, line⟩, rfl, rfl⟩ := List.map_eq_singleton_iff.1 final
  have each := h.reads n depth closing (⟨.dedent, line⟩ :: rest) enough deep ends (by
    rintro - _ ⟨⟩
    rfl)
  have count : ss.length ≤ n := by
    have := h.few
    omega
  have all := each.blockLines nonempty count
  rw [List.append_assoc, List.singleton_append]
  simp [Statement.block, all]

end ReadsLines


variable {line : Nat} {ts : List Lexeme} {s : Stmt}

/-- Tokens on a line that are read as a simple statement. -/
structure ReadsSimple (line : Nat) (ts : List Lexeme) (s : Stmt) : Prop where
  begins : ∃ t tail, ts = t :: tail ∧ Statement.beginsCompound t.token = false ∧
    t.token.continues = false ∧ t.token ≠ .dedent ∧
      (t.token.isWord "match" = true → ∃ u behind, tail = u :: behind ∧ u.token = .mark ":")
  reads : ∀ n line' rest, ts.length < n →
    Statement.simple (Inner.level (n + 1)) (ts ++ ⟨.newline, line'⟩ :: rest) =
      some (s, ⟨.newline, line'⟩ :: rest)

/-- No expression begins with a colon. -/
private theorem named_colon (n : Nat) (line : Nat) (rest : List Lexeme) :
    (Inner.level n).named (⟨.mark ":", line⟩ :: rest) = none := by
  cases n with
  | zero => rfl
  | succ n => cases rest <;> rfl

/-- The word `match` before a colon begins no statement of its own. -/
private theorem matchStatement_colon (n : Nat) (body : Parse (List Stmt)) {t u : Lexeme}
    (isMatch : t.token.isWord "match") (colon : u.token = .mark ":") (rest : List Lexeme) :
    Statement.matchStatement (Inner.level n) body (t :: u :: rest) = none := by
  obtain ⟨_, line⟩ := u
  obtain rfl := colon
  simp [Statement.matchStatement, isMatch, Inner.starOr, named_colon]

/-- A simple statement is a line of statements. -/
theorem ReadsSimple.lines (h : ReadsSimple line ts s) (line' : Nat) :
    ReadsLines (ts ++ [⟨.newline, line'⟩]) [s] 0 where
  few := by simp
  begins := by
    obtain ⟨t, tail, rfl, -, start, -⟩ := h.begins
    rintro _ ⟨⟩
    exact start
  reads := by
    intro n depth closing rest enough deep ends follow
    obtain rfl : closing = [] := by simpa using ends
    obtain ⟨depth, rfl⟩ : ∃ m, depth = m + 1 := ⟨depth - 1, by omega⟩
    obtain ⟨n, rfl⟩ : ∃ m, n = m + 1 := ⟨n - 1, by omega⟩
    have read := h.reads n line' rest (by simpa using enough)
    have single : Statement.simpleLine (Inner.level (n + 1)) (n + 1)
        (ts ++ ⟨.newline, line'⟩ :: rest) = some ([s], rest) := by
      simp [Statement.simpleLine, read]
    obtain ⟨t, tail, rfl, simple, -, inside, colon⟩ := h.begins
    rw [List.cons_append] at single
    rw [List.nil_append, List.append_assoc, List.singleton_append, List.cons_append]
    refine .next ?_ inside .done
    rw [Statement.statement, Statement.statementWith]
    by_cases isMatch : t.token.isWord "match"
    · obtain ⟨u, behind, rfl, mark⟩ := colon isMatch
      have noMatch := matchStatement_colon (n + 1) (Statement.block (Inner.level (n + 1))
        fun inside => Statement.statement (Inner.level (n + 1)) depth inside) isMatch mark
        (behind ++ ⟨.newline, line'⟩ :: rest)
      rw [List.cons_append] at single ⊢
      simp [simple, isMatch, noMatch, single]
    · simp [simple, isMatch, single]


variable {e : Expr}

/-- A token that may follow an expression of its own: no comma. -/
private def closesAll (t : Token) : Bool := t.closes && !t.isMark ","

/-- An expression of its own is read up to what follows it. -/
private theorem ReadsExpression.starExpressions (h : ReadsExpression ts e)
    (opening : Opening line ts) {n : Nat} {rest : List Lexeme} (enough : ts.length < n)
    (follow : After closesAll rest) :
    (Inner.level (n + 1)).starExpressions (ts ++ rest) = some (e, rest) := by
  have ends : After Token.closes rest := follow.mono fun t both => by
    simp only [closesAll, Bool.and_eq_true] at both
    exact both.1
  have read := h n rest enough ends
  obtain ⟨t, tail, rfl, opens, -, -⟩ := opening
  obtain ⟨n, rfl⟩ : ∃ m, n = m + 1 := ⟨n - 1, by omega⟩
  have star := Token.isMark_of_opens opens (m := "*") (by decide)
  obtain ⟨u, behind, rfl, closes⟩ := follow
  have comma : u.token.isMark "," = false := by
    simp only [closesAll, Bool.and_eq_true, Bool.not_eq_true'] at closes
    exact closes.2
  rw [List.cons_append] at read
  change (Inner.level (n + 1)).tuples _ = _
  simp [Inner.tuples, Inner.starOr, star, read, commaItems, comma, Inner.tupleUnless]

/-- A line that begins like an operand is no compound statement. -/
private theorem simple_of_opens {t : Token} (opens : t.opens) :
    Statement.beginsCompound t = false ∧ t.continues = false ∧ t ≠ .dedent := by
  have word {w : String} (among : w ∈ keywords) (other : w ∉ Token.constantWords) :
      t.isWord w = false := Token.isWord_of_opens opens among other
  have at_sign : t.isMark "@" = false := Token.isMark_of_opens opens (by decide)
  refine ⟨?_, ?_, ?_⟩
  · cases t with
    | word w =>
      simp only [Token.isWord_word, beq_eq_false_iff_ne] at word
      have table : ∀ w ∈ ["def", "class", "if", "for", "while", "try", "with", "async"],
          w ∈ keywords ∧ w ∉ Token.constantWords := by decide
      simp only [Statement.beginsCompound, List.contains_eq_mem, decide_eq_false_iff_not]
      exact fun mem => word (table w mem).1 (table w mem).2 rfl
    | mark m => simpa [Statement.beginsCompound] using at_sign
    | _ => rfl
  · rw [Token.continues, word (by decide) (by decide), word (by decide) (by decide)]
    rfl
  · rintro rfl
    exact absurd opens (by decide)

/-- A line that begins like an operand begins with no keyword of a simple statement. -/
private theorem isWord_simple {t : Token} (opens : t.opens) :
    ∀ w ∈ ["return", "import", "from", "yield"], t.isWord w = false := by
  intro w among
  have table : ∀ w ∈ ["return", "import", "from", "yield"], w ∈ keywords ∧
      w ∉ Token.constantWords := by decide
  exact Token.isWord_of_opens opens (table w among).1 (table w among).2

/-- A line that begins like an operand is read as an expression, an assignment or an annotation. -/
private theorem simple_of_operand {t : Lexeme} (opens : t.token.opens) (inner : Inner)
    (ts : List Lexeme) : Statement.simple inner (t :: ts) =
      Statement.expressionStatement inner t.line (t :: ts) := by
  have words := isWord_simple opens
  have begins := Token.beginsExpression_of_opens opens
  simp [Statement.simple, words, begins]

/-- A line that begins like an operand, and not with the name `match`. -/
private theorem begins_of_opening (opening : Opening line ts)
    (plain : ∀ t ∈ ts.head?, t.token.isWord "match" = false) (behind : List Lexeme) :
    ∃ t tail, ts ++ behind = t :: tail ∧ Statement.beginsCompound t.token = false ∧
      t.token.continues = false ∧ t.token ≠ .dedent ∧
        (t.token.isWord "match" = true → ∃ u behind, tail = u :: behind ∧ u.token = .mark ":") := by
  obtain ⟨t, tail, rfl, opens, -, -⟩ := opening
  obtain ⟨compound, other, inside⟩ := simple_of_opens opens
  refine ⟨t, tail ++ behind, rfl, compound, other, inside, fun isMatch => ?_⟩
  rw [plain t rfl] at isMatch
  exact absurd isMatch (by simp)

/-- An expression up to the end of its line is a simple statement. -/
theorem ReadsExpression.simple (h : ReadsExpression ts e) (opening : Opening line ts) {n : Nat}
    (enough : ts.length < n) (line' : Nat) (rest : List Lexeme) :
    Statement.simple (Inner.level (n + 1)) (ts ++ ⟨.newline, line'⟩ :: rest) =
      some (.expr line e, ⟨.newline, line'⟩ :: rest) := by
  have follow : After closesAll (⟨.newline, line'⟩ :: rest) := ⟨_, _, rfl, rfl⟩
  have read := h.starExpressions opening enough follow
  have bare := opening.nameAndMark (m := ":") (by simp) (⟨.newline, line'⟩ :: rest) (by
    rintro _ ⟨⟩
    rfl)
  obtain ⟨t, tail, rfl, opens, at_line, -⟩ := opening
  rw [List.cons_append] at read bare ⊢
  rw [simple_of_operand opens, at_line, Statement.expressionStatement, bind_of_eq bare,
    bind_of_eq read]
  rfl

/-- A lone expression. -/
theorem ReadsExpression.statement (h : ReadsExpression ts e) (opening : Opening line ts)
    (plain : ∀ t ∈ ts.head?, t.token.isWord "match" = false) :
    ReadsSimple line ts (.expr line e) where
  begins := by simpa using begins_of_opening opening plain []
  reads := fun _ line' rest enough => h.simple opening enough line' rest

/-- The value of an assignment. -/
private theorem ReadsExpression.assignedValue (h : ReadsExpression ts e) (opening : Opening line ts)
    {n : Nat} (enough : ts.length < n) (line' : Nat) (rest : List Lexeme) :
    Statement.assignedValue (Inner.level (n + 1)) (ts ++ ⟨.newline, line'⟩ :: rest) =
      some (e, ⟨.newline, line'⟩ :: rest) := by
  have follow : After closesAll (⟨.newline, line'⟩ :: rest) := ⟨_, _, rfl, rfl⟩
  have read := h.starExpressions opening enough follow
  obtain ⟨t, tail, rfl, opens, -, -⟩ := opening
  have words := isWord_simple opens
  rw [List.cons_append] at read ⊢
  simp [Statement.assignedValue, words, read]

/-- A target and its value. -/
theorem ReadsExpression.assign {target value : Expr} {vs : List Lexeme} (h : ReadsExpression ts e)
    (opening : Opening line ts) (plain : ∀ t ∈ ts.head?, t.token.isWord "match" = false)
    (stored : e.target? .store = some target) (h' : ReadsExpression vs value)
    (opening' : Opening line vs) :
    ReadsSimple line (ts ++ ⟨.mark "=", line⟩ :: vs) (.assign line [target] value) where
  begins := begins_of_opening opening plain _
  reads := by
    intro n line' rest enough
    simp only [List.length_cons, List.length_append] at enough
    have follow : After closesAll (⟨.mark "=", line⟩ :: (vs ++ ⟨.newline, line'⟩ :: rest)) :=
      ⟨_, _, rfl, rfl⟩
    have read := h.starExpressions opening (n := n) (by omega) follow
    have right := h'.assignedValue opening' (n := n) (by omega) line' rest
    have bare := opening.nameAndMark (m := ":") (by simp)
      (⟨.mark "=", line⟩ :: (vs ++ ⟨.newline, line'⟩ :: rest)) (by
        rintro _ ⟨⟩
        rfl)
    obtain ⟨t, tail, rfl, opens, at_line, -⟩ := opening
    rw [List.append_assoc, List.cons_append, List.cons_append]
    rw [List.cons_append] at read bare
    have colon (ts : List Lexeme) : mark? ":" (⟨.mark "=", line⟩ :: ts) = some (false, _) := rfl
    have equals (ts : List Lexeme) : mark? "=" (⟨.mark "=", line⟩ :: ts) = some (true, _) := rfl
    rw [simple_of_operand opens, at_line, Statement.expressionStatement, bind_of_eq bare,
      bind_of_eq read, bind_of_eq (colon _), if_neg Bool.false_ne_true, bind_of_eq (equals _),
      if_pos rfl, stored]
    show Statement.assignment (Inner.level (n + 1)) line (n + 1) [target] _ = _
    rw [Statement.assignment, bind_of_eq right]
    rfl

/-- A name with its annotation and its value. -/
theorem ReadsExpression.annotated {id : String} {hint value : Expr} {hs vs : List Lexeme}
    (free : id ∉ keywords) (h : ReadsExpression hs hint) (h' : ReadsExpression vs value)
    (opening : Opening line vs) :
    ReadsSimple line (⟨.word id, line⟩ :: ⟨.mark ":", line⟩ :: (hs ++ ⟨.mark "=", line⟩ :: vs))
      (.annotated line (.name id .store) hint (some value) true) where
  begins := by
    have opens : (Token.word id).opens := by simp [Token.opens, free]
    obtain ⟨compound, other, inside⟩ := simple_of_opens opens
    exact ⟨_, _, rfl, compound, other, inside, fun _ => ⟨_, _, rfl, rfl⟩⟩
  reads := by
    intro n line' rest enough
    simp only [List.length_cons, List.length_append] at enough
    have opens : (Token.word id).opens := by simp [Token.opens, free]
    have single := Opening.single line opens
    have name : ReadsExpression [⟨.word id, line⟩] (.name id .load) :=
      ((ReadsPrimary.name free).addend single).sum.comparand.expression single
    have follow : After closesAll (⟨.mark ":", line⟩ :: (hs ++ ⟨.mark "=", line⟩ ::
        (vs ++ ⟨.newline, line'⟩ :: rest))) := ⟨_, _, rfl, rfl⟩
    have target := name.starExpressions single (n := n) (by simp; omega) follow
    have middle : (Inner.level (n + 1)).expression (hs ++ ⟨.mark "=", line⟩ ::
        (vs ++ ⟨.newline, line'⟩ :: rest)) = some (hint, _) :=
      h n _ (by omega) ⟨_, _, rfl, rfl⟩
    have right := h'.assignedValue opening (n := n) (by omega) line' rest
    rw [List.singleton_append] at target
    have bare (ts : List Lexeme) : nameAndMark ":" (⟨.word id, line⟩ :: ⟨.mark ":", line⟩ :: ts) =
        some (true, ⟨.word id, line⟩ :: ⟨.mark ":", line⟩ :: ts) := by
      rw [nameAndMark_cons]
      simp [Token.name?, free]
    have colon (ts : List Lexeme) : mark? ":" (⟨.mark ":", line⟩ :: ts) = some (true, ts) := rfl
    have equals (ts : List Lexeme) : mark? "=" (⟨.mark "=", line⟩ :: ts) = some (true, ts) := rfl
    rw [List.cons_append, List.cons_append, List.append_assoc, List.cons_append,
      simple_of_operand opens, Statement.expressionStatement, bind_of_eq (bare _),
      bind_of_eq target, bind_of_eq (colon _), if_pos rfl]
    have given : (some <$> Statement.assignedValue (Inner.level (n + 1)))
        (vs ++ ⟨.newline, line'⟩ :: rest) = some (some value, ⟨.newline, line'⟩ :: rest) := by
      rw [map_apply, right]
      rfl
    show ((Inner.level (n + 1)).expression >>= _) _ = _
    rw [bind_of_eq middle, bind_of_eq (equals _)]
    show ((some <$> Statement.assignedValue (Inner.level (n + 1))) >>= _) _ = _
    rw [bind_of_eq given]
    rfl

/-- The end of a function with its value. -/
theorem ReadsExpression.ret (h : ReadsExpression ts e) (opening : Opening line ts) :
    ReadsSimple line (⟨.word "return", line⟩ :: ts) (.ret line (some e)) where
  begins := ⟨_, _, rfl, rfl, rfl, by simp, by simp⟩
  reads := by
    intro n line' rest enough
    have follow : After closesAll (⟨.newline, line'⟩ :: rest) := ⟨_, _, rfl, rfl⟩
    have read := h.starExpressions opening (n := n) (by simp at enough; omega) follow
    obtain ⟨t, tail, rfl, opens, -, -⟩ := opening
    have begins := Token.beginsExpression_of_opens opens
    rw [List.cons_append] at read
    show Statement.returned (Inner.level (n + 1)) line _ = _
    simp [Statement.returned, begins, read]

/-- The import of a module. -/
theorem ReadsSimple.importModule {module : String} (free : module ∉ keywords) :
    ReadsSimple line [⟨.word "import", line⟩, ⟨.word module, line⟩]
      (.importModules line [⟨module, none⟩]) where
  begins := ⟨_, _, rfl, rfl, rfl, by simp, by simp⟩
  reads := by
    intro n line' rest enough
    simp [Statement.simple, commaSeparated, Statement.importedModule, Statement.dottedName,
      Statement.dottedName.go, Token.name?, free, Statement.rename]

/-- An imported name that is bound to no other name. -/
private theorem importedName_word {id : String} (free : id ∉ keywords) (line : Nat) {t : Lexeme}
    (plain : t.token.isWord "as" = false) (rest : List Lexeme) :
    Statement.importedName (⟨.word id, line⟩ :: t :: rest) = some (⟨id, none⟩, t :: rest) := by
  simp [Statement.importedName, Token.name?, free, Statement.rename, plain]

/-- Names behind commas up to the end of the line. -/
private theorem commaSeparated_names (line : Nat) {names : List String} (nonempty : names ≠ [])
    (free : ∀ id ∈ names, id ∉ keywords) {rounds : Nat} (enough : names.length ≤ rounds)
    (line' : Nat) (rest : List Lexeme) :
    commaSeparated Statement.importedName rounds
        (commaJoined line (names.map fun id => [⟨.word id, line⟩]) ++ ⟨.newline, line'⟩ :: rest) =
      some (names.map fun id => ⟨id, none⟩, ⟨.newline, line'⟩ :: rest) := by
  induction names generalizing rounds with
  | nil => exact absurd rfl nonempty
  | cons id names ih =>
    obtain ⟨rounds, rfl⟩ : ∃ m, rounds = m + 1 := ⟨rounds - 1, by simp at enough; omega⟩
    have first := free id (.head _)
    obtain _ | ⟨other, names⟩ := names
    · have last : Statement.importedName (⟨.word id, line⟩ :: ⟨.newline, line'⟩ :: rest) = _ :=
        importedName_word first line rfl rest
      simp [commaSeparated, commaJoined, behindCommas, last]
    · have more := ih (by simp) (fun id mem => free id (.tail _ mem)) (by simpa using enough)
      have shape : commaJoined line ((id :: other :: names).map fun id => [⟨.word id, line⟩]) ++
          ⟨.newline, line'⟩ :: rest = ⟨.word id, line⟩ :: ⟨.mark ",", line⟩ ::
            (commaJoined line ((other :: names).map fun id => [⟨.word id, line⟩]) ++
              ⟨.newline, line'⟩ :: rest) := by
        simp [commaJoined, behindCommas]
      rw [shape]
      generalize commaJoined line _ ++ _ = behind at more
      have item : Statement.importedName (⟨.word id, line⟩ :: ⟨.mark ",", line⟩ :: behind) = _ :=
        importedName_word first line rfl behind
      simp [commaSeparated, item, more]

/-- The import of names from a module. -/
theorem ReadsSimple.importFrom {module : String} {names : List String} (free : module ∉ keywords)
    (nonempty : names ≠ []) (others : ∀ id ∈ names, id ∉ keywords) :
    ReadsSimple line (⟨.word "from", line⟩ :: ⟨.word module, line⟩ :: ⟨.word "import", line⟩ ::
        commaJoined line (names.map fun id => [⟨.word id, line⟩]))
      (.importFrom line (some module) (names.map fun id => ⟨id, none⟩) 0) where
  begins := ⟨_, _, rfl, rfl, rfl, by simp, by simp⟩
  reads := by
    intro n line' rest enough
    obtain ⟨id, names, rfl⟩ := List.exists_cons_of_ne_nil nonempty
    rw [List.map_cons, commaJoined] at enough ⊢
    have count : (id :: names).length ≤ n + 1 := by
      have := length_le_behindCommas line (names.map fun id => [⟨.word id, line⟩])
      simp only [List.length_map, List.length_cons, List.length_append] at this enough ⊢
      omega
    have all := commaSeparated_names line nonempty others count line' rest
    rw [List.map_cons, commaJoined, List.append_assoc, List.singleton_append] at all
    have reached (ts : List Lexeme) : Statement.simple (Inner.level (n + 1))
        (⟨.word "from", line⟩ :: ts) = Statement.importFrom (Inner.level (n + 1)) line ts := rfl
    rw [List.cons_append, reached]
    simp [Statement.importFrom, Statement.levelDots, Statement.dottedName, Statement.dottedName.go,
      Token.name?, free, all]


/-- Tokens that read as the condition of a statement. -/
def ReadsTest (ts : List Lexeme) (e : Expr) : Prop :=
  ∀ n rest, ts.length < n → After Token.closes rest →
    (Inner.level n).assigned (ts ++ rest) = some (e, rest)

/-- The tokens of a block, from the colon before it on. -/
def blockTokens (line line' line'' : Nat) (body : List Lexeme) : List Lexeme :=
  ⟨.mark ":", line⟩ :: ⟨.newline, line'⟩ :: ⟨.indent, line''⟩ :: body

namespace ReadsLines

variable {body : List Lexeme} {ss : List Stmt} {owed : Nat}

/-- A compound statement, from what its word is followed by. -/
private theorem compound {keyword : String} (known : keyword ∈ ["if", "class", "def"])
    {header : List Lexeme} (h : ReadsLines body ss owed) (nonempty : ss ≠ [])
    (line' line'' : Nat)
    (read : ∀ n (block : Parse (List Stmt)) rest, header.length < n →
      (∀ t ∈ rest.head?, t.token.continues = false) →
      (∀ behind, block (⟨.mark ":", line⟩ :: behind) = some (ss, rest) →
        Statement.compound (Inner.level (n + 1)) block
          (⟨.word keyword, line⟩ :: (header ++ ⟨.mark ":", line⟩ :: behind)) = some (s, rest))) :
    ReadsLines (⟨.word keyword, line⟩ :: (header ++ blockTokens line line' line'' body)) [s]
      (owed + 1) where
  few := by simp
  begins := by
    rintro _ ⟨⟩
    simp only [List.mem_cons, List.not_mem_nil, or_false] at known
    rcases known with rfl | rfl | rfl <;> rfl
  reads := by
    intro n depth closing rest enough deep ends follow
    simp only [blockTokens, List.length_cons, List.length_append] at enough deep
    obtain ⟨n, rfl⟩ : ∃ m, n = m + 1 := ⟨n - 1, by omega⟩
    obtain ⟨depth, rfl⟩ : ∃ m, depth = m + 1 := ⟨depth - 1, by omega⟩
    have room : body.length < n + 1 := by omega
    have levels : body.length < depth := by omega
    have inner := h.block nonempty room levels ends rest line line' line''
    have whole := read n _ rest (by omega) (follow (by omega)) _ inner
    have compound : Statement.beginsCompound (.word keyword) = true := by
      simp only [List.mem_cons, List.not_mem_nil, or_false] at known
      rcases known with rfl | rfl | rfl <;> rfl
    refine .next ?_ (by simp) .done
    rw [Statement.statement, Statement.statementWith]
    simp [blockTokens, compound, whole]

/-- A conditional statement with a single branch. -/
theorem branch {test : Expr} (condition : ReadsTest ts test) (h : ReadsLines body ss owed)
    (nonempty : ss ≠ []) (line' line'' : Nat) :
    ReadsLines (⟨.word "if", line⟩ :: (ts ++ blockTokens line line' line'' body))
      [.branch line test ss []] (owed + 1) := by
  refine h.compound (by simp) nonempty line' line'' fun n block rest enough follow behind inner => ?_
  have read : (Inner.level (n + 1)).named (ts ++ ⟨.mark ":", line⟩ :: behind) = some (test, _) :=
    condition n _ enough ⟨_, _, rfl, rfl⟩
  have last : Statement.otherBranches (Inner.level (n + 1)) block (n + 1) rest =
      some ([], rest) := by
    obtain _ | ⟨t, rest⟩ := rest
    · rfl
    · have other := follow t rfl
      simp only [Token.continues, Bool.or_eq_false_iff] at other
      simp [Statement.otherBranches, other]
  simp [Statement.compound, read, inner, last]

/-- A class with its bases. -/
theorem classDef {name : String} {bases : List Argument} (free : name ∉ keywords)
    (reads : ∀ a ∈ bases, ReadsArgument line a) (order : NamedLast false bases)
    (h : ReadsLines body ss owed) (nonempty : ss ≠ []) (line' line'' : Nat) :
    let given := bases.foldl (Argument.give line) ⟨[], [], false, false⟩
    ReadsLines (⟨.word "class", line⟩ :: ((⟨.word name, line⟩ :: ⟨.mark "(", line⟩ ::
        (commaJoined line (bases.map (Argument.labelled line)) ++ [⟨.mark ")", line⟩])) ++
          blockTokens line line' line'' body))
      [.classDef line name given.args.reverse given.keywords.reverse ss []] (owed + 1) := by
  refine h.compound (by simp) nonempty line' line'' fun n block rest enough follow behind inner => ?_
  have total : (commaJoined line (bases.map (Argument.labelled line))).length < n := by
    simp only [List.length_append, List.length_cons] at enough
    omega
  have read := ReadsArgument.arguments reads order total (⟨.mark ":", line⟩ :: behind)
  simp [Statement.compound, Statement.classOf, Token.name?, free, read, inner]

end ReadsLines

/-- The tokens of a parameter that are read as it, up to a comma or the closing parenthesis. -/
structure ReadsParam (line : Nat) (x : List Lexeme × Param) : Prop where
  begins : ∃ id tail, x.1 = ⟨.word id, line⟩ :: tail
  reads : ∀ n rest, x.1.length < n →
    After (fun t => t.closes && !t.isMark ":" && !t.isMark "=") rest →
    (Inner.level (n + 1)).parameter true false (x.1 ++ rest) = some (x.2, rest)

/-- A parameter without an annotation. -/
theorem ReadsParam.plain {id : String} (free : id ∉ keywords) :
    ReadsParam line ([⟨.word id, line⟩], .mk line id none) where
  begins := ⟨_, _, rfl⟩
  reads := by
    rintro n _ - ⟨t, tail, rfl, closes⟩
    simp only [Bool.and_eq_true, Bool.not_eq_true'] at closes
    simp [Inner.parameter, Token.name?, free, closes.1.2]

/-- A parameter with its annotation. -/
theorem ReadsExpression.param {id : String} (free : id ∉ keywords) (h : ReadsExpression ts e) :
    ReadsParam line (⟨.word id, line⟩ :: ⟨.mark ":", line⟩ :: ts, .mk line id (some e)) where
  begins := ⟨_, _, rfl⟩
  reads := by
    intro n rest enough follow
    have hint : (Inner.level (n + 1)).expression (ts ++ rest) = some (e, rest) :=
      h n rest (by simp at enough; omega) (follow.mono fun t both => by simp_all)
    simp [Inner.parameter, Token.name?, free, hint]

/-- Parameters are read up to the closing parenthesis. -/
private theorem parametersFrom_joined {items : List (List Lexeme × Param)} {n : Nat}
    (nonempty : items ≠ []) (reads : ∀ x ∈ items, ReadsParam line x)
    (short : ∀ x ∈ items, x.1.length < n) {rounds : Nat} (enough : items.length ≤ rounds)
    (given : Inner.Parameters) (plain : given.defaults = []) (rest : List Lexeme) :
    (Inner.level (n + 1)).parametersFrom true ")" rounds given
        (commaJoined line (items.map Prod.fst) ++ ⟨.mark ")", line⟩ :: rest) =
      some ({ given with args := (items.map Prod.snd).reverse ++ given.args },
        ⟨.mark ")", line⟩ :: rest) := by
  induction items generalizing given rounds with
  | nil => exact absurd rfl nonempty
  | cons x items ih =>
    obtain ⟨rounds, rfl⟩ : ∃ m, rounds = m + 1 := ⟨rounds - 1, by simp at enough; omega⟩
    have follow : After (fun t => t.closes && !t.isMark ":" && !t.isMark "=")
        (behindCommas line (items.map Prod.fst) ++ ⟨.mark ")", line⟩ :: rest) :=
      after_behindCommas line _ rfl rfl rest
    have first := (reads x (.head _)).reads n _ (short x (.head _)) follow
    obtain ⟨id, tail, shape⟩ := (reads x (.head _)).begins
    obtain ⟨ts, param⟩ := x
    obtain rfl : ts = _ := shape
    have split : commaJoined line (((⟨.word id, line⟩ :: tail, param) :: items).map Prod.fst) ++
        ⟨.mark ")", line⟩ :: rest = ⟨.word id, line⟩ :: (tail ++ (behindCommas line (items.map Prod.fst) ++
          ⟨.mark ")", line⟩ :: rest)) := by
      simp [commaJoined]
    rw [split]
    rw [List.cons_append] at first
    obtain _ | ⟨y, items⟩ := items
    · rw [List.map_nil, behindCommas, List.flatMap_nil, List.nil_append] at first ⊢
      simp [Inner.parametersFrom, first, plain]
    · obtain ⟨positional, args, _, others, named, namedDefaults, mapping⟩ := given
      obtain rfl := plain
      have later := ih (by simp) (fun y mem => reads y (.tail _ mem))
        (fun y mem => short y (.tail _ mem)) (by simpa using enough)
        ⟨positional, param :: args, [], others, named, namedDefaults, mapping⟩ rfl
      rw [List.map_cons, behindCommas_cons, List.cons_append, ← List.map_cons] at first ⊢
      generalize commaJoined line _ ++ _ = behind at first later ⊢
      simp [Inner.parametersFrom, first, later]

/-- The parameters of a method. -/
def plainParams (params : List Param) : Params := .mk [] params none [] [] none []

/-- A function with its parameters and the annotation of its value. -/
theorem ReadsLines.functionDef {name : String} {params : List (List Lexeme × Param)}
    {rs body : List Lexeme} {returns : Expr} {ss : List Stmt} {owed : Nat} (free : name ∉ keywords)
    (nonempty : params ≠ []) (reads : ∀ x ∈ params, ReadsParam line x)
    (behind : ReadsExpression rs returns) (h : ReadsLines body ss owed) (filled : ss ≠ [])
    (line' line'' : Nat) :
    ReadsLines (⟨.word "def", line⟩ :: ((⟨.word name, line⟩ :: ⟨.mark "(", line⟩ ::
        (commaJoined line (params.map Prod.fst) ++ ⟨.mark ")", line⟩ :: ⟨.mark "->", line⟩ :: rs)) ++
          blockTokens line line' line'' body))
      [.functionDef line name (plainParams (params.map Prod.snd)) ss [] (some returns)]
      (owed + 1) := by
  refine h.compound (by simp) filled line' line'' fun n block rest enough follow tail inner => ?_
  simp only [List.length_append, List.length_cons] at enough
  have short : ∀ x ∈ params, x.1.length < n := by
    intro x mem
    have := length_le_commaJoined line (List.mem_map_of_mem (f := Prod.fst) mem)
    omega
  have count : params.length ≤ n + 1 := by
    obtain ⟨x, params, rfl⟩ := List.exists_cons_of_ne_nil nonempty
    have := length_le_behindCommas line (params.map Prod.fst)
    rw [List.map_cons, commaJoined, List.length_append] at enough
    rw [List.length_map] at this
    rw [List.length_cons]
    omega
  have all := parametersFrom_joined nonempty reads short count ⟨[], [], [], none, [], [], none⟩ rfl
    (⟨.mark "->", line⟩ :: (rs ++ ⟨.mark ":", line⟩ :: tail))
  have hint : (Inner.level (n + 1)).expression (rs ++ ⟨.mark ":", line⟩ :: tail) =
      some (returns, _) := behind n _ (by omega) ⟨_, _, rfl, rfl⟩
  simp [Statement.compound, Statement.function, Token.name?, free, Inner.parameters, all, hint,
    inner, Inner.Parameters.params, plainParams]

end FlatRecord.Script
