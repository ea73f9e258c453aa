import FlatRecord.Proofs.Script.CuttingLines
import FlatRecord.Proofs.Script.InlineText
import FlatRecord.Proofs.Script.PlacedStatements
import FlatRecord.Proofs.Script.ReadingStatements

/-!
# Printed statements read back

The statements that record modules are made of are cut into tokens that read as the same statements,
each with the line that it stands on.

`Printable levels s` says that `s` is such a statement, and that at most `levels` blocks stand inside
each other in it.
-/

namespace FlatRecord.Script

open FlatRecord.Text

attribute [local simp] Stmt.print

/-- An expression of record modules, with room for one more bracket around it. -/
def IsReadable (s : Strength) (e : Expr) : Prop := Readable (maxBrackets - 1) s e

/-- Whether a parameter is one of those that methods have. -/
def Param.IsPlain (p : Param) : Prop :=
  IsName p.name ∧ ∀ hint ∈ p.hint, IsReadable .expression hint

/-- Whether an expression is a condition of the kind that methods have. -/
def IsCondition (e : Expr) : Prop :=
  IsReadable .expression e ∨ ∃ operand, e = .unary .not operand ∧ IsReadable .comparand operand

/-- The statements of record modules. -/
inductive Printable : (levels : Nat) → Stmt → Prop where
  | text {n line : Nat} (s : String) : Printable n (.expr line (.constant (.datum (.text s))))
  | calls {n line : Nat} {owner attr : String} (free : IsName owner) (plain : owner ≠ "match")
      (free' : IsName attr) :
      Printable n (.expr line (.call (.member (.call (.name owner .load) [] []) attr .load) [] []))
  | assign {n line : Nat} {id : String} {value : Expr} (free : IsName id) (plain : id ≠ "match")
      (h : IsReadable .expression value) : Printable n (.assign line [.name id .store] value)
  | assignMember {n line : Nat} {owner attr : String} {value : Expr} (free : IsName owner)
      (plain : owner ≠ "match") (free' : IsName attr) (h : IsReadable .expression value) :
      Printable n (.assign line [.member (.name owner .load) attr .store] value)
  | annotated {n line : Nat} {id : String} {hint value : Expr} (free : IsName id)
      (h : IsReadable .expression hint) (h' : IsReadable .expression value) :
      Printable n (.annotated line (.name id .store) hint (some value) true)
  | importModule {n line : Nat} {module : String} (free : IsName module) :
      Printable n (.importModules line [⟨module, none⟩])
  | importFrom {n line : Nat} {module : String} {names : List String} (free : IsName module)
      (nonempty : names ≠ []) (free' : ∀ id ∈ names, IsName id) :
      Printable n (.importFrom line (some module) (names.map fun id => ⟨id, none⟩) 0)
  | ret {n line : Nat} {value : Expr} (h : IsReadable .expression value) :
      Printable n (.ret line (some value))
  | branch {n line : Nat} {test : Expr} {body : List Stmt} (condition : IsCondition test)
      (nonempty : body ≠ []) (h : ∀ s ∈ body, Printable n s) :
      Printable (n + 1) (.branch line test body [])
  | classDef {n line : Nat} {name : String} {bases : List Expr} {body : List Stmt}
      (free : IsName name) (filled : bases ≠ []) (reads : ∀ e ∈ bases, IsReadable .expression e)
      (nonempty : body ≠ []) (h : ∀ s ∈ body, Printable n s) :
      Printable (n + 1) (.classDef line name bases [] body [])
  | functionDef {n line : Nat} {name : String} {params : List Param} {returns : Expr}
      {body : List Stmt} (free : IsName name) (filled : params ≠ [])
      (plain : ∀ p ∈ params, p.IsPlain) (h' : IsReadable .expression returns)
      (nonempty : body ≠ []) (h : ∀ s ∈ body, Printable n s) :
      Printable (n + 1) (.functionDef line name (plainParams params) body [] (some returns))

/-- Lines of a block that are cut into tokens, which read as the statements of these lines. -/
structure PrintsLines (depth line : Nat) (cs : List Char) (ss : List Stmt) (ts : List Lexeme)
    (owed : Nat) : Prop where
  cuts : ∀ before, depth ≤ before + 1 → ∃ begin_line,
    CutsLines (.behind line before) cs (moves begin_line before depth ++ ts)
      (.behind (line + cs.count '\n') (depth + owed))
  reads : ReadsLines ts ss owed
  fits : ts.length + owed + 4 * depth ≤ cs.length
  ended : cs.getLast? = some '\n'
  clean : ∀ c ∈ cs, c ∉ ['\r', '\x00']

@[simp]
theorem length_indentation (depth : Nat) : (indentation depth).length = 4 * depth :=
  List.length_replicate

@[simp]
theorem count_indentation (depth : Nat) : (indentation depth).count '\n' = 0 := by
  simp [indentation, List.count_replicate]

theorem clean_indentation (depth : Nat) : ∀ c ∈ indentation depth, c ∉ ['\r', '\x00'] := by
  intro c mem
  rw [List.eq_of_mem_replicate mem]
  decide

/-- The text of an expression does not go down a line. -/
theorem IsInline.count_eq_zero {cs : List Char} (h : IsInline cs) : cs.count '\n' = 0 :=
  List.count_eq_zero.2 fun mem => h _ mem (by simp)

theorem IsInline.clean {cs : List Char} (h : IsInline cs) : ∀ c ∈ cs, c ∉ ['\r', '\x00'] :=
  fun c mem among => h c mem (.tail _ among)

/-- Tokens of the step between blocks. -/
theorem moves_back (line depth owed : Nat) :
    (moves line (depth + owed) depth).map Lexeme.token = List.replicate owed .dedent := by
  have back : ¬ depth + owed < depth := by omega
  have count : depth + owed - depth = owed := by omega
  rw [moves, if_neg back, count, List.map_replicate]

namespace PrintsLines

variable {depth line : Nat} {cs cs' : List Char} {ss ss' : List Stmt} {ts ts' : List Lexeme}
  {owed owed' : Nat} {s : Stmt}

/-- Statements one after the other. -/
theorem append (first : PrintsLines depth line cs ss ts owed)
    (second : PrintsLines depth (line + cs.count '\n') cs' ss' ts' owed') (nonempty : ss ≠ [])
    (nonempty' : ss' ≠ []) : ∃ us, PrintsLines depth line (cs ++ cs') (ss ++ ss') us owed' := by
  obtain ⟨next_line, behind⟩ := second.cuts (depth + owed) (by omega)
  have count : (moves next_line (depth + owed) depth).length = owed := by
    have := congrArg List.length (moves_back next_line depth owed)
    simpa using this
  refine ⟨ts ++ (moves next_line (depth + owed) depth ++ ts'), ?_,
    first.reads.append second.reads (moves_back next_line depth owed) (first.reads.ne_nil nonempty)
      (second.reads.ne_nil nonempty'), ?_, ?_, ?_⟩
  · intro before near
    obtain ⟨begin_line, ahead⟩ := first.cuts before near
    refine ⟨begin_line, ?_⟩
    have both := ahead.append behind
    rwa [List.append_assoc, Nat.add_assoc, ← List.count_append] at both
  · have := first.fits
    have := second.fits
    simp only [List.length_append, count]
    omega
  · rw [List.getLast?_append, second.ended]
    rfl
  · exact List.forall_mem_append.2 ⟨first.clean, second.clean⟩

/-- An empty line before a statement. -/
theorem blank (h : PrintsLines depth (line + 1) cs ss ts owed) :
    PrintsLines depth line ('\n' :: cs) ss ts owed where
  cuts := by
    intro before near
    obtain ⟨begin_line, cut⟩ := h.cuts before near
    refine ⟨begin_line, ?_⟩
    have empty : CutsLines (.behind line before) ['\n'] [] (.behind (line + 1) before) :=
      CutsLines.blank
    have whole := empty.append cut
    rwa [Nat.add_assoc, Nat.add_comm 1, ← List.count_cons_self] at whole
  reads := h.reads
  fits := by
    have := h.fits
    rw [List.length_cons]
    omega
  ended := by
    have last := h.ended
    obtain ⟨c, cs, rfl⟩ := List.exists_cons_of_ne_nil (l := cs) (by rintro rfl; simp at last)
    rwa [List.getLast?_cons_cons]
  clean := List.forall_mem_cons.2 ⟨by decide, h.clean⟩

/-- A simple statement, which may go down several lines. -/
theorem simple {border : List Char → Prop} (room : depth < maxMargins) (shown : IsShown cs)
    (clean : ∀ c ∈ cs, c ∉ ['\r', '\x00'])
    (cut : Cuts border (.behind line depth) cs ts (.behind (line + cs.count '\n') depth))
    (ends : ∀ rest, border ('\n' :: rest)) (reads : ReadsSimple line ts s) :
    PrintsLines depth line (indentation depth ++ (cs ++ ['\n'])) [s]
      (ts ++ [⟨.newline, line + cs.count '\n'⟩]) 0 where
  cuts := by
    intro before near
    obtain ⟨c, cs, rfl, other⟩ := shown
    refine ⟨line, ?_⟩
    have whole := CutsLines.line near room other cut ends rfl
    rw [List.count_append, count_indentation, Nat.zero_add, List.count_append]
    exact whole
  reads := reads.lines _
  fits := by
    have := cut.length_le
    simp only [List.length_append, List.length_singleton, length_indentation]
    omega
  ended := by simp
  clean := by
    refine List.forall_mem_append.2 ⟨clean_indentation depth, ?_⟩
    exact List.forall_mem_append.2 ⟨clean, by simp⟩

/-- A simple statement on a single line. -/
theorem inline {border : List Char → Prop} (room : depth < maxMargins) (shown : IsShown cs)
    (flat : IsInline cs)
    (cut : Cuts border (.behind line depth) cs ts (.behind line depth))
    (ends : ∀ rest, border ('\n' :: rest)) (reads : ReadsSimple line ts s) :
    ∃ us, PrintsLines depth line (indentation depth ++ (cs ++ ['\n'])) [s] us 0 := by
  refine ⟨_, simple room shown flat.clean ?_ ends reads⟩
  rw [flat.count_eq_zero]
  exact cut

/-- A compound statement: a line up to the colon, and the lines of a block below it. -/
theorem compound {header : List Lexeme} {border : List Char → Prop} (room : depth < maxMargins)
    (shown : IsShown cs) (flat : IsInline cs)
    (cut : Cuts border (.behind line depth) cs (header ++ [⟨.mark ":", line⟩]) (.behind line depth))
    (ends : ∀ rest, border ('\n' :: rest))
    (body : PrintsLines (depth + 1) (line + 1) cs' ss ts owed)
    (reads : ∀ line'', ReadsLines (header ++ blockTokens line line line'' ts) [s] (owed + 1)) :
    ∃ us, PrintsLines depth line (indentation depth ++ (cs ++ '\n' :: cs')) [s] us (owed + 1) := by
  obtain ⟨next_line, inner⟩ := body.cuts depth (by omega)
  refine ⟨header ++ blockTokens line line next_line ts, ?_, reads next_line, ?_, ?_, ?_⟩
  · intro before near
    obtain ⟨c, cs, rfl, other⟩ := shown
    refine ⟨line, ?_⟩
    have first := CutsLines.line near room other cut ends rfl
    have whole := first.append inner
    have indent : moves next_line depth (depth + 1) = [⟨.indent, next_line⟩] :=
      if_pos (Nat.lt_succ_self depth)
    have text : indentation depth ++ (c :: cs ++ ['\n']) ++ cs' =
        indentation depth ++ (c :: cs ++ '\n' :: cs') := by simp
    have lines : line + (indentation depth ++ (c :: cs ++ '\n' :: cs')).count '\n' =
        line + 1 + cs'.count '\n' := by
      rw [List.count_append, count_indentation, List.count_append, flat.count_eq_zero,
        List.count_cons_self]
      omega
    rw [text, indent] at whole
    rw [lines, show depth + (owed + 1) = depth + 1 + owed by omega]
    simpa [blockTokens, Place.behind] using whole
  · have := body.fits
    have := cut.length_le
    simp only [blockTokens, List.length_append, List.length_cons, List.length_nil,
      length_indentation] at *
    omega
  · have last := body.ended
    obtain ⟨c, cs', rfl⟩ := List.exists_cons_of_ne_nil (l := cs') (by rintro rfl; simp at last)
    simp only [List.getLast?_append, List.getLast?_cons_cons, last]
    rfl
  · refine List.forall_mem_append.2 ⟨clean_indentation depth, ?_⟩
    exact List.forall_mem_append.2 ⟨flat.clean, List.forall_mem_cons.2 ⟨by decide, body.clean⟩⟩

end PrintsLines


/-- Every place inside a line and outside brackets has room for the brackets of an expression. -/
theorem admits_behind (line depth : Nat) :
    (Place.behind line depth).Admits (maxBrackets - 1) :=
  ⟨Nat.le_of_ble_eq_true rfl, by simp [Place.behind]⟩

/-- The end of the line is no part of an expression. -/
theorem endsOperand_newline (rest : List Char) : EndsOperand ('\n' :: rest) :=
  .cons (by decide)

/-- The end of the line is no part of an operator. -/
theorem endsMark_newline (rest : List Char) : EndsMark ('\n' :: rest) := by
  rintro _ ⟨⟩
  decide

/-- A name begins no blank line. -/
theorem isShown_of_isWord {cs : List Char} (word : Naming.isWord cs) : IsShown cs := by
  obtain ⟨c, initial, head⟩ := beginsWord_of_isWord word []
  rw [List.append_nil] at head
  obtain ⟨tail, rfl⟩ := List.head?_eq_some_iff.1 head
  refine ⟨c, tail, rfl, fun among => ?_⟩
  fin_cases among <;> exact absurd initial (by decide)

/-- The equals sign of an assignment, with blanks around it. -/
private theorem cuts_equals {p : Place} (closers : p.Admits 0) :
    Cuts AnyBorder p " = ".toList [⟨.mark "=", p.line⟩] p := by
  have sign : Cuts AnyBorder p (['='] ++ [' ']) ([⟨.mark "=", p.line⟩] ++ []) p :=
    (Cuts.mark (by decide) closers).append Cuts.space fun rest _ => endsMark_space rest
  exact Cuts.space.append_any sign

/-- The colon before an annotation, with a blank behind it. -/
theorem cuts_colon {p : Place} (closers : p.Admits 0) :
    Cuts AnyBorder p [':', ' '] [⟨.mark ":", p.line⟩] p :=
  (Cuts.mark (by decide) closers).append Cuts.space fun rest _ => endsMark_space rest

/-- The sign in front of the annotation of a function, between blanks. -/
theorem cuts_arrow {p : Place} : Cuts AnyBorder p " -> ".toList [⟨.mark "->", p.line⟩] p := by
  have sign : Cuts AnyBorder p ['-', '>'] [⟨.mark "->", p.line⟩] p := Cuts.doubleMark (by simp)
  exact Cuts.space.append_any (sign.append_any Cuts.space)

/-- A word with a blank behind it. -/
theorem cuts_word_space {p : Place} {w : String} (word : Naming.isWord w.toList) :
    Cuts AnyBorder p (w.toList ++ [' ']) [⟨.word w, p.line⟩] p := by
  have first := Cuts.word (p := p) word
  rw [String.ofList_toList] at first
  refine first.append Cuts.space fun rest _ => ?_
  rintro _ ⟨⟩
  decide

/-- The expression is cut and read wherever a statement holds it. -/
private theorem IsReadable.prints {s : Strength} {e : Expr} (h : IsReadable s e) (line : Nat) :
    ∃ ts, Prints line (maxBrackets - 1) s e ts :=
  Readable.prints h line

section Simple

variable {depth line : Nat} (room : depth < maxMargins)

include room

/-- A lone expression. -/
private theorem prints_expr {e : Expr} {ts : List Lexeme}
    (h : Prints line (maxBrackets - 1) .expression e ts) (shown : IsShown e.print)
    (flat : IsInline e.print) (plain : ∀ t ∈ ts.head?, t.token.isWord "match" = false)
    (line' : Nat) :
    ∃ us, PrintsLines depth line ((Stmt.expr line' e).print depth)
      [(Stmt.expr line' e).placed depth line] us 0 := by
  have cut := h.cuts (.behind line depth) rfl (admits_behind line depth)
  have reads := ReadsExpression.statement h.reads h.opening plain
  rw [Stmt.print, List.append_assoc]
  exact PrintsLines.inline room shown flat cut endsOperand_newline reads

/-- A text that stands alone. -/
private theorem prints_text (s : String) (line' : Nat) :
    ∃ us, PrintsLines depth line ((Stmt.expr line' (.constant (.datum (.text s)))).print depth)
      [(Stmt.expr line' (.constant (.datum (.text s)))).placed depth line] us 0 := by
  have shown : IsShown (Expr.constant (.datum (.text s))).print := by
    refine ⟨_, _, rfl, ?_⟩
    rcases quoteFor_eq s.toList with h | h <;> rw [h] <;> decide
  have prints : Prints line (maxBrackets - 1) .addend _ _ := Prints.text s
  exact prints_expr room prints.sum.comparand.expression shown (IsInline.quoted _)
    (by rintro _ ⟨⟩; rfl) line'

/-- A documentation text, which may go down several lines. -/
private theorem prints_documentation (s : String) (line' : Nat) :
    ∃ us, PrintsLines depth line
      ((Stmt.expr line' (.constant (.datum (.text s)))).printFirst depth)
      [(Stmt.expr line' (.constant (.datum (.text s)))).placed depth line] us 0 := by
  have shown : IsShown (quoteDoc s.toList) := by
    obtain ⟨q, inner, quotes, shape, -⟩ := quotedLiteral_quoteDoc s.toList
    refine ⟨_, _, shape, ?_⟩
    rcases quotes with rfl | rfl <;> decide
  have cut : Cuts AnyBorder (.behind line depth) (quoteDoc s.toList) [⟨.literal (.text s), line⟩]
      (.behind (line + (quoteDoc s.toList).count '\n') depth) := by
    have cut := Cuts.documentation (p := .behind line depth) s.toList
    rwa [String.ofList_toList] at cut
  have single : Opening line [⟨.literal (.text s), line⟩] := .single line rfl
  have reads : ReadsExpression [⟨.literal (.text s), line⟩] (.constant (.datum (.text s))) :=
    (ReadsAddend.text s).sum.comparand.expression single
  exact ⟨_, .simple room shown (fun c mem among => not_mem_quoteDoc _ among mem) cut
    (fun _ => trivial) (reads.statement single (by rintro _ ⟨⟩; rfl))⟩

omit room in
/-- A call without arguments. -/
private theorem prints_call_nil {d : Nat} {callee : Expr} {ts : List Lexeme}
    (first : Prints line d .primary callee ts) :
    Prints line (d + 1) .primary (.call callee [] [])
      (ts ++ [⟨.mark "(", line⟩, ⟨.mark ")", line⟩]) := by
  have values : ∀ e ∈ ([] : List Expr), Prints line d .expression e [] := by simp
  have named : ∀ k ∈ ([] : List Keyword), Prints line d .expression k.value [] := by simp
  exact Prints.call values named (by simp) first

/-- A call of a member of what another call gives. -/
private theorem prints_calls {owner attr : String} (free : IsName owner) (plain : owner ≠ "match")
    (free' : IsName attr) (line' : Nat) :
    let e : Expr := .call (.member (.call (.name owner .load) [] []) attr .load) [] []
    ∃ us, PrintsLines depth line ((Stmt.expr line' e).print depth)
      [(Stmt.expr line' e).placed depth line] us 0 := by
  intro e
  have name : Prints line (maxBrackets - 3) .primary (.name owner .load) _ := .name free
  have whole : Prints line (maxBrackets - 1) .primary e _ :=
    prints_call_nil ((prints_call_nil name).member free')
  have shown : IsShown e.print := (((isShown_of_isWord free.1).append _).append _).append _
  have inner : Readable (maxBrackets - 2) .primary (.call (.name owner .load) [] []) :=
    .call (d := maxBrackets - 3) (.name free) (by simp) (by simp) (by simp)
  have flat : Readable (maxBrackets - 1) .primary e :=
    .call (d := maxBrackets - 2) (.member inner free') (by simp) (by simp) (by simp)
  refine prints_expr room whole.addend.sum.comparand.expression shown flat.inline ?_ line'
  rintro _ ⟨⟩
  simpa using plain

/-- A target and its value. -/
private theorem prints_assign {target e value : Expr} {ts : List Lexeme}
    (h : Prints line (maxBrackets - 1) .primary e ts) (shown : IsShown e.print)
    (flat : IsInline e.print) (plain : ∀ t ∈ ts.head?, t.token.isWord "match" = false)
    (text : target.print = e.print) (same : target.placed line = target)
    (stored : (e.placed line).target? .store = some target) (h' : IsReadable .expression value)
    (line' : Nat) :
    ∃ us, PrintsLines depth line ((Stmt.assign line' [target] value).print depth)
      [(Stmt.assign line' [target] value).placed depth line] us 0 := by
  obtain ⟨vs, right⟩ := h'.prints line
  have room' := admits_behind line depth
  have operand := h.addend.sum.comparand.expression
  have left := operand.cuts (.behind line depth) rfl room'
  have behind := (cuts_equals room'.closers).append_any (right.cuts (.behind line depth) rfl room')
  have cut := left.append behind fun rest _ => .cons (by decide)
  have flat' : IsInline (e.print ++ (" = ".toList ++ value.print)) :=
    flat.append ((by decide : IsInline " = ".toList).append h'.inline)
  have reads := ReadsExpression.assign operand.reads operand.opening plain stored right.reads
    right.opening
  have whole := PrintsLines.inline room (shown.append _) flat' cut endsOperand_newline reads
  simpa [text, same] using whole

/-- A name with its annotation and its value. -/
private theorem prints_annotated {id : String} {hint value : Expr} (free : IsName id)
    (h : IsReadable .expression hint) (h' : IsReadable .expression value) (line' : Nat) :
    let s : Stmt := .annotated line' (.name id .store) hint (some value) true
    ∃ us, PrintsLines depth line (s.print depth) [s.placed depth line] us 0 := by
  intro s
  obtain ⟨hs, middle⟩ := h.prints line
  obtain ⟨vs, right⟩ := h'.prints line
  have room' := admits_behind line depth
  have name := Cuts.word (p := .behind line depth) free.1
  rw [String.ofList_toList] at name
  have last := (cuts_equals room'.closers).append_any (right.cuts (.behind line depth) rfl room')
  have behind := (middle.cuts (.behind line depth) rfl room').append last
    fun rest _ => .cons (by decide)
  have cut := name.append ((cuts_colon room'.closers).append_any behind) fun rest _ => by
    rintro _ ⟨⟩
    decide
  have flat : IsInline (id.toList ++ ([':', ' '] ++ (hint.print ++ (" = ".toList ++ value.print)))) :=
    (IsInline.word free.1).append ((by decide : IsInline [':', ' ']).append
      (h.inline.append ((by decide : IsInline " = ".toList).append h'.inline)))
  have reads := ReadsExpression.annotated free.2 middle.reads right.reads right.opening
  have whole := PrintsLines.inline room ((isShown_of_isWord free.1).append _) flat cut
    endsOperand_newline reads
  simpa [s, Expr.print] using whole

/-- The import of a module. -/
private theorem prints_importModule {module : String} (free : IsName module) (line' : Nat) :
    let s : Stmt := .importModules line' [⟨module, none⟩]
    ∃ us, PrintsLines depth line (s.print depth) [s.placed depth line] us 0 := by
  intro s
  have name := Cuts.word (p := .behind line depth) free.1
  rw [String.ofList_toList] at name
  have keyword : Cuts AnyBorder (.behind line depth) "import ".toList [⟨.word "import", line⟩] _ :=
    cuts_word_space (w := "import") (by decide)
  have cut := keyword.append_any name
  have flat := (by decide : IsInline "import ".toList).append (.word free.1)
  have shown : IsShown "import ".toList := ⟨_, _, rfl, by decide⟩
  have ends (rest : List Char) : EndsWord ('\n' :: rest) := (endsOperand_newline rest).owner.word
  have whole := PrintsLines.inline room (shown.append _) flat cut ends
    (ReadsSimple.importModule free.2)
  simpa [s, Alias.print, separated, Datum.joinWith] using whole

/-- The import of names from a module. -/
private theorem prints_importFrom {module : String} {names : List String} (free : IsName module)
    (nonempty : names ≠ []) (free' : ∀ id ∈ names, IsName id) (line' : Nat) :
    let s : Stmt := .importFrom line' (some module) (names.map fun id => ⟨id, none⟩) 0
    ∃ us, PrintsLines depth line (s.print depth) [s.placed depth line] us 0 := by
  intro s
  let pieces : List (List Char × List Lexeme) := names.map fun id => (id.toList, [⟨.word id, line⟩])
  have items : ∀ x ∈ pieces, Cuts EndsOperand (.behind line depth) x.1 x.2 (.behind line depth) := by
    intro x mem
    obtain ⟨id, among, rfl⟩ := List.mem_map.1 mem
    have name := Cuts.word (p := .behind line depth) (free' id among).1
    rw [String.ofList_toList] at name
    exact name.weaken fun _ ends => ends.owner.word
  have texts : pieces.map Prod.fst = names.map String.toList := by simp [pieces]
  have tokens : pieces.map Prod.snd = names.map fun id => [⟨.word id, line⟩] := by simp [pieces]
  have listed := Cuts.separated (admits_behind line depth).closers items
  rw [texts, tokens] at listed
  have source := Cuts.word (p := .behind line depth) free.1
  rw [String.ofList_toList] at source
  have first : Cuts AnyBorder (.behind line depth) "from ".toList [⟨.word "from", line⟩] _ :=
    cuts_word_space (w := "from") (by decide)
  have second : Cuts AnyBorder (.behind line depth) " import ".toList [⟨.word "import", line⟩] _ :=
    Cuts.space.append_any (cuts_word_space (w := "import") (by decide))
  have cut := first.append_any (source.append (second.append_any listed) fun rest _ => by
    rintro _ ⟨⟩
    decide)
  have flat : IsInline ("from ".toList ++ (module.toList ++ (" import ".toList ++
      separated (names.map String.toList)))) := by
    refine (by decide : IsInline "from ".toList).append ((IsInline.word free.1).append
      ((by decide : IsInline " import ".toList).append (.separated fun x mem => ?_)))
    obtain ⟨id, among, rfl⟩ := List.mem_map.1 mem
    exact .word (free' id among).1
  have shown : IsShown "from ".toList := ⟨_, _, rfl, by decide⟩
  have whole := PrintsLines.inline room (shown.append _) flat cut endsOperand_newline
    (ReadsSimple.importFrom free.2 nonempty fun id mem => (free' id mem).2)
  simpa [s, Alias.print, importSource, Function.comp_def] using whole

/-- The end of a function with its value. -/
private theorem prints_ret {value : Expr} (h : IsReadable .expression value) (line' : Nat) :
    let s : Stmt := .ret line' (some value)
    ∃ us, PrintsLines depth line (s.print depth) [s.placed depth line] us 0 := by
  intro s
  obtain ⟨vs, right⟩ := h.prints line
  have keyword : Cuts AnyBorder (.behind line depth) "return ".toList [⟨.word "return", line⟩] _ :=
    cuts_word_space (w := "return") (by decide)
  have cut := keyword.append_any (right.cuts (.behind line depth) rfl (admits_behind line depth))
  have flat := (by decide : IsInline "return ".toList).append h.inline
  have shown : IsShown "return ".toList := ⟨_, _, rfl, by decide⟩
  have reads := ReadsExpression.ret right.reads right.opening
  have whole := PrintsLines.inline room (shown.append _) flat cut endsOperand_newline reads
  simpa [s] using whole

end Simple

section Compound

variable {depth line : Nat}

/-- A condition is cut and read wherever a conditional statement holds it. -/
private theorem IsCondition.prints {test : Expr} (h : IsCondition test) (line depth : Nat) :
    IsInline test.print ∧ ∃ ts, ReadsTest ts (test.placed line) ∧
      Cuts EndsOperand (.behind line depth) test.print ts (.behind line depth) := by
  have room := admits_behind line depth
  rcases h with h | ⟨operand, rfl, h⟩
  · obtain ⟨ts, prints⟩ := h.prints line
    exact ⟨h.inline, ts, fun n rest enough follow =>
      prints.reads.assigned prints.opening enough follow, prints.cuts _ rfl room⟩
  · obtain ⟨ts, prints⟩ := h.prints line
    have keyword : Cuts AnyBorder (.behind line depth) "not ".toList [⟨.word "not", line⟩] _ :=
      cuts_word_space (w := "not") (by decide)
    refine ⟨(by decide : IsInline "not ".toList).append h.inline, ⟨.word "not", line⟩ :: ts,
      fun n rest enough follow => ?_, keyword.append_any (prints.cuts _ rfl room)⟩
    have read := ReadsComparand.not prints.reads prints.opening n rest enough follow
    obtain ⟨t, tail, rfl, -⟩ := prints.opening
    have free : (Token.word "not").name? = none := rfl
    simpa [Inner.assigned, free] using read

/-- A conditional statement with a single branch. -/
private theorem prints_branch (room : depth < maxMargins) {test : Expr} (h : IsCondition test)
    {cs : List Char} {ss : List Stmt} {ts : List Lexeme} {owed : Nat} (nonempty : ss ≠ [])
    (body : PrintsLines (depth + 1) (line + 1) cs ss ts owed) :
    ∃ us, PrintsLines depth line
      (indentation depth ++ ("if ".toList ++ (test.print ++ ':' :: '\n' :: cs)))
      [.branch line (test.placed line) ss []] us (owed + 1) := by
  obtain ⟨flat, us, reads, cut⟩ := h.prints line depth
  have keyword : Cuts AnyBorder (.behind line depth) "if ".toList [⟨.word "if", line⟩] _ :=
    cuts_word_space (w := "if") (by decide)
  have colon : Cuts EndsMark (.behind line depth) [':'] [⟨.mark ":", line⟩] _ :=
    Cuts.mark (by decide) (admits_behind line depth).closers
  have header : Cuts EndsMark _ _ ((⟨.word "if", line⟩ :: us) ++ [⟨.mark ":", line⟩]) _ :=
    keyword.append_any (cut.append colon fun rest _ => .cons (by decide))
  have flat' : IsInline ("if ".toList ++ (test.print ++ [':'])) :=
    (by decide : IsInline "if ".toList).append (flat.append (by decide))
  have shown : IsShown "if ".toList := ⟨_, _, rfl, by decide⟩
  have whole := PrintsLines.compound room (shown.append _) flat' header endsMark_newline body
    fun line'' => ReadsLines.branch reads body.reads nonempty line line''
  simpa using whole

/-- A class with its bases. -/
private theorem prints_classDef (room : depth < maxMargins) {name : String} {bases : List Expr}
    (free : IsName name) (h : ∀ e ∈ bases, IsReadable .expression e) {cs : List Char}
    {ss : List Stmt} {ts : List Lexeme} {owed : Nat} (nonempty : ss ≠ [])
    (body : PrintsLines (depth + 1) (line + 1) cs ss ts owed) :
    ∃ us, PrintsLines depth line (indentation depth ++ ("class ".toList ++
        (name.toList ++ '(' :: (separated (Expr.printEach bases) ++ ')' :: ':' :: '\n' :: cs))))
      [.classDef line name (bases.map (Expr.placed line)) [] ss []] us (owed + 1) := by
  choose! tokens values using fun e mem => (h e mem).prints line
  have first : Prints line (maxBrackets - 1) .primary (.name name .load) _ := .name free
  have named : ∀ k ∈ ([] : List Keyword), Prints line (maxBrackets - 1) .expression k.value [] := by
    simp
  have call := Prints.call values named (by simp) first
  have outer : (Place.behind line depth).Admits maxBrackets :=
    ⟨Nat.le_of_ble_eq_true rfl, by simp [Place.behind]⟩
  have keyword : Cuts AnyBorder (.behind line depth) "class ".toList [⟨.word "class", line⟩] _ :=
    cuts_word_space (w := "class") (by decide)
  have colon : Cuts EndsMark (.behind line depth) [':'] [⟨.mark ":", line⟩] _ :=
    Cuts.mark (by decide) (admits_behind line depth).closers
  let arguments := Prints.arguments line tokens (fun _ => []) bases []
  have header : Cuts EndsMark _ _ ((⟨.word "class", line⟩ :: (⟨.word name, line⟩ ::
      ⟨.mark "(", line⟩ :: (commaJoined line (arguments.map (Argument.labelled line)) ++
        [⟨.mark ")", line⟩]))) ++ [⟨.mark ":", line⟩]) _ :=
    keyword.append_any ((call.cuts _ rfl outer).append colon fun rest _ => ⟨':', by decide, rfl⟩)
  have readable : Readable maxBrackets .primary (.call (.name name .load) bases []) :=
    .call (d := maxBrackets - 1) (.name free) h (by simp) (by simp)
  have flat := (by decide : IsInline "class ".toList).append
    (readable.inline.append (by decide : IsInline [':']))
  have shown : IsShown "class ".toList := ⟨_, _, rfl, by decide⟩
  obtain ⟨positional, keyed⟩ := Prints.foldl_give_arguments line tokens (fun _ => []) bases
    [] (by simp)
  have reads (line'' : Nat) := ReadsLines.classDef free.2
    (Prints.readsArgument_arguments values named (by simp)) (Prints.namedLast_arguments (by simp))
    body.reads nonempty line line''
  simp only [positional, keyed] at reads
  have whole := PrintsLines.compound room (shown.append _) flat header endsMark_newline body reads
  simpa [Expr.print, Expr.printKeywords] using whole

/-- A parameter of a method is cut and read. -/
private theorem Param.IsPlain.prints {p : Param} (h : p.IsPlain) (line : Nat) :
    IsInline p.print ∧ ∃ ts, ReadsParam line (ts, p.placed line) ∧
      ∀ q : Place, q.line = line → q.Admits (maxBrackets - 1) → Cuts EndsOperand q p.print ts q := by
  obtain ⟨at_line, id, hint⟩ := p
  obtain ⟨free, readable⟩ := h
  have name (q : Place) (same : q.line = line) : Cuts EndsWord q id.toList [⟨.word id, line⟩] q := by
    have cut := Cuts.word (p := q) free.1
    rwa [String.ofList_toList, same] at cut
  cases hint with
  | none =>
    exact ⟨.word free.1, _, .plain free.2, fun q same _ => (name q same).weaken
      fun _ ends => ends.owner.word⟩
  | some hint =>
    have inner := readable hint rfl
    obtain ⟨ts, prints⟩ := inner.prints line
    refine ⟨(IsInline.word free.1).append ((by decide : IsInline [':', ' ']).append inner.inline),
      _, ReadsExpression.param free.2 prints.reads, fun q same room => ?_⟩
    have behind := (cuts_colon room.closers).append_any (prints.cuts q same room)
    rw [same] at behind
    exact (name q same).append behind fun rest _ => by
      rintro _ ⟨⟩
      decide

/-- The parameters of a method are cut and read between their brackets. -/
private theorem prints_params {params : List Param} (plain : ∀ p ∈ params, p.IsPlain)
    (line depth : Nat) :
    IsInline ('(' :: (separated (params.map Param.print) ++ [')'])) ∧
      ∃ tokens : Param → List Lexeme, (∀ p ∈ params, ReadsParam line (tokens p, p.placed line)) ∧
        Cuts AnyBorder (.behind line depth) ('(' :: (separated (params.map Param.print) ++ [')']))
          (⟨.mark "(", line⟩ :: (commaJoined line (params.map tokens) ++ [⟨.mark ")", line⟩]))
          (.behind line depth) := by
  choose! flat tokens reads cuts using fun p mem => (plain p mem).prints line
  have pieces : ∀ x ∈ params.map Param.print, IsInline x := by
    intro x mem
    obtain ⟨p, among, rfl⟩ := List.mem_map.1 mem
    exact flat p among
  have outer : (Place.behind line depth).Admits (maxBrackets - 1 + 1) :=
    ⟨Nat.le_of_ble_eq_true rfl, by simp [Place.behind]⟩
  have inside (q : Place) (at_line : q.line = line) (room : q.Admits (maxBrackets - 1)) :
      Cuts EndsBracket q (separated (params.map Param.print))
        (commaJoined line (params.map tokens)) q := by
    have items : ∀ x ∈ params.map fun p => (p.print, tokens p), Cuts EndsOperand q x.1 x.2 q := by
      intro x mem
      obtain ⟨p, among, rfl⟩ := List.mem_map.1 mem
      exact cuts p among q at_line room
    have cut := Cuts.separated room.closers items
    rw [List.map_map, List.map_map, at_line] at cut
    exact cut.weaken fun _ => EndsBracket.operand
  exact ⟨.bracketed (.separated pieces) (by decide) (by decide), tokens, reads,
    Cuts.bracketed (by decide) outer inside⟩

/-- A function with its parameters and the annotation of its value. -/
private theorem prints_functionDef (room : depth < maxMargins) {name : String} {params : List Param}
    {returns : Expr} (free : IsName name) (filled : params ≠ []) (plain : ∀ p ∈ params, p.IsPlain)
    (h : IsReadable .expression returns) {cs : List Char} {ss : List Stmt} {ts : List Lexeme}
    {owed : Nat} (nonempty : ss ≠ []) (body : PrintsLines (depth + 1) (line + 1) cs ss ts owed) :
    ∃ us, PrintsLines depth line (indentation depth ++ ("def ".toList ++ (name.toList ++ '(' ::
        (separated (params.map Param.print) ++ ')' :: (" -> ".toList ++
          (returns.print ++ ':' :: '\n' :: cs))))))
      [.functionDef line name (plainParams (params.map (Param.placed line))) ss []
        (some (returns.placed line))] us (owed + 1) := by
  obtain ⟨inline, tokens, reads, listed⟩ := prints_params plain line depth
  obtain ⟨rs, prints⟩ := h.prints line
  have room' := admits_behind line depth
  have keyword : Cuts AnyBorder (.behind line depth) "def ".toList [⟨.word "def", line⟩] _ :=
    cuts_word_space (w := "def") (by decide)
  have title := Cuts.word (p := .behind line depth) free.1
  rw [String.ofList_toList] at title
  have colon : Cuts EndsMark (.behind line depth) [':'] [⟨.mark ":", line⟩] _ :=
    Cuts.mark (by decide) room'.closers
  have arrow : Cuts AnyBorder (.behind line depth) " -> ".toList [⟨.mark "->", line⟩] _ := cuts_arrow
  have behind := arrow.append_any ((prints.cuts _ rfl room').append colon
    fun rest _ => .cons (by decide))
  have cut := keyword.append_any (title.append (listed.append_any behind) fun rest _ => by
    rintro _ ⟨⟩
    decide)
  -- the tokens as the reader groups them: all that stands in front of the colon, then the colon
  have header : [⟨.word "def", line⟩] ++ ([⟨.word name, line⟩] ++ (⟨.mark "(", line⟩ ::
      (commaJoined line (params.map tokens) ++ [⟨.mark ")", line⟩]) ++
        ([⟨.mark "->", line⟩] ++ (rs ++ [⟨.mark ":", line⟩])))) =
      (⟨.word "def", line⟩ :: (⟨.word name, line⟩ :: ⟨.mark "(", line⟩ ::
        (commaJoined line (params.map tokens) ++ ⟨.mark ")", line⟩ :: ⟨.mark "->", line⟩ :: rs))) ++
          [⟨.mark ":", line⟩] := by
    simp
  change Cuts _ _ _ ([⟨.word "def", line⟩] ++ ([⟨.word name, line⟩] ++ _)) _ at cut
  rw [header] at cut
  have tail := (by decide : IsInline " -> ".toList).append
    (h.inline.append (by decide : IsInline [':']))
  have flat := (by decide : IsInline "def ".toList).append
    ((IsInline.word free.1).append (inline.append tail))
  have shown : IsShown "def ".toList := ⟨_, _, rfl, by decide⟩
  let items := params.map fun p => (tokens p, p.placed line)
  have each : ∀ x ∈ items, ReadsParam line x := by
    intro x mem
    obtain ⟨p, among, rfl⟩ := List.mem_map.1 mem
    exact reads p among
  have first : items.map Prod.fst = params.map tokens := by simp [items]
  have second : items.map Prod.snd = params.map (Param.placed line) := by simp [items]
  have lines (line'' : Nat) := ReadsLines.functionDef free.2 (by simpa [items] using filled) each
    prints.reads body.reads nonempty line line''
  rw [first, second] at lines
  have whole := PrintsLines.compound room (shown.append _) flat cut endsMark_newline body lines
  simpa using whole

end Compound

/-- Whether a statement is cut and read wherever it stands in a block of some depth. It owes the ends of
some blocks at most. -/
private def PrintsAnywhere (depth most : Nat) (s : Stmt) : Prop :=
  ∀ line, ∃ ts owed, owed ≤ most ∧
    PrintsLines depth line (s.print depth) [s.placed depth line] ts owed

/-- Statements one after the other are cut and read if each one is. -/
private theorem prints_all {depth most : Nat} {ss : List Stmt}
    (h : ∀ s ∈ ss, PrintsAnywhere depth most s) (nonempty : ss ≠ []) (line : Nat) :
    ∃ ts owed, owed ≤ most ∧
      PrintsLines depth line (Stmt.printAll depth ss) (Stmt.placedAll depth line ss) ts owed := by
  induction ss generalizing line with
  | nil => exact absurd rfl nonempty
  | cons s ss ih =>
    obtain ⟨ts, owed, few, first⟩ := h s (.head _) line
    rw [Stmt.printAll, Stmt.placedAll]
    obtain _ | ⟨s', ss⟩ := ss
    · exact ⟨ts, owed, few, by simpa [Stmt.printAll, Stmt.placedAll] using first⟩
    · obtain ⟨ts', owed', few', others⟩ := ih (fun s mem => h s (.tail _ mem)) (by simp)
        (line + (s.print depth).count '\n')
      obtain ⟨us, both⟩ := first.append others (by simp) (by simp [Stmt.placedAll])
      exact ⟨us, owed', few', both⟩

/-- The statements of a body are cut and read if each one is. -/
private theorem prints_body {depth most : Nat} (room : depth < maxMargins) {ss : List Stmt}
    (h : ∀ s ∈ ss, PrintsAnywhere depth most s) (nonempty : ss ≠ []) (line : Nat) :
    ∃ ts owed, owed ≤ most ∧
      PrintsLines depth line (Stmt.printBody depth ss) (Stmt.placedBody depth line ss) ts owed := by
  obtain ⟨s, ss, rfl⟩ := List.exists_cons_of_ne_nil nonempty
  have head : ∃ ts owed, owed ≤ most ∧
      PrintsLines depth line (s.printFirst depth) [s.placed depth line] ts owed := by
    unfold Stmt.printFirst
    split
    · obtain ⟨ts, prints⟩ := prints_documentation room _ _
      exact ⟨ts, 0, Nat.zero_le _, prints⟩
    · exact h _ (.head _) line
  obtain ⟨ts, owed, few, first⟩ := head
  rw [Stmt.printBody_cons, Stmt.placedBody]
  obtain _ | ⟨s', ss⟩ := ss
  · exact ⟨ts, owed, few, by simpa [Stmt.printAll, Stmt.placedAll] using first⟩
  · obtain ⟨ts', owed', few', others⟩ := prints_all (fun s mem => h s (.tail _ mem)) (by simp)
      (line + (s.printFirst depth).count '\n')
    obtain ⟨us, both⟩ := first.append others (by simp) (by simp [Stmt.placedAll])
    exact ⟨us, owed', few', both⟩

/-- The text of every printable statement is cut into tokens that read as the statement. -/
theorem Printable.prints {levels : Nat} {s : Stmt} (h : Printable levels s) {depth : Nat}
    (room : depth + levels < maxMargins) (line : Nat) :
    ∃ ts owed, owed ≤ levels ∧
      PrintsLines depth line (s.print depth) [s.placed depth line] ts owed := by
  have here {n : Nat} (room : depth + n < maxMargins) : depth < maxMargins := by omega
  induction h generalizing depth line with
  | text s => exact (prints_text (here room) s _).imp fun _ prints => ⟨0, Nat.zero_le _, prints⟩
  | calls free plain free' =>
    exact (prints_calls (here room) free plain free' _).imp fun _ prints => ⟨0, Nat.zero_le _, prints⟩
  | @assign _ _ id _ free plain h =>
    have text : (Expr.name id .store).print = (Expr.name id .load).print := rfl
    refine (prints_assign (here room) (.name free) (isShown_of_isWord free.1) (.word free.1) ?_
      text rfl rfl h _).imp fun _ prints => ⟨0, Nat.zero_le _, prints⟩
    rintro _ ⟨⟩
    simpa using plain
  | @assignMember _ _ owner attr _ free plain free' h =>
    have text : (Expr.member (.name owner .load) attr .store).print =
        (Expr.member (.name owner .load) attr .load).print := rfl
    have flat := (IsInline.word free.1).append (.cons (c := '.') (by decide) (.word free'.1))
    refine (prints_assign (here room) ((Prints.name free).member free')
      ((isShown_of_isWord free.1).append _) flat ?_ text rfl rfl h _).imp fun _ prints => ⟨0, Nat.zero_le _, prints⟩
    rintro _ ⟨⟩
    simpa using plain
  | annotated free h h' =>
    exact (prints_annotated (here room) free h h' _).imp fun _ prints => ⟨0, Nat.zero_le _, prints⟩
  | importModule free =>
    exact (prints_importModule (here room) free _).imp fun _ prints => ⟨0, Nat.zero_le _, prints⟩
  | importFrom free nonempty free' =>
    exact (prints_importFrom (here room) free nonempty free' _).imp fun _ prints => ⟨0, Nat.zero_le _, prints⟩
  | ret h => exact (prints_ret (here room) h _).imp fun _ prints => ⟨0, Nat.zero_le _, prints⟩
  | @branch n _ _ body condition nonempty _ ih =>
    have each : ∀ s ∈ body, PrintsAnywhere (depth + 1) n s := fun s mem line =>
      ih s mem (by omega) line fun _ => by omega
    obtain ⟨ts, owed, few, block⟩ := prints_all each nonempty (line + 1)
    have filled := Stmt.placedAll_ne_nil (depth + 1) (line + 1) nonempty
    obtain ⟨us, prints⟩ := prints_branch (here room) condition filled block
    exact ⟨us, owed + 1, Nat.succ_le_succ few, by simpa using prints⟩
  | @classDef n _ _ bases body free some reads nonempty _ ih =>
    have each : ∀ s ∈ body, PrintsAnywhere (depth + 1) n s := fun s mem line =>
      ih s mem (by omega) line fun _ => by omega
    obtain ⟨ts, owed, few, block⟩ := prints_body (by omega) each nonempty (line + 2)
    have filled := Stmt.placedBody_ne_nil (depth + 1) (line + 2) nonempty
    obtain ⟨us, prints⟩ := prints_classDef (here room) free reads filled block
    refine ⟨us, owed + 1, Nat.succ_le_succ few, ?_⟩
    have shown := prints.blank
    simpa [Expr.placedKeywords, some] using shown
  | @functionDef n _ _ params _ body free some plain h' nonempty _ ih =>
    have each : ∀ s ∈ body, PrintsAnywhere (depth + 1) n s := fun s mem line =>
      ih s mem (by omega) line fun _ => by omega
    obtain ⟨ts, owed, few, block⟩ := prints_body (by omega) each nonempty (line + 2)
    have filled := Stmt.placedBody_ne_nil (depth + 1) (line + 2) nonempty
    obtain ⟨us, prints⟩ := prints_functionDef (here room) free some plain h' filled block
    refine ⟨us, owed + 1, Nat.succ_le_succ few, ?_⟩
    have shown := prints.blank
    simpa [Params.print, Params.args, Params.placed, plainParams] using shown

/-- The text of a body of printable statements is cut into tokens that read as these statements. -/
theorem Printable.prints_body {levels : Nat} {ss : List Stmt} {depth : Nat}
    (room : depth + levels < maxMargins) (nonempty : ss ≠ []) (h : ∀ s ∈ ss, Printable levels s)
    (line : Nat) : ∃ ts owed, owed ≤ levels ∧
      PrintsLines depth line (Stmt.printBody depth ss) (Stmt.placedBody depth line ss) ts owed :=
  Script.prints_body (by omega) (fun s mem line => (h s mem).prints room line) nonempty line

/-- The text of a module of printable statements is read as the module. -/
theorem Module.read_print {m : Module} {levels : Nat} (room : levels < maxMargins)
    (nonempty : m.body ≠ []) (h : ∀ s ∈ m.body, Printable levels s) :
    Module.read m.print = .ok m.placed := by
  obtain ⟨body⟩ := m
  obtain ⟨ts, owed, -, prints⟩ : ∃ ts owed, owed ≤ levels ∧
      PrintsLines 0 1 (Stmt.printBody 0 body) (Stmt.placedBody 0 1 body) ts owed :=
    Printable.prints_body (by omega) nonempty h 1
  obtain ⟨begin_line, cut⟩ := prints.cuts 0 (by omega)
  have stay : moves begin_line 0 0 = [] := rfl
  rw [stay, List.nil_append, Nat.zero_add] at cut
  have cutting := CutsLines.lexemes? cut (fun mem => prints.clean _ mem (by simp)) prints.ended
  have noNull : (Stmt.printBody 0 body).contains '\x00' = false := by
    rw [List.contains_eq_mem, decide_eq_false_iff_not]
    exact fun mem => prints.clean _ mem (by simp)
  have closing := moves_back (1 + (Stmt.printBody 0 body).count '\n') 0 owed
  rw [Nat.zero_add] at closing
  have fits := prints.fits
  have few := prints.reads.few
  have each := prints.reads.reads ((Stmt.printBody 0 body).length + 10)
    ((Stmt.printBody 0 body).length + 10) _ [] (by omega) (by omega) closing (by simp)
  rw [List.append_nil] at each
  have count : (Stmt.placedBody 0 1 body).length < (Stmt.printBody 0 body).length + 10 := by omega
  have all := each.statements count
  simp only [Module.read, Module.print, noNull, Bool.false_eq_true, if_false, cutting, all]
  rfl

end FlatRecord.Script
