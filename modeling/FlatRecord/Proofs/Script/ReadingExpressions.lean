import FlatRecord.Proofs.Script.ReadingSteps

/-!
# Reading expressions back

When some tokens read as an expression, at each of the strengths of binding that printed expressions
have. A primary may be followed by anything, since what follows decides whether it goes on; the same
is true of a sum. The other readings hold before the tokens that may follow.

The readers of level `n` read every expression of fewer than `n` tokens, so each step into brackets,
or behind a sign, has tokens left for the level that it takes.
-/

namespace FlatRecord.Script

open Parse

/-- A list of tokens at whose head one of some kind stands. -/
def After (kind : Token → Bool) (rest : List Lexeme) : Prop :=
  ∃ t tail, rest = t :: tail ∧ kind t.token

theorem After.mono {kind kind' : Token → Bool} (implies : ∀ t, kind t → kind' t)
    {rest : List Lexeme} (h : After kind rest) : After kind' rest := by
  obtain ⟨t, tail, shape, holds⟩ := h
  exact ⟨t, tail, shape, implies _ holds⟩

theorem After.isMark {kind : Token → Bool} {rest : List Lexeme} {m : String}
    (h : After kind rest) (other : ∀ t, kind t → t.isMark m = false) :
    ∀ t ∈ rest.head?, t.token.isMark m = false := by
  obtain ⟨t, tail, rfl, holds⟩ := h
  rintro _ ⟨⟩
  exact other _ holds

/-- The tokens of an operand on some line: the first one begins an operand, and the second is not
one that makes a name of the first. -/
def Opening (line : Nat) (ts : List Lexeme) : Prop :=
  ∃ t tail, ts = t :: tail ∧ t.token.opens ∧ t.line = line ∧
    ∀ u ∈ tail.head?, ∀ m ∈ ["=", ":=", ":"], u.token.isMark m = false

/-- A lone token. -/
theorem Opening.single (line : Nat) {t : Token} (opens : t.opens) : Opening line [⟨t, line⟩] :=
  ⟨_, _, rfl, opens, rfl, by simp⟩

/-- Further tokens behind an operand do not change how it begins. -/
theorem Opening.append {line : Nat} {ts ts' : List Lexeme} {t : Lexeme} (h : Opening line ts)
    (plain : ∀ m ∈ ["=", ":=", ":"], t.token.isMark m = false) :
    Opening line (ts ++ t :: ts') := by
  obtain ⟨u, tail, rfl, opens, at_line, second⟩ := h
  refine ⟨u, tail ++ t :: ts', rfl, opens, at_line, ?_⟩
  cases tail with
  | nil =>
    intro v mem
    obtain rfl : t = v := Option.some.inj mem
    exact plain
  | cons v tail => exact second

/-- Tokens that read as a primary, up to where the reading of members, calls and parts goes on. -/
def ReadsPrimary (ts : List Lexeme) (e : Expr) : Prop :=
  (∀ t ∈ ts.head?, Inner.sign? t.token = none) ∧
    ∃ k ≤ ts.length, ∀ n rest, ts.length < n →
      (Inner.level n).primary (ts ++ rest) = (Inner.level n).trailers (n - k) e rest

/-- Tokens that read as an operand of a sum. -/
def ReadsAddend (ts : List Lexeme) (e : Expr) : Prop :=
  ∀ n rest, ts.length < n → After Token.closesAddend rest →
    (Inner.level n).signed (ts ++ rest) = some (e, rest)

/-- The signs between the operands of a sum. -/
def sumOperator : Token → Option BinaryOp := Inner.operatorIn [("+", .add), ("-", .other "Sub")]

/-- Tokens that read as a sum, up to where the reading of further operands goes on. -/
def ReadsSum (ts : List Lexeme) (e : Expr) : Prop :=
  ∃ k ≤ ts.length, ∀ n rest, ts.length < n → After Token.closesAddend rest →
    (Inner.level n).sum (ts ++ rest) =
      Inner.chain (Inner.level n).product sumOperator (n - k) e rest

/-- Tokens that read as an operand of a comparison. -/
def ReadsComparand (ts : List Lexeme) (e : Expr) : Prop :=
  ∀ n rest, ts.length < n → After Token.closesComparand rest →
    (Inner.level n).union (ts ++ rest) = some (e, rest)

/-- Tokens that read as an expression. -/
def ReadsExpression (ts : List Lexeme) (e : Expr) : Prop :=
  ∀ n rest, ts.length < n → After Token.closes rest →
    (Inner.level n).conditional (ts ++ rest) = some (e, rest)

@[simp]
theorem level_bound (n : Nat) : (Inner.level n).bound = n := by
  cases n <;> rfl

variable {line : Nat} {ts : List Lexeme} {e : Expr}

/-- A mark that may not follow an operand. -/
private theorem isMark_of_closesAddend {t : Token} (closes : t.closesAddend) {m : String}
    (other : m ∉ ["+", "==", ",", ")", "]", "\x7d", ":", "="]) : t.isMark m = false := by
  rcases Token.closesAddend_cases closes with rfl | rfl | ⟨text, among, rfl⟩
  · rfl
  · rfl
  · rw [Token.isMark_mark, beq_eq_false_iff_ne]
    rintro rfl
    exact other among

/-- A word that may not follow an operand. -/
private theorem isWord_of_closesAddend {t : Token} (closes : t.closesAddend) {w : String}
    (other : w ≠ "is") : t.isWord w = false := by
  rcases Token.closesAddend_cases closes with rfl | rfl | ⟨text, among, rfl⟩
  · rfl
  · simpa using other.symm
  · rfl

/-- Reading of members, calls and parts ends before a token that may follow an operand. -/
private theorem trailers_end {n k : Nat} (positive : 0 < k) {rest : List Lexeme}
    (follow : After Token.closesAddend rest) :
    (Inner.level n).trailers k e rest = some (e, rest) := by
  obtain ⟨t, tail, rfl, closes⟩ := follow
  obtain ⟨k, rfl⟩ : ∃ m, k = m + 1 := ⟨k - 1, by omega⟩
  have point := isMark_of_closesAddend closes (m := ".") (by decide)
  have call := isMark_of_closesAddend closes (m := "(") (by decide)
  have part := isMark_of_closesAddend closes (m := "[") (by decide)
  simp [Inner.trailers, point, call, part]

/-- A primary without a sign before it is an operand of a sum. -/
private theorem addend_of_primary (opening : Opening line ts)
    (unsigned : ∀ t ∈ ts.head?, Inner.sign? t.token = none)
    (read : ∀ n rest, ts.length < n → After Token.closesAddend rest →
      (Inner.level n).primary (ts ++ rest) = some (e, rest)) : ReadsAddend ts e := by
  intro n rest enough follow
  have primary := read n rest enough follow
  obtain ⟨t, tail, rfl, opens, -, -⟩ := opening
  have sign : Inner.sign? t.token = none := unsigned t rfl
  have await := Token.isWord_of_opens opens (w := "await") (by decide) (by decide)
  obtain ⟨u, behind, rfl, closes⟩ := follow
  have power := isMark_of_closesAddend closes (m := "**") (by decide)
  rw [List.cons_append] at primary ⊢
  simp [Inner.signed, Inner.power, sign, await, primary, power]

/-- A primary is an operand of a sum. -/
theorem ReadsPrimary.addend (h : ReadsPrimary ts e) (opening : Opening line ts) :
    ReadsAddend ts e := by
  obtain ⟨unsigned, k, short, read⟩ := h
  refine addend_of_primary opening unsigned fun n rest enough follow => ?_
  rw [read n rest enough]
  exact trailers_end (by omega) follow

/-- A token that is neither a bracket nor a literal is read as an atom by its own value. -/
private theorem atom_of_take {n : Nat} {t : Token} {rest : List Lexeme} {value : Expr}
    (shape : (∃ c, t = .number c ∧ value = .constant c) ∨
      (∃ w c, t = .word w ∧ Inner.keywordConstant? w = some c ∧ value = .constant c) ∨
      ∃ w, t = .word w ∧ w ∉ keywords ∧ value = .name w .load) :
    (Inner.level n).atom (⟨t, line⟩ :: rest) = some (value, rest) := by
  rcases shape with ⟨c, rfl, rfl⟩ | ⟨w, c, rfl, constant, rfl⟩ | ⟨w, rfl, free, rfl⟩
  · rfl
  · simp [Inner.atom, constant]
  · have noConstant : Inner.keywordConstant? w = none := by
      unfold Inner.keywordConstant?
      split <;> first | rfl | simp_all [keywords]
    simp [Inner.atom, noConstant, Token.name?, free]

/-- A name. -/
theorem ReadsPrimary.name {id : String} (free : id ∉ keywords) :
    ReadsPrimary [⟨.word id, line⟩] (.name id .load) := by
  refine ⟨by simp [Inner.sign?], 0, by simp, fun n rest _ => ?_⟩
  simp [Inner.primary, atom_of_take (.inr (.inr ⟨id, rfl, free, rfl⟩))]

/-- A numeral. -/
theorem ReadsAddend.number (value : Constant) :
    ReadsAddend [⟨.number value, line⟩] (.constant value) := by
  refine addend_of_primary (Opening.single line rfl) (by simp [Inner.sign?])
    fun n rest enough follow => ?_
  rw [List.singleton_append, Inner.primary, bind_apply, atom_of_take (.inl ⟨value, rfl, rfl⟩)]
  exact trailers_end (by simp at enough ⊢; omega) follow

/-- A word that is a constant. -/
theorem ReadsAddend.constantWord {w : String} {value : Constant}
    (constant : Inner.keywordConstant? w = some value) :
    ReadsAddend [⟨.word w, line⟩] (.constant value) := by
  have opens : (Token.word w).opens := by
    unfold Inner.keywordConstant? at constant
    split at constant <;> first | rfl | simp at constant
  refine addend_of_primary (Opening.single line opens) (by simp [Inner.sign?])
    fun n rest enough follow => ?_
  rw [List.singleton_append, Inner.primary, bind_apply,
    atom_of_take (.inr (.inl ⟨w, value, rfl, constant, rfl⟩))]
  exact trailers_end (by simp at enough ⊢; omega) follow

/-- A text. -/
theorem ReadsAddend.text (s : String) :
    ReadsAddend [⟨.literal (.text s), line⟩] (.constant (.datum (.text s))) := by
  refine addend_of_primary (Opening.single line rfl) (by simp [Inner.sign?])
    fun n rest enough follow => ?_
  obtain ⟨n, rfl⟩ : ∃ m, n = m + 1 := ⟨n - 1, by simp at enough; omega⟩
  have single : (Inner.level (n + 1)).atom (⟨.literal (.text s), line⟩ :: rest) =
      some (.constant (.datum (.text s)), rest) := by
    have joined : (Inner.level (n + 1)).joinLiterals [.text s] =
        pure (.constant (.datum (.text s))) := by
      simp [Inner.joinLiterals, Inner.plainText?, String.join]
    obtain ⟨⟨t, _⟩, tail, rfl, closes⟩ := follow
    rcases Token.closesAddend_cases closes with rfl | rfl | ⟨m, -, rfl⟩ <;>
      simp [Inner.atom, Inner.literalsFrom, Token.isMark, joined]
  rw [List.singleton_append, Inner.primary, bind_apply, single]
  exact trailers_end (by simp) follow

/-- An operand behind a minus sign. -/
theorem ReadsAddend.minus (h : ReadsAddend ts e) :
    ReadsAddend (⟨.mark "-", line⟩ :: ts) (.unary .minus e) := by
  intro n rest enough follow
  obtain ⟨n, rfl⟩ : ∃ m, n = m + 1 := ⟨n - 1, by simp at enough; omega⟩
  have operand : (Inner.level (n + 1)).factor (ts ++ rest) = some (e, rest) :=
    h n rest (by simp at enough; omega) follow
  simp [Inner.signed, Inner.sign?, operand]

/-- Operators that bind from the left leave a lone operand as it is. -/
private theorem leftToRight_single {n : Nat} {operand : Parse Expr}
    {operator? : Token → Option BinaryOp} {cs rest : List Lexeme} (positive : 0 < n)
    (read : operand cs = some (e, rest)) {kind : Token → Bool} (follow : After kind rest)
    (other : ∀ t, kind t → operator? t = none) :
    (Inner.level n).leftToRight operand operator? cs = some (e, rest) := by
  obtain ⟨t, tail, rfl, holds⟩ := follow
  obtain ⟨n, rfl⟩ : ∃ m, n = m + 1 := ⟨n - 1, by omega⟩
  simp [Inner.leftToRight, read, Inner.chain, other t.token holds]

/-- A table of operators that holds no mark that may follow an operand. -/
private theorem operatorIn_eq_none {table : List (String × BinaryOp)} {t : Token}
    (closes : t.closesAddend)
    (other : ∀ m ∈ ["+", "==", ",", ")", "]", "\x7d", ":", "="], table.lookup m = none) :
    Inner.operatorIn table t = none := by
  rcases Token.closesAddend_cases closes with rfl | rfl | ⟨m, among, rfl⟩
  · rfl
  · rfl
  · exact other m among

/-- A lone operand of a sum is a product. -/
private theorem ReadsAddend.product (h : ReadsAddend ts e) {n : Nat} {rest : List Lexeme}
    (enough : ts.length < n) (follow : After Token.closesAddend rest) :
    (Inner.level n).product (ts ++ rest) = some (e, rest) :=
  leftToRight_single (by omega) (h n rest enough follow) follow fun _ closes =>
    operatorIn_eq_none closes (by decide)

/-- A lone operand is a sum. -/
theorem ReadsAddend.sum (h : ReadsAddend ts e) : ReadsSum ts e := by
  refine ⟨0, by omega, fun n rest enough follow => ?_⟩
  rw [Inner.sum, Inner.leftToRight, bind_apply, h.product enough follow, level_bound]
  rfl

/-- A further operand of a sum. -/
theorem ReadsSum.add {left right : Expr} {ts' : List Lexeme} (h : ReadsSum ts left)
    (h' : ReadsAddend ts' right) :
    ReadsSum (ts ++ ⟨.mark "+", line⟩ :: ts') (.binary left .add right) := by
  obtain ⟨k, short, read⟩ := h
  refine ⟨k + 1, by simp; omega, fun n rest enough follow => ?_⟩
  have room : ts.length + (ts'.length + 1) < n := by simpa using enough
  rw [List.append_assoc, List.cons_append, read n _ (by omega) ⟨_, _, rfl, rfl⟩,
    show n - k = (n - (k + 1)) + 1 by omega, Inner.chain]
  simp [sumOperator, Inner.operatorIn, h'.product (n := n) (by omega) follow]

/-- A sum is an operand of a comparison. -/
theorem ReadsSum.comparand (h : ReadsSum ts e) : ReadsComparand ts e := by
  obtain ⟨k, short, read⟩ := h
  intro n rest enough follow
  have wide := follow.mono fun _ => Token.closesAddend_of_closesComparand
  have sum : (Inner.level n).sum (ts ++ rest) = some (e, rest) := by
    rw [read n rest enough wide, show n - k = (n - k - 1) + 1 by omega]
    obtain ⟨t, tail, rfl, closes⟩ := follow
    have other : sumOperator t.token = none := by
      unfold Token.closesComparand at closes
      split at closes
      · rename_i h
        rw [h]
        rfl
      · rename_i h
        rw [h]
        rfl
      · cases h : t.token with
        | mark m =>
          rw [h] at closes
          simp only [Token.closes, List.contains_eq_mem, decide_eq_true_eq] at closes
          have table : ∀ m ∈ [",", ")", "]", "\x7d", ":", "="],
              Inner.operatorIn [("+", .add), ("-", .other "Sub")] (.mark m) = none := by decide
          exact table m closes
        | _ => rfl
    simp [Inner.chain, other]
  have step {operand : Parse Expr} {table : List (String × BinaryOp)}
      (read : operand (ts ++ rest) = some (e, rest))
      (other : ∀ m ∈ ["+", "==", ",", ")", "]", "\x7d", ":", "="], table.lookup m = none) :
      (Inner.level n).leftToRight operand (Inner.operatorIn table) (ts ++ rest) = some (e, rest) :=
    leftToRight_single (by omega) read wide fun _ closes => operatorIn_eq_none closes other
  exact step (step (step (step sum (by decide)) (by decide)) (by decide)) (by decide)

/-- A comparison ends before a token that may follow an expression. -/
private theorem comparison?_end {rest : List Lexeme} (follow : After Token.closes rest) :
    Inner.comparison? rest = some (none, rest) := by
  obtain ⟨⟨t, _⟩, tail, rfl, closes⟩ := follow
  cases t with
  | newline => rfl
  | mark m =>
    have table : ∀ m ∈ [",", ")", "]", "\x7d", ":", "="],
        [("==", CompareOp.equal), ("!=", .other "NotEq"), ("<", .other "Lt"),
          ("<=", .other "LtE"), (">", .other "Gt"), (">=", .other "GtE")].lookup m = none := by
      decide
    simp only [Token.closes, List.contains_eq_mem, decide_eq_true_eq] at closes
    simp [Inner.comparison?, table m closes]
  | _ => simp [Token.closes] at closes

/-- A lone condition is not joined with others. -/
private theorem joined_single {n : Nat} {operand : Parse Expr} {text construct : String}
    {cs rest : List Lexeme} {t : Lexeme} (read : operand cs = some (e, t :: rest))
    (other : t.token.isWord text = false) :
    (Inner.level (n + 1)).joined text construct operand cs = some (e, t :: rest) := by
  rw [Inner.joined, bind_apply, read, Option.bind_some, level_bound, bind_apply, Inner.joinedBy,
    bind_apply, word?_cons, other]
  rfl

/-- A lone condition before a token that may follow an expression is an expression. -/
private theorem conditional_of_negation {n : Nat} {cs rest : List Lexeme} {t u : Lexeme}
    (read : (Inner.level (n + 1)).negation (t :: cs) = some (e, u :: rest))
    (plain : t.token.isWord "lambda" = false) (closes : u.token.closes) :
    (Inner.level (n + 1)).conditional (t :: cs) = some (e, u :: rest) := by
  have wide := Token.closesAddend_of_closesComparand (Token.closesComparand_of_closes closes)
  have condition := isWord_of_closesAddend wide (w := "if") (by decide)
  have conjunction : (Inner.level (n + 1)).conjunctions (t :: cs) = some (e, u :: rest) :=
    joined_single read (isWord_of_closesAddend wide (w := "and") (by decide))
  have disjunction : (Inner.level (n + 1)).disjunctions (t :: cs) = some (e, u :: rest) :=
    joined_single conjunction (isWord_of_closesAddend wide (w := "or") (by decide))
  rw [Inner.conditional, bind_apply, word?_cons, plain]
  show ((Inner.level (n + 1)).disjunctions >>= _) (t :: cs) = _
  rw [bind_apply, disjunction, Option.bind_some, bind_apply, word?_cons, condition]
  rfl

/-- A comparison is an expression. -/
private theorem ReadsExpression.of_comparison (opening : Opening line ts)
    (read : ∀ n rest, ts.length < n → After Token.closes rest →
      (Inner.level n).comparison (ts ++ rest) = some (e, rest)) : ReadsExpression ts e := by
  intro n rest enough follow
  have comparison := read n rest enough follow
  obtain ⟨n, rfl⟩ : ∃ m, n = m + 1 := ⟨n - 1, by omega⟩
  obtain ⟨t, tail, rfl, opens, -, -⟩ := opening
  have lambda := Token.isWord_of_opens opens (w := "lambda") (by decide) (by decide)
  have negation := Token.isWord_of_opens opens (w := "not") (by decide) (by decide)
  obtain ⟨u, behind, rfl, closes⟩ := follow
  refine conditional_of_negation ?_ lambda closes
  rw [Inner.negation, bind_apply, word?_cons, negation]
  exact comparison

/-- An operand of a comparison is an expression. -/
theorem ReadsComparand.expression (h : ReadsComparand ts e) (opening : Opening line ts) :
    ReadsExpression ts e := by
  refine .of_comparison opening fun n rest enough follow => ?_
  obtain ⟨n, rfl⟩ : ∃ m, n = m + 1 := ⟨n - 1, by omega⟩
  have operand := h (n + 1) rest enough (follow.mono fun _ => Token.closesComparand_of_closes)
  simp [Inner.comparison, operand, Inner.comparisons, comparison?_end follow]

/-- A comparison of two operands. -/
theorem ReadsComparand.compare {left right : Expr} {ts' : List Lexeme} {t : Lexeme} {op : CompareOp}
    (h : ReadsComparand ts left) (h' : ReadsComparand ts' right) (opening : Opening line ts)
    (opening' : Opening line ts')
    (operator : t.token = .mark "==" ∧ op = .equal ∨ t.token = .word "is" ∧ op = .same) :
    ReadsExpression (ts ++ t :: ts') (.compare left [op] [right]) := by
  have whole : Opening line (ts ++ t :: ts') := by
    refine opening.append ?_
    rcases operator with ⟨h, -⟩ | ⟨h, -⟩ <;> rw [h] <;> decide
  refine .of_comparison whole fun n rest enough follow => ?_
  have room : ts.length + (ts'.length + 1) < n := by simpa using enough
  obtain ⟨n, rfl⟩ : ∃ m, n = m + 2 := ⟨n - 2, by omega⟩
  have closes : t.token.closesComparand := by
    rcases operator with ⟨h, -⟩ | ⟨h, -⟩ <;> rw [h] <;> rfl
  have first := h (n + 2) (t :: (ts' ++ rest)) (by omega) ⟨_, _, rfl, closes⟩
  have second := h' (n + 2) rest (by omega) (follow.mono fun _ => Token.closesComparand_of_closes)
  have operation : Inner.comparison? (t :: (ts' ++ rest)) = some (some op, ts' ++ rest) := by
    obtain ⟨u, tail, rfl, opens, -, -⟩ := opening'
    obtain ⟨token, _⟩ := t
    rcases operator with ⟨rfl, rfl⟩ | ⟨rfl, rfl⟩
    · rfl
    · obtain ⟨other, _⟩ := u
      have plain := Token.isWord_of_opens opens (w := "not") (by decide) (by decide)
      unfold Inner.comparison?
      split <;> simp_all
  rw [List.append_assoc, List.cons_append]
  simp [Inner.comparison, first, Inner.comparisons, operation, second, comparison?_end follow]

/-- The negation of an operand. -/
theorem ReadsComparand.not (h : ReadsComparand ts e) (opening : Opening line ts) :
    ReadsExpression (⟨.word "not", line⟩ :: ts) (.unary .not e) := by
  intro n rest enough follow
  obtain ⟨n, rfl⟩ : ∃ m, n = m + 2 := ⟨n - 2, by simp at enough; omega⟩
  have operand := h (n + 1) rest (by simp at enough; omega)
    (follow.mono fun _ => Token.closesComparand_of_closes)
  have inversion : (Inner.level (n + 2)).inversion (ts ++ rest) = some (e, rest) := by
    change (Inner.level (n + 1)).negation (ts ++ rest) = some (e, rest)
    have comparison : (Inner.level (n + 1)).comparison (ts ++ rest) = some (e, rest) := by
      simp [Inner.comparison, operand, Inner.comparisons, comparison?_end follow]
    obtain ⟨t, tail, rfl, opens, -, -⟩ := opening
    have negation := Token.isWord_of_opens opens (w := "not") (by decide) (by decide)
    rw [List.cons_append] at comparison ⊢
    simp [Inner.negation, negation, comparison]
  obtain ⟨u, behind, rfl, closes⟩ := follow
  refine conditional_of_negation ?_ rfl closes
  rw [Inner.negation, bind_apply, word?_cons]
  show ((Inner.level (n + 2)).inversion >>= _) (ts ++ u :: behind) = _
  rw [bind_apply, inversion]
  rfl

/-- Neither what begins an expression nor what follows it makes a name of its first token. -/
theorem Opening.nameAndMark {m : String} (opening : Opening line ts) (among : m ∈ ["=", ":=", ":"])
    (rest : List Lexeme) (follow : ∀ t ∈ rest.head?, t.token.isMark m = false) :
    nameAndMark m (ts ++ rest) = some (false, ts ++ rest) := by
  obtain ⟨t, tail, rfl, -, -, second⟩ := opening
  cases tail with
  | nil =>
    cases rest with
    | nil => rfl
    | cons u rest => simp [follow u rfl]
  | cons u tail => simp [second u rfl m among]

/-- A mark that does not follow an expression. -/
private theorem isMark_of_closes {t : Token} (closes : t.closes) {m : String}
    (other : m ∉ [",", ")", "]", "\x7d", ":", "="]) : t.isMark m = false := by
  cases t with
  | mark text =>
    rw [Token.isMark_mark, beq_eq_false_iff_ne]
    rintro rfl
    exact other (by simpa [Token.closes] using closes)
  | _ => rfl

/-- An expression is given no name on the way. -/
theorem ReadsExpression.assigned (h : ReadsExpression ts e) (opening : Opening line ts) {n : Nat}
    {rest : List Lexeme} (enough : ts.length < n) (follow : After Token.closes rest) :
    (Inner.level n).assigned (ts ++ rest) = some (e, rest) := by
  have unnamed : Parse.nameAndMark ":=" (ts ++ rest) = some (false, ts ++ rest) := by
    exact opening.nameAndMark (by simp) rest
      (follow.isMark fun t closes => isMark_of_closes closes (by decide))
  simp [Inner.assigned, unnamed, h n rest enough follow]

/-- The tokens of an item of a list, and the expression that they read as. -/
structure ReadsItem (line : Nat) (x : List Lexeme × Expr) : Prop where
  opening : Opening line x.1
  reads : ReadsExpression x.1 x.2
  plain : x.2.construct ≠ starred

/-- Items without a star before them are read one by one. -/
private theorem ReadsItem.starOr {x : List Lexeme × Expr} (h : ReadsItem line x) {n : Nat}
    {rest : List Lexeme} (enough : x.1.length < n) (follow : After Token.closes rest) :
    (Inner.level (n + 1)).starOr (Inner.level (n + 1)).named (x.1 ++ rest) =
      some (x.2, rest) := by
  obtain ⟨ts, e⟩ := x
  have named : (Inner.level (n + 1)).named (ts ++ rest) = some (e, rest) :=
    h.reads.assigned h.opening enough follow
  obtain ⟨t, tail, rfl, opens, -, -⟩ := h.opening
  have star := Token.isMark_of_opens opens (m := "*") (by decide)
  rw [List.cons_append] at named ⊢
  simp [Inner.starOr, star, named]

/-- Pieces with a comma before each of them. -/
def behindCommas (line : Nat) (pieces : List (List Lexeme)) : List Lexeme :=
  pieces.flatMap fun ts => ⟨.mark ",", line⟩ :: ts

/-- Pieces with commas between them. -/
def commaJoined (line : Nat) : List (List Lexeme) → List Lexeme
  | [] => []
  | ts :: rest => ts ++ behindCommas line rest

/-- What follows the first of some items: a comma, or what closes them. -/
theorem after_behindCommas {kind : Token → Bool} (line : Nat)
    (pieces : List (List Lexeme)) {close : Lexeme} (comma : kind (.mark ","))
    (closes : kind close.token) (rest : List Lexeme) :
    After kind (behindCommas line pieces ++ close :: rest) := by
  cases pieces with
  | nil => exact ⟨_, _, rfl, closes⟩
  | cons ts pieces => exact ⟨_, _, rfl, comma⟩

/-- Items behind commas are read up to the token that closes them. -/
theorem commaItems_behindCommas {α : Type} {item : Parse α} {begins kind : Token → Bool}
    {pieces : List (List Lexeme × α)} (line : Nat) {close : Lexeme}
    (read : ∀ x ∈ pieces, ∀ rest, After kind rest → item (x.1 ++ rest) = some (x.2, rest))
    (begin : ∀ x ∈ pieces, ∃ t tail, x.1 = t :: tail ∧ begins t.token)
    (comma : kind (.mark ",")) (closes : kind close.token)
    (noComma : close.token.isMark "," = false)
    {rounds : Nat} (enough : pieces.length < rounds) (done : List α) (rest : List Lexeme) :
    commaItems item begins rounds done
        (behindCommas line (pieces.map Prod.fst) ++ close :: rest) =
      some ((done.reverse ++ pieces.map Prod.snd, false), close :: rest) := by
  induction pieces generalizing done rounds with
  | nil =>
    obtain ⟨rounds, rfl⟩ : ∃ m, rounds = m + 1 := ⟨rounds - 1, by simp at enough; omega⟩
    simp [behindCommas, commaItems, noComma]
  | cons x pieces ih =>
    obtain ⟨rounds, rfl⟩ : ∃ m, rounds = m + 1 := ⟨rounds - 1, by simp at enough; omega⟩
    have others := ih (fun y mem => read y (.tail _ mem)) (fun y mem => begin y (.tail _ mem))
      (by simpa using enough) (x.2 :: done)
    have follow : After kind (behindCommas line (pieces.map Prod.fst) ++ close :: rest) :=
      after_behindCommas line _ comma closes rest
    have first := read x (.head _) _ follow
    obtain ⟨t, tail, shape, starts⟩ := begin x (.head _)
    rw [shape, List.cons_append] at first
    have split : behindCommas line ((x :: pieces).map Prod.fst) ++ close :: rest =
        ⟨.mark ",", line⟩ :: t :: (tail ++ (behindCommas line (pieces.map Prod.fst) ++
          close :: rest)) := by
      simp [behindCommas, shape]
    rw [split]
    simp [commaItems, starts, first, others]

theorem behindCommas_cons (line : Nat) (ts : List Lexeme) (pieces : List (List Lexeme)) :
    behindCommas line (ts :: pieces) = ⟨.mark ",", line⟩ :: commaJoined line (ts :: pieces) := rfl

/-- A piece is not longer than all pieces with commas between them. -/
theorem length_le_commaJoined (line : Nat) {pieces : List (List Lexeme)}
    (mem : ts ∈ pieces) :
    ts.length ≤ (commaJoined line pieces).length := by
  obtain _ | ⟨first, others⟩ := pieces
  · simp at mem
  rw [commaJoined, List.length_append]
  rcases List.mem_cons.1 mem with rfl | mem
  · omega
  · have : ts.length + 1 ≤ (behindCommas line others).length := by
      induction others with
      | nil => simp at mem
      | cons other others ih =>
        rw [behindCommas, List.flatMap_cons, List.length_append, List.length_cons]
        rcases List.mem_cons.1 mem with rfl | mem
        · omega
        · have := ih (.tail _ mem) mem
          rw [behindCommas] at this
          omega
    omega

/-- There are not many more pieces than tokens in them. -/
theorem length_le_behindCommas (line : Nat) (pieces : List (List Lexeme)) :
    pieces.length ≤ (behindCommas line pieces).length := by
  induction pieces with
  | nil => simp
  | cons ts pieces ih =>
    rw [behindCommas, List.flatMap_cons, List.length_append, List.length_cons, List.length_cons]
    rw [behindCommas] at ih
    omega

/-- The first token of some items, and what follows it. -/
private theorem commaJoined_append {x : List Lexeme × Expr} {others : List (List Lexeme × Expr)}
    {t : Lexeme} {tail : List Lexeme} (shape : x.1 = t :: tail) (rest : List Lexeme) :
    commaJoined line ((x :: others).map Prod.fst) ++ rest =
      t :: (tail ++ (behindCommas line (others.map Prod.fst) ++ rest)) := by
  rw [List.map_cons, commaJoined, shape, List.cons_append, List.cons_append, List.append_assoc]

/-- No loops of a comprehension follow an item. -/
private theorem atComprehension_eq {rest : List Lexeme} (follow : After Token.closes rest) :
    Inner.atComprehension rest = some (false, rest) := by
  obtain ⟨t, tail, rfl, closes⟩ := follow
  have wide := Token.closesAddend_of_closesComparand (Token.closesComparand_of_closes closes)
  have loop := isWord_of_closesAddend wide (w := "for") (by decide)
  have async := isWord_of_closesAddend wide (w := "async") (by decide)
  simp [Inner.atComprehension, loop, async]

/-- The items of a display are read one by one, and are no comprehension. -/
private theorem ReadsItem.display {x : List Lexeme × Expr} {others : List (List Lexeme × Expr)}
    (items : ∀ y ∈ x :: others, ReadsItem line y) {n : Nat} (close : Lexeme)
    (closes : close.token.closes) (noComma : close.token.isMark "," = false)
    (enough : (commaJoined line ((x :: others).map Prod.fst)).length < n) (rest : List Lexeme) :
    let inner := Inner.level (n + 1)
    let tail := behindCommas line (others.map Prod.fst) ++ close :: rest
    inner.starOr inner.named (x.1 ++ tail) = some (x.2, tail) ∧
      Inner.atComprehension tail = some (false, tail) ∧
      commaItems (inner.starOr inner.named) Token.beginsExpression (n + 1) [x.2] tail =
        some ((x.2 :: others.map Prod.snd, false), close :: rest) := by
  intro inner tail
  have short (y : List Lexeme × Expr) (mem : y ∈ x :: others) : y.1.length < n :=
    Nat.lt_of_le_of_lt (length_le_commaJoined line (List.mem_map_of_mem mem)) enough
  have count := length_le_behindCommas line (others.map Prod.fst)
  have total : (behindCommas line (others.map Prod.fst)).length < n := by
    rw [List.map_cons, commaJoined, List.length_append] at enough
    omega
  rw [List.length_map] at count
  have follow : After Token.closes tail := after_behindCommas line _ rfl closes rest
  refine ⟨(items x (.head _)).starOr (short x (.head _)) follow, atComprehension_eq follow, ?_⟩
  refine commaItems_behindCommas line (fun y mem rest follow => ?_) (fun y mem => ?_) rfl closes
    noComma (by omega) [x.2] rest
  · exact (items y (.tail _ mem)).starOr (short y (.tail _ mem)) follow
  · obtain ⟨t, _, shape, opens, -, -⟩ := (items y (.tail _ mem)).opening
    exact ⟨t, _, shape, Token.beginsExpression_of_opens opens⟩

/-- An atom between brackets is a primary. -/
private theorem ReadsPrimary.of_atom {m : String} (bracket : m ∈ ["(", "[", "\x7b"])
    (read : ∀ n rest, ts.length < n →
      (Inner.level (n + 1)).atom (⟨.mark m, line⟩ :: (ts ++ rest)) = some (e, rest)) :
    ReadsPrimary (⟨.mark m, line⟩ :: ts) e := by
  refine ⟨?_, 0, by omega, fun n rest enough => ?_⟩
  · rintro t ⟨⟩
    have table : ∀ m ∈ ["(", "[", "\x7b"], Inner.sign? (.mark m) = none := by decide
    exact table m bracket
  · obtain ⟨n, rfl⟩ : ∃ m, n = m + 1 := ⟨n - 1, by omega⟩
    rw [List.cons_append, Inner.primary, bind_apply, read n rest (by simpa using enough)]
    simp

/-- Square brackets around items. -/
theorem ReadsPrimary.list {pieces : List (List Lexeme × Expr)}
    (items : ∀ x ∈ pieces, ReadsItem line x) :
    ReadsPrimary (⟨.mark "[", line⟩ :: (commaJoined line (pieces.map Prod.fst) ++
      [⟨.mark "]", line⟩])) (.list (pieces.map Prod.snd) .load) := by
  refine .of_atom (by simp) fun n rest enough => ?_
  rw [List.append_assoc, List.singleton_append]
  obtain _ | ⟨x, others⟩ := pieces
  · rfl
  obtain ⟨first, loops, more⟩ := ReadsItem.display items ⟨.mark "]", line⟩ rfl rfl
    (n := n) (by simp at enough ⊢; omega) rest
  obtain ⟨t, tail, shape, opens, -, -⟩ := (items x (.head _)).opening
  have bracket := Token.isMark_of_opens opens (m := "]") (by decide)
  rw [shape, List.cons_append] at first
  rw [commaJoined_append shape]
  show (Inner.level (n + 1)).listDisplay _ = _
  simp [Inner.listDisplay, bracket, first, loops, more]

/-- The items of a tuple; a single item has a comma after it. -/
def tupleJoined (line : Nat) : List (List Lexeme) → List Lexeme
  | [ts] => ts ++ [⟨.mark ",", line⟩]
  | pieces => commaJoined line pieces

/-- The items of a tuple, between parentheses. -/
theorem ReadsPrimary.tuple {pieces : List (List Lexeme × Expr)}
    (items : ∀ x ∈ pieces, ReadsItem line x) :
    ReadsPrimary (⟨.mark "(", line⟩ :: (tupleJoined line (pieces.map Prod.fst) ++
      [⟨.mark ")", line⟩])) (.tuple (pieces.map Prod.snd) .load) := by
  refine .of_atom (by simp) fun n rest enough => ?_
  rw [List.append_assoc, List.singleton_append]
  obtain _ | ⟨x, others⟩ := pieces
  · rfl
  obtain ⟨t, tail, shape, opens, -, -⟩ := (items x (.head _)).opening
  have bracket := Token.isMark_of_opens opens (m := ")") (by decide)
  have yielded := Token.isWord_of_opens opens (w := "yield") (by decide) (by decide)
  obtain _ | ⟨y, others⟩ := others
  · have follow : After Token.closes (⟨.mark ",", line⟩ :: ⟨.mark ")", line⟩ :: rest) :=
      ⟨_, _, rfl, rfl⟩
    have first := (items x (.head _)).starOr (n := n) (by simp [tupleJoined] at enough; omega) follow
    rw [shape, List.cons_append] at first
    show (Inner.level (n + 1)).parenthesized _ = _
    simp [tupleJoined, shape, Inner.parenthesized, bracket, yielded, first, Inner.atComprehension,
      Parse.commaItems, Token.beginsExpression]
  · obtain ⟨first, loops, more⟩ := ReadsItem.display items ⟨.mark ")", line⟩ rfl rfl
      (n := n) (by simp [tupleJoined] at enough ⊢; omega) rest
    rw [shape, List.cons_append] at first
    have joined : tupleJoined line ((x :: y :: others).map Prod.fst) =
        commaJoined line ((x :: y :: others).map Prod.fst) := rfl
    rw [joined, commaJoined_append shape]
    simp only [List.map_cons] at first loops more ⊢
    show (Inner.level (n + 1)).parenthesized _ = _
    simp [Inner.parenthesized, bracket, yielded, first, loops, more]

/-- One key with its value, between braces. -/
theorem ReadsPrimary.dict {key value : List Lexeme × Expr} (keyItem : ReadsItem line key)
    (valueItem : ReadsItem line value) :
    ReadsPrimary (⟨.mark "\x7b", line⟩ :: (key.1 ++ ⟨.mark ":", line⟩ :: (value.1 ++
      [⟨.mark "\x7d", line⟩]))) (.dict [some key.2] [value.2]) := by
  refine .of_atom (by simp) fun n rest enough => ?_
  have room : key.1.length + value.1.length + 2 < n := by simp at enough; omega
  have colon : After Token.closes (⟨.mark ":", line⟩ ::
      (value.1 ++ ⟨.mark "\x7d", line⟩ :: rest)) := ⟨_, _, rfl, rfl⟩
  have brace : After Token.closes (⟨.mark "\x7d", line⟩ :: rest) := ⟨_, _, rfl, rfl⟩
  have first := keyItem.starOr (n := n) (by omega) colon
  have second : (Inner.level (n + 1)).expression (value.1 ++ ⟨.mark "\x7d", line⟩ :: rest) =
      some (value.2, ⟨.mark "\x7d", line⟩ :: rest) := valueItem.reads n _ (by omega) brace
  have plain := keyItem.plain
  have unnamed := keyItem.opening.nameAndMark (m := ":=") (by simp) (⟨.mark ":", line⟩ ::
    (value.1 ++ ⟨.mark "\x7d", line⟩ :: rest)) (by rintro _ ⟨⟩; rfl)
  obtain ⟨t, tail, shape, opens, -, -⟩ := keyItem.opening
  have bracket := Token.isMark_of_opens opens (m := "\x7d") (by decide)
  have unpacked := Token.isMark_of_opens opens (m := "**") (by decide)
  rw [shape, List.cons_append] at first unnamed
  rw [shape, List.append_assoc, List.cons_append, List.cons_append, List.append_assoc,
    List.singleton_append]
  have open_brace (ts : List Lexeme) : mark? "\x7d" (t :: ts) = some (false, t :: ts) := by
    simp [bracket]
  have single (ts : List Lexeme) : ahead (·.isMark "**") (t :: ts) = some (false, t :: ts) := by
    simp [unpacked]
  show (Inner.level (n + 1)).braced _ = _
  rw [Inner.braced, bind_of_eq (open_brace _), if_neg Bool.false_ne_true, bind_of_eq (single _),
    if_neg Bool.false_ne_true, bind_of_eq unnamed, bind_of_eq first]
  simp [Inner.mapping, Parse.commaItems, second, plain, atComprehension_eq brace]

/-- A trailer behind a primary takes one of the rounds that are left. -/
private theorem ReadsPrimary.trailer {owner : Expr} {ts' : List Lexeme} (h : ReadsPrimary ts owner)
    (nonempty : ts ≠ []) (nonempty' : ts' ≠ [])
    (step : ∀ n k rest, (ts ++ ts').length < n → (Inner.level n).trailers (k + 1) owner (ts' ++ rest) =
      (Inner.level n).trailers k e rest) : ReadsPrimary (ts ++ ts') e := by
  obtain ⟨unsigned, k, short, read⟩ := h
  have more := List.length_pos_iff.2 nonempty'
  refine ⟨?_, k + 1, by rw [List.length_append]; omega, fun n rest enough => ?_⟩
  · obtain ⟨t, tail, rfl⟩ := List.exists_cons_of_ne_nil nonempty
    exact unsigned
  · have room := enough
    rw [List.length_append] at room
    rw [List.append_assoc, read n _ (by omega), show n - k = (n - (k + 1)) + 1 by omega,
      step n _ rest enough]

/-- A member of a primary. -/
theorem ReadsPrimary.member {owner : Expr} {attr : String} (h : ReadsPrimary ts owner)
    (opening : Opening line ts) (free : attr ∉ keywords) :
    ReadsPrimary (ts ++ [⟨.mark ".", line⟩, ⟨.word attr, line⟩]) (.member owner attr .load) := by
  refine h.trailer (by obtain ⟨t, tail, rfl, -⟩ := opening; simp) (by simp) fun n k rest _ => ?_
  simp [Inner.trailers, Token.name?, free]

/-- An index that is no range. -/
private theorem ReadsItem.index {x : List Lexeme × Expr} (h : ReadsItem line x) {n : Nat}
    (rest : List Lexeme) (enough : x.1.length < n)
    (follow : After (fun t => t.closes && !t.isMark ":") rest) :
    (Inner.level (n + 1)).index (x.1 ++ rest) = some (x.2, rest) := by
  obtain ⟨ts, e⟩ := x
  have ends : After Token.closes rest := follow.mono fun t both => by simp_all
  have named : (Inner.level (n + 1)).named (ts ++ rest) = some (e, rest) :=
    h.reads.assigned h.opening enough ends
  have unnamed := h.opening.nameAndMark (m := ":=") (by simp) rest
    (ends.isMark fun t closes => isMark_of_closes closes (by decide))
  obtain ⟨u, behind, rfl, both⟩ := follow
  have colon : u.token.isMark ":" = false := (by simpa using both : _ ∧ _).2
  obtain ⟨t, tail, rfl, opens, -, -⟩ := h.opening
  have star := Token.isMark_of_opens opens (m := "*") (by decide)
  have range := Token.isMark_of_opens opens (m := ":") (by decide)
  rw [List.cons_append] at named unnamed ⊢
  simp [Inner.index, star, range, unnamed, named, colon]

/-- A part of a primary, at one index. -/
theorem ReadsPrimary.subscript {owner : Expr} {index : List Lexeme × Expr}
    (h : ReadsPrimary ts owner) (opening : Opening line ts) (item : ReadsItem line index) :
    ReadsPrimary (ts ++ ⟨.mark "[", line⟩ :: (index.1 ++ [⟨.mark "]", line⟩]))
      (.subscript owner index.2 .load) := by
  refine h.trailer (by obtain ⟨t, tail, rfl, -⟩ := opening; simp) (by simp) fun n k rest enough => ?_
  obtain ⟨n, rfl⟩ : ∃ m, n = m + 1 := ⟨n - 1, by omega⟩
  have first := item.index (n := n) (⟨.mark "]", line⟩ :: rest)
    (by simp at enough; omega) ⟨_, _, rfl, rfl⟩
  simp [Inner.trailers, Inner.indices, first, Parse.commaItems, item.plain]

/-- A part of a primary, at several indices. -/
theorem ReadsPrimary.subscriptTuple {owner : Expr} {pieces : List (List Lexeme × Expr)}
    (h : ReadsPrimary ts owner) (opening : Opening line ts) (nonempty : pieces ≠ [])
    (items : ∀ x ∈ pieces, ReadsItem line x) :
    ReadsPrimary (ts ++ ⟨.mark "[", line⟩ :: (tupleJoined line (pieces.map Prod.fst) ++
      [⟨.mark "]", line⟩])) (.subscript owner (.tuple (pieces.map Prod.snd) .load) .load) := by
  refine h.trailer (by obtain ⟨t, tail, rfl, -⟩ := opening; simp) (by simp) fun n k rest enough => ?_
  obtain ⟨n, rfl⟩ : ∃ m, n = m + 1 := ⟨n - 1, by omega⟩
  obtain ⟨x, others, rfl⟩ := List.exists_cons_of_ne_nil nonempty
  obtain _ | ⟨y, others⟩ := others
  · have first := (items x (.head _)).index (n := n)
      (⟨.mark ",", line⟩ :: ⟨.mark "]", line⟩ :: rest)
      (by simp [tupleJoined] at enough; omega) ⟨_, _, rfl, rfl⟩
    simp [Inner.trailers, Inner.indices, tupleJoined, first, Parse.commaItems,
      Token.beginsExpression]
  · have joined : tupleJoined line ((x :: y :: others).map Prod.fst) =
        x.1 ++ behindCommas line ((y :: others).map Prod.fst) := rfl
    rw [joined] at enough ⊢
    have room : x.1.length + (behindCommas line ((y :: others).map Prod.fst)).length < n := by
      simp only [List.length_append, List.length_cons] at enough
      omega
    have short (z : List Lexeme × Expr) (mem : z ∈ y :: others) : z.1.length < n := by
      have := length_le_commaJoined line
        (List.mem_cons_of_mem x.1 (List.mem_map_of_mem (f := Prod.fst) mem))
      rw [commaJoined, List.length_append] at this
      omega
    have count := length_le_behindCommas line ((y :: others).map Prod.fst)
    rw [List.length_map] at count
    have follow : After (fun t => t.closes && !t.isMark ":")
        (behindCommas line ((y :: others).map Prod.fst) ++ ⟨.mark "]", line⟩ :: rest) :=
      after_behindCommas line _ rfl rfl rest
    have first := (items x (.head _)).index (n := n) _ (by omega) follow
    have begin (z : List Lexeme × Expr) (mem : z ∈ y :: others) :
        ∃ t tail, z.1 = t :: tail ∧ (t.token.beginsExpression || t.token.isMark ":") = true := by
      obtain ⟨t, tail, shape, opens, -, -⟩ := (items z (.tail _ mem)).opening
      exact ⟨t, tail, shape, by simp [Token.beginsExpression_of_opens opens]⟩
    have more : commaItems (Inner.level (n + 1)).index
        (fun t => t.beginsExpression || t.isMark ":") (n + 1) [x.2]
        (behindCommas line ((y :: others).map Prod.fst) ++ ⟨.mark "]", line⟩ :: rest) =
          some ((x.2 :: (y :: others).map Prod.snd, false), ⟨.mark "]", line⟩ :: rest) :=
      commaItems_behindCommas line
        (fun z mem rest follow => (items z (.tail _ mem)).index rest (short z mem) follow) begin
        rfl rfl rfl (by omega) [x.2] rest
    simp only [List.map_cons] at first more ⊢
    simp [Inner.trailers, Inner.indices, first, more]

/-- An argument of a call: its tokens, its name if it is given by one, and its value. -/
structure Argument where
  tokens : List Lexeme
  label : Option String
  value : Expr

/-- The tokens of an argument, with those of its name. -/
def Argument.labelled (line : Nat) (a : Argument) : List Lexeme :=
  match a.label with
  | some label => ⟨.word label, line⟩ :: ⟨.mark "=", line⟩ :: a.tokens
  | none => a.tokens

/-- An argument that reads back. -/
structure ReadsArgument (line : Nat) (a : Argument) : Prop where
  item : ReadsItem line (a.tokens, a.value)
  label : ∀ label ∈ a.label, label ∉ keywords

/-- Give an argument to those read before. -/
def Argument.give (line : Nat) (given : Inner.Arguments) (a : Argument) : Inner.Arguments :=
  match a.label with
  | some label => { given with
    keywords := .mk line (some label) a.value :: given.keywords, named := true }
  | none => { given with args := a.value :: given.args }

/-- No argument by position stands behind one by name. -/
def NamedLast (named : Bool) : List Argument → Prop
  | [] => True
  | a :: rest => (named → a.label.isSome) ∧ NamedLast (named || a.label.isSome) rest

/-- One argument is read, if it may stand where it does. -/
private theorem ReadsArgument.argument {a : Argument} (h : ReadsArgument line a) {n : Nat}
    {given : Inner.Arguments} (allowed : given.named → a.label.isSome) {rest : List Lexeme}
    (enough : a.tokens.length < n)
    (follow : After (fun t => t.closes && !t.isMark "=") rest) :
    (Inner.level (n + 1)).argument given (a.labelled line ++ rest) =
      some (a.give line given, rest) := by
  obtain ⟨ts, label, e⟩ := a
  have ends : After Token.closes rest := follow.mono fun t both => by simp_all
  cases label with
  | some label =>
    have free := h.label label rfl
    have value : (Inner.level (n + 1)).expression (ts ++ rest) = some (e, rest) :=
      h.item.reads n rest enough ends
    simp [Argument.labelled, Argument.give, Inner.argument, Token.name?, free, value]
  | none =>
    have value : (Inner.level (n + 1)).named (ts ++ rest) = some (e, rest) :=
      h.item.reads.assigned h.item.opening enough ends
    have unnamed : given.named = false := by simpa using allowed
    have unlabelled := h.item.opening.nameAndMark (m := "=") (by simp) rest
      (follow.isMark fun t both => by simp_all)
    obtain ⟨t, tail, shape, opens, -, -⟩ := h.item.opening
    obtain rfl : ts = t :: tail := shape
    have mapping := Token.isMark_of_opens opens (m := "**") (by decide)
    have star := Token.isMark_of_opens opens (m := "*") (by decide)
    rw [List.cons_append] at value unlabelled
    simp [Argument.labelled, Argument.give, Inner.argument, mapping, star, unlabelled, unnamed,
      value]

/-- An argument does not begin with the parenthesis that closes the call. -/
private theorem ReadsArgument.labelled_cons {a : Argument} (h : ReadsArgument line a) :
    ∃ t tail, a.labelled line = t :: tail ∧ t.token.isMark ")" = false := by
  obtain ⟨ts, label, e⟩ := a
  cases label with
  | some label => exact ⟨_, _, rfl, rfl⟩
  | none =>
    obtain ⟨t, tail, shape, opens, -, -⟩ := h.item.opening
    exact ⟨t, tail, shape, Token.isMark_of_opens opens (by decide)⟩

/-- Arguments are read up to the closing parenthesis. -/
private theorem argumentsFrom_joined {items : List Argument} {n : Nat} {given : Inner.Arguments}
    (nonempty : items ≠ []) (reads : ∀ a ∈ items, ReadsArgument line a)
    (short : ∀ a ∈ items, a.tokens.length < n) (order : NamedLast given.named items)
    {rounds : Nat} (enough : items.length ≤ rounds) (rest : List Lexeme) :
    (Inner.level (n + 1)).argumentsFrom rounds given
        (commaJoined line (items.map (Argument.labelled line)) ++ ⟨.mark ")", line⟩ :: rest) =
      some (items.foldl (Argument.give line) given, rest) := by
  induction items generalizing given rounds with
  | nil => exact absurd rfl nonempty
  | cons a items ih =>
    obtain ⟨rounds, rfl⟩ : ∃ m, rounds = m + 1 := ⟨rounds - 1, by simp at enough; omega⟩
    have follow : After (fun t => t.closes && !t.isMark "=")
        (behindCommas line (items.map (Argument.labelled line)) ++ ⟨.mark ")", line⟩ :: rest) :=
      after_behindCommas line _ rfl rfl rest
    have first := (reads a (.head _)).argument order.1 (short a (.head _)) follow
    obtain ⟨t, tail, shape, bracket⟩ := (reads a (.head _)).labelled_cons
    rw [shape, List.cons_append] at first
    have split : commaJoined line ((a :: items).map (Argument.labelled line)) ++
        ⟨.mark ")", line⟩ :: rest = t :: (tail ++
          (behindCommas line (items.map (Argument.labelled line)) ++ ⟨.mark ")", line⟩ :: rest)) := by
      rw [List.map_cons, commaJoined, shape, List.cons_append, List.cons_append, List.append_assoc]
    rw [split, Inner.argumentsFrom]
    obtain _ | ⟨b, items⟩ := items
    · have last : behindCommas line ([].map (Argument.labelled line)) ++ ⟨.mark ")", line⟩ :: rest =
          ⟨.mark ")", line⟩ :: rest := rfl
      rw [last] at first ⊢
      simp [bracket, first]
    · have named : (a.give line given).named = (given.named || a.label.isSome) := by
        unfold Argument.give
        split <;> simp_all
      have later : NamedLast (a.give line given).named (b :: items) := by
        rw [named]
        exact order.2
      have others := ih (by simp) (fun c mem => reads c (.tail _ mem))
        (fun c mem => short c (.tail _ mem)) later (by simpa using enough)
      rw [List.map_cons, behindCommas_cons, List.cons_append, ← List.map_cons] at first ⊢
      rw [List.foldl_cons, ← others]
      generalize commaJoined line _ ++ _ = behind at first
      simp [bracket, first]

/-- Arguments are shorter than all of them together, and not many more than their tokens. -/
private theorem short_arguments {items : List Argument} {n : Nat}
    (total : (commaJoined line (items.map (Argument.labelled line))).length < n) :
    (∀ a ∈ items, a.tokens.length < n) ∧ items.length ≤ n + 1 := by
  constructor
  · intro a mem
    have whole := length_le_commaJoined line (List.mem_map_of_mem (f := Argument.labelled line) mem)
    have part : a.tokens.length ≤ (a.labelled line).length := by
      unfold Argument.labelled
      split
      · simp only [List.length_cons]
        omega
      · exact Nat.le_refl _
    omega
  · obtain _ | ⟨a, items⟩ := items
    · simp
    · have := length_le_behindCommas line (items.map (Argument.labelled line))
      rw [List.map_cons, commaJoined, List.length_append] at total
      rw [List.length_map] at this
      rw [List.length_cons]
      omega

/-- The arguments between the parentheses of a call. -/
theorem ReadsArgument.arguments {items : List Argument} {n : Nat}
    (reads : ∀ a ∈ items, ReadsArgument line a) (order : NamedLast false items)
    (total : (commaJoined line (items.map (Argument.labelled line))).length < n)
    (rest : List Lexeme) :
    let given := items.foldl (Argument.give line) ⟨[], [], false, false⟩
    (Inner.level (n + 1)).arguments
        (commaJoined line (items.map (Argument.labelled line)) ++ ⟨.mark ")", line⟩ :: rest) =
      some ((given.args.reverse, given.keywords.reverse), rest) := by
  intro given
  obtain ⟨short, count⟩ := short_arguments total
  obtain _ | ⟨a, items⟩ := items
  · simp [given, Inner.arguments, Inner.argumentsFrom, commaJoined]
  · have all : (Inner.level (n + 1)).argumentsFrom (n + 1) ⟨[], [], false, false⟩ _ = _ :=
      argumentsFrom_joined (by simp) reads short order count rest
    rw [Inner.arguments, bind_apply, level_bound, all]
    rfl

/-- The parentheses of a call with a first argument by position. -/
private theorem call_positional (callee : Expr) {value : Expr} {ts : List Lexeme}
    {items : List Argument} {n : Nat} (first : ReadsItem line (ts, value)) (room : ts.length < n)
    (reads : ∀ a ∈ items, ReadsArgument line a) (short : ∀ a ∈ items, a.tokens.length < n)
    (order : NamedLast false items) (fewer : items.length ≤ n + 1) (rest : List Lexeme) :
    let given := items.foldl (Argument.give line) ⟨[value], [], false, false⟩
    (Inner.level (n + 1)).call callee
        (ts ++ (behindCommas line (items.map (Argument.labelled line)) ++ ⟨.mark ")", line⟩ :: rest)) =
      some (.call callee given.args.reverse given.keywords.reverse, rest) := by
  intro given
  have follow : After (fun t => t.closes && !t.isMark "=")
      (behindCommas line (items.map (Argument.labelled line)) ++ ⟨.mark ")", line⟩ :: rest) :=
    after_behindCommas line _ rfl rfl rest
  have ends : After Token.closes _ := follow.mono fun t both => by simp_all
  have named : (Inner.level (n + 1)).named (ts ++ _) = some (value, _) :=
    first.reads.assigned first.opening room ends
  have loops := atComprehension_eq ends
  have unlabelled := first.opening.nameAndMark (m := "=") (by simp) _
    (follow.isMark fun t both => by simp_all)
  obtain ⟨t, tail, shape, opens, -, -⟩ := first.opening
  obtain rfl : ts = t :: tail := shape
  have bracket := Token.isMark_of_opens opens (m := ")") (by decide)
  have star := Token.isMark_of_opens opens (m := "*") (by decide)
  have mapping := Token.isMark_of_opens opens (m := "**") (by decide)
  rw [List.cons_append] at named unlabelled ⊢
  obtain _ | ⟨a, items⟩ := items
  · have last : behindCommas line ([].map (Argument.labelled line)) ++ ⟨.mark ")", line⟩ :: rest =
        ⟨.mark ")", line⟩ :: rest := rfl
    rw [last] at named unlabelled loops ⊢
    simp [given, Inner.call, bracket, star, mapping, unlabelled, named, loops]
  · have others : (Inner.level (n + 1)).argumentsFrom (n + 1) ⟨[value], [], false, false⟩ _ = _ :=
      argumentsFrom_joined (by simp) reads short order fewer rest
    rw [List.map_cons, behindCommas_cons, List.cons_append, ← List.map_cons]
      at named unlabelled loops ⊢
    generalize commaJoined line ((a :: items).map (Argument.labelled line)) ++
      ⟨.mark ")", line⟩ :: rest = behind at named unlabelled loops others ⊢
    simp [given, Inner.call, bracket, star, mapping, unlabelled, named, loops, others]

/-- The parentheses of a call. -/
private theorem call_joined (callee : Expr) {items : List Argument} {n : Nat}
    (reads : ∀ a ∈ items, ReadsArgument line a) (order : NamedLast false items)
    (total : (commaJoined line (items.map (Argument.labelled line))).length < n)
    (rest : List Lexeme) :
    let given := items.foldl (Argument.give line) ⟨[], [], false, false⟩
    (Inner.level (n + 1)).call callee
        (commaJoined line (items.map (Argument.labelled line)) ++ ⟨.mark ")", line⟩ :: rest) =
      some (.call callee given.args.reverse given.keywords.reverse, rest) := by
  intro given
  obtain ⟨short, count⟩ := short_arguments total
  obtain _ | ⟨⟨ts, label, value⟩, items⟩ := items
  · simp [given, Inner.call, Inner.arguments, Inner.argumentsFrom, commaJoined]
  have first := reads _ (.head _)
  cases label with
  | some label =>
    have free := first.label label rfl
    have all : (Inner.level (n + 1)).argumentsFrom (n + 1) ⟨[], [], false, false⟩ _ = _ :=
      argumentsFrom_joined (by simp) reads short order count rest
    simp only [List.map_cons, commaJoined, Argument.labelled, List.cons_append, List.append_assoc]
      at all ⊢
    simp [given, Inner.call, Inner.arguments, Token.name?, free, all]
  | none =>
    have call := call_positional callee first.item (short _ (.head _))
      (fun a mem => reads a (.tail _ mem)) (fun a mem => short a (.tail _ mem)) order.2
      (by simp at count; omega) rest
    rwa [List.map_cons, commaJoined, Argument.labelled, List.append_assoc]

/-- The call of a primary. -/
theorem ReadsPrimary.call {callee : Expr} {items : List Argument} (h : ReadsPrimary ts callee)
    (opening : Opening line ts) (reads : ∀ a ∈ items, ReadsArgument line a)
    (order : NamedLast false items) :
    ReadsPrimary (ts ++ ⟨.mark "(", line⟩ ::
        (commaJoined line (items.map (Argument.labelled line)) ++ [⟨.mark ")", line⟩]))
      (.call callee (items.foldl (Argument.give line) ⟨[], [], false, false⟩).args.reverse
        (items.foldl (Argument.give line) ⟨[], [], false, false⟩).keywords.reverse) := by
  refine h.trailer (by obtain ⟨t, tail, rfl, -⟩ := opening; simp) (by simp) fun n k rest enough => ?_
  obtain ⟨n, rfl⟩ : ∃ m, n = m + 1 := ⟨n - 1, by omega⟩
  have total : (commaJoined line (items.map (Argument.labelled line))).length < n := by
    simp only [List.length_append, List.length_cons] at enough
    omega
  have call := call_joined callee reads order total rest
  simp [Inner.trailers, call]

end FlatRecord.Script
