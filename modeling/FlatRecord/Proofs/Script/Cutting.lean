import FlatRecord.Naming
import FlatRecord.Proofs.Script.Numeral
import FlatRecord.Proofs.Script.QuotedText

/-!
# Cutting printed text into tokens

`Cuts border p cs ls p'` says that the text `cs`, inside a line and at the place `p`, is cut into the
tokens `ls`, and that the place behind it is `p'`, whatever stands before it and whatever follows it
within the border. Cuts of neighbouring texts compose, so the tokens of a printed text are known from
those of its pieces.
-/

namespace FlatRecord.Script

open FlatRecord.Number FlatRecord.Text

/-- A text is cut into tokens between two places, if what follows satisfies a condition. Each round of
the scan takes a character at least, and gives a token at most. -/
def Cuts (border : List Char → Prop) (p : Place) (cs : List Char) (ls : List Lexeme)
    (p' : Place) : Prop :=
  ∃ k, ls.length ≤ k ∧ k ≤ cs.length ∧ ∀ rounds done rest, border rest →
    scan (rounds + k) false p done (cs ++ rest) = scan rounds false p' (ls.reverse ++ done) rest

/-- A border that every text satisfies. -/
def AnyBorder (_ : List Char) : Prop := True

/-- A text before which a word ends. -/
def EndsWord (rest : List Char) : Prop :=
  ∀ c ∈ rest.head?, isWordLike c = false ∧ c ≠ '\'' ∧ c ≠ '"'

/-- A text that no operator goes on with. -/
def EndsMark (rest : List Char) : Prop := ∀ c ∈ rest.head?, c ∉ ['=', '*', '>', '/', '<', '.']

/-- A text that begins with a name. -/
def BeginsWord (rest : List Char) : Prop := ∃ c, Naming.isInitial c ∧ rest.head? = some c

/-- A place with room for some more brackets inside each other. -/
def Place.Admits (p : Place) (depth : Nat) : Prop :=
  p.pending.length + depth ≤ maxBrackets ∧ ∀ c ∈ p.pending, c ∈ [')', ']', '\x7d']

theorem Place.Admits.closers {p : Place} {depth : Nat} (h : p.Admits depth) : p.Admits 0 :=
  ⟨by have := h.1; omega, h.2⟩

/-- Behind an opening bracket there is room for one bracket less. -/
theorem Place.Admits.inside {p : Place} {depth : Nat} {c : Char} (h : p.Admits (depth + 1))
    (closer : c ∈ [')', ']', '\x7d']) :
    Place.Admits { p with pending := c :: p.pending } depth :=
  ⟨by have := h.1; simp only [List.length_cons]; omega, List.forall_mem_cons.2 ⟨closer, h.2⟩⟩

/-- The characters that may follow an expression. -/
def afterOperand : List Char := [' ', ',', '(', ')', '[', ']', ':', '\x7d', '\n', '=']

/-- A text before which an expression ends. -/
def EndsOperand (rest : List Char) : Prop := ∃ c ∈ afterOperand, rest.head? = some c

/-- A text before which an expression ends whose members may be taken. -/
def EndsOwner (rest : List Char) : Prop := ∃ c ∈ '.' :: afterOperand, rest.head? = some c

namespace EndsOperand

variable {rest : List Char}

theorem cons {c : Char} (among : c ∈ afterOperand) : EndsOperand (c :: rest) := ⟨c, among, rfl⟩

theorem owner (ends : EndsOperand rest) : EndsOwner rest := by
  obtain ⟨c, among, head⟩ := ends
  exact ⟨c, List.mem_cons_of_mem _ among, head⟩

theorem numeral (ends : EndsOperand rest) : EndsNumeral rest := by
  obtain ⟨c, among, head⟩ := ends
  intro d mem
  obtain rfl : c = d := Option.some.inj (head.symm.trans mem)
  have apart : ∀ c ∈ afterOperand, isWordLike c = false ∧ c ≠ '.' := by decide
  exact apart c among

end EndsOperand

theorem EndsOwner.word {rest : List Char} (ends : EndsOwner rest) : EndsWord rest := by
  obtain ⟨c, among, head⟩ := ends
  intro d mem
  obtain rfl : c = d := Option.some.inj (head.symm.trans mem)
  have apart : ∀ c ∈ '.' :: afterOperand, isWordLike c = false ∧ c ≠ '\'' ∧ c ≠ '"' := by decide
  exact apart c among

namespace Cuts

variable {border border' : List Char → Prop} {p p' p'' : Place} {cs cs' : List Char}
  {ls ls' : List Lexeme}

/-- No text is cut into no tokens. -/
theorem nil : Cuts border p [] [] p := ⟨0, by simp, by simp, fun _ _ _ _ => rfl⟩

/-- A cut holds before every border that is a special case of its own. -/
theorem weaken (cut : Cuts border p cs ls p') (weaker : ∀ rest, border' rest → border rest) :
    Cuts border' p cs ls p' := by
  obtain ⟨k, fits, short, step⟩ := cut
  exact ⟨k, fits, short, fun rounds done rest ends => step rounds done rest (weaker rest ends)⟩

/-- Neighbouring texts are cut one after the other. -/
theorem append (first : Cuts border p cs ls p') (second : Cuts border' p' cs' ls' p'')
    (meets : ∀ rest, border' rest → border (cs' ++ rest)) :
    Cuts border' p (cs ++ cs') (ls ++ ls') p'' := by
  obtain ⟨k, fits, short, step⟩ := first
  obtain ⟨k', fits', short', step'⟩ := second
  refine ⟨k' + k, by simp; omega, by simp; omega, fun rounds done rest ends => ?_⟩
  rw [← Nat.add_assoc, List.append_assoc, step _ _ _ (meets rest ends), step' _ _ _ ends,
    List.reverse_append, List.append_assoc]

/-- Texts that no border is needed between. -/
theorem append_any (first : Cuts AnyBorder p cs ls p') (second : Cuts border p' cs' ls' p'') :
    Cuts border p (cs ++ cs') (ls ++ ls') p'' :=
  first.append second fun _ _ => trivial

/-- There are at most as many tokens as characters. -/
theorem length_le (cut : Cuts border p cs ls p') : ls.length ≤ cs.length := by
  obtain ⟨k, fits, short, _⟩ := cut
  omega

/-- A blank is no token. -/
theorem space : Cuts AnyBorder p [' '] [] p := by
  refine ⟨1, by simp, by simp, fun rounds done rest _ => ?_⟩
  rw [List.singleton_append, scan.eq_def]
  exact if_pos (by decide)

/-- One token. -/
theorem token {c : Char} {lexeme : Lexeme}
    (shown : c ∉ [' ', '\t', '\x0c', '#', '\n', '\\'])
    (step : ∀ rest, border rest → token p c (cs ++ rest) = some (lexeme, p', rest)) :
    Cuts border p (c :: cs) [lexeme] p' := by
  refine ⟨1, by simp, by simp, fun rounds done rest ends => ?_⟩
  simp only [List.mem_cons, List.not_mem_nil, or_false, not_or] at shown
  obtain ⟨space, tab, feed, comment, line, backslash⟩ := shown
  have gap : isGap c = false := by simp [isGap, space, tab, feed]
  rw [List.cons_append, scan.eq_def]
  dsimp only
  rw [gap, if_neg (by simp), if_neg comment, if_neg line, if_neg backslash, step rest ends]
  rfl

end Cuts

/-- The codes of letters. -/
theorem isAlpha_iff {c : Char} : c.isAlpha ↔
    (65 ≤ c.toNat ∧ c.toNat ≤ 90) ∨ (97 ≤ c.toNat ∧ c.toNat ≤ 122) := by
  change (decide (65 ≤ c.toNat ∧ c.toNat ≤ 90) ||
    (decide (97 ≤ c.toNat) && decide (c.toNat ≤ 122))) = true ↔ _
  simp only [Bool.or_eq_true, Bool.and_eq_true, decide_eq_true_eq]

/-- The characters of names are ASCII letters, digits and underscores. -/
theorem toNat_lt_of_isFollowing {c : Char} (h : Naming.isFollowing c) : c.toNat < 0x80 := by
  have letter : ((c.isAlpha || c.isDigit) || c == '_') = true := h
  simp only [Bool.or_eq_true, isAlpha_iff, Char.isDigit_iff_toNat, beq_iff_eq] at letter
  have last : '9'.toNat = 57 := rfl
  rcases letter with _ | rfl
  · omega
  · decide

/-- What holds of the characters of names in ASCII holds of all of them. -/
theorem isFollowing_elim {P : Char → Prop}
    (ascii : ∀ n < 0x80, Naming.isFollowing (Char.ofNat n) → P (Char.ofNat n)) {c : Char}
    (h : Naming.isFollowing c) : P c := by
  have known := ascii c.toNat (toNat_lt_of_isFollowing h)
  rw [Char.ofNat_toNat] at known
  exact known h

/-- What a name may begin with can also stand further on in it. -/
theorem isFollowing_of_isInitial {c : Char} (h : Naming.isInitial c) : Naming.isFollowing c := by
  simp only [Naming.isInitial, Naming.isFollowing, Char.isAlphanum, Bool.or_eq_true] at h ⊢
  tauto

private theorem isFollowing_facts {c : Char} (h : Naming.isFollowing c) :
    isWordLike c = true ∧ isWordContinue c = true := by
  have letter : c.isAlphanum || c == '_' := h
  have ascii := toNat_lt_of_isFollowing h
  simp only [isWordLike, isWordContinue, if_pos ascii, letter, Bool.true_or, and_self]

private theorem isInitial_facts {c : Char} (h : Naming.isInitial c) :
    Naming.isFollowing c = true ∧ isWordStart c = true ∧ isAsciiDigit c = false := by
  have letter : c.isAlpha || c == '_' := h
  have following := isFollowing_of_isInitial h
  have range : (65 ≤ c.toNat ∧ c.toNat ≤ 90) ∨ (97 ≤ c.toNat ∧ c.toNat ≤ 122) ∨ c = '_' := by
    rw [Bool.or_eq_true, isAlpha_iff, beq_iff_eq, or_assoc] at letter
    exact letter
  have underscore : '_'.toNat = 95 := rfl
  have ascii : c.toNat < 0x80 := by
    rcases range with _ | _ | rfl <;> omega
  refine ⟨following, by simp only [isWordStart, if_pos ascii, letter], ?_⟩
  rw [Bool.eq_false_iff]
  intro digit
  have : c.toNat ≤ 57 := by
    simp only [isAsciiDigit, Bool.and_eq_true, decide_eq_true_eq] at digit
    exact digit.2
  rcases range with _ | _ | rfl <;> omega

namespace Cuts

variable {p : Place}

/-- A name or a keyword. -/
theorem word {cs : List Char} (h : Naming.isWord cs) :
    Cuts EndsWord p cs [⟨.word (String.ofList cs), p.line⟩] p := by
  obtain _ | ⟨c, cs⟩ := cs
  · simp [Naming.isWord] at h
  obtain ⟨initial, following⟩ : Naming.isInitial c ∧ ∀ d ∈ cs, Naming.isFollowing d := by
    simpa [Naming.isWord] using h
  obtain ⟨first, start, digit⟩ := isInitial_facts initial
  have all : ∀ d ∈ c :: cs, Naming.isFollowing d := List.forall_mem_cons.2 ⟨first, following⟩
  have like := (isFollowing_facts first).1
  refine token ?_ fun rest ends => ?_
  · intro among
    fin_cases among <;> exact absurd like (by decide)
  have span : (c :: (cs ++ rest)).span isWordLike = (c :: cs, rest) := by
    rw [← List.cons_append, List.span_eq_takeWhile_dropWhile,
      List.takeWhile_append_of_pos fun d mem => (isFollowing_facts (all d mem)).1,
      List.dropWhile_append_of_pos fun d mem => (isFollowing_facts (all d mem)).1]
    cases rest with
    | nil => simp
    | cons d tail => simp [(ends d rfl).1]
  have proper : ((c :: cs).head?.any isWordStart && (c :: cs).all isWordContinue) = true := by
    simp only [List.head?_cons, Option.any_some, start, Bool.true_and, List.all_eq_true]
    exact fun d mem => (isFollowing_facts (all d mem)).2
  have begins : (isWordLike c && !isAsciiDigit c || c = '\'' || c = '"') = true := by
    simp [like, digit]
  rw [Script.token, if_pos begins, wordOrLiteral, span]
  simp only [proper, if_true]
  cases rest with
  | nil => rfl
  | cons d tail =>
    have noQuote : ¬ (d = '\'' ∨ d = '"') := by simp [(ends d rfl).2]
    simp [noQuote]

/-- A literal without a word before it. -/
private theorem literal {q : Char} {cs : List Char} {value : Literal} {lines : Nat}
    {border : List Char → Prop} (quotes : q = '\'' ∨ q = '"')
    (read : ∀ rest, border rest → quotedLiteral .plain q (cs ++ rest) = some (value, lines, rest)) :
    Cuts border p (q :: cs) [⟨.literal value, p.line⟩] (p.down lines) := by
  have begins : (isWordLike q && !isAsciiDigit q || q = '\'' || q = '"') = true := by
    rcases quotes with rfl | rfl <;> decide
  have span (rest : List Char) : (q :: rest).span isWordLike = ([], q :: rest) := by
    have other : isWordLike q = false := by rcases quotes with rfl | rfl <;> decide
    simp [List.span_eq_takeWhile_dropWhile, other]
  have flavour : Flavour.ofWord? [] = some .plain := rfl
  refine token ?_ fun rest ends => ?_
  · rcases quotes with rfl | rfl <;> decide
  · rw [Script.token, if_pos begins, wordOrLiteral, span]
    simp only [if_pos quotes, flavour, read rest ends, Option.map_some]

/-- Quoted text. -/
theorem text (cs : List Char) :
    Cuts EndsOperand p (quote cs) [⟨.literal (.text (String.ofList cs)), p.line⟩] p := by
  have read (rest : List Char) (ends : EndsOperand rest) :
      quotedLiteral .plain (quoteFor cs)
          (cs.flatMap (escapeChar (quoteFor cs)) ++ [quoteFor cs] ++ rest) =
        some (.text (String.ofList cs), 0, rest) := by
    have apart : rest.head? ≠ some (quoteFor cs) := by
      obtain ⟨c, among, head⟩ := ends
      rw [head]
      rintro same
      rw [Option.some.inj same] at among
      rcases quoteFor_eq cs with h | h <;> rw [h] at among <;> exact absurd among (by decide)
    rw [List.append_assoc]
    exact quotedLiteral_quote cs rest apart
  exact literal (quoteFor_eq cs) read

/-- Documentation text, which may go down several lines. -/
theorem documentation (cs : List Char) :
    Cuts AnyBorder p (quoteDoc cs) [⟨.literal (.text (String.ofList cs)), p.line⟩]
      (p.down ((quoteDoc cs).count '\n')) := by
  obtain ⟨q, inner, quotes, shown, read⟩ := quotedLiteral_quoteDoc cs
  rw [shown] at read ⊢
  refine literal quotes fun rest _ => ?_
  have := read rest
  simpa using this

/-- A numeral. -/
theorem number {cs : List Char} {value : Constant} {c : Char} (digit : c.isDigit)
    (read : ∀ rest, EndsNumeral rest → numeral (c :: (cs ++ rest)) = some (value, rest)) :
    Cuts EndsNumeral p (c :: cs) [⟨.number value, p.line⟩] p := by
  have ascii : isAsciiDigit c := digit
  have begins : ¬ (isWordLike c && !isAsciiDigit c || c = '\'' || c = '"') = true := by
    simp only [ascii, Bool.not_true, Bool.and_false, Bool.false_or, Bool.or_eq_true,
      decide_eq_true_eq]
    rintro (rfl | rfl) <;> exact absurd digit (by decide)
  refine token ?_ fun rest ends => ?_
  · intro among
    fin_cases among <;> exact absurd digit (by decide)
  · rw [Script.token, if_neg begins, ascii, Bool.true_or, if_pos rfl, read rest ends]
    rfl

/-- What begins with no letter, digit or quote is an operator, a delimiter or a bracket. -/
private theorem of_markOrBracket {c : Char} {cs : List Char} {lexeme : Lexeme} {p' : Place}
    {border : List Char → Prop}
    (known : c ∈ [',', ':', '=', '.', '+', '-', '|', '(', ')', '[', ']', '\x7b', '\x7d'])
    (notDigit : ∀ rest, border rest → c = '.' → (cs ++ rest).head?.any isAsciiDigit = false)
    (step : ∀ rest, border rest → markOrBracket p c (cs ++ rest) = some (lexeme, p', rest)) :
    Cuts border p (c :: cs) [lexeme] p' := by
  have facts : ∀ c ∈ [',', ':', '=', '.', '+', '-', '|', '(', ')', '[', ']', '\x7b', '\x7d'],
      c ∉ [' ', '\t', '\x0c', '#', '\n', '\\'] ∧ isAsciiDigit c = false ∧
        (isWordLike c && !isAsciiDigit c || c = '\'' || c = '"') = false := by decide
  obtain ⟨shown, digit, word⟩ := facts c known
  refine token shown fun rest ends => ?_
  have number : (isAsciiDigit c || (c = '.' && (cs ++ rest).head?.any isAsciiDigit)) = false := by
    rw [digit, Bool.false_or, Bool.and_eq_false_imp]
    exact fun point => notDigit rest ends (of_decide_eq_true point)
  rw [Script.token, word, number, if_neg (by simp), if_neg (by simp), step rest ends]

/-- An operator of more than one character has another operator character in the second place. -/
private theorem not_contains {c : Char} {rest : List Char} (ends : EndsMark rest) :
    longMarks.contains ((c :: rest).take 3) = false ∧
      doubleMarks.contains ((c :: rest).take 2) = false := by
  cases rest with
  | nil =>
    have long : ∀ m ∈ longMarks ++ doubleMarks, m.length ≠ 1 := by decide
    simp only [List.contains_eq_mem, decide_eq_false_iff_not]
    exact ⟨fun mem => long _ (List.mem_append_left _ mem) rfl,
      fun mem => long _ (List.mem_append_right _ mem) rfl⟩
  | cons d tail =>
    have second : ∀ m ∈ longMarks ++ doubleMarks,
        ∀ d ∈ m[1]?.toList, d ∈ ['=', '*', '>', '/', '<', '.'] := by decide
    have apart := ends d rfl
    simp only [List.contains_eq_mem, decide_eq_false_iff_not]
    exact ⟨fun mem => apart (second _ (List.mem_append_left _ mem) d (.head _)),
      fun mem => apart (second _ (List.mem_append_right _ mem) d (.head _))⟩

/-- No bracket begins an operator of more than one character. -/
private theorem not_contains_of_head {c : Char}
    (noMark : ∀ m ∈ longMarks ++ doubleMarks, m.head? ≠ some c) (rest : List Char) :
    longMarks.contains ((c :: rest).take 3) = false ∧
      doubleMarks.contains ((c :: rest).take 2) = false := by
  simp only [List.contains_eq_mem, decide_eq_false_iff_not]
  exact ⟨fun mem => noMark _ (List.mem_append_left _ mem) rfl,
    fun mem => noMark _ (List.mem_append_right _ mem) rfl⟩

/-- An operator or a delimiter of one character. -/
private theorem markOrBracket_mark {c : Char} {rest : List Char}
    (known : c ∈ [',', ':', '=', '.', '+', '-', '|']) (closers : p.Admits 0)
    (ends : EndsMark rest) :
    markOrBracket p c rest = some (⟨.mark (String.singleton c), p.line⟩, p, rest) := by
  obtain ⟨long, double⟩ := not_contains (c := c) ends
  have facts : ∀ c ∈ [',', ':', '=', '.', '+', '-', '|'],
      c ≠ '<' ∧ brackets.lookup c = none ∧ singleMarks.contains c = true ∧
        c ∉ [')', ']', '\x7d'] := by decide
  obtain ⟨less, noBracket, single, noCloser⟩ := facts c known
  have arrows : (c :: rest).take 2 ≠ ['<', '>'] := fun same => less (List.cons_eq_cons.1 same).1
  unfold markOrBracket
  simp only [long, double, arrows, noBracket, single, Bool.false_eq_true, if_false, if_true]
  split
  next close others pending =>
    have other : c ≠ close := by
      rintro rfl
      exact noCloser (closers.2 c (by simp [pending]))
    rw [if_neg other]
    rfl
  next => rfl

/-- An operator or a delimiter of one character that is no point. -/
theorem mark {c : Char} (known : c ∈ [',', ':', '=', '+', '-', '|']) (closers : p.Admits 0) :
    Cuts EndsMark p [c] [⟨.mark (String.singleton c), p.line⟩] p := by
  refine of_markOrBracket ?_ ?_ fun rest ends => markOrBracket_mark ?_ closers ends
  · fin_cases known <;> decide
  · rintro rest ends rfl
    exact absurd known (by decide)
  · fin_cases known <;> decide

/-- The point before the name of a member. -/
theorem point (closers : p.Admits 0) :
    Cuts BeginsWord p ['.'] [⟨.mark ".", p.line⟩] p := by
  refine of_markOrBracket (by decide) ?_ fun rest ends => markOrBracket_mark (by decide) closers ?_
  · rintro rest ⟨c, initial, head⟩ -
    rw [List.nil_append, head]
    exact (isInitial_facts initial).2.2
  · obtain ⟨c, initial, head⟩ := ends
    intro d mem among
    obtain rfl : c = d := Option.some.inj (head.symm.trans mem)
    fin_cases among <;> exact absurd initial (by decide)

/-- An operator of two characters. -/
theorem doubleMark {c d : Char} (known : [c, d] ∈ [['-', '>'], ['=', '=']]) :
    Cuts AnyBorder p [c, d] [⟨.mark (String.ofList [c, d]), p.line⟩] p := by
  have facts : ∀ m ∈ [['-', '>'], ['=', '=']], doubleMarks.contains m = true ∧
      ∀ l ∈ longMarks, l.take 2 ≠ m := by decide
  obtain ⟨double, noLong⟩ := facts _ known
  refine of_markOrBracket ?_ ?_ fun rest _ => ?_
  · simp only [List.mem_cons, List.cons_eq_cons, List.not_mem_nil, or_false, and_true] at known
    rcases known with ⟨rfl, -⟩ | ⟨rfl, -⟩ <;> decide
  · rintro rest - rfl
    exact absurd known (by simp)
  · have long : longMarks.contains ((c :: ([d] ++ rest)).take 3) = false := by
      simp only [List.contains_eq_mem, decide_eq_false_iff_not]
      exact fun mem => noLong _ mem rfl
    have double : doubleMarks.contains ((c :: ([d] ++ rest)).take 2) = true := double
    unfold markOrBracket
    simp only [long, double, Bool.false_eq_true, if_false, if_true]
    rfl

/-- An opening bracket. -/
theorem opening {c close : Char} (known : (c, close) ∈ brackets) (room : p.Admits 1) :
    Cuts AnyBorder p [c] [⟨.mark (String.singleton c), p.line⟩]
      { p with pending := close :: p.pending } := by
  have facts : ∀ b ∈ brackets,
      b.1 ∈ [',', ':', '=', '.', '+', '-', '|', '(', ')', '[', ']', '\x7b', '\x7d'] ∧ b.1 ≠ '.' ∧
        b.1 ≠ '<' ∧ brackets.lookup b.1 = some b.2 ∧
        ∀ m ∈ longMarks ++ doubleMarks, m.head? ≠ some b.1 := by decide
  obtain ⟨among, noPoint, less, close, noMark⟩ := facts _ known
  refine of_markOrBracket among (fun _ _ same => absurd same noPoint) fun rest _ => ?_
  obtain ⟨long, double⟩ := not_contains_of_head noMark ([] ++ rest)
  have arrows : (c :: ([] ++ rest)).take 2 ≠ ['<', '>'] :=
    fun same => less (List.cons_eq_cons.1 same).1
  have space : p.pending.length < maxBrackets := room.1
  unfold markOrBracket
  simp only [long, double, arrows, close, space, Bool.false_eq_true, if_false, if_true]
  rfl

/-- A closing bracket. -/
theorem closing {c close : Char} (known : (c, close) ∈ brackets) :
    Cuts AnyBorder { p with pending := close :: p.pending } [close]
      [⟨.mark (String.singleton close), p.line⟩] p := by
  have facts : ∀ b ∈ brackets,
      b.2 ∈ [',', ':', '=', '.', '+', '-', '|', '(', ')', '[', ']', '\x7b', '\x7d'] ∧ b.2 ≠ '.' ∧
        b.2 ≠ '<' ∧ brackets.lookup b.2 = none ∧
        ∀ m ∈ longMarks ++ doubleMarks, m.head? ≠ some b.2 := by decide
  obtain ⟨among, noPoint, less, noBracket, noMark⟩ := facts _ known
  refine of_markOrBracket among (fun _ _ same => absurd same noPoint) fun rest _ => ?_
  obtain ⟨long, double⟩ := not_contains_of_head noMark ([] ++ rest)
  have arrows : (close :: ([] ++ rest)).take 2 ≠ ['<', '>'] :=
    fun same => less (List.cons_eq_cons.1 same).1
  unfold markOrBracket
  simp only [long, double, arrows, noBracket, Bool.false_eq_true, if_false, if_true]
  rfl

end Cuts

end FlatRecord.Script
