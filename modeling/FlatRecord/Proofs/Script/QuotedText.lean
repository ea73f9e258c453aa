import FlatRecord.Script.Lexer
import Mathlib.Data.List.Induction
import Mathlib.Tactic.Ring

/-!
# Quoted text reads back

Reading what stands between the quotes of a written text gives the text again, whatever characters it
holds. This is true of both written forms: of quoted text, which shows no quote, backslash or line
break as itself, and of documentation text, which shows line feeds and most quotes. There the choice
of the quote and the escape of a final quote keep the text from closing early.
-/

namespace FlatRecord.Script

open FlatRecord.Text

/-- What holds of the characters of a list is decided along the list, not over all characters. -/
instance decidableForallMem {P : Char → Prop} [DecidablePred P] (cs : List Char) :
    Decidable (∀ c ∈ cs, P c) :=
  List.decidableBAll P cs

/-- The ways in which a character is written inside quotes: as itself, by the escape of a single
letter, or by the digits of its code point. -/
inductive WrittenAs (c : Char) : List Char → Prop where
  | itself (plain : c ≠ '\\') : WrittenAs c [c]
  | letter (x : Char) (value : simpleEscape? x = some c.toNat) : WrittenAs c ['\\', x]
  | digits (x : Char) (width : Nat) (known : escapeWidth? x = some width)
      (fits : c.toNat < 16 ^ width) : WrittenAs c ('\\' :: x :: hexDigits width c.toNat)

/-- A hexadecimal digit has the value that it was made for. -/
theorem hexDigitValue?_hexDigit (n : Nat) : hexDigitValue? (hexDigit n) = some (n % 16) := by
  have small : ∀ k < 16, hexDigitValue? (hexDigit k) = some k := by decide
  have same : hexDigit n = hexDigit (n % 16) := by simp only [hexDigit, Nat.mod_mod]
  rw [same, small _ (Nat.mod_lt _ (by decide))]

/-- Hexadecimal digits are no quotes, no backslashes and no control characters. -/
theorem hexDigit_not_mem (n : Nat) :
    hexDigit n ∉ ['\\', '\'', '"', '\n', '\r', '\x00'] := by
  have small : ∀ k < 16, hexDigit k ∉ ['\\', '\'', '"', '\n', '\r', '\x00'] := by decide
  have same : hexDigit n = hexDigit (n % 16) := by simp only [hexDigit, Nat.mod_mod]
  rw [same]
  exact small _ (Nat.mod_lt _ (by decide))

/-- The same for all digits of a number. -/
theorem not_mem_of_mem_hexDigits {width n : Nat} {c : Char} (mem : c ∈ hexDigits width n) :
    c ∉ ['\\', '\'', '"', '\n', '\r', '\x00'] := by
  induction width generalizing n with
  | zero => simp [hexDigits] at mem
  | succ width ih =>
    rcases List.mem_append.1 mem with mem | mem
    · exact ih mem
    · rw [List.mem_singleton.1 mem]
      exact hexDigit_not_mem n

/-- Reading one more digit is reading the others and then that one. -/
theorem fixedHex_succ (width value : Nat) (cs : List Char) :
    fixedHex (width + 1) value cs =
      (fixedHex width value cs).bind fun r => fixedHex 1 r.1 r.2 := by
  induction width generalizing value cs with
  | zero => rfl
  | succ width ih =>
    cases cs with
    | nil => rfl
    | cons c cs =>
      rw [fixedHex, fixedHex]
      cases hexDigitValue? c with
      | none => rfl
      | some d => exact ih (16 * value + d) cs

/-- Reading the hexadecimal digits of a number gives the number. -/
theorem fixedHex_hexDigits (width value n : Nat) (rest : List Char) :
    fixedHex width value (hexDigits width n ++ rest) =
      some (value * 16 ^ width + n % 16 ^ width, rest) := by
  induction width generalizing n rest with
  | zero => simp [fixedHex, hexDigits, Nat.mod_one]
  | succ width ih =>
    rw [hexDigits, List.append_assoc, List.singleton_append, fixedHex_succ, ih]
    simp only [Option.bind_some, fixedHex, hexDigitValue?_hexDigit]
    have split : n % (16 * 16 ^ width) = n % 16 + 16 * (n / 16 % 16 ^ width) := Nat.mod_mul
    rw [Nat.pow_succ', split]
    congr 2
    ring

/-- What reading a body does with a character that is no backslash. -/
private theorem literalBody_of_ne {quote c : Char} {triple : Bool} (plain : c ≠ '\\')
    (done rest : List Char) : literalBody quote triple done (c :: rest) =
      if c = quote then
        if triple then
          match rest with
          | a :: b :: after =>
            if a = quote ∧ b = quote then some (done, after)
            else literalBody quote triple (c :: done) rest
          | _ => none
        else some (done, rest)
      else if c = '\n' ∧ !triple then none
      else literalBody quote triple (c :: done) rest := by
  rw [literalBody.eq_def]
  split
  · simp_all
  · simp_all
  · simp_all
  · rename_i d after _ _ same
    obtain ⟨rfl, rfl⟩ := List.cons.inj same
    rfl

/-- A character that is neither a backslash nor the quote belongs to a body, unless it is a line feed
in a body that ends with its line. -/
theorem literalBody_cons {quote c : Char} {triple : Bool} (plain : c ≠ '\\') (inner : c ≠ quote)
    (line : triple = false → c ≠ '\n') (done rest : List Char) :
    literalBody quote triple done (c :: rest) = literalBody quote triple (c :: done) rest := by
  have stays : ¬(c = '\n' ∧ (!triple) = true) := by
    rintro ⟨same, single⟩
    exact line (by simpa using single) same
  rw [literalBody_of_ne plain, if_neg inner, if_neg stays]

namespace WrittenAs

variable {c : Char} {piece : List Char}

/-- A piece of written text is no shorter than the character that it stands for. -/
theorem length_pos (written : WrittenAs c piece) : 0 < piece.length := by
  cases written <;> simp

/-- Replacing the escape at the head of a body gives the character. -/
theorem unescape (written : WrittenAs c piece) (rounds : Nat) (done rest : List Char) :
    unescapeText (rounds + 1) done (piece ++ rest) = unescapeText rounds (c :: done) rest := by
  cases written with
  | itself plain =>
    rw [List.singleton_append, unescapeText]
    · rintro d after same -
      exact plain same
  | letter x value =>
    have inLine : x ≠ '\n' := by rintro rfl; simp [simpleEscape?] at value
    rw [List.cons_append, List.singleton_append, unescapeText, if_neg inLine, value]
    simp only [Char.ofNat_toNat]
  | digits x width known fits =>
    have inLine : x ≠ '\n' := by rintro rfl; simp [escapeWidth?] at known
    have noLetter : simpleEscape? x = none := by
      unfold escapeWidth? at known
      split at known
      · subst x; rfl
      split at known
      · subst x; rfl
      split at known
      · subst x; rfl
      · simp at known
    have inRange : c.toNat < 0x110000 := by
      rcases c.valid with h | h
      · exact Nat.lt_trans h (by decide)
      · exact h.2
    rw [List.cons_append, List.cons_append, unescapeText, if_neg inLine, noLetter, known]
    simp only [fixedHex_hexDigits, Nat.zero_mul, Nat.zero_add, Nat.mod_eq_of_lt fits,
      if_pos inRange, Char.ofNat_toNat]

/-- A piece that does not show the quote, or a line feed where a line may not end, does not close a
body. -/
theorem body (written : WrittenAs c piece) {quote : Char} {triple : Bool}
    (hidden : piece ≠ [quote]) (line : triple = false → piece ≠ ['\n'])
    (quotes : quote = '\'' ∨ quote = '"') (done rest : List Char) :
    literalBody quote triple done (piece ++ rest) =
      literalBody quote triple (piece.reverse ++ done) rest := by
  have ordinary (cs : List Char) (h : ∀ d ∈ cs, d ∉ ['\\', '\'', '"', '\n', '\r', '\x00'])
      (done : List Char) : literalBody quote triple done (cs ++ rest) =
        literalBody quote triple (cs.reverse ++ done) rest := by
    induction cs generalizing done with
    | nil => rfl
    | cons d cs ih =>
      have hd := h d List.mem_cons_self
      have noBackslash : d ≠ '\\' := by rintro rfl; simp at hd
      have noQuote : d ≠ quote := by
        rcases quotes with rfl | rfl <;> rintro rfl <;> simp at hd
      have noLine : d ≠ '\n' := by rintro rfl; simp at hd
      rw [List.cons_append, literalBody_cons noBackslash noQuote fun _ => noLine,
        ih fun e mem => h e (.tail _ mem)]
      simp
  cases written with
  | itself plain =>
    have noQuote : c ≠ quote := fun same => hidden (by rw [same])
    rw [List.singleton_append,
      literalBody_cons plain noQuote fun single same => line single (by rw [same])]
    rfl
  | letter x value => rw [List.cons_append, List.singleton_append, literalBody]; rfl
  | digits x width known fits =>
    rw [List.cons_append, List.cons_append, literalBody,
      ordinary _ fun d mem => not_mem_of_mem_hexDigits mem]
    simp

end WrittenAs

/-- The escapes of a body, replaced one after the other. -/
theorem unescapeText_flatMap {f : Char → List Char} (written : ∀ c, WrittenAs c (f c))
    (cs : List Char) (rounds : Nat) (done rest : List Char) :
    unescapeText (rounds + cs.length) done (cs.flatMap f ++ rest) =
      unescapeText rounds (cs.reverse ++ done) rest := by
  induction cs generalizing done with
  | nil => rfl
  | cons c cs ih =>
    rw [List.flatMap_cons, List.append_assoc, List.length_cons, ← Nat.add_assoc,
      (written c).unescape, ih]
    simp

/-- A body has as many characters as the text that it stands for, or more. -/
theorem length_le_flatMap {f : Char → List Char} (written : ∀ c, WrittenAs c (f c))
    (cs : List Char) : cs.length ≤ (cs.flatMap f).length := by
  induction cs with
  | nil => simp
  | cons c cs ih =>
    have := (written c).length_pos
    simp only [List.flatMap_cons, List.length_append, List.length_cons]
    omega

/-- Without rounds to go nothing is left to replace. -/
theorem unescapeText_nil (rounds : Nat) (done : List Char) :
    unescapeText rounds done [] = some done := by
  cases rounds <;> rfl

/-- A written body stands for its text. -/
theorem textOf?_flatMap {f : Char → List Char} (written : ∀ c, WrittenAs c (f c))
    (cs : List Char) : textOf? false (cs.flatMap f) = some (String.ofList cs) := by
  obtain ⟨k, hk⟩ := Nat.exists_eq_add_of_le (length_le_flatMap written cs)
  have read := unescapeText_flatMap written cs k [] []
  rw [List.append_nil, unescapeText_nil] at read
  simp [textOf?, hk, Nat.add_comm, read]

/-- A written body with one more escaped character behind it. -/
theorem textOf?_flatMap_append {f : Char → List Char} (written : ∀ c, WrittenAs c (f c))
    (cs : List Char) {c : Char} {piece : List Char} (last : WrittenAs c piece) :
    textOf? false (cs.flatMap f ++ piece) = some (String.ofList (cs ++ [c])) := by
  obtain ⟨k, hk⟩ := Nat.exists_eq_add_of_le (length_le_flatMap written cs)
  obtain ⟨l, hl⟩ := Nat.exists_eq_add_of_lt last.length_pos
  have read := unescapeText_flatMap written cs (k + l + 1) [] piece
  have end_ := last.unescape (k + l) (cs.reverse ++ []) []
  rw [List.append_nil piece, unescapeText_nil] at end_
  rw [end_] at read
  have enough : (cs.flatMap f ++ piece).length = k + l + 1 + cs.length := by
    rw [List.length_append]
    omega
  simp [textOf?, enough, read]

/-- The code point of a numeric escape fits the escape's digits. -/
theorem writtenAs_numericEscape (c : Char) : WrittenAs c (numericEscape c.toNat) := by
  unfold numericEscape
  by_cases two : c.toNat ≤ 0xff
  · rw [if_pos two]
    exact .digits 'x' 2 rfl (by omega)
  by_cases four : c.toNat ≤ 0xffff
  · rw [if_neg two, if_pos four]
    exact .digits 'u' 4 rfl (by omega)
  · rw [if_neg two, if_neg four]
    refine .digits 'U' 8 rfl ?_
    rcases c.valid with h | h
    · exact Nat.lt_trans h (by decide)
    · exact Nat.lt_trans h.2 (by decide)

/-- Every character is written between quotes in one of the three ways. -/
theorem writtenAs_escapeChar {quote : Char} (quotes : quote = '\'' ∨ quote = '"') (c : Char) :
    WrittenAs c (escapeChar quote c) := by
  unfold escapeChar
  split
  · rename_i h
    rcases h with rfl | rfl
    · rcases quotes with rfl | rfl
      · exact .letter _ rfl
      · exact .letter _ rfl
    · exact .letter _ rfl
  split
  · subst c; exact .letter _ rfl
  split
  · subst c; exact .letter _ rfl
  split
  · subst c; exact .letter _ rfl
  split
  · rename_i h _ _ _ _
    exact .itself fun same => h (.inr same)
  · exact writtenAs_numericEscape c

/-- Every character is written in a documentation text in one of the three ways. -/
theorem writtenAs_escapeDocChar (c : Char) : WrittenAs c (escapeDocChar c) := by
  unfold escapeDocChar
  split
  · rename_i h
    refine .itself ?_
    rcases h with rfl | rfl <;> decide
  split
  · subst c; exact .letter _ rfl
  split
  · subst c; exact .letter _ rfl
  split
  · rename_i h _ _
    exact .itself h
  · exact writtenAs_numericEscape c

/-- What stands for a character between quotes shows neither the quote nor a line feed. -/
theorem escapeChar_ne {quote : Char} (c : Char) :
    escapeChar quote c ≠ [quote] ∧ escapeChar quote c ≠ ['\n'] := by
  have backslash (x : Char) : ('\\' : Char) :: [x] ≠ [quote] ∧ ('\\' : Char) :: [x] ≠ ['\n'] := by
    simp
  unfold escapeChar
  split
  · exact backslash c
  split
  · exact backslash 'n'
  split
  · exact backslash 'r'
  split
  · exact backslash 't'
  split
  · rename_i other noLine _ _ _
    simp only [ne_eq, List.cons.injEq, and_true]
    exact ⟨fun same => other (.inl same), noLine⟩
  · unfold numericEscape
    split
    · simp
    split <;> simp

/-- The flavour of a literal without letters before it. -/
def Flavour.plain : Flavour := ⟨false, false, false⟩

/-- The outcome of a literal whose body has been found. -/
def closedLiteral (found : List Char × List Char) : Option (Literal × Nat × List Char) :=
  (literal? .plain found.1.reverse).map fun value => (value, found.1.count '\n', found.2)

/-- What is made of a body that has been found. -/
theorem bind_closedLiteral (found : Option (List Char × List Char)) :
    (do
      let (done, after) ← found
      let value ← literal? .plain done.reverse
      return (value, done.count '\n', after)) = found.bind closedLiteral := by
  cases found with
  | none => rfl
  | some found =>
    obtain ⟨done, after⟩ := found
    simp only [closedLiteral, bind, Option.bind]
    cases literal? .plain done.reverse <;> rfl

/-- A literal that does not begin with two more quotes closes at the next quote. -/
theorem quotedLiteral_single {quote : Char} {rest : List Char}
    (single : ∀ after, rest ≠ quote :: quote :: after) :
    quotedLiteral .plain quote rest = (literalBody quote false [] rest).bind closedLiteral := by
  match rest with
  | [] => exact bind_closedLiteral _
  | [a] => exact bind_closedLiteral _
  | a :: b :: after =>
    have other : ¬(a = quote ∧ b = quote) := by
      rintro ⟨rfl, rfl⟩
      exact single after rfl
    simp only [quotedLiteral, if_neg other]
    exact bind_closedLiteral _

/-- A literal that begins with two more quotes closes at the next three quotes. -/
theorem quotedLiteral_triple (quote : Char) (rest : List Char) :
    quotedLiteral .plain quote (quote :: quote :: rest) =
      (literalBody quote true [] rest).bind closedLiteral := by
  simp only [quotedLiteral, and_self, if_true]
  exact bind_closedLiteral _

/-- A body is passed over as a whole if none of its pieces closes it. -/
theorem literalBody_flatMap {f : Char → List Char} (written : ∀ c, WrittenAs c (f c))
    {quote : Char} (quotes : quote = '\'' ∨ quote = '"') {triple : Bool} (cs : List Char)
    (hidden : ∀ c ∈ cs, f c ≠ [quote]) (line : triple = false → ∀ c ∈ cs, f c ≠ ['\n'])
    (done rest : List Char) :
    literalBody quote triple done (cs.flatMap f ++ rest) =
      literalBody quote triple ((cs.flatMap f).reverse ++ done) rest := by
  induction cs generalizing done with
  | nil => rfl
  | cons c cs ih =>
    rw [List.flatMap_cons, List.append_assoc,
      (written c).body (hidden c List.mem_cons_self) (fun single => line single c List.mem_cons_self)
        quotes,
      ih (fun d mem => hidden d (.tail _ mem)) (fun single d mem => line single d (.tail _ mem))]
    simp

/-- Quotes of the two kinds are all that texts are written between. -/
theorem quoteFor_eq (cs : List Char) : quoteFor cs = '\'' ∨ quoteFor cs = '"' := by
  unfold quoteFor
  split
  · exact .inr rfl
  · exact .inl rfl

/-- Inside quotes nothing begins with the quote. -/
theorem head?_flatMap_escapeChar (quote : Char) (cs : List Char) :
    (cs.flatMap (escapeChar quote)).head? ≠ some quote ∨ quote = '\\' := by
  cases cs with
  | nil => simp
  | cons c cs =>
    by_cases backslash : quote = '\\'
    · exact .inr backslash
    refine .inl ?_
    have other : ('\\' : Char) ≠ quote := fun same => backslash same.symm
    rw [List.flatMap_cons]
    unfold escapeChar numericEscape
    split
    · simpa using other
    split
    · simpa using other
    split
    · simpa using other
    split
    · simpa using other
    split
    · rename_i h _ _ _ _
      simpa using fun same => h (.inl same)
    · split
      · simpa using other
      split <;> simpa using other

/-- A character between quotes is never a line feed. -/
theorem newline_not_mem_escapeChar {quote : Char} (quotes : quote = '\'' ∨ quote = '"') (c : Char) :
    '\n' ∉ escapeChar quote c := by
  have written := writtenAs_escapeChar quotes c
  intro mem
  have shown : escapeChar quote c ≠ ['\n'] := (escapeChar_ne c).2
  generalize escapeChar quote c = piece at written mem shown
  cases written with
  | itself plain => exact shown (by rw [List.mem_singleton.1 mem])
  | letter x value =>
    rcases List.mem_cons.1 mem with same | mem
    · simp at same
    · rw [← List.mem_singleton.1 mem] at value
      simp [simpleEscape?] at value
  | digits x width known fits =>
    rcases List.mem_cons.1 mem with same | mem
    · simp at same
    · rcases List.mem_cons.1 mem with same | mem
      · rw [← same] at known
        simp [escapeWidth?] at known
      · exact absurd (not_mem_of_mem_hexDigits mem) (by simp)

/-- A quoted text, from behind its first quote on, is read as the text, up to its last quote. -/
theorem quotedLiteral_quote (cs tail : List Char) (apart : tail.head? ≠ some (quoteFor cs)) :
    quotedLiteral .plain (quoteFor cs)
        (cs.flatMap (escapeChar (quoteFor cs)) ++ quoteFor cs :: tail) =
      some (.text (String.ofList cs), 0, tail) := by
  have quotes := quoteFor_eq cs
  generalize quoteFor cs = quote at apart quotes
  have noLine : (cs.flatMap (escapeChar quote)).count '\n' = 0 := by
    rw [List.count_eq_zero]
    intro mem
    obtain ⟨c, -, mem⟩ := List.mem_flatMap.1 mem
    exact newline_not_mem_escapeChar quotes c mem
  have single (after : List Char) :
      cs.flatMap (escapeChar quote) ++ quote :: tail ≠ quote :: quote :: after := by
    intro same
    rcases head?_flatMap_escapeChar quote cs with first | backslash
    · cases body : cs.flatMap (escapeChar quote) with
      | nil =>
        rw [body, List.nil_append] at same
        exact apart (by rw [(List.cons.inj same).2]; rfl)
      | cons d rest =>
        rw [body] at same first
        exact first (by rw [(List.cons.inj same).1]; rfl)
    · rcases quotes with rfl | rfl <;> simp at backslash
  have plain : quote ≠ '\\' := by rcases quotes with rfl | rfl <;> decide
  have close (done : List Char) :
      literalBody quote false done (quote :: tail) = some (done, tail) := by
    rw [literalBody_of_ne plain, if_pos rfl]
    rfl
  rw [quotedLiteral_single single, literalBody_flatMap (writtenAs_escapeChar quotes) quotes cs
    (fun c _ => (escapeChar_ne c).1) (fun _ c _ => (escapeChar_ne c).2), close]
  simp [closedLiteral, literal?, Flavour.plain, textOf?_flatMap (writtenAs_escapeChar quotes), noLine]

/-- The end of a body between triple quotes. -/
theorem literalBody_close_triple {quote : Char} (quotes : quote = '\'' ∨ quote = '"')
    (done tail : List Char) :
    literalBody quote true done (quote :: quote :: quote :: tail) = some (done, tail) := by
  rcases quotes with rfl | rfl <;> rfl

/-- No three quotes stand together in the end of a text if they do so nowhere in it. -/
theorem hasTriple_suffix (quote : Char) {front back : List Char}
    (apart : hasTriple quote (front ++ back) = false) : hasTriple quote back = false := by
  have tail (a : Char) : ∀ as, hasTriple quote (a :: as) = false → hasTriple quote as = false
    | [], _ => rfl
    | [_], _ => rfl
    | _ :: _ :: _, h => by
      rw [hasTriple, Bool.or_eq_false_iff] at h
      exact h.2
  induction front with
  | nil => exact apart
  | cons a front ih => exact ih (tail a _ apart)

/-- A quote does not close a body between triple quotes if the next two characters are not both
quotes. -/
private theorem literalBody_lone_quote {quote : Char} (quotes : quote = '\'' ∨ quote = '"')
    (done : List Char) {a b : Char} (lone : ¬(a = quote ∧ b = quote)) (after : List Char) :
    literalBody quote true done (quote :: a :: b :: after) =
      literalBody quote true (quote :: done) (a :: b :: after) := by
  have plain : quote ≠ '\\' := by rcases quotes with rfl | rfl <;> decide
  rw [literalBody_of_ne plain]
  simp only [if_true, if_neg lone]

/-- A body between triple quotes is passed over as a whole if three quotes stand together nowhere in
it, the two characters behind it included. -/
theorem literalBody_flatMap_escapeDocChar {quote : Char} (quotes : quote = '\'' ∨ quote = '"')
    (cs : List Char) (done : List Char) (x y : Char) (rest : List Char)
    (apart : hasTriple quote (cs.flatMap escapeDocChar ++ [x, y]) = false) :
    literalBody quote true done (cs.flatMap escapeDocChar ++ x :: y :: rest) =
      literalBody quote true ((cs.flatMap escapeDocChar).reverse ++ done) (x :: y :: rest) := by
  induction cs generalizing done with
  | nil => rfl
  | cons c cs ih =>
    rw [List.flatMap_cons, List.append_assoc] at apart ⊢
    have rest_apart := hasTriple_suffix quote apart
    by_cases shown : escapeDocChar c = [quote]
    · -- The character is the quote: it closes the body only together with the next two.
      have two : ∃ a b after after', cs.flatMap escapeDocChar ++ x :: y :: rest = a :: b :: after ∧
          cs.flatMap escapeDocChar ++ [x, y] = a :: b :: after' := by
        match cs.flatMap escapeDocChar with
        | [] => exact ⟨x, y, rest, [], rfl, rfl⟩
        | [a] => exact ⟨a, x, y :: rest, [y], rfl, rfl⟩
        | a :: b :: as => exact ⟨a, b, as ++ x :: y :: rest, as ++ [x, y], rfl, rfl⟩
      obtain ⟨a, b, after, after', long, short⟩ := two
      rw [shown, List.singleton_append, short, hasTriple, Bool.or_eq_false_iff] at apart
      have lone : ¬(a = quote ∧ b = quote) := by
        rintro ⟨rfl, rfl⟩
        simp at apart
      have stays := literalBody_lone_quote quotes done lone after
      rw [← long] at stays
      rw [shown, List.singleton_append, stays, ih _ rest_apart]
      simp
    · rw [(writtenAs_escapeDocChar c).body shown (by simp) quotes, ih _ rest_apart]
      simp

/-- Two more characters complete no three quotes, unless the text ends with the quote and the first of
the two is the quote as well. -/
theorem hasTriple_append (quote x y : Char) :
    ∀ cs : List Char, hasTriple quote cs = false → (cs.getLast? ≠ some quote ∨ x ≠ quote) →
      hasTriple quote (cs ++ [x, y]) = false
  | [], _, _ => rfl
  | [a], _, border => by
    have : ¬(a = quote ∧ x = quote) := by
      rintro ⟨rfl, rfl⟩
      simp at border
    simp only [List.cons_append, List.nil_append, hasTriple, Bool.or_false]
    grind
  | [a, b], _, border => by
    have : ¬(b = quote ∧ x = quote) := by
      rintro ⟨rfl, rfl⟩
      simp at border
    simp only [List.cons_append, List.nil_append, hasTriple, Bool.or_false]
    grind
  | a :: b :: c :: cs, apart, border => by
    rw [hasTriple, Bool.or_eq_false_iff] at apart
    have ih := hasTriple_append quote x y (b :: c :: cs) apart.2 (by simpa using border)
    rw [List.cons_append, List.cons_append, List.cons_append, hasTriple, apart.1, Bool.false_or]
    exact ih

/-- No three quotes stand together in the beginning of a text if they do so nowhere in it. -/
theorem hasTriple_of_append (quote : Char) :
    ∀ cs ds : List Char, hasTriple quote (cs ++ ds) = false → hasTriple quote cs = false
  | [], _, _ => rfl
  | [_], _, _ => rfl
  | [_, _], _, _ => rfl
  | a :: b :: c :: cs, ds, apart => by
    rw [List.cons_append, List.cons_append, List.cons_append, hasTriple,
      Bool.or_eq_false_iff] at apart
    rw [hasTriple, apart.1, Bool.false_or]
    exact hasTriple_of_append quote (b :: c :: cs) ds apart.2

/-- What stands for a character in a documentation text ends with a quote only if it is the quote. -/
theorem getLast?_escapeDocChar {quote : Char} (quotes : quote = '\'' ∨ quote = '"') {c : Char}
    (last : (escapeDocChar c).getLast? = some quote) : c = quote ∧ escapeDocChar c = [quote] := by
  have digits (width n : Nat) (x : Char) (known : width ≠ 0) :
      ('\\' :: x :: hexDigits width n).getLast? ≠ some quote := by
    obtain ⟨k, rfl⟩ := Nat.exists_eq_succ_of_ne_zero known
    have shown := hexDigit_not_mem n
    rw [hexDigits, ← List.cons_append, ← List.cons_append, List.getLast?_append]
    simp only [List.getLast?_singleton, Option.some_or, ne_eq, Option.some.injEq]
    rintro rfl
    rcases quotes with same | same <;> rw [same] at shown <;> simp at shown
  unfold escapeDocChar numericEscape at last ⊢
  split at last
  · rename_i h
    rcases h with rfl | rfl <;> rcases quotes with rfl | rfl <;> simp at last
  split at last
  · rcases quotes with rfl | rfl <;> simp at last
  split at last
  · rcases quotes with rfl | rfl <;> simp at last
  split at last
  · rename_i blank backslash carriage printable
    obtain rfl : c = quote := by simpa using last
    simp [blank, backslash, carriage, printable]
  · split at last
    · exact absurd last (digits 2 _ _ (by decide))
    split at last
    · exact absurd last (digits 4 _ _ (by decide))
    · exact absurd last (digits 8 _ _ (by decide))

/-- A written documentation text that ends with a quote is the text of its other characters with the
quote behind it. -/
theorem of_getLast?_flatMap_escapeDocChar {quote : Char} (quotes : quote = '\'' ∨ quote = '"')
    {cs : List Char} (last : (cs.flatMap escapeDocChar).getLast? = some quote) :
    ∃ front, cs = front ++ [quote] ∧
      cs.flatMap escapeDocChar = front.flatMap escapeDocChar ++ [quote] := by
  induction cs using List.reverseRecOn with
  | nil => simp at last
  | append_singleton front c _ =>
    have nonempty : escapeDocChar c ≠ [] :=
      List.ne_nil_of_length_pos (writtenAs_escapeDocChar c).length_pos
    rw [List.flatMap_append, List.flatMap_singleton, List.getLast?_append,
      List.getLast?_eq_some_getLast nonempty, Option.some_or,
      ← List.getLast?_eq_some_getLast nonempty] at last
    obtain ⟨rfl, shown⟩ := getLast?_escapeDocChar quotes last
    exact ⟨front, rfl, by rw [List.flatMap_append, List.flatMap_singleton, shown]⟩

/-- A text between three quotes is read if its pieces are read and no quotes among them close it. -/
private theorem quotedLiteral_between {cs inner : List Char} {quote : Char}
    (quotes : quote = '\'' ∨ quote = '"')
    (body : ∀ tail, literalBody quote true [] (inner ++ quote :: quote :: quote :: tail) =
      literalBody quote true inner.reverse (quote :: quote :: quote :: tail))
    (text : textOf? false inner = some (String.ofList cs)) (tail : List Char) :
    quotedLiteral .plain quote (quote :: quote :: (inner ++ quote :: quote :: quote :: tail)) =
      some (.text (String.ofList cs),
        (quote :: quote :: quote :: (inner ++ [quote, quote, quote])).count '\n', tail) := by
  have count : (quote :: quote :: quote :: (inner ++ [quote, quote, quote])).count '\n' =
      inner.count '\n' := by
    rcases quotes with rfl | rfl <;> simp
  rw [quotedLiteral_triple, body, literalBody_close_triple quotes, count]
  simp [closedLiteral, literal?, Flavour.plain, text]

/-- A text that is written with its quotes as themselves, or all of them but the last, is read between
three of them. -/
private theorem quotedLiteral_shown {cs : List Char} {quote : Char}
    (quotes : quote = '\'' ∨ quote = '"') (apart : hasTriple quote (cs.flatMap escapeDocChar) = false)
    (form : quoteDoc cs = if (cs.flatMap escapeDocChar).getLast? = some quote then
        quote :: quote :: quote ::
          ((cs.flatMap escapeDocChar).dropLast ++ ['\\', quote] ++ [quote, quote, quote])
      else quote :: quote :: quote :: (cs.flatMap escapeDocChar ++ [quote, quote, quote])) :
    ∃ quote inner, (quote = '\'' ∨ quote = '"') ∧
      quoteDoc cs = quote :: quote :: quote :: (inner ++ [quote, quote, quote]) ∧
      ∀ tail, quotedLiteral .plain quote
          (quote :: quote :: (inner ++ quote :: quote :: quote :: tail)) =
        some (.text (String.ofList cs), (quoteDoc cs).count '\n', tail) := by
  by_cases last : (cs.flatMap escapeDocChar).getLast? = some quote
  · rw [if_pos last] at form
    refine ⟨quote, _, quotes, form, ?_⟩
    rw [form]
    obtain ⟨front, rfl, whole⟩ := of_getLast?_flatMap_escapeDocChar quotes last
    rw [whole, List.dropLast_concat]
    have front_apart := hasTriple_of_append quote _ [quote] (whole ▸ apart)
    have backslash : '\\' ≠ quote := by rcases quotes with rfl | rfl <;> decide
    refine quotedLiteral_between quotes (fun tail => ?_) ?_
    · rw [List.append_assoc, List.cons_append, List.singleton_append,
        literalBody_flatMap_escapeDocChar quotes front [] '\\' quote _
          (hasTriple_append quote '\\' quote _ front_apart (.inr backslash)), literalBody]
      simp
    · refine textOf?_flatMap_append writtenAs_escapeDocChar front (.letter quote ?_)
      rcases quotes with rfl | rfl <;> rfl
  · rw [if_neg last] at form
    refine ⟨quote, _, quotes, form, ?_⟩
    rw [form]
    refine quotedLiteral_between quotes (fun tail => ?_) (textOf?_flatMap writtenAs_escapeDocChar cs)
    rw [literalBody_flatMap_escapeDocChar quotes cs [] quote quote _
      (hasTriple_append quote quote quote _ apart (.inl last)), List.append_nil]

/-- A documentation text, from behind its first quote on, is read as the text, up to its last quote,
and goes down as many lines as it shows line feeds. -/
theorem quotedLiteral_quoteDoc (cs : List Char) :
    ∃ quote inner, (quote = '\'' ∨ quote = '"') ∧
      quoteDoc cs = quote :: quote :: quote :: (inner ++ [quote, quote, quote]) ∧
      ∀ tail, quotedLiteral .plain quote
          (quote :: quote :: (inner ++ quote :: quote :: quote :: tail)) =
        some (.text (String.ofList cs), (quoteDoc cs).count '\n', tail) := by
  have shown {quote : Char} (quotes : quote = '\'' ∨ quote = '"')
      (apart : hasTriple quote (cs.flatMap escapeDocChar) = false) := quotedLiteral_shown quotes apart
  unfold quoteDoc at *
  by_cases double : hasTriple '"' (cs.flatMap escapeDocChar) = true
  · by_cases single : hasTriple '\'' (cs.flatMap escapeDocChar) = true
    · -- Both kinds of triple quotes occur, so every quote of the chosen kind is escaped.
      have quotes := quoteFor_eq cs
      refine ⟨quoteFor cs, cs.flatMap (escapeChar (quoteFor cs)), quotes,
        by simp [double, single], ?_⟩
      simp only [double, single, Bool.not_true, Bool.and_self, Bool.not_false, if_true]
      refine quotedLiteral_between quotes (fun tail => ?_)
        (textOf?_flatMap (writtenAs_escapeChar quotes) cs)
      rw [literalBody_flatMap (writtenAs_escapeChar quotes) quotes cs
        (fun c _ => (escapeChar_ne c).1) (by simp), List.append_nil]
    · exact shown (.inl rfl) (by simpa using single) (by simp [double, single])
  · by_cases single : hasTriple '\'' (cs.flatMap escapeDocChar) = true
    · exact shown (.inr rfl) (by simpa using double) (by simp [double, single])
    · by_cases last : (cs.flatMap escapeDocChar).getLast? = some '"'
      · exact shown (.inl rfl) (by simpa using single) (by simp [double, single, last])
      · exact shown (.inr rfl) (by simpa using double) (by simp [double, single, last])

/-- The characters of a piece are no control characters, except for a line feed or a tab that stands
as itself. -/
theorem WrittenAs.not_control {c : Char} {piece : List Char} (written : WrittenAs c piece)
    (shown : piece = [c] → c ≠ '\r' ∧ c ≠ '\x00') : '\r' ∉ piece ∧ '\x00' ∉ piece := by
  cases written with
  | itself plain =>
    obtain ⟨carriage, null⟩ := shown rfl
    simp [carriage.symm, null.symm]
  | letter x value =>
    have carriage : x ≠ '\r' := by rintro rfl; simp [simpleEscape?] at value
    have null : x ≠ '\x00' := by rintro rfl; simp [simpleEscape?] at value
    simp [carriage.symm, null.symm]
  | digits x width known fits =>
    have carriage : x ≠ '\r' := by rintro rfl; simp [escapeWidth?] at known
    have null : x ≠ '\x00' := by rintro rfl; simp [escapeWidth?] at known
    have digit (d : Char) (mem : d ∈ ['\r', '\x00']) : d ∉ hexDigits width c.toNat := by
      intro inside
      have := not_mem_of_mem_hexDigits inside
      simp only [List.mem_cons, List.not_mem_nil, or_false] at mem
      rcases mem with rfl | rfl <;> simp at this
    simp [carriage.symm, null.symm, digit]

/-- Carriage returns and null characters are never shown as themselves. -/
theorem not_control_escapeChar {quote : Char} (quotes : quote = '\'' ∨ quote = '"') (c : Char) :
    '\r' ∉ escapeChar quote c ∧ '\x00' ∉ escapeChar quote c := by
  refine (writtenAs_escapeChar quotes c).not_control fun same => ?_
  constructor
  · rintro rfl
    rcases quotes with rfl | rfl <;> exact absurd same (by decide)
  · rintro rfl
    rcases quotes with rfl | rfl <;> exact absurd same (by decide)

/-- The same in documentation texts. -/
theorem not_control_escapeDocChar (c : Char) :
    '\r' ∉ escapeDocChar c ∧ '\x00' ∉ escapeDocChar c := by
  refine (writtenAs_escapeDocChar c).not_control fun same => ?_
  constructor
  · rintro rfl
    exact absurd same (by decide)
  · rintro rfl
    exact absurd same (by decide)

/-- A line feed, a carriage return or a null character is no quote. -/
private theorem ne_quote_of_control {quote d : Char} (quotes : quote = '\'' ∨ quote = '"')
    (control : d ∈ ['\n', '\r', '\x00']) : d ≠ quote := by
  rintro rfl
  rcases quotes with rfl | rfl <;> simp at control

/-- A quoted text holds no line feeds, carriage returns and null characters. -/
theorem not_mem_quote (cs : List Char) {d : Char} (control : d ∈ ['\n', '\r', '\x00']) :
    d ∉ quote cs := by
  have quotes := quoteFor_eq cs
  have other : d ≠ quoteFor cs := ne_quote_of_control quotes control
  unfold quote
  simp only [List.mem_cons, List.mem_append, List.mem_flatMap, List.not_mem_nil, or_false,
    not_or, other, not_false_eq_true, true_and, not_exists, not_and]
  intro c _ mem
  have := newline_not_mem_escapeChar quotes c
  have := not_control_escapeChar quotes c
  simp only [List.mem_cons, List.not_mem_nil, or_false] at control
  rcases control with rfl | rfl | rfl <;> simp_all

/-- Characters that are written without carriage returns and null characters make a text without
them. -/
private theorem not_mem_flatMap {f : Char → List Char} (cs : List Char) {d : Char}
    (control : d ∈ ['\r', '\x00']) (h : ∀ c, '\r' ∉ f c ∧ '\x00' ∉ f c) : d ∉ cs.flatMap f := by
  simp only [List.mem_flatMap, not_exists, not_and]
  intro c _
  have := h c
  simp only [List.mem_cons, List.not_mem_nil, or_false] at control
  rcases control with rfl | rfl <;> simp_all

/-- A documentation text holds no carriage returns and null characters. -/
theorem not_mem_quoteDoc (cs : List Char) {d : Char} (control : d ∈ ['\r', '\x00']) :
    d ∉ quoteDoc cs := by
  have other {quote : Char} (quotes : quote = '\'' ∨ quote = '"') : d ≠ quote :=
    ne_quote_of_control quotes (.tail _ control)
  have inner {quote : Char} (quotes : quote = '\'' ∨ quote = '"') {body : List Char}
      (h : d ∉ body) : d ∉ quote :: quote :: quote :: (body ++ [quote, quote, quote]) := by
    simp [other quotes, h]
  have doc : d ∉ cs.flatMap escapeDocChar := not_mem_flatMap cs control not_control_escapeDocChar
  have plain : d ∉ cs.flatMap (escapeChar (quoteFor cs)) :=
    not_mem_flatMap cs control (not_control_escapeChar (quoteFor_eq cs))
  have final {quote : Char} (quotes : quote = '\'' ∨ quote = '"') :
      d ∉ (cs.flatMap escapeDocChar).dropLast ++ ['\\', quote] := by
    have backslash : d ≠ '\\' := by
      rintro rfl
      simp at control
    simp only [List.mem_append, List.mem_cons, List.not_mem_nil, or_false, not_or]
    exact ⟨fun mem => doc (List.dropLast_subset _ mem), backslash, other quotes⟩
  have chosen {quote : Char} (quotes : quote = '\'' ∨ quote = '"') :
      d ∉ if (cs.flatMap escapeDocChar).getLast? = some quote then
          quote :: quote :: quote ::
            ((cs.flatMap escapeDocChar).dropLast ++ ['\\', quote] ++ [quote, quote, quote])
        else quote :: quote :: quote :: (cs.flatMap escapeDocChar ++ [quote, quote, quote]) := by
    split
    · exact inner quotes (final quotes)
    · exact inner quotes doc
  unfold quoteDoc
  dsimp only
  split
  · exact inner (quoteFor_eq cs) plain
  · refine chosen ?_
    split
    · split
      · exact .inl rfl
      · exact .inr rfl
    · split
      · exact .inr rfl
      · exact .inl rfl

end FlatRecord.Script
