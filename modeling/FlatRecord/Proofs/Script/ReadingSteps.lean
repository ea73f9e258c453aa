import FlatRecord.Script.Reading.Statement
import Mathlib.Tactic.Tauto

/-!
# Reading tokens step by step

What each step of reading does to the tokens at hand, and what the tokens of printed expressions
have in common: which ones begin an expression, and which ones follow it. A token of the one kind
passes none of the tests on the way down to an atom, one of the other kind none on the way back up.
-/

namespace FlatRecord.Script

namespace Parse

variable {α β : Type}

@[simp]
theorem bind_apply (x : Parse α) (f : α → Parse β) (ts : List Lexeme) :
    (x >>= f) ts = (x ts).bind fun r => f r.1 r.2 := rfl

/-- Behind a step that gives something, reading goes on with it. -/
theorem bind_of_eq {x : Parse α} {f : α → Parse β} {a : α} {ts ts' : List Lexeme}
    (read : x ts = some (a, ts')) : (x >>= f) ts = f a ts' := by
  rw [bind_apply, read, Option.bind_some]

@[simp]
theorem pure_apply (a : α) (ts : List Lexeme) : (pure a : Parse α) ts = some (a, ts) := rfl

@[simp]
theorem map_apply (f : α → β) (x : Parse α) (ts : List Lexeme) :
    (f <$> x) ts = (x ts).map fun r => (f r.1, r.2) := by
  cases h : x ts <;> simp [Functor.map, StateT.map, h]

@[simp]
theorem failure_apply (ts : List Lexeme) : (failure : Parse α) ts = none := rfl

@[simp]
theorem ite_apply (c : Prop) [Decidable c] (x y : Parse α) (ts : List Lexeme) :
    (if c then x else y) ts = if c then x ts else y ts := by
  split <;> rfl

@[simp]
theorem orElse_apply (x y : Parse α) (ts : List Lexeme) : (x <|> y) ts = (x ts).or (y ts) := by
  change (x ts <|> y ts) = (x ts).or (y ts)
  cases x ts <;> rfl

@[simp]
theorem line_cons (t : Lexeme) (ts : List Lexeme) : line (t :: ts) = some (t.line, t :: ts) := rfl

@[simp]
theorem ahead_cons (test : Token → Bool) (t : Lexeme) (ts : List Lexeme) :
    ahead test (t :: ts) = some (test t.token, t :: ts) := rfl

@[simp]
theorem take_cons (value? : Token → Option α) (t : Lexeme) (ts : List Lexeme) :
    take value? (t :: ts) = (value? t.token).map fun a => (a, ts) := rfl

@[simp]
theorem takeIf_cons (test : Token → Bool) (t : Lexeme) (ts : List Lexeme) :
    takeIf test (t :: ts) = if test t.token then some (true, ts) else some (false, t :: ts) := rfl

@[simp]
theorem mark?_cons (text : String) (t : Lexeme) (ts : List Lexeme) :
    mark? text (t :: ts) =
      if t.token.isMark text then some (true, ts) else some (false, t :: ts) := rfl

@[simp]
theorem mark_cons (text : String) (t : Lexeme) (ts : List Lexeme) :
    mark text (t :: ts) = if t.token.isMark text then some ((), ts) else none := by
  unfold mark
  rw [take_cons]
  split <;> simp_all

@[simp]
theorem word?_cons (text : String) (t : Lexeme) (ts : List Lexeme) :
    word? text (t :: ts) =
      if t.token.isWord text then some (true, ts) else some (false, t :: ts) := rfl

@[simp]
theorem word_cons (text : String) (t : Lexeme) (ts : List Lexeme) :
    word text (t :: ts) = if t.token.isWord text then some ((), ts) else none := by
  unfold word
  rw [take_cons]
  split <;> simp_all

@[simp]
theorem name_cons (t : Lexeme) (ts : List Lexeme) :
    name (t :: ts) = t.token.name?.map fun id => (id, ts) := rfl

@[simp]
theorem newline_cons (line : Nat) (ts : List Lexeme) :
    newline (⟨.newline, line⟩ :: ts) = some ((), ts) := rfl

@[simp]
theorem nameAndMark_cons (text : String) (t u : Lexeme) (ts : List Lexeme) :
    nameAndMark text (t :: u :: ts) =
      some (t.token.name?.isSome && u.token.isMark text, t :: u :: ts) := rfl

@[simp]
theorem nameAndMark_mark (text other : String) (line : Nat) (ts : List Lexeme) :
    nameAndMark text (⟨.mark other, line⟩ :: ts) = some (false, ⟨.mark other, line⟩ :: ts) := by
  cases ts <;> rfl

end Parse

namespace Token

@[simp]
theorem isMark_mark (text other : String) : isMark text (mark other) = (other == text) := rfl

@[simp]
theorem isMark_word (text other : String) : isMark text (word other) = false := rfl

@[simp]
theorem isMark_newline (text : String) : isMark text newline = false := rfl

@[simp]
theorem isWord_word (text other : String) : isWord text (word other) = (other == text) := rfl

@[simp]
theorem isWord_mark (text other : String) : isWord text (mark other) = false := rfl

@[simp]
theorem isWord_newline (text : String) : isWord text newline = false := rfl

/-- The words that are constants. -/
def constantWords : List String := ["None", "True", "False"]

/-- Whether a printed operand begins with the token. -/
def opens : Token → Bool
  | .word w => !keywords.contains w || constantWords.contains w
  | .number _ => true
  | .literal _ => true
  | .mark m => ["(", "[", "\x7b", "-"].contains m
  | _ => false

/-- Whether the token may follow a printed expression. -/
def closes : Token → Bool
  | .newline => true
  | .mark m => [",", ")", "]", "\x7d", ":", "="].contains m
  | _ => false

/-- Whether the token may follow a printed operand of a comparison. -/
def closesComparand : Token → Bool
  | .mark "==" => true
  | .word "is" => true
  | t => t.closes

/-- Whether the token may follow a printed operand of a sum. -/
def closesAddend : Token → Bool
  | .mark "+" => true
  | t => t.closesComparand

theorem closesComparand_of_closes {t : Token} (h : t.closes) : t.closesComparand := by
  unfold closesComparand
  split <;> simp_all

theorem closesAddend_of_closesComparand {t : Token} (h : t.closesComparand) :
    t.closesAddend := by
  unfold closesAddend
  split <;> simp_all

/-- A token behind an operand of a sum is the end of the line, the word of a comparison, or one of a
few marks. -/
theorem closesAddend_cases {t : Token} (h : t.closesAddend) :
    t = newline ∨ t = word "is" ∨
      ∃ m ∈ ["+", "==", ",", ")", "]", "\x7d", ":", "="], t = mark m := by
  unfold closesAddend closesComparand at h
  split at h
  · exact .inr (.inr ⟨_, by simp, rfl⟩)
  split at h
  · exact .inr (.inr ⟨_, by simp, rfl⟩)
  · exact .inr (.inl rfl)
  · cases t with
    | newline => exact .inl rfl
    | mark m => exact .inr (.inr ⟨m, by simp_all [closes], rfl⟩)
    | _ => simp [closes] at h

/-- A token that begins an operand is one of a few marks only. -/
theorem isMark_of_opens {t : Token} (h : t.opens) {m : String}
    (other : m ∉ ["(", "[", "\x7b", "-"]) : t.isMark m = false := by
  cases t with
  | mark text =>
    rw [isMark_mark, beq_eq_false_iff_ne]
    rintro rfl
    exact other (by simpa [opens] using h)
  | _ => rfl

/-- A token that begins an operand is no keyword, except for the constants. -/
theorem isWord_of_opens {t : Token} (h : t.opens) {w : String} (keyword : w ∈ keywords)
    (other : w ∉ constantWords) : t.isWord w = false := by
  cases t with
  | word text =>
    rw [isWord_word, beq_eq_false_iff_ne]
    rintro rfl
    simp [opens, keyword, other] at h
  | _ => rfl

/-- An expression can begin with a token that begins an operand. -/
theorem beginsExpression_of_opens {t : Token} (h : t.opens) : t.beginsExpression := by
  cases t with
  | word text =>
    simp only [opens, constantWords, Bool.or_eq_true] at h
    rcases h with h | h
    · simp only [beginsExpression, h, Bool.true_or]
    · simp only [beginsExpression, Bool.or_eq_true]
      right
      simp only [List.contains_eq_mem, decide_eq_true_eq, List.mem_cons, List.not_mem_nil,
        or_false] at h ⊢
      tauto
  | mark text =>
    simp only [opens, beginsExpression, List.contains_eq_mem, decide_eq_true_eq, List.mem_cons,
      List.not_mem_nil, or_false] at h ⊢
    tauto
  | number _ => rfl
  | literal _ => rfl
  | _ => simp [opens] at h

end Token

end FlatRecord.Script
