import FlatRecord.Proofs.Script.Cutting
import FlatRecord.Proofs.Script.ReadingExpressions
import FlatRecord.Script.Printer

/-!
# Printed expressions read back

The expressions that record modules are made of are cut into tokens that read as the same
expressions, up to two things that printing does not keep: the lines of named arguments, and the
signs of negative numbers, which come back as operators.

`Readable depth strength e` says that `e` is such an expression, that it binds at least as strongly
as said, and that at most `depth` brackets stand inside each other in its text.
-/

namespace FlatRecord.Script

open FlatRecord.Number FlatRecord.Text

/-- A literal as it is read back: a negative number is a sign before a number. -/
def Constant.placed : Constant → Expr
  | .datum (.int (.negSucc n)) => .unary .minus (.constant (.datum (.int (n + 1))))
  | .datum (.float (.finite true m e canonical)) =>
    .unary .minus (.constant (.datum (.float (.finite false m e canonical))))
  | c => .constant c

mutual

/-- An expression as it is read back on a line. -/
@[simp]
def Expr.placed (line : Nat) : Expr → Expr
  | .constant c => c.placed
  | .name id use => .name id use
  | .member owner attr use => .member (owner.placed line) attr use
  | .subscript owner index use => .subscript (owner.placed line) (index.placed line) use
  | .list items use => .list (Expr.placedEach line items) use
  | .tuple items use => .tuple (Expr.placedEach line items) use
  | .dict keys values => .dict (Expr.placedKeys line keys) (Expr.placedEach line values)
  | .call callee args keywords =>
    .call (callee.placed line) (Expr.placedEach line args) (Expr.placedKeywords line keywords)
  | .unary op operand => .unary op (operand.placed line)
  | .binary left op right => .binary (left.placed line) op (right.placed line)
  | .compare left ops rights => .compare (left.placed line) ops (Expr.placedEach line rights)
  | .foreign construct parts => .foreign construct parts

/-- Expressions, each as it is read back. -/
def Expr.placedEach (line : Nat) : List Expr → List Expr
  | [] => []
  | e :: rest => e.placed line :: Expr.placedEach line rest

/-- Keys of a mapping as they are read back. -/
def Expr.placedKeys (line : Nat) : List (Option Expr) → List (Option Expr)
  | [] => []
  | some key :: rest => some (key.placed line) :: Expr.placedKeys line rest
  | none :: rest => none :: Expr.placedKeys line rest

/-- Named arguments as they are read back. -/
def Expr.placedKeywords (line : Nat) : List Keyword → List Keyword
  | [] => []
  | .mk _ label value :: rest =>
    .mk line label (value.placed line) :: Expr.placedKeywords line rest

end

@[simp]
theorem Expr.placedEach_eq (line : Nat) (items : List Expr) :
    Expr.placedEach line items = items.map (Expr.placed line) := by
  induction items with
  | nil => rfl
  | cons e items ih => rw [placedEach, ih, List.map_cons]

@[simp]
theorem Expr.placedKeywords_eq (line : Nat) (keywords : List Keyword) :
    Expr.placedKeywords line keywords =
      keywords.map fun k => .mk line k.name (k.value.placed line) := by
  induction keywords with
  | nil => rfl
  | cons k keywords ih =>
    obtain ⟨_, label, value⟩ := k
    rw [placedKeywords, ih, List.map_cons]
    rfl

@[simp]
theorem Expr.printEach_eq (items : List Expr) : Expr.printEach items = items.map Expr.print := by
  induction items with
  | nil => rfl
  | cons e items ih => rw [printEach, ih, List.map_cons]

attribute [local simp] Expr.print

/-- How strongly a printed expression binds. -/
inductive Strength where
  | primary
  | addend
  | sum
  | comparand
  | expression
  deriving DecidableEq, Repr

/-- Whether a literal is one of those that record modules hold. -/
def Constant.IsPlain : Constant → Prop
  | .datum .null => True
  | .datum (.bool _) => True
  | .datum (.text _) => True
  | .datum (.int n) => (naturalText n.natAbs).length ≤ maxIntegerDigits
  | .datum (.float x) => x.isFinite
  | _ => False

/-- Whether a text is a name and no keyword. -/
def IsName (id : String) : Prop := Naming.isWord id.toList ∧ id ∉ keywords

instance (id : String) : Decidable (IsName id) := inferInstanceAs (Decidable (_ ∧ _))

/-- The expressions of record modules. -/
inductive Readable : (depth : Nat) → Strength → Expr → Prop where
  | name {d : Nat} {id : String} (free : IsName id) : Readable d .primary (.name id .load)
  | member {d : Nat} {owner : Expr} {attr : String} (first : Readable d .primary owner)
      (free : IsName attr) : Readable d .primary (.member owner attr .load)
  | call {d : Nat} {callee : Expr} {args : List Expr} {keywords : List Keyword}
      (first : Readable d .primary callee) (values : ∀ e ∈ args, Readable d .expression e)
      (named : ∀ k ∈ keywords, Readable d .expression k.value)
      (labels : ∀ k ∈ keywords, ∃ label, k.name = some label ∧ IsName label) :
      Readable (d + 1) .primary (.call callee args keywords)
  | subscript {d : Nat} {owner index : Expr} (first : Readable d .primary owner)
      (inside : Readable d .expression index) (single : ∀ items use, index ≠ .tuple items use) :
      Readable (d + 1) .primary (.subscript owner index .load)
  | subscripts {d : Nat} {owner : Expr} {items : List Expr} (first : Readable d .primary owner)
      (nonempty : items ≠ []) (inside : ∀ e ∈ items, Readable d .expression e) :
      Readable (d + 1) .primary (.subscript owner (.tuple items .load) .load)
  | list {d : Nat} {items : List Expr} (inside : ∀ e ∈ items, Readable d .expression e) :
      Readable (d + 1) .primary (.list items .load)
  | tuple {d : Nat} {items : List Expr} (inside : ∀ e ∈ items, Readable d .expression e) :
      Readable (d + 1) .primary (.tuple items .load)
  | dict {d : Nat} {key value : Expr} (inside : Readable d .expression key)
      (behind : Readable d .expression value) : Readable (d + 1) .primary (.dict [some key] [value])
  | constant {d : Nat} {c : Constant} (plain : c.IsPlain) : Readable d .addend (.constant c)
  | add {d : Nat} {left right : Expr} (first : Readable d .sum left)
      (last : Readable d .addend right) : Readable d .sum (.binary left .add right)
  | compare {d : Nat} {left right : Expr} {op : CompareOp} (first : Readable d .comparand left)
      (last : Readable d .comparand right) (known : op = .equal ∨ op = .same) :
      Readable d .expression (.compare left [op] [right])
  | addend {d : Nat} {e : Expr} (h : Readable d .primary e) : Readable d .addend e
  | sum {d : Nat} {e : Expr} (h : Readable d .addend e) : Readable d .sum e
  | comparand {d : Nat} {e : Expr} (h : Readable d .sum e) : Readable d .comparand e
  | expression {d : Nat} {e : Expr} (h : Readable d .comparand e) : Readable d .expression e

/-- A name begins with a letter or an underscore. -/
theorem beginsWord_of_isWord {cs : List Char} (word : Naming.isWord cs) (rest : List Char) :
    BeginsWord (cs ++ rest) := by
  obtain _ | ⟨c, cs⟩ := cs
  · simp [Naming.isWord] at word
  · simp only [Naming.isWord, Bool.and_eq_true] at word
    exact ⟨c, word.1, rfl⟩

/-- A name begins with no operator. -/
theorem endsMark_of_isWord {cs : List Char} (word : Naming.isWord cs) (rest : List Char) :
    EndsMark (cs ++ rest) := by
  obtain ⟨c, initial, head⟩ := beginsWord_of_isWord word rest
  intro d mem among
  obtain rfl : c = d := Option.some.inj (head.symm.trans mem)
  fin_cases among <;> exact absurd initial (by decide)

/-- A text that begins with a blank begins with no operator. -/
theorem endsMark_space (rest : List Char) : EndsMark (' ' :: rest) := by
  rintro _ ⟨⟩
  decide

/-- How tokens read at a strength. -/
def Strength.Reads : Strength → List Lexeme → Expr → Prop
  | primary => ReadsPrimary
  | addend => ReadsAddend
  | sum => ReadsSum
  | comparand => ReadsComparand
  | expression => ReadsExpression

/-- What may follow the text of an expression of a strength. -/
def Strength.Ends : Strength → List Char → Prop
  | primary => EndsOwner
  | _ => EndsOperand

/-- The text of an expression is cut into some tokens, and these read as the expression. -/
structure Prints (line depth : Nat) (s : Strength) (e : Expr) (ts : List Lexeme) : Prop where
  opening : Opening line ts
  begins : ∀ rest, EndsMark (e.print ++ rest)
  cuts : ∀ p : Place, p.line = line → p.Admits depth → Cuts s.Ends p e.print ts p
  reads : s.Reads ts (e.placed line)
  plain : (e.placed line).construct ≠ starred

namespace Prints

variable {line d : Nat} {s : Strength} {e : Expr} {ts : List Lexeme}

/-- A name. -/
theorem name {id : String} (free : IsName id) :
    Prints line d .primary (.name id .load) [⟨.word id, line⟩] where
  opening := .single line (by simp [Token.opens, free.2])
  begins := endsMark_of_isWord free.1
  cuts := by
    rintro p rfl -
    have cut := (Cuts.word (p := p) free.1).weaken fun _ => EndsOwner.word
    rwa [String.ofList_toList] at cut
  reads := .name free.2
  plain := by simp [Expr.construct, starred]

/-- What binds more strongly binds strongly enough. -/
private theorem lift {s' : Strength} (h : Prints line d s e ts)
    (ends : ∀ rest, s'.Ends rest → s.Ends rest) (reads : s'.Reads ts (e.placed line)) :
    Prints line d s' e ts :=
  { h with
    cuts := fun p at_line room => (h.cuts p at_line room).weaken ends
    reads := reads }

theorem addend (h : Prints line d .primary e ts) : Prints line d .addend e ts :=
  h.lift (fun _ => EndsOperand.owner) (ReadsPrimary.addend h.reads h.opening)

theorem sum (h : Prints line d .addend e ts) : Prints line d .sum e ts :=
  h.lift (fun _ => id) (ReadsAddend.sum h.reads)

theorem comparand (h : Prints line d .sum e ts) : Prints line d .comparand e ts :=
  h.lift (fun _ => id) (ReadsSum.comparand h.reads)

theorem expression (h : Prints line d .comparand e ts) : Prints line d .expression e ts :=
  h.lift (fun _ => id) (ReadsComparand.expression h.reads h.opening)

/-- A text that begins with another text begins with no operator if the latter does not. -/
private theorem begins_append {cs : List Char} (h : ∀ rest, EndsMark (cs ++ rest)) (ds : List Char) :
    ∀ rest, EndsMark (cs ++ ds ++ rest) := by
  intro rest
  rw [List.append_assoc]
  exact h _

/-- A member of a primary. -/
theorem member {owner : Expr} {attr : String} (h : Prints line d .primary owner ts)
    (free : IsName attr) :
    Prints line d .primary (.member owner attr .load)
      (ts ++ [⟨.mark ".", line⟩, ⟨.word attr, line⟩]) where
  opening := h.opening.append (by simp)
  begins := begins_append h.begins _
  cuts := by
    rintro p rfl room
    have name := (Cuts.word (p := p) free.1).weaken fun _ => EndsOwner.word
    rw [String.ofList_toList] at name
    have behind := (Cuts.point room.closers).append name fun rest _ =>
      beginsWord_of_isWord free.1 rest
    exact (h.cuts p rfl room).append behind fun rest _ => ⟨'.', by decide, rfl⟩
  reads := ReadsPrimary.member h.reads h.opening free.2
  plain := by simp [Expr.construct, starred]

/-- One more operand of a sum. -/
theorem add {left right : Expr} {ts' : List Lexeme} (h : Prints line d .sum left ts)
    (h' : Prints line d .addend right ts') :
    Prints line d .sum (.binary left .add right) (ts ++ ⟨.mark "+", line⟩ :: ts') where
  opening := h.opening.append (by simp)
  begins := begins_append (begins_append h.begins _) _
  cuts := by
    rintro p rfl room
    have sign : Cuts AnyBorder p ([' '] ++ (['+'] ++ [' '])) ([] ++ ([⟨.mark "+", p.line⟩] ++ [])) p :=
      Cuts.space.append_any ((Cuts.mark (by decide) room.closers).append Cuts.space fun rest _ =>
        endsMark_space rest)
    have first := (h.cuts p rfl room).append sign fun rest _ => EndsOperand.cons (by decide)
    have both := first.append_any (h'.cuts p rfl room)
    rwa [List.append_assoc ts] at both
  reads := ReadsSum.add h.reads h'.reads
  plain := by simp [Expr.construct, starred]

/-- A comparison. -/
theorem compare {left right : Expr} {ts' : List Lexeme} {op : CompareOp}
    (h : Prints line d .comparand left ts) (h' : Prints line d .comparand right ts')
    (known : op = .equal ∨ op = .same) :
    ∃ t, Prints line d .expression (.compare left [op] [right]) (ts ++ t :: ts') := by
  have sign : ∃ t : Lexeme, (t.token = .mark "==" ∧ op = .equal ∨ t.token = .word "is" ∧ op = .same) ∧
      ∀ p : Place, p.line = line → p.Admits d → Cuts AnyBorder p op.print [t] p := by
    rcases known with rfl | rfl
    · refine ⟨⟨.mark "==", line⟩, .inl ⟨rfl, rfl⟩, ?_⟩
      rintro p rfl room
      have mark : Cuts AnyBorder p ['=', '='] [⟨.mark "==", p.line⟩] p := Cuts.doubleMark (by simp)
      exact Cuts.space.append_any (mark.append_any Cuts.space)
    · refine ⟨⟨.word "is", line⟩, .inr ⟨rfl, rfl⟩, ?_⟩
      rintro p rfl room
      have word : Cuts EndsWord p ['i', 's'] [⟨.word "is", p.line⟩] p := Cuts.word (by decide)
      refine Cuts.space.append_any (word.append Cuts.space fun rest _ => ?_)
      rintro _ ⟨⟩
      decide
  obtain ⟨t, operator, cut⟩ := sign
  refine ⟨t, ?_⟩
  have plain : ∀ m ∈ ["=", ":=", ":"], t.token.isMark m = false := by
    rcases operator with ⟨h, -⟩ | ⟨h, -⟩ <;> rw [h] <;> decide
  have blank (rest : List Char) : EndsOperand (op.print ++ rest) := by
    rcases known with rfl | rfl <;> exact .cons (by decide)
  exact {
    opening := h.opening.append plain
    begins := begins_append h.begins _
    cuts := by
      rintro p rfl room
      have both := (h.cuts p rfl room).append
        ((cut p rfl room).append_any (h'.cuts p rfl room)) fun rest _ => by
          rw [List.append_assoc]
          exact blank _
      have text : comparisonPieces [op] (Expr.printEach [right]) = op.print ++ right.print := by
        simp [comparisonPieces]
      rw [Expr.print, text]
      exact both
    reads := ReadsComparand.compare h.reads h'.reads h.opening h'.opening operator
    plain := by simp [Expr.construct, starred] }

end Prints

/-- A text that begins with a closing bracket. -/
def EndsBracket (rest : List Char) : Prop := ∃ c ∈ [')', ']', '\x7d'], rest.head? = some c

theorem EndsBracket.operand {rest : List Char} (ends : EndsBracket rest) : EndsOperand rest := by
  obtain ⟨c, among, head⟩ := ends
  have table : ∀ c ∈ [')', ']', '\x7d'], c ∈ afterOperand := by decide
  exact ⟨c, table c among, head⟩

theorem EndsBracket.mark {rest : List Char} (ends : EndsBracket rest) : EndsMark rest := by
  obtain ⟨c, among, head⟩ := ends
  intro d mem
  obtain rfl : c = d := Option.some.inj (head.symm.trans mem)
  have table : ∀ c ∈ [')', ']', '\x7d'], c ∉ ['=', '*', '>', '/', '<', '.'] := by decide
  exact table c among

namespace Cuts

variable {p : Place}

/-- A text between brackets. -/
theorem bracketed {b : List Char → Prop} {d : Nat} {c close : Char} {cs : List Char}
    {ls : List Lexeme} (known : (c, close) ∈ brackets) (room : p.Admits (d + 1))
    (inside : ∀ q : Place, q.line = p.line → q.Admits d → Cuts EndsBracket q cs ls q) :
    Cuts b p (c :: (cs ++ [close]))
      (⟨.mark (String.singleton c), p.line⟩ ::
        (ls ++ [⟨.mark (String.singleton close), p.line⟩])) p := by
  have closer : close ∈ [')', ']', '\x7d'] := by
    have table : ∀ b ∈ brackets, b.2 ∈ [')', ']', '\x7d'] := by decide
    exact table _ known
  have middle := inside { p with pending := close :: p.pending } rfl (room.inside closer)
  have open_room : p.Admits 1 := ⟨by have := room.1; omega, room.2⟩
  have whole := (opening known open_room).append_any
    (middle.append (closing known) fun rest _ => ⟨close, closer, rfl⟩)
  exact whole.weaken fun _ _ => trivial

/-- A comma and a blank. -/
theorem comma (closers : p.Admits 0) : Cuts AnyBorder p [',', ' '] [⟨.mark ",", p.line⟩] p :=
  (mark (by decide) closers).append space fun rest _ => endsMark_space rest

/-- Texts with commas between them. -/
theorem separated {pieces : List (List Char × List Lexeme)} (closers : p.Admits 0)
    (cuts : ∀ x ∈ pieces, Cuts EndsOperand p x.1 x.2 p) :
    Cuts EndsOperand p (Script.separated (pieces.map Prod.fst))
      (commaJoined p.line (pieces.map Prod.snd)) p := by
  induction pieces with
  | nil => exact nil
  | cons x pieces ih =>
    have first := cuts x (.head _)
    have others := ih fun y mem => cuts y (.tail _ mem)
    obtain _ | ⟨y, pieces⟩ := pieces
    · simpa [Script.separated, Datum.joinWith, commaJoined, behindCommas] using first
    · have behind := (comma closers).append_any others
      have whole := first.append behind fun rest _ => EndsOperand.cons (by decide)
      simpa [Script.separated, Datum.joinWith, commaJoined, behindCommas] using whole

/-- Items of a tuple. -/
theorem tupleItems {pieces : List (List Char × List Lexeme)} (closers : p.Admits 0)
    (cuts : ∀ x ∈ pieces, Cuts EndsOperand p x.1 x.2 p) :
    Cuts EndsBracket p (Script.tupleItems (pieces.map Prod.fst))
      (tupleJoined p.line (pieces.map Prod.snd)) p := by
  match pieces with
  | [x] =>
    have first := cuts x (.head _)
    exact first.append ((mark (by decide) closers).weaken fun _ => EndsBracket.mark)
      fun rest _ => EndsOperand.cons (by decide)
  | [] => exact nil
  | x :: y :: pieces => exact (separated closers cuts).weaken fun _ => EndsBracket.operand

end Cuts

namespace Prints

variable {line d : Nat} {s : Strength} {e : Expr} {ts : List Lexeme}

/-- A word that is a constant. -/
private theorem constantWord {w : String} {value : Constant} (word : Naming.isWord w.toList)
    (constant : Inner.keywordConstant? w = some value) (text : value.print = w.toList)
    (same : value.placed = .constant value) :
    Prints line d .addend (.constant value) [⟨.word w, line⟩] where
  opening := by
    refine .single line ?_
    unfold Inner.keywordConstant? at constant
    split at constant <;> first | rfl | simp at constant
  begins := by
    rw [Expr.print, text]
    exact endsMark_of_isWord word
  cuts := by
    rintro p rfl -
    have cut := (Cuts.word (p := p) word).weaken fun _ => EndsOwner.word
    rw [String.ofList_toList, ← text] at cut
    exact cut.weaken fun _ => EndsOperand.owner
  reads := by
    rw [Expr.placed, same]
    exact .constantWord constant
  plain := by rw [Expr.placed, same]; simp [Expr.construct, starred]

/-- A digit is no operator. -/
private theorem endsMark_of_isDigit {c : Char} (digit : c.isDigit) (rest : List Char) :
    EndsMark (c :: rest) := by
  rintro _ ⟨⟩ among
  fin_cases among <;> exact absurd digit (by decide)

/-- A numeral, and a numeral behind a minus sign. -/
private theorem numeral {value shown : Constant} {cs : List Char}
    (begins : ∃ c tail, cs = c :: tail ∧ c.isDigit)
    (read : ∀ rest, EndsNumeral rest → Script.numeral (cs ++ rest) = some (value, rest))
    (shape : shown.print = cs ∧ shown.placed = .constant value ∨
      shown.print = '-' :: cs ∧ shown.placed = .unary .minus (.constant value)) :
    ∃ ts, Prints line d .addend (.constant shown) ts := by
  obtain ⟨c, tail, rfl, digit⟩ := begins
  have cut (p : Place) : Cuts EndsOperand p (c :: tail) [⟨.number value, p.line⟩] p :=
    (Cuts.number digit read).weaken fun _ => EndsOperand.numeral
  rcases shape with ⟨text, same⟩ | ⟨text, same⟩
  · refine ⟨[⟨.number value, line⟩], .single line rfl, ?_, ?_, ?_, ?_⟩
    · rw [Expr.print, text]
      exact fun rest => endsMark_of_isDigit digit _
    · rintro p rfl -
      rw [Expr.print, text]
      exact cut p
    · rw [Expr.placed, same]
      exact ReadsAddend.number value
    · rw [Expr.placed, same]
      simp [Expr.construct, starred]
  · refine ⟨[⟨.mark "-", line⟩, ⟨.number value, line⟩], ⟨_, _, rfl, rfl, rfl, ?_⟩, ?_, ?_, ?_, ?_⟩
    · rintro _ ⟨⟩ m -
      rfl
    · rw [Expr.print, text]
      rintro rest _ ⟨⟩
      decide
    · rintro p rfl room
      rw [Expr.print, text]
      exact (Cuts.mark (by decide) room.closers).append (cut p) fun rest _ =>
        endsMark_of_isDigit digit _
    · rw [Expr.placed, same]
      exact (ReadsAddend.number value).minus
    · rw [Expr.placed, same]
      simp [Expr.construct, starred]

/-- A text. -/
theorem text (s : String) :
    Prints line d .addend (.constant (.datum (.text s))) [⟨.literal (.text s), line⟩] where
  opening := .single line rfl
  begins := by
    have quotes := quoteFor_eq s.toList
    rintro rest _ ⟨⟩
    rcases quotes with h | h <;> rw [h] <;> decide
  cuts := by
    rintro p rfl -
    have cut := Cuts.text (p := p) s.toList
    rwa [String.ofList_toList] at cut
  reads := ReadsAddend.text s
  plain := by simp [Constant.placed, Expr.construct, starred]

/-- A literal. -/
theorem constant {c : Constant} (plain : c.IsPlain) :
    ∃ ts, Prints line d .addend (.constant c) ts := by
  have natural (n : Nat) : ∃ c tail, naturalText n = c :: tail ∧ c.isDigit := by
    obtain ⟨c, tail, text⟩ := List.exists_cons_of_ne_nil (l := naturalText n) Nat.toDigits_ne_nil
    exact ⟨c, tail, text, IsDigits.naturalText n c (by rw [text]; exact .head _)⟩
  cases c with
  | datum v =>
    cases v with
    | null => exact ⟨_, constantWord (w := "None") (by decide) rfl rfl rfl⟩
    | bool b =>
      cases b
      · exact ⟨_, constantWord (w := "False") (by decide) rfl rfl rfl⟩
      · exact ⟨_, constantWord (w := "True") (by decide) rfl rfl rfl⟩
    | int n =>
      cases n with
      | ofNat n =>
        exact numeral (natural n) (fun rest ends => numeral_naturalText ends plain)
          (.inl ⟨rfl, rfl⟩)
      | negSucc n =>
        exact numeral (natural (n + 1)) (fun rest ends => numeral_naturalText ends plain)
          (.inr ⟨rfl, rfl⟩)
    | float x =>
      cases x with
      | finite negative m e canonical =>
        have begins := magnitudeText_cons .plain m e
        cases negative
        · exact numeral begins (fun rest ends => numeral_magnitudeText canonical ends)
            (.inl ⟨rfl, rfl⟩)
        · exact numeral begins (fun rest ends => numeral_magnitudeText canonical ends)
            (.inr ⟨rfl, rfl⟩)
      | _ => simp [Constant.IsPlain, Binary64.isFinite] at plain
    | text s => exact ⟨_, text s⟩
    | _ => exact plain.elim
  | _ => exact plain.elim

/-- An expression that prints is an item of a list. -/
private theorem item (h : Prints line d .expression e ts) : ReadsItem line (ts, e.placed line) :=
  ⟨h.opening, h.reads, h.plain⟩

/-- A bracket does not make a name of what stands before it. -/
private theorem opening_bracketed {m close : String} (bracket : m ∈ ["(", "[", "\x7b"])
    (closer : close ∈ [")", "]", "\x7d"]) {inner : List Lexeme}
    (opens : ∀ u ∈ inner.head?, u.token.opens) :
    Opening line (⟨.mark m, line⟩ :: (inner ++ [⟨.mark close, line⟩])) := by
  have first : (Token.mark m).opens := by fin_cases bracket <;> rfl
  refine ⟨_, _, rfl, first, rfl, ?_⟩
  obtain _ | ⟨t, inner⟩ := inner
  · rintro _ ⟨⟩ m among
    fin_cases closer <;> fin_cases among <;> rfl
  · rintro _ ⟨⟩ m among
    refine Token.isMark_of_opens (opens t rfl) ?_
    fin_cases among <;> decide

section Items

variable {items : List Expr} {tokens : Expr → List Lexeme}
  (h : ∀ e ∈ items, Prints line d .expression e (tokens e))

include h

/-- The items between brackets begin like operands, and are read one by one. -/
private theorem readsItem : ∀ x ∈ items.map fun e => (tokens e, e.placed line), ReadsItem line x := by
  intro x mem
  obtain ⟨e, among, rfl⟩ := List.mem_map.1 mem
  exact (h e among).item

private theorem opens_commaJoined : ∀ u ∈ (commaJoined line (items.map tokens)).head?,
    u.token.opens := by
  obtain _ | ⟨e, items⟩ := items
  · simp [commaJoined]
  · obtain ⟨t, tail, shape, opens, -⟩ := (h e (.head _)).opening
    rw [List.map_cons, commaJoined, shape]
    rintro _ ⟨⟩
    exact opens

private theorem opens_tupleJoined : ∀ u ∈ (tupleJoined line (items.map tokens)).head?,
    u.token.opens := by
  match items with
  | [] => simp [tupleJoined, commaJoined]
  | [e] =>
    obtain ⟨t, tail, shape, opens, -⟩ := (h e (.head _)).opening
    rw [List.map_singleton, tupleJoined, shape]
    rintro _ ⟨⟩
    exact opens
  | e :: e' :: items => exact opens_commaJoined h

/-- The texts of the items are cut one by one. -/
private theorem cuts_items {p : Place} (at_line : p.line = line) (room : p.Admits d) :
    ∀ x ∈ items.map fun e => (e.print, tokens e), Cuts EndsOperand p x.1 x.2 p := by
  intro x mem
  obtain ⟨e, among, rfl⟩ := List.mem_map.1 mem
  exact (h e among).cuts p at_line room

/-- The texts of the items with commas between them. -/
private theorem cuts_separated {p : Place} (at_line : p.line = line) (room : p.Admits d) :
    Cuts EndsOperand p (separated (Expr.printEach items)) (commaJoined p.line (items.map tokens))
      p := by
  have cut := Cuts.separated room.closers (cuts_items h at_line room)
  rw [List.map_map, List.map_map] at cut
  rw [Expr.printEach_eq]
  exact cut

/-- The texts of the items of a tuple. -/
private theorem cuts_tupleItems {p : Place} (at_line : p.line = line) (room : p.Admits d) :
    Cuts EndsBracket p (tupleItems (Expr.printEach items)) (tupleJoined p.line (items.map tokens))
      p := by
  have cut := Cuts.tupleItems room.closers (cuts_items h at_line room)
  rw [List.map_map, List.map_map] at cut
  rw [Expr.printEach_eq]
  exact cut

/-- Items between square brackets. -/
theorem list : Prints line (d + 1) .primary (.list items .load)
    (⟨.mark "[", line⟩ :: (commaJoined line (items.map tokens) ++ [⟨.mark "]", line⟩])) where
  opening := opening_bracketed (by simp) (by simp) (opens_commaJoined h)
  begins := by
    rintro rest _ ⟨⟩
    decide
  cuts := by
    rintro p rfl room
    have known : ('[', ']') ∈ brackets := by decide
    exact Cuts.bracketed known room fun q at_line room => by
      have cut := (cuts_separated h at_line room).weaken fun _ => EndsBracket.operand
      rwa [at_line] at cut
  reads := by
    have read := ReadsPrimary.list (readsItem h)
    rw [List.map_map, List.map_map] at read
    rw [Expr.placed, Expr.placedEach_eq]
    exact read
  plain := by simp [Expr.construct, starred]

/-- Items between parentheses. -/
theorem tuple : Prints line (d + 1) .primary (.tuple items .load)
    (⟨.mark "(", line⟩ :: (tupleJoined line (items.map tokens) ++ [⟨.mark ")", line⟩])) where
  opening := opening_bracketed (by simp) (by simp) (opens_tupleJoined h)
  begins := by
    rintro rest _ ⟨⟩
    decide
  cuts := by
    rintro p rfl room
    have known : ('(', ')') ∈ brackets := by decide
    exact Cuts.bracketed known room fun q at_line room => by
      have cut := cuts_tupleItems h at_line room
      rwa [at_line] at cut
  reads := by
    have read := ReadsPrimary.tuple (readsItem h)
    rw [List.map_map, List.map_map] at read
    rw [Expr.placed, Expr.placedEach_eq]
    exact read
  plain := by simp [Expr.construct, starred]

/-- A part of a primary, at several indices. -/
theorem subscripts {owner : Expr} (first : Prints line d .primary owner ts)
    (nonempty : items ≠ []) : Prints line (d + 1) .primary (.subscript owner (.tuple items .load) .load)
      (ts ++ ⟨.mark "[", line⟩ :: (tupleJoined line (items.map tokens) ++ [⟨.mark "]", line⟩])) where
  opening := first.opening.append (by simp)
  begins := begins_append first.begins _
  cuts := by
    rintro p rfl room
    have known : ('[', ']') ∈ brackets := by decide
    have text : (if (Expr.printEach items).isEmpty then ['(', ')']
        else tupleItems (Expr.printEach items)) = tupleItems (Expr.printEach items) :=
      if_neg (by simpa using nonempty)
    have behind := Cuts.bracketed (b := EndsOwner) known room fun q at_line room => by
      have cut := cuts_tupleItems h at_line room
      rwa [at_line] at cut
    have less : p.Admits d := ⟨by have := room.1; omega, room.2⟩
    rw [Expr.print, text]
    exact (first.cuts p rfl less).append behind fun rest _ => ⟨'[', by decide, rfl⟩
  reads := by
    have read := ReadsPrimary.subscriptTuple first.reads first.opening (by simpa using nonempty)
      (readsItem h)
    rw [List.map_map, List.map_map] at read
    rw [Expr.placed, Expr.placed, Expr.placedEach_eq]
    exact read
  plain := by simp [Expr.construct, starred]

end Items

/-- A part of a primary, at one index. -/
theorem subscript {owner index : Expr} {ts' : List Lexeme} (first : Prints line d .primary owner ts)
    (inside : Prints line d .expression index ts') (single : ∀ items use, index ≠ .tuple items use) :
    Prints line (d + 1) .primary (.subscript owner index .load)
      (ts ++ ⟨.mark "[", line⟩ :: (ts' ++ [⟨.mark "]", line⟩])) where
  opening := first.opening.append (by simp)
  begins := by
    have text : (Expr.subscript owner index .load).print = owner.print ++ '[' :: (index.print ++ [']']) := by
      rw [Expr.print]
      exact single
    rw [text]
    exact begins_append first.begins _
  cuts := by
    rintro p rfl room
    have known : ('[', ']') ∈ brackets := by decide
    have behind := Cuts.bracketed (b := EndsOwner) known room fun q at_line room =>
      (inside.cuts q at_line room).weaken fun _ => EndsBracket.operand
    have less : p.Admits d := ⟨by have := room.1; omega, room.2⟩
    have text : (Expr.subscript owner index .load).print = owner.print ++ '[' :: (index.print ++ [']']) := by
      rw [Expr.print]
      exact single
    rw [text]
    exact (first.cuts p rfl less).append behind fun rest _ => ⟨'[', by decide, rfl⟩
  reads := ReadsPrimary.subscript first.reads first.opening inside.item
  plain := by simp [Expr.construct, starred]

/-- One key with its value. -/
theorem dict {key value : Expr} {ts' : List Lexeme} (inside : Prints line d .expression key ts)
    (behind : Prints line d .expression value ts') :
    Prints line (d + 1) .primary (.dict [some key] [value])
      (⟨.mark "\x7b", line⟩ :: (ts ++ ⟨.mark ":", line⟩ :: (ts' ++ [⟨.mark "\x7d", line⟩]))) where
  opening := by
    have inner : ∀ u ∈ (ts ++ ⟨.mark ":", line⟩ :: ts').head?, u.token.opens := by
      obtain ⟨t, tail, rfl, opens, -⟩ := inside.opening
      rintro _ ⟨⟩
      exact opens
    have whole : Opening line (⟨.mark "\x7b", line⟩ ::
        ((ts ++ ⟨.mark ":", line⟩ :: ts') ++ [⟨.mark "\x7d", line⟩])) :=
      opening_bracketed (by simp) (by simp) inner
    rwa [List.append_assoc] at whole
  begins := by
    rintro rest _ ⟨⟩
    decide
  cuts := by
    rintro p rfl room
    have known : ('\x7b', '\x7d') ∈ brackets := by decide
    have cut := Cuts.bracketed (b := EndsOwner) known room fun q at_line room => by
      have colon : Cuts AnyBorder q [':', ' '] [⟨.mark ":", q.line⟩] q :=
        (Cuts.mark (by decide) room.closers).append Cuts.space fun rest _ => endsMark_space rest
      have second := colon.append_any (behind.cuts q at_line room)
      rw [at_line] at second
      exact ((inside.cuts q at_line room).append second fun rest _ => .cons (by decide)).weaken
        fun _ => EndsBracket.operand
    change Cuts EndsOwner p _ _ p
    simpa [Expr.printEach, Expr.printKeys, separated, Datum.joinWith] using cut
  reads := ReadsPrimary.dict inside.item behind.item
  plain := by simp [Expr.construct, starred]

/-- A named argument: its name, and its value behind an equals sign. -/
private theorem cuts_keyword {label : String} (h : Prints line d .expression e ts)
    (free : IsName label) {p : Place} (at_line : p.line = line) (room : p.Admits d) :
    Cuts EndsOperand p (label.toList ++ '=' :: e.print)
      (⟨.word label, line⟩ :: ⟨.mark "=", line⟩ :: ts) p := by
  subst at_line
  have name := Cuts.word (p := p) free.1
  rw [String.ofList_toList] at name
  have sign : Cuts EndsMark p ['='] [⟨.mark "=", p.line⟩] p := Cuts.mark (by decide) room.closers
  have value := sign.append (h.cuts p rfl room) fun rest _ => h.begins rest
  exact name.append value fun rest _ => by
    rintro _ ⟨⟩
    decide

section Call

variable {callee : Expr} {args : List Expr} {keywords : List Keyword}
  {tokens : Expr → List Lexeme} {tokens' : Keyword → List Lexeme}

/-- The arguments of a call as they are read back. -/
def arguments (line : Nat) (tokens : Expr → List Lexeme) (tokens' : Keyword → List Lexeme)
    (args : List Expr) (keywords : List Keyword) : List Argument :=
  args.map (fun e => ⟨tokens e, none, e.placed line⟩) ++
    keywords.map fun k => ⟨tokens' k, k.name, k.value.placed line⟩

theorem printKeywords_eq
    (labels : ∀ k ∈ keywords, ∃ label, k.name = some label ∧ IsName label) :
    Expr.printKeywords keywords =
      keywords.map fun k => (k.name.getD "").toList ++ '=' :: k.value.print := by
  induction keywords with
  | nil => simp [Expr.printKeywords]
  | cons k keywords ih =>
    obtain ⟨label, name, -⟩ := labels k (.head _)
    obtain ⟨_, label, value⟩ := k
    obtain rfl : label = some _ := name
    rw [Expr.printKeywords, ih fun k mem => labels k (.tail _ mem)]
    rfl

/-- The order of the arguments is kept: those by position first. -/
theorem namedLast_arguments
    (labels : ∀ k ∈ keywords, ∃ label, k.name = some label ∧ IsName label) :
    NamedLast false (arguments line tokens tokens' args keywords) := by
  have named (b : Bool) : NamedLast b (arguments line tokens tokens' [] keywords) := by
    induction keywords generalizing b with
    | nil => trivial
    | cons k keywords ih =>
      obtain ⟨label, name, -⟩ := labels k (.head _)
      exact ⟨fun _ => by simp [name], ih (fun k mem => labels k (.tail _ mem)) _⟩
  induction args with
  | nil => exact named false
  | cons e args ih => exact ⟨by simp, ih⟩

/-- The arguments are given as they stand in the call. -/
theorem foldl_give_arguments (line : Nat) (tokens : Expr → List Lexeme)
    (tokens' : Keyword → List Lexeme) (args : List Expr) (keywords : List Keyword)
    (labels : ∀ k ∈ keywords, ∃ label, k.name = some label ∧ IsName label) :
    let given := (arguments line tokens tokens' args keywords).foldl (Argument.give line)
      ⟨[], [], false, false⟩
    given.args.reverse = args.map (Expr.placed line) ∧
      given.keywords.reverse = keywords.map fun k => .mk line k.name (k.value.placed line) := by
  intro given
  have positional (as : List Expr) (given : Inner.Arguments) :
      (as.map fun e => (⟨tokens e, none, e.placed line⟩ : Argument)).foldl (Argument.give line) given =
        { given with args := (as.map (Expr.placed line)).reverse ++ given.args } := by
    induction as generalizing given with
    | nil => rfl
    | cons e as ih => simp [ih, Argument.give]
  have named (ks : List Keyword) (given : Inner.Arguments)
      (labels : ∀ k ∈ ks, ∃ label, k.name = some label ∧ IsName label) :
      let result := (ks.map fun k => (⟨tokens' k, k.name, k.value.placed line⟩ : Argument)).foldl
        (Argument.give line) given
      result.args = given.args ∧ result.keywords =
        (ks.map fun k => .mk line k.name (k.value.placed line)).reverse ++ given.keywords := by
    induction ks generalizing given with
    | nil => exact ⟨rfl, rfl⟩
    | cons k ks ih =>
      obtain ⟨label, name, -⟩ := labels k (.head _)
      have others := ih (Argument.give line given ⟨tokens' k, k.name, k.value.placed line⟩)
        fun k mem => labels k (.tail _ mem)
      simpa [Argument.give, name] using others
  have all := named keywords
    { args := (args.map (Expr.placed line)).reverse, keywords := [], named := false,
      unpacked := false } labels
  have split : given = (keywords.map fun k =>
      (⟨tokens' k, k.name, k.value.placed line⟩ : Argument)).foldl (Argument.give line)
        { args := (args.map (Expr.placed line)).reverse, keywords := [], named := false,
          unpacked := false } := by
    simp only [given, arguments, List.foldl_append, positional, List.append_nil]
  rw [split, all.1, all.2]
  simp

variable (values : ∀ e ∈ args, Prints line d .expression e (tokens e))
  (named : ∀ k ∈ keywords, Prints line d .expression k.value (tokens' k))
  (labels : ∀ k ∈ keywords, ∃ label, k.name = some label ∧ IsName label)

include values named labels

/-- The arguments of a call with commas between them. -/
private theorem cuts_arguments {p : Place} (at_line : p.line = line) (room : p.Admits d) :
    Cuts EndsOperand p (separated (Expr.printEach args ++ Expr.printKeywords keywords))
      (commaJoined p.line ((arguments line tokens tokens' args keywords).map
        (Argument.labelled line))) p := by
  let pieces : List (List Char × List Lexeme) := args.map (fun e => (e.print, tokens e)) ++
    keywords.map fun k => ((k.name.getD "").toList ++ '=' :: k.value.print,
      ⟨.word (k.name.getD ""), line⟩ :: ⟨.mark "=", line⟩ :: tokens' k)
  have texts : pieces.map Prod.fst = Expr.printEach args ++ Expr.printKeywords keywords := by
    rw [printKeywords_eq labels, Expr.printEach_eq, List.map_append, List.map_map, List.map_map]
    rfl
  have shapes : pieces.map Prod.snd = (arguments line tokens tokens' args keywords).map
      (Argument.labelled line) := by
    rw [arguments, List.map_append, List.map_append, List.map_map, List.map_map, List.map_map,
      List.map_map]
    congr 1
    refine List.map_congr_left fun k mem => ?_
    obtain ⟨label, name, -⟩ := labels k mem
    simp [Argument.labelled, name]
  rw [← texts, ← shapes]
  refine Cuts.separated room.closers fun x mem => ?_
  rcases List.mem_append.1 mem with mem | mem
  · obtain ⟨e, among, rfl⟩ := List.mem_map.1 mem
    exact (values e among).cuts p at_line room
  · obtain ⟨k, among, rfl⟩ := List.mem_map.1 mem
    obtain ⟨label, name, free⟩ := labels k among
    simp only [name, Option.getD_some]
    exact cuts_keyword (named k among) free at_line room

theorem readsArgument_arguments :
    ∀ a ∈ arguments line tokens tokens' args keywords, ReadsArgument line a := by
  intro a mem
  rcases List.mem_append.1 mem with mem | mem
  · obtain ⟨e, among, rfl⟩ := List.mem_map.1 mem
    exact ⟨(values e among).item, by simp⟩
  · obtain ⟨k, among, rfl⟩ := List.mem_map.1 mem
    obtain ⟨label, name, free⟩ := labels k among
    refine ⟨(named k among).item, fun other same => ?_⟩
    obtain rfl : label = other := Option.some.inj (name.symm.trans same)
    exact free.2

/-- The call of a primary. -/
theorem call (first : Prints line d .primary callee ts) :
    Prints line (d + 1) .primary (.call callee args keywords) (ts ++ ⟨.mark "(", line⟩ ::
      (commaJoined line ((arguments line tokens tokens' args keywords).map
        (Argument.labelled line)) ++ [⟨.mark ")", line⟩])) where
  opening := first.opening.append (by simp)
  begins := begins_append first.begins _
  cuts := by
    rintro p rfl room
    have known : ('(', ')') ∈ brackets := by decide
    have behind := Cuts.bracketed (b := EndsOwner) known room fun q at_line room => by
      have cut := cuts_arguments values named labels at_line room
      rw [at_line] at cut
      exact cut.weaken fun _ => EndsBracket.operand
    have less : p.Admits d := ⟨by have := room.1; omega, room.2⟩
    exact (first.cuts p rfl less).append behind fun rest _ => ⟨'(', by decide, rfl⟩
  reads := by
    have read := ReadsPrimary.call first.reads first.opening
      (readsArgument_arguments values named labels) (namedLast_arguments labels)
    obtain ⟨positional, keyed⟩ := foldl_give_arguments line tokens tokens' args keywords labels
    rw [positional, keyed] at read
    rw [Expr.placed, Expr.placedEach_eq, Expr.placedKeywords_eq]
    exact read
  plain := by simp [Expr.construct, starred]

end Call

end Prints

/-- The text of every readable expression is cut into tokens that read as the expression. -/
theorem Readable.prints {d : Nat} {s : Strength} {e : Expr} (h : Readable d s e) (line : Nat) :
    ∃ ts, Prints line d s e ts := by
  induction h with
  | name free => exact ⟨_, .name free⟩
  | member _ free ih =>
    obtain ⟨ts, first⟩ := ih
    exact ⟨_, first.member free⟩
  | call _ _ _ labels ih ihArgs ihNamed =>
    obtain ⟨ts, first⟩ := ih
    choose! tokens values using ihArgs
    choose! tokens' named using ihNamed
    exact ⟨_, .call values named labels first⟩
  | subscript _ _ single ih ihInside =>
    obtain ⟨ts, first⟩ := ih
    obtain ⟨ts', inside⟩ := ihInside
    exact ⟨_, first.subscript inside single⟩
  | subscripts _ nonempty _ ih ihInside =>
    obtain ⟨ts, first⟩ := ih
    choose! tokens inside using ihInside
    exact ⟨_, .subscripts inside first nonempty⟩
  | list _ ih =>
    choose! tokens inside using ih
    exact ⟨_, .list inside⟩
  | tuple _ ih =>
    choose! tokens inside using ih
    exact ⟨_, .tuple inside⟩
  | dict _ _ ih ih' =>
    obtain ⟨ts, inside⟩ := ih
    obtain ⟨ts', behind⟩ := ih'
    exact ⟨_, inside.dict behind⟩
  | constant plain => exact Prints.constant plain
  | add _ _ ih ih' =>
    obtain ⟨ts, first⟩ := ih
    obtain ⟨ts', last⟩ := ih'
    exact ⟨_, first.add last⟩
  | compare _ _ known ih ih' =>
    obtain ⟨ts, first⟩ := ih
    obtain ⟨ts', last⟩ := ih'
    obtain ⟨t, whole⟩ := first.compare last known
    exact ⟨_, whole⟩
  | addend _ ih => exact ih.imp fun _ => Prints.addend
  | sum _ ih => exact ih.imp fun _ => Prints.sum
  | comparand _ ih => exact ih.imp fun _ => Prints.comparand
  | expression _ ih => exact ih.imp fun _ => Prints.expression

end FlatRecord.Script
