import FlatRecord.Proofs.Script.PrintedExpressions

/-!
# Texts inside a line

The text of an expression stands on one line: it holds no line feed, and none of the two characters
that a source text must not hold. Its first character is none that the beginning of a line would be
skipped for.
-/

namespace FlatRecord.Script

open FlatRecord.Number FlatRecord.Text

/-- A text without line breaks and null characters. -/
def IsInline (cs : List Char) : Prop := ∀ c ∈ cs, c ∉ ['\n', '\r', '\x00']

instance : DecidablePred IsInline := fun cs =>
  inferInstanceAs (Decidable (∀ c ∈ cs, c ∉ ['\n', '\r', '\x00']))

/-- A text that begins with neither a blank, a comment nor the end of a line. -/
def IsShown (cs : List Char) : Prop :=
  ∃ c tail, cs = c :: tail ∧ c ∉ [' ', '\t', '\x0c', '\\', '\n', '#']

theorem IsShown.append {cs : List Char} (h : IsShown cs) (ds : List Char) : IsShown (cs ++ ds) := by
  obtain ⟨c, tail, rfl, shown⟩ := h
  exact ⟨c, tail ++ ds, rfl, shown⟩

namespace IsInline

variable {c : Char} {cs ds : List Char}

theorem nil : IsInline [] := List.forall_mem_nil _

theorem cons (h : c ∉ ['\n', '\r', '\x00']) (hs : IsInline cs) : IsInline (c :: cs) :=
  List.forall_mem_cons.2 ⟨h, hs⟩

theorem append (hc : IsInline cs) (hd : IsInline ds) : IsInline (cs ++ ds) :=
  List.forall_mem_append.2 ⟨hc, hd⟩

theorem digits (h : IsDigits cs) : IsInline cs := by
  intro c mem among
  have digit := h c mem
  fin_cases among <;> exact absurd digit (by decide)

theorem word (h : Naming.isWord cs) : IsInline cs := by
  obtain _ | ⟨c, cs⟩ := cs
  · exact nil
  obtain ⟨initial, following⟩ : Naming.isInitial c ∧ ∀ d ∈ cs, Naming.isFollowing d := by
    simpa [Naming.isWord] using h
  refine cons (fun among => ?_) fun d mem among => ?_
  · fin_cases among <;> exact absurd initial (by decide)
  · have follows := following d mem
    fin_cases among <;> exact absurd follows (by decide)

theorem quoted (cs : List Char) : IsInline (quote cs) :=
  fun _ mem among => not_mem_quote cs among mem

/-- Digits with a point among them. -/
private theorem positional (h : IsDigits cs) (place : Int) : IsInline (positional cs place) := by
  unfold Number.positional
  split
  · exact cons (by decide) (cons (by decide)
      (append (digits (IsDigits.replicate_zero _)) (digits h)))
  · refine append (append (digits (h.take _)) (digits (IsDigits.replicate_zero _)))
      (cons (by decide) ?_)
    split
    · exact cons (by decide) nil
    · exact digits (h.drop _)

/-- Digits with an exponent. -/
private theorem exponential (h : IsDigits cs) (width : Nat) (place : Int) :
    IsInline (exponential width cs place) := by
  have exponent : IsInline (padDigits width (naturalText (place - 1).natAbs)) :=
    append (digits (IsDigits.replicate_zero _)) (digits (IsDigits.naturalText _))
  have mark : (if place - 1 < 0 then '-' else '+') ∉ ['\n', '\r', '\x00'] := by
    split <;> decide
  refine append ?_ (cons (by decide) (cons mark exponent))
  split
  · next first second rest =>
    have whole := List.forall_mem_cons.1 h
    exact cons (digits h _ (.head _)) (cons (by decide) (digits whole.2))
  · exact digits h

/-- The absolute value of a number. -/
theorem magnitudeText (layout : FloatLayout) (m : Nat) (e : Int) :
    IsInline (layout.magnitudeText m e) := by
  unfold FloatLayout.magnitudeText
  extract_lets shortest shown place
  have digits : IsDigits shown := IsDigits.naturalText _
  split
  · exact positional digits place
  · exact exponential digits _ place

/-- Pieces with commas between them. -/
theorem separated {pieces : List (List Char)} (h : ∀ x ∈ pieces, IsInline x) :
    IsInline (separated pieces) := by
  induction pieces with
  | nil => exact nil
  | cons x pieces ih =>
    have first := h x (.head _)
    have others := ih fun y mem => h y (.tail _ mem)
    obtain _ | ⟨y, pieces⟩ := pieces
    · exact first
    · have comma : IsInline [',', ' '] := cons (by decide) (cons (by decide) nil)
      simpa [Script.separated, Datum.joinWith] using first.append (comma.append others)

/-- Items of a tuple. -/
theorem tupleItems {pieces : List (List Char)} (h : ∀ x ∈ pieces, IsInline x) :
    IsInline (tupleItems pieces) := by
  match pieces with
  | [x] => exact (h x (.head _)).append (cons (by decide) nil)
  | [] => exact nil
  | x :: y :: pieces => exact separated h

/-- The texts of expressions. -/
private theorem printEach {items : List Expr} (h : ∀ e ∈ items, IsInline e.print) :
    ∀ x ∈ Expr.printEach items, IsInline x := by
  intro x mem
  rw [Expr.printEach_eq] at mem
  obtain ⟨e, among, rfl⟩ := List.mem_map.1 mem
  exact h e among

/-- A text between brackets. -/
theorem bracketed {close : Char} (h : IsInline cs) (before : c ∉ ['\n', '\r', '\x00'])
    (behind : close ∉ ['\n', '\r', '\x00']) : IsInline (c :: (cs ++ [close])) :=
  cons before (h.append (cons behind nil))

/-- A literal. -/
theorem constant {value : Constant} (plain : value.IsPlain) : IsInline value.print := by
  cases value with
  | datum v =>
    cases v with
    | null => exact word (by decide)
    | bool b => cases b <;> exact word (by decide)
    | int n =>
      cases n with
      | ofNat n => exact digits (IsDigits.naturalText n)
      | negSucc n => exact cons (by decide) (digits (IsDigits.naturalText (n + 1)))
    | float x =>
      cases x with
      | finite negative m e canonical =>
        cases negative
        · exact magnitudeText _ m e
        · exact cons (by decide) (magnitudeText _ m e)
      | _ => simp [Constant.IsPlain, Binary64.isFinite] at plain
    | text s => exact quoted s.toList
    | _ => exact plain.elim
  | _ => exact plain.elim

end IsInline

/-- The text of an expression stands on one line. -/
theorem Readable.inline {d : Nat} {s : Strength} {e : Expr} (h : Readable d s e) :
    IsInline e.print := by
  induction h with
  | name free => exact .word free.1
  | member _ free ih => exact ih.append (.cons (by decide) (.word free.1))
  | call _ _ _ labels ih ihArgs ihNamed =>
    refine ih.append (.bracketed (.separated fun x mem => ?_) (by decide) (by decide))
    rw [Prints.printKeywords_eq labels] at mem
    rcases List.mem_append.1 mem with mem | mem
    · exact IsInline.printEach ihArgs x mem
    · obtain ⟨k, among, rfl⟩ := List.mem_map.1 mem
      obtain ⟨label, name, free⟩ := labels k among
      simp only [name, Option.getD_some]
      exact (IsInline.word free.1).append (.cons (by decide) (ihNamed k among))
  | subscript _ _ single ih ihInside =>
    rw [Expr.print]
    · exact ih.append (.bracketed ihInside (by decide) (by decide))
    · exact single
  | subscripts _ nonempty _ ih ihInside =>
    rw [Expr.print]
    simp only [Expr.printEach_eq, List.isEmpty_iff, List.map_eq_nil_iff, nonempty, if_false]
    rw [← Expr.printEach_eq]
    exact ih.append (.bracketed (.tupleItems (IsInline.printEach ihInside)) (by decide) (by decide))
  | list _ ih => exact .bracketed (.separated (IsInline.printEach ih)) (by decide) (by decide)
  | tuple _ ih => exact .bracketed (.tupleItems (IsInline.printEach ih)) (by decide) (by decide)
  | dict _ _ ih ih' =>
    have colon : IsInline [':', ' '] := .cons (by decide) (.cons (by decide) .nil)
    have entry := (ih.append colon).append ih'
    refine .bracketed (.separated fun x mem => ?_) (by decide) (by decide)
    simp only [Expr.printKeys, Expr.printEach, List.zip_cons_cons, List.zip_nil_left,
      List.map_cons, List.map_nil, List.mem_singleton] at mem
    exact mem ▸ entry
  | constant plain => exact .constant plain
  | add _ _ ih ih' =>
    have sign : IsInline BinaryOp.add.print := by
      intro c mem
      revert c
      decide
    exact (ih.append sign).append ih'
  | compare _ _ known ih ih' =>
    have sign : ∀ op, op = CompareOp.equal ∨ op = .same → IsInline op.print := by
      rintro op (rfl | rfl) <;> intro c mem <;> revert c <;> decide
    have text : ∀ op e, comparisonPieces [op] (Expr.printEach [e]) = op.print ++ e.print := by
      simp [comparisonPieces]
    rw [Expr.print, text]
    exact ih.append ((sign _ known).append ih')
  | addend _ ih => exact ih
  | sum _ ih => exact ih
  | comparand _ ih => exact ih
  | expression _ ih => exact ih

end FlatRecord.Script
