import FlatRecord.Proofs.Json.WrittenData

/-!
# Layouts of JSON text

The two layouts of a value in a document differ in the blanks between tokens only, and there is a value
without a JSON form in the one exactly if there is in the other.
-/

namespace FlatRecord

/-- Two outcomes are alike: both are the same fault, or their results are related. -/
inductive Alike {ε α β : Type} (related : α → β → Prop) : Except ε α → Except ε β → Prop where
  | error (e : ε) : Alike related (.error e) (.error e)
  | ok {a : α} {b : β} (results : related a b) : Alike related (.ok a) (.ok b)

/-- Steps that are alike are so in a row. -/
theorem Alike.bind {ε α β α' β' : Type} {related : α → β → Prop} {related' : α' → β' → Prop}
    {x : Except ε α} {y : Except ε β} (first : Alike related x y) {f : α → Except ε α'}
    {g : β → Except ε β'} (second : ∀ a b, related a b → Alike related' (f a) (g b)) :
    Alike related' (x >>= f) (y >>= g) := by
  cases first with
  | error e => exact .error e
  | ok results => exact second _ _ results

namespace Json

open FlatRecord.Number FlatRecord.Text

/-- A text without the blanks between its tokens, from the inside of a string on or from between tokens. -/
def shrink : (inside : Bool) → List Char → List Char
  | _, [] => []
  | true, '\\' :: c :: rest => '\\' :: c :: shrink true rest
  | true, c :: rest => c :: shrink (c != '"') rest
  | false, c :: rest => if isSpace c then shrink false rest else c :: shrink (c == '"') rest

/-- A text that is another one but for blanks between tokens. -/
def Shrinks (text text' : List Char) : Prop :=
  ∀ rest, shrink false (text ++ rest) = text' ++ shrink false rest

section Shrinks

variable {cs ds cs' ds' : List Char}

theorem Shrinks.append (first : Shrinks cs cs') (second : Shrinks ds ds') :
    Shrinks (cs ++ ds) (cs' ++ ds') := by
  intro rest
  rw [List.append_assoc, first, second, List.append_assoc]

theorem IsBlank.shrinks (blank : IsBlank cs) : Shrinks cs [] := by
  intro rest
  induction cs with
  | nil => rfl
  | cons c cs ih =>
    obtain ⟨first, others⟩ := List.forall_mem_cons.1 blank
    rw [List.cons_append, shrink, if_pos first]
    exact ih others

/-- A token that is no string stays as it is. -/
theorem shrinks_token (token : (cs.all fun c => !isSpace c && c != '"') = true) : Shrinks cs cs := by
  intro rest
  induction cs with
  | nil => rfl
  | cons c cs ih =>
    simp only [List.all_cons, Bool.and_eq_true, Bool.not_eq_true', bne_iff_ne] at token
    obtain ⟨⟨plain, other⟩, others⟩ := token
    rw [List.cons_append, shrink, plain, if_neg Bool.false_ne_true, beq_false_of_ne other, ih others]
    rfl

/-- Characters of a string that stand for themselves stay. -/
private theorem shrink_plain (plain : ∀ c ∈ cs, c ≠ '\\' ∧ c ≠ '"') (rest : List Char) :
    shrink true (cs ++ rest) = cs ++ shrink true rest := by
  induction cs with
  | nil => rfl
  | cons c cs ih =>
    obtain ⟨⟨straight, other⟩, others⟩ := List.forall_mem_cons.1 plain
    rw [List.cons_append, shrink]
    · rw [bne_iff_ne.2 other, ih others]
      rfl
    · rintro d more rfl
      exact absurd rfl straight

/-- A character of a string stays. -/
private theorem shrink_documentChar (c : Char) (rest : List Char) :
    shrink true (documentChar c ++ rest) = documentChar c ++ shrink true rest := by
  have escaped {letters : List Char} (d : Char) (plain : ∀ c ∈ letters, c ≠ '\\' ∧ c ≠ '"') :
      shrink true ('\\' :: d :: letters ++ rest) = '\\' :: d :: letters ++ shrink true rest := by
    show '\\' :: d :: shrink true (letters ++ rest) = _
    rw [shrink_plain plain]
    rfl
  have control (n : Nat) (small : n < 0x20) : ∀ c ∈ hexDigits 4 n, c ≠ '\\' ∧ c ≠ '"' := by
    have each : ∀ n < 0x20, ((hexDigits 4 n).all fun c => c != '\\' && c != '"') = true := by decide
    simpa using each n small
  unfold documentChar
  split_ifs with quote backslash
  case neg => exact shrink_plain (by simp [quote, backslash]) rest
  all_goals first
    | exact escaped _ (List.forall_mem_nil _)
    | exact escaped 'u' (control _ ‹_›)

/-- A string stays as it is. -/
theorem shrinks_documentString (s : String) : Shrinks (documentString s) (documentString s) := by
  have inside (cs rest : List Char) : shrink true (cs.flatMap documentChar ++ '"' :: rest) =
      cs.flatMap documentChar ++ '"' :: shrink false rest := by
    induction cs with
    | nil => rfl
    | cons c cs ih =>
      rw [List.flatMap_cons, List.append_assoc, shrink_documentChar, ih, List.append_assoc]
  intro rest
  have shape : documentString s ++ rest = '"' :: (s.toList.flatMap documentChar ++ '"' :: rest) := by
    simp [documentString]
  rw [shape]
  show '"' :: shrink true _ = _
  rw [inside]
  simp [documentString]

/-- The text of a number stays as it is. -/
private theorem shrinks_number (number : ∀ c ∈ cs, InNumber c) : Shrinks cs cs := by
  refine shrinks_token (List.all_eq_true.2 fun c mem => ?_)
  exact (number c mem).elim (P := fun c => (!isSpace c && c != '"') = true) (by decide) (by decide)

private theorem shrinks_documentNumber (x : Binary64) :
    Shrinks (documentNumber x) (documentNumber x) := by
  cases x with
  | finite negative m e canonical =>
    exact shrinks_number (inNumber_magnitudeText .json negative m e)
  | infinite negative => exact shrinks_token (by cases negative <;> decide)
  | nan => exact shrinks_token (by decide)

private theorem shrinks_mark {c : Char} (mark : c ∈ ['[', ']', '\x7b', '\x7d', ',', ':']) :
    Shrinks [c] [c] := by
  simp only [List.mem_cons, List.not_mem_nil, or_false] at mark
  obtain rfl | rfl | rfl | rfl | rfl | rfl := mark <;> exact shrinks_token (by decide)

end Shrinks

/-- Keys look alike in both layouts. -/
private theorem alike_keyText (k : Datum) :
    Alike Shrinks (keyText (.document .indented) k) (keyText (.document .compact) k) := by
  show Alike Shrinks (keyText (.document .compact) k) _
  cases written : keyText (.document .compact) k with
  | error e => exact .error e
  | ok cs =>
    rw [keyText_eq_ok written]
    exact .ok (shrinks_documentString _)

private theorem shrinks_lineBreak (depth depth' : Nat) :
    Shrinks (Layout.indented.lineBreak depth) (Layout.compact.lineBreak depth') :=
  (isBlank_lineBreak .indented depth).shrinks

private theorem shrinks_colon : Shrinks Layout.indented.colon Layout.compact.colon :=
  (shrinks_mark (c := ':') (by decide)).append (IsBlank.shrinks (List.forall_mem_singleton.2 rfl))

mutual

/-- What is written of a value looks alike in both layouts. -/
theorem alike_write : ∀ (v : Datum) (depth depth' : Nat),
    Alike Shrinks (write (.document .indented) depth v) (write (.document .compact) depth' v)
  | .null, _, _ => .ok (shrinks_token (by decide))
  | .bool b, _, _ => .ok (shrinks_token (by cases b <;> decide))
  | .int n, _, _ => .ok (shrinks_number (inNumber_integerText n))
  | .float x, _, _ => .ok (shrinks_documentNumber x)
  | .text s, _, _ => .ok (shrinks_documentString s)
  | .list [], _, _ => .ok (shrinks_token (by decide))
  | .list (x :: xs), depth, depth' => by
    rw [write, write, List.isEmpty_cons, if_neg Bool.false_ne_true, if_neg Bool.false_ne_true]
    refine (alike_writeItems (x :: xs) (depth + 1) (depth' + 1)).bind fun body body' shrinks => .ok ?_
    exact (shrinks_mark (c := '[') (by decide)).append ((shrinks.append
      (shrinks_lineBreak depth depth')).append (shrinks_mark (by decide)))
  | .map [], _, _ => .ok (shrinks_token (by decide))
  | .map (e :: es), depth, depth' => by
    rw [write, write, List.isEmpty_cons, if_neg Bool.false_ne_true, if_neg Bool.false_ne_true]
    refine (alike_writeEntries (e :: es) (depth + 1) (depth' + 1)).bind
      fun body body' shrinks => .ok ?_
    exact (shrinks_mark (c := '\x7b') (by decide)).append ((shrinks.append
      (shrinks_lineBreak depth depth')).append (shrinks_mark (by decide)))
  | .bytes _, _, _ | .date _, _, _ | .dateTime _, _, _ | .decimal _, _, _ | .set _, _, _ => .error _

theorem alike_writeItems : ∀ (xs : List Datum) (depth depth' : Nat),
    Alike Shrinks (writeItems (.document .indented) depth xs)
      (writeItems (.document .compact) depth' xs)
  | [], _, _ => .ok (shrinks_token rfl)
  | [x], depth, depth' => by
    rw [writeItems, writeItems]
    exact (alike_write x depth depth').bind fun item item' shrinks =>
      .ok ((shrinks_lineBreak depth depth').append shrinks)
  | x :: y :: ys, depth, depth' => by
    rw [writeItems_cons, writeItems_cons]
    refine (alike_write x depth depth').bind fun item item' first => ?_
    refine (alike_writeItems (y :: ys) depth depth').bind fun more more' others => .ok ?_
    exact ((shrinks_lineBreak depth depth').append first).append
      ((shrinks_mark (c := ',') (by decide)).append others)

theorem alike_writeEntries : ∀ (es : List (Datum × Datum)) (depth depth' : Nat),
    Alike Shrinks (writeEntries (.document .indented) depth es)
      (writeEntries (.document .compact) depth' es)
  | [], _, _ => .ok (shrinks_token rfl)
  | [(k, v)], depth, depth' => by
    rw [writeEntries, writeEntries]
    refine (alike_keyText k).bind fun key key' name => ?_
    exact (alike_write v depth depth').bind fun item item' shrinks =>
      .ok ((((shrinks_lineBreak depth depth').append name).append shrinks_colon).append shrinks)
  | (k, v) :: e :: es, depth, depth' => by
    rw [writeEntries_cons, writeEntries_cons]
    refine (alike_keyText k).bind fun key key' name => ?_
    refine (alike_write v depth depth').bind fun item item' first => ?_
    refine (alike_writeEntries (e :: es) depth depth').bind fun more more' others => .ok ?_
    exact ((((shrinks_lineBreak depth depth').append name).append shrinks_colon).append first).append
      ((shrinks_mark (c := ',') (by decide)).append others)

end

end Json

end FlatRecord
