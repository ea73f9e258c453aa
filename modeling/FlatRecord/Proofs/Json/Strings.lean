import FlatRecord.Json.Reader
import FlatRecord.Json.Writer
import Mathlib.Tactic.Common

/-!
# Strings in JSON text

A text in a document, between its quotes, is read as the text, whatever characters it holds.
-/

namespace FlatRecord.Json

open FlatRecord.Text

/-- The escape of a control character is read as the character. -/
private theorem stringRest_unitEscape (start : Nat) {n : Nat} (control : n < 0x20) {tail : List Char}
    (behind : tail ≠ []) (position : Nat) (read : List Char) :
    stringRest start (unitEscape n ++ tail) position read =
      stringRest start tail (position + 6) (Char.ofNat n :: read) := by
  have digits : ∀ n < 0x20, ∃ a b c d, hexDigits 4 n = [a, b, c, d] ∧ hexQuad? a b c d = some n := by
    intro n control
    refine ⟨hexDigit (n / 16 / 16 / 16), hexDigit (n / 16 / 16), hexDigit (n / 16), hexDigit n, rfl, ?_⟩
    revert n
    decide
  obtain ⟨a, b, c, d, shape, value⟩ := digits n control
  obtain ⟨x, rest, rfl⟩ := List.exists_cons_of_ne_nil behind
  have high : ¬ (0xd800 ≤ n ∧ n < 0xdc00) := by omega
  have surrogate : ¬ (0xd800 ≤ n ∧ n < 0xe000) := by omega
  rw [unitEscape, shape]
  show stringRest start ('\\' :: 'u' :: a :: b :: c :: d :: x :: rest) position read = _
  rw [stringRest.eq_def]
  -- A further escape may stand behind this one, but the two are no pair of surrogates.
  split
  · rename_i h
    cases h
  · rename_i h
    cases h
  · rename_i h
    simp only [List.cons.injEq, true_and] at h
    obtain ⟨rfl, rfl, rfl, rfl, rfl, rfl⟩ := h
    simp [value, high]
  · rename_i h
    simp only [List.cons.injEq, true_and] at h
    obtain ⟨rfl, rfl, rfl, rfl, rfl, rfl⟩ := h
    simp [value, surrogate]
  · rename_i apart h
    simp only [List.cons.injEq, true_and] at h
    exact (apart _ _ _ _ _ _ h.symm).elim
  · rename_i apart h
    simp only [List.cons.injEq, true_and] at h
    exact absurd h.1.symm apart
  · rename_i apart h
    exact (apart _ _ (List.cons_eq_cons.1 h).1.symm (List.cons_eq_cons.1 h).2.symm).elim

/-- The escape of a character by a letter is read as the character. -/
private theorem stringRest_shortEscape (start : Nat) {letter c : Char} (other : letter ≠ 'u')
    (meant : shortEscape? letter = some c) (tail : List Char) (position : Nat) (read : List Char) :
    stringRest start (['\\', letter] ++ tail) position read =
      stringRest start tail (position + 2) (c :: read) := by
  simp [stringRest, other, meant]

/-- A character of a document's string is read as itself. -/
private theorem stringRest_documentChar (start : Nat) (c : Char) {tail : List Char} (behind : tail ≠ [])
    (position : Nat) (read : List Char) : ∃ position',
      stringRest start (documentChar c ++ tail) position read =
        stringRest start tail position' (c :: read) := by
  have short {letter : Char} (other : letter ≠ 'u') (meant : shortEscape? letter = some c) :
      ∃ position', stringRest start (['\\', letter] ++ tail) position read =
        stringRest start tail position' (c :: read) :=
    ⟨_, stringRest_shortEscape start other meant tail position read⟩
  unfold documentChar
  split_ifs with quote backslash feed ret tab back form control
  · exact short (by decide) (by rw [quote]; rfl)
  · exact short (by decide) (by rw [backslash]; rfl)
  · exact short (by decide) (by rw [feed]; rfl)
  · exact short (by decide) (by rw [ret]; rfl)
  · exact short (by decide) (by rw [tab]; rfl)
  · exact short (by decide) (by rw [back]; rfl)
  · exact short (by decide) (by rw [form]; rfl)
  · have same := stringRest_unitEscape start control behind position read
    rw [Char.ofNat_toNat] at same
    exact ⟨_, same⟩
  · refine ⟨position + 1, ?_⟩
    show stringRest start (c :: tail) position read = _
    simp [stringRest, quote, backslash, control]

/-- The characters of a document's string are read up to its closing quote. -/
theorem stringRest_documentString (start : Nat) (cs rest : List Char) (position : Nat)
    (read : List Char) : ∃ position',
      stringRest start (cs.flatMap documentChar ++ '"' :: rest) position read =
        .ok (String.ofList (read.reverse ++ cs), rest, position') := by
  induction cs generalizing position read with
  | nil =>
    refine ⟨position + 1, ?_⟩
    show stringRest start ('"' :: rest) position read = _
    simp [stringRest]
  | cons c cs ih =>
    have behind : cs.flatMap documentChar ++ '"' :: rest ≠ [] := by simp
    obtain ⟨position', first⟩ := stringRest_documentChar start c behind position read
    obtain ⟨end', others⟩ := ih position' (c :: read)
    refine ⟨end', ?_⟩
    rw [List.flatMap_cons, List.append_assoc, first, others, List.reverse_cons, List.append_assoc,
      List.singleton_append]

end FlatRecord.Json
