import FlatRecord.Text.Uppercase
import Mathlib.Data.Nat.Notation

/-!
# Capitals in ASCII

Ten characters outside ASCII have a capital form that is ASCII throughout: the sharp s, the dotless i, the
long s and the Latin ligatures. The capital forms of all others have letters outside ASCII in them.
-/

namespace FlatRecord.Text

/-- The characters outside ASCII whose capital forms are ASCII throughout, with those forms. -/
def asciiCapitals : List (Char × List Char) :=
  [('ß', ['S', 'S']), ('ı', ['I']), ('ſ', ['S']), ('ﬀ', ['F', 'F']), ('ﬁ', ['F', 'I']), ('ﬂ', ['F', 'L']),
   ('ﬃ', ['F', 'F', 'I']), ('ﬄ', ['F', 'F', 'L']), ('ﬅ', ['S', 'T']), ('ﬆ', ['S', 'T'])]

/-- The capital form of an ASCII character is one character. -/
theorem uppercase_of_lt {c : Char} (ascii : c.toNat < 0x80) : uppercase c = [c.toUpper] := by
  have all : ∀ n < 0x80, uppercase (Char.ofNat n) = [(Char.ofNat n).toUpper] := by decide
  have here := all c.toNat ascii
  rwa [Char.ofNat_toNat] at here

/-- A letter in another case is in ASCII exactly if the letter is. -/
theorem toNat_toUpper_lt_iff {c : Char} : c.toUpper.toNat < 0x80 ↔ c.toNat < 0x80 := by
  unfold Char.toUpper
  split
  · rename_i small
    have low : c.toNat < 0x80 := Nat.lt_of_le_of_lt small.2 (by decide)
    have all : ∀ n < 0x80, (Char.ofNat n).toUpper.toNat < 0x80 := by decide
    have here := all c.toNat low
    rw [Char.ofNat_toNat] at here
    unfold Char.toUpper at here
    rw [dif_pos small] at here
    exact iff_of_true here low
  · rfl

/-- A capital letter that a run gives is as far from the first of its capitals as the letter is from the first
of the run. -/
theorem exists_run_of_capitalIn {runs : List CapitalRun} {n m : Nat} (given : capitalIn runs n = some m) :
    ∃ run ∈ runs, run.first ≤ n ∧ n ≤ run.last ∧ m = run.capital + (n - run.first) := by
  induction runs with
  | nil => cases given
  | cons run rest ih =>
    unfold capitalIn at given
    split at given
    · cases given
    · rename_i after
      split at given
      · rename_i inside
        exact ⟨run, .head _, Nat.le_of_not_lt after, inside.1, (Option.some.inj given).symm⟩
      · obtain ⟨other, mem, within⟩ := ih given
        exact ⟨other, .tail _ mem, within⟩

/-- Nothing in a run of letters outside ASCII has a capital in ASCII, unless the run is an exception. -/
def CapitalRun.IsSettled (run : CapitalRun) : Prop :=
  run.last < 0x80 ∨
  0x80 ≤ run.capital ∧ (run.capital + (run.last - run.first) < 0xd800 ∨
    0xdfff < run.capital ∧ run.capital + (run.last - run.first) < 0x110000) ∨
  run.first = run.last ∧ (Char.ofNat run.first, [Char.ofNat run.capital]) ∈ asciiCapitals

instance (run : CapitalRun) : Decidable run.IsSettled := inferInstanceAs (Decidable (_ ∨ _))

theorem isSettled_capitalRuns : ∀ run ∈ capitalRuns, run.IsSettled := by decide +kernel

/-- A run whose letters are outside ASCII has capitals outside ASCII, unless it is an exception. -/
theorem CapitalRun.IsSettled.mem_asciiCapitals {run : CapitalRun} (settled : run.IsSettled) {c : Char}
    (foreign : 0x80 ≤ c.toNat) (from_first : run.first ≤ c.toNat) (to_last : c.toNat ≤ run.last)
    (ascii : (Char.ofNat (run.capital + (c.toNat - run.first))).toNat < 0x80) :
    (c, [Char.ofNat (run.capital + (c.toNat - run.first))]) ∈ asciiCapitals := by
  obtain within | ⟨high, proper⟩ | ⟨single, known⟩ := settled
  · omega
  · have known : (run.capital + (c.toNat - run.first)).isValidChar := by
      obtain low | beyond := proper
      · exact .inl (by omega)
      · exact .inr (by omega)
    have high : 0x80 ≤ (Char.ofNat (run.capital + (c.toNat - run.first))).toNat := by
      rw [Char.ofNat, dif_pos known]
      exact Nat.le_add_right_of_le high
    omega
  · have same : run.first = c.toNat := by omega
    rw [same, Char.ofNat_toNat] at known
    rwa [same, Nat.sub_self]

/-- The capital forms outside of runs are in ASCII for the exceptions only. -/
theorem mem_asciiCapitals_of_mem_capitalSequences : ∀ entry ∈ capitalSequences,
    (∀ n ∈ entry.2, (Char.ofNat n).toNat < 0x80) →
      (Char.ofNat entry.1, entry.2.map Char.ofNat) ∈ asciiCapitals := by
  decide +kernel

/-- The exceptions are known: a character outside ASCII is one of them exactly if its capital form is ASCII
throughout. -/
theorem mem_asciiCapitals_iff {c : Char} : (c, uppercase c) ∈ asciiCapitals ↔
    0x80 ≤ c.toNat ∧ ∀ d ∈ uppercase c, d.toNat < 0x80 := by
  constructor
  · intro mem
    have all : ∀ entry ∈ asciiCapitals, 0x80 ≤ entry.1.toNat ∧ ∀ d ∈ entry.2, d.toNat < 0x80 := by
      simp [asciiCapitals]
    exact all _ mem
  · rintro ⟨foreign, ascii⟩
    unfold uppercase at ascii ⊢
    rw [if_neg (Nat.not_lt.2 foreign)] at ascii ⊢
    split at ascii
    · rename_i entry found
      have named : entry.1 = c.toNat := by simpa using List.find?_some found
      have known := mem_asciiCapitals_of_mem_capitalSequences entry (List.mem_of_find?_eq_some found)
        fun n mem => ascii _ (List.mem_map_of_mem mem)
      rwa [named, Char.ofNat_toNat] at known
    · split at ascii
      · rename_i m given
        obtain ⟨run, mem, from_first, to_last, rfl⟩ := exists_run_of_capitalIn given
        exact (isSettled_capitalRuns run mem).mem_asciiCapitals foreign from_first to_last
          (ascii _ (.head _))
      · exact absurd (ascii c (.head _)) (Nat.not_lt.2 foreign)

/-- The table of the exceptions has their capital forms. -/
theorem uppercase_of_mem_asciiCapitals {c : Char} {letters : List Char}
    (mem : (c, letters) ∈ asciiCapitals) : uppercase c = letters := by
  have all : ∀ entry ∈ asciiCapitals, uppercase entry.1 = entry.2 := by decide
  exact all _ mem

end FlatRecord.Text
