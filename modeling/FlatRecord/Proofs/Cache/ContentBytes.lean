import FlatRecord.ContentHash
import FlatRecord.Proofs.Descriptor.QualifiedNames
import FlatRecord.Proofs.Text.StoredText

/-!
# The bytes of a qualified name and a source text

A zero byte stands between a qualified name and a source text where they are hashed. No byte of a
qualified name is zero, so the first zero byte is the one between them, whatever the source text holds,
and both texts are read back from the bytes.
-/

namespace FlatRecord

namespace Text

/-- An octet that is made of a positive number is positive. -/
private theorem zero_ne_octet {n : Nat} (octet : n < 256) (positive : 0 < n) :
    (0 : UInt8) ≠ UInt8.ofNat n := by
  intro same
  have number := congrArg UInt8.toNat same
  rw [UInt8.toNat_ofNat_of_lt' octet] at number
  exact absurd number (Nat.ne_of_lt positive)

/-- Only the zero character has an octet that is zero. -/
theorem eq_zero_of_mem_utf8EncodeChar {c : Char} (zero : 0 ∈ String.utf8EncodeChar c) : c = '\x00' := by
  have known : c = Char.ofNat c.toNat := (Char.ofNat_toNat c).symm
  unfold String.utf8EncodeChar at zero
  rw [show c.val.toNat = c.toNat from rfl] at zero
  generalize c.toNat = v at zero known
  dsimp only at zero
  by_cases none : v = 0
  · rw [known, none]
  exfalso
  revert zero
  -- A single octet is the number of the character; where there are more, each has its highest bit set.
  split
  · rw [List.mem_singleton]
    exact zero_ne_octet (by omega) (by omega)
  split
  · simp only [List.mem_cons, List.not_mem_nil, or_false]
    rintro (zero | zero)
    all_goals exact zero_ne_octet (by omega) (by omega) zero
  split
  · simp only [List.mem_cons, List.not_mem_nil, or_false]
    rintro (zero | zero | zero)
    all_goals exact zero_ne_octet (by omega) (by omega) zero
  · simp only [List.mem_cons, List.not_mem_nil, or_false]
    rintro (zero | zero | zero | zero)
    all_goals exact zero_ne_octet (by omega) (by omega) zero

/-- A text without zero characters has no octet that is zero. -/
theorem ne_zero_of_mem_encodeUtf8 {s : String} (clean : '\x00' ∉ s.toList) :
    ∀ octet ∈ encodeUtf8 s, octet ≠ 0 := by
  rw [← String.ofList_toList (s := s), encodeUtf8_ofList]
  rintro octet mem rfl
  obtain ⟨c, held, zero⟩ := List.mem_flatMap.1 mem
  exact clean (eq_zero_of_mem_utf8EncodeChar zero ▸ held)

end Text

/-- A dotted name holds no zero character. -/
theorem Naming.zero_notMem_of_isQualified {name : String} (qualified : isQualified name) :
    '\x00' ∉ name.toList := fun mem =>
  absurd (mem_of_isQualified qualified mem) (by decide)

/-- The two texts that bytes stand for: one before the first zero byte and one behind it. -/
def contentPair (bytes : List UInt8) : Except Text.Utf8Fault (List Char × List Char) := do
  let name ← Text.decodeUtf8 (bytes.takeWhile (· != 0))
  let source ← Text.decodeUtf8 (bytes.dropWhile (· != 0)).tail
  return (name, source)

/-- A qualified name and any source text are read back from their bytes. -/
theorem contentPair_contentBytes {q : String} (qualified : Naming.isQualified q) (s : String) :
    contentPair (contentBytes q s) = .ok (q.toList, s.toList) := by
  have before : ∀ byte ∈ Text.encodeUtf8 q, (byte != 0) = true := fun byte mem =>
    bne_iff_ne.2 (Text.ne_zero_of_mem_encodeUtf8 (Naming.zero_notMem_of_isQualified qualified) byte mem)
  have bytes : contentBytes q s = Text.encodeUtf8 q ++ 0 :: Text.encodeUtf8 s := rfl
  have name : (contentBytes q s).takeWhile (· != 0) = Text.encodeUtf8 q := by
    rw [bytes, List.takeWhile_append_of_pos before, List.takeWhile_cons_of_neg (by decide), List.append_nil]
  have source : (contentBytes q s).dropWhile (· != 0) = 0 :: Text.encodeUtf8 s := by
    rw [bytes, List.dropWhile_append_of_pos before, List.dropWhile_cons_of_neg (by decide)]
  have decoded (t : String) : Text.decodeUtf8 (Text.encodeUtf8 t) = .ok t.toList := by
    simpa using Text.decodeUtf8_encodeUtf8 t.toList
  rw [contentPair, name, source, List.tail_cons, decoded, decoded]
  rfl

/-- Different qualified names and source texts have different bytes. -/
theorem contentBytes_eq_iff {q₁ q₂ s₁ s₂ : String} (first : Naming.isQualified q₁)
    (second : Naming.isQualified q₂) :
    contentBytes q₁ s₁ = contentBytes q₂ s₂ ↔ q₁ = q₂ ∧ s₁ = s₂ := by
  constructor
  · intro same
    have pairs := congrArg contentPair same
    rw [contentPair_contentBytes first, contentPair_contentBytes second] at pairs
    obtain ⟨names, sources⟩ := Prod.mk.inj (Except.ok.inj pairs)
    exact ⟨String.toList_inj.1 names, String.toList_inj.1 sources⟩
  · rintro ⟨rfl, rfl⟩
    rfl

/-- A line feed that ends one name and a zero character that begins the source of the other are told
apart. -/
theorem contentBytes_ne_of_feed : Naming.isQualified "a.P" ∧ Naming.isQualified "a.P\n" ∧
    contentBytes "a.P" "\x00x" ≠ contentBytes "a.P\n" "x" := by
  have plain : Naming.isQualified "a.P" := by decide
  have feed : Naming.isQualified "a.P\n" := by decide
  exact ⟨plain, feed, mt (contentBytes_eq_iff plain feed).1 (by decide)⟩

/-- A name with a zero character, which is no qualified name, has bytes of another pair. -/
example : contentBytes "a\x00b" "c" = contentBytes "a" "b\x00c" := by cbv

end FlatRecord
