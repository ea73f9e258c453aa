import FlatRecord.Text.Lines
import FlatRecord.Text.Utf8
import Mathlib.Tactic.Common
import Mathlib.Tactic.IntervalCases

/-!
# Stored text

The octets of a text are read back as the text, and a text without carriage returns keeps its line breaks.
-/

namespace FlatRecord.Text

private theorem toList_loop (bytes : ByteArray) (i : Nat) (before : List UInt8) :
    ByteArray.toList.loop bytes i before = before.reverse ++ bytes.data.toList.drop i := by
  fun_induction ByteArray.toList.loop bytes i before with
  | case1 i before less ih =>
    have inside : i < bytes.data.toList.length := by simpa using less
    rw [ih, List.drop_eq_getElem_cons inside]
    simp [ByteArray.get!, less]
  | case2 i before more =>
    rw [List.drop_eq_nil_of_le (by simpa using more), List.append_nil]

/-- The octets of a text are those of its characters. -/
theorem encodeUtf8_ofList (cs : List Char) :
    encodeUtf8 (String.ofList cs) = cs.flatMap String.utf8EncodeChar := by
  unfold encodeUtf8 String.toUTF8 ByteArray.toList
  rw [toList_loop, String.toByteArray_ofList, List.utf8Encode, List.toList_data_toByteArray]
  rfl

section Octets

/-- The octet that begins a character of two octets. -/
private theorem leadOctet?_two {n : Nat} (least : 2 ≤ n) (less : n < 32) :
    leadOctet? (UInt8.ofNat (n + 192)) = some ⟨1, 0x80, 0xbf, n⟩ := by
  interval_cases n <;> rfl

/-- The octet that begins a character of three octets. -/
private theorem leadOctet?_three {n : Nat} (less : n < 16) :
    leadOctet? (UInt8.ofNat (n + 224)) =
      some ⟨2, if n = 0 then 0xa0 else 0x80, if n = 13 then 0x9f else 0xbf, n⟩ := by
  interval_cases n <;> rfl

/-- The octet that begins a character of four octets. -/
private theorem leadOctet?_four {n : Nat} (less : n < 5) :
    leadOctet? (UInt8.ofNat (n + 240)) =
      some ⟨3, if n = 0 then 0x90 else 0x80, if n = 4 then 0x8f else 0xbf, n⟩ := by
  interval_cases n <;> rfl

private theorem octet_toNat {n : Nat} (octet : n < 256) : (UInt8.ofNat n).toNat = n :=
  UInt8.toNat_ofNat_of_lt' octet

/-- An octet that goes on with a character gives six bits. -/
private theorem followingOctets_cons {least greatest : UInt8} {n : Nat} (six : n < 64)
    (above : least.toNat ≤ n + 128) (below : n + 128 ≤ greatest.toNat) (more count code : Nat)
    (rest : List UInt8) :
    followingOctets least greatest (more + 1) count code (UInt8.ofNat (n + 128) :: rest) =
      followingOctets 0x80 0xbf more (count + 1) (code * 0x40 + n) rest := by
  have number : (UInt8.ofNat (n + 128)).toNat = n + 128 := octet_toNat (by omega)
  have within : least ≤ UInt8.ofNat (n + 128) ∧ UInt8.ofNat (n + 128) ≤ greatest := by
    rw [UInt8.le_iff_toNat_le, UInt8.le_iff_toNat_le, number]
    exact ⟨above, below⟩
  rw [followingOctets, if_pos within, number]
  congr 1
  omega

/-- The last of them. -/
private theorem followingOctets_last {n : Nat} (six : n < 64) (count code : Nat) (rest : List UInt8) :
    followingOctets 0x80 0xbf 1 count code (UInt8.ofNat (n + 128) :: rest) =
      .ok (code * 0x40 + n, rest) := by
  rw [followingOctets_cons six (by simp) (by simpa using by omega)]
  rfl

/-- A character of several octets. -/
private theorem decodeFrom_lead {n : Nat} {lead : LeadOctet} {octets rest : List UInt8} {code : Nat}
    (large : 128 ≤ n) (octet : n < 256) (leads : leadOctet? (UInt8.ofNat n) = some lead)
    (follow : followingOctets lead.least lead.greatest lead.following 1 lead.bits octets =
      .ok (code, rest)) (fuel position : Nat) (before : List Char) :
    decodeFrom (fuel + 1) position before (UInt8.ofNat n :: octets) =
      decodeFrom fuel (position + lead.following + 1) (Char.ofNat code :: before) rest := by
  have big : ¬ UInt8.ofNat n < 0x80 := by
    rw [UInt8.lt_iff_toNat_lt, octet_toNat octet]
    simpa using large
  rw [decodeFrom, if_neg big, leads]
  dsimp only
  rw [follow]

/-- The octets of a character behind a lead octet of three. The bounds of the second octet leave out
longer forms than needed and the surrogates. -/
private theorem followingOctets_three {v : Nat} (three : v < 0x10000) (least : 0x7ff < v)
    (valid : v < 0xd800 ∨ 0xdfff < v) (rest : List UInt8) :
    followingOctets (if v / 4096 % 16 = 0 then 0xa0 else 0x80)
      (if v / 4096 % 16 = 13 then 0x9f else 0xbf) 2 1 (v / 4096 % 16)
      (UInt8.ofNat (v / 64 % 64 + 128) :: UInt8.ofNat (v % 64 + 128) :: rest) = .ok (v, rest) := by
  have code : (v / 4096 % 16 * 64 + v / 64 % 64) * 64 + v % 64 = v := by omega
  have above : (if v / 4096 % 16 = 0 then (0xa0 : UInt8) else 0x80).toNat ≤ v / 64 % 64 + 128 := by
    split
    · show 0xa0 ≤ _
      omega
    · exact Nat.le_add_left 0x80 _
  have below : v / 64 % 64 + 128 ≤ (if v / 4096 % 16 = 13 then (0x9f : UInt8) else 0xbf).toNat := by
    split
    · show _ ≤ 0x9f
      omega
    · show _ ≤ 0xbf
      omega
  rw [followingOctets_cons (Nat.mod_lt _ (by decide)) above below,
    followingOctets_last (Nat.mod_lt _ (by decide)), code]

/-- The octets of a character behind a lead octet of four. The bounds of the second octet leave out
longer forms than needed and numbers that are no characters. -/
private theorem followingOctets_four {v : Nat} (four : v < 0x110000) (least : 0xffff < v)
    (rest : List UInt8) :
    followingOctets (if v / 262144 % 8 = 0 then 0x90 else 0x80)
      (if v / 262144 % 8 = 4 then 0x8f else 0xbf) 3 1 (v / 262144 % 8)
      (UInt8.ofNat (v / 4096 % 64 + 128) :: UInt8.ofNat (v / 64 % 64 + 128) ::
        UInt8.ofNat (v % 64 + 128) :: rest) = .ok (v, rest) := by
  have code : ((v / 262144 % 8 * 64 + v / 4096 % 64) * 64 + v / 64 % 64) * 64 + v % 64 = v := by
    omega
  have above : (if v / 262144 % 8 = 0 then (0x90 : UInt8) else 0x80).toNat ≤
      v / 4096 % 64 + 128 := by
    split
    · show 0x90 ≤ _
      omega
    · exact Nat.le_add_left 0x80 _
  have below : v / 4096 % 64 + 128 ≤
      (if v / 262144 % 8 = 4 then (0x8f : UInt8) else 0xbf).toNat := by
    split
    · show _ ≤ 0x8f
      omega
    · show _ ≤ 0xbf
      omega
  rw [followingOctets_cons (Nat.mod_lt _ (by decide)) above below,
    followingOctets_cons (Nat.mod_lt _ (by decide)) (by simp) (by simp; omega),
    followingOctets_last (Nat.mod_lt _ (by decide)), code]

/-- A character is read from its octets. -/
theorem decodeFrom_utf8EncodeChar (fuel position : Nat) (before : List Char) (c : Char)
    (rest : List UInt8) :
    decodeFrom (fuel + 1) position before (String.utf8EncodeChar c ++ rest) =
      decodeFrom fuel (position + (String.utf8EncodeChar c).length) (c :: before) rest := by
  have valid : c.toNat < 0xd800 ∨ 0xdfff < c.toNat ∧ c.toNat < 0x110000 := c.valid
  have same : Char.ofNat c.toNat = c := Char.ofNat_toNat c
  unfold String.utf8EncodeChar
  rw [show c.val.toNat = c.toNat from rfl]
  generalize c.toNat = v at valid same
  dsimp only
  split
  · rename_i one
    have small : UInt8.ofNat v < 0x80 := by
      rw [UInt8.lt_iff_toNat_lt, octet_toNat (by omega)]
      exact Nat.lt_succ_of_le one
    rw [List.singleton_append, decodeFrom, if_pos small, octet_toNat (by omega), same]
    rfl
  split
  · rename_i two
    have lead := leadOctet?_two (n := v / 64 % 32) (by omega) (by omega)
    have code : v / 64 % 32 * 64 + v % 64 = v := by omega
    rw [List.cons_append, List.singleton_append, decodeFrom_lead (by omega) (by omega) lead
      (followingOctets_last (Nat.mod_lt _ (by decide)) _ _ rest), code, same]
    rfl
  split
  · rename_i three
    have lead := leadOctet?_three (n := v / 4096 % 16) (by omega)
    have follow := followingOctets_three (v := v) (by omega) (by omega) (by omega) rest
    have whole := decodeFrom_lead (by omega) (by omega) lead follow fuel position before
    exact whole.trans (by rw [same]; rfl)
  · rename_i four
    have lead := leadOctet?_four (n := v / 262144 % 8) (by omega)
    have follow := followingOctets_four (v := v) (by omega) (by omega) rest
    have whole := decodeFrom_lead (by omega) (by omega) lead follow fuel position before
    exact whole.trans (by rw [same]; rfl)

end Octets

/-- Octets of a text that stand before others are read first. -/
theorem decodeFrom_flatMap (cs : List Char) (fuel position : Nat) (before : List Char) :
    cs.length < fuel →
      decodeFrom fuel position before (cs.flatMap String.utf8EncodeChar) = .ok (before.reverse ++ cs) := by
  induction cs generalizing fuel position before with
  | nil =>
    intro enough
    obtain ⟨fuel, rfl⟩ := Nat.exists_eq_add_of_lt enough
    rw [List.append_nil]
    rfl
  | cons c cs ih =>
    intro enough
    obtain ⟨fuel, rfl⟩ : ∃ n, fuel = n + 1 := ⟨fuel - 1, by simp at enough; omega⟩
    rw [List.flatMap_cons, decodeFrom_utf8EncodeChar, ih _ _ _ (by simpa using enough)]
    simp

/-- A text is read back from its octets. -/
theorem decodeUtf8_encodeUtf8 (cs : List Char) :
    decodeUtf8 (encodeUtf8 (String.ofList cs)) = .ok cs := by
  rw [encodeUtf8_ofList]
  refine decodeFrom_flatMap cs _ 0 [] (Nat.lt_succ_of_le ?_)
  induction cs with
  | nil => exact Nat.le_refl 0
  | cons c cs ih =>
    have octets : 0 < (String.utf8EncodeChar c).length :=
      List.length_pos_iff.2 String.utf8EncodeChar_ne_nil
    rw [List.flatMap_cons, List.length_append, List.length_cons]
    omega

theorem unifyBreaks_cons {c : Char} (other : c ≠ '\r') (cs : List Char) :
    unifyBreaks (c :: cs) = c :: unifyBreaks cs := by
  rw [unifyBreaks]
  · rintro rest rfl
    exact absurd rfl other
  · rintro rfl
    exact absurd rfl other

theorem unifyBreaks_return {cs : List Char} (next : cs.head? ≠ some '\n') :
    unifyBreaks ('\r' :: cs) = '\n' :: unifyBreaks cs := by
  rw [unifyBreaks]
  rintro rest rfl
  exact next rfl

/-- Line breaks are unified behind a text without carriage returns as they are alone. -/
theorem unifyBreaks_append {cs : List Char} (feeds : ∀ c ∈ cs, c ≠ '\r') (rest : List Char) :
    unifyBreaks (cs ++ rest) = cs ++ unifyBreaks rest := by
  induction cs with
  | nil => rfl
  | cons c cs ih =>
    obtain ⟨other, others⟩ := List.forall_mem_cons.1 feeds
    rw [List.cons_append, unifyBreaks_cons other, ih others]
    rfl

/-- A text without carriage returns keeps its line breaks. -/
theorem unifyBreaks_eq_self {cs : List Char} (feeds : ∀ c ∈ cs, c ≠ '\r') : unifyBreaks cs = cs := by
  have alone := unifyBreaks_append feeds []
  rwa [List.append_nil, unifyBreaks, List.append_nil] at alone

/-- What unified line breaks leave is a line feed or was there before, and no carriage return. -/
theorem mem_unifyBreaks {cs : List Char} {c : Char} (mem : c ∈ unifyBreaks cs) :
    c ≠ '\r' ∧ (c = '\n' ∨ c ∈ cs) := by
  fun_induction unifyBreaks cs with
  | case1 => cases mem
  | case2 rest ih =>
    obtain rfl | mem := List.mem_cons.1 mem
    · exact ⟨by decide, .inl rfl⟩
    · exact (ih mem).imp_right fun known => known.imp_right fun mem => .tail _ (.tail _ mem)
  | case3 rest next ih =>
    obtain rfl | mem := List.mem_cons.1 mem
    · exact ⟨by decide, .inl rfl⟩
    · exact (ih mem).imp_right fun known => known.imp_right fun mem => .tail _ mem
  | case4 d rest next other ih =>
    obtain rfl | mem := List.mem_cons.1 mem
    · exact ⟨fun same => other same, .inr (.head _)⟩
    · exact (ih mem).imp_right fun known => known.imp_right fun mem => .tail _ mem

/-- Unifying line breaks keeps exactly the texts without carriage returns. -/
theorem unifyBreaks_eq_self_iff {cs : List Char} : unifyBreaks cs = cs ↔ '\r' ∉ cs := by
  constructor
  · intro same mem
    rw [← same] at mem
    exact (mem_unifyBreaks mem).1 rfl
  · exact fun feeds => unifyBreaks_eq_self fun c mem same => feeds (same ▸ mem)

end FlatRecord.Text
