import FlatRecord.Proofs.Outcome
import FlatRecord.Yaml.Lexer

/-!
# Tokens that stay in front

Tokens are put before others only for the sake of a candidate, and never farther back than it stands. Once
all candidates stand behind some tokens, these are the first tokens of the whole text, whatever follows.
-/

namespace FlatRecord.Yaml

namespace Cursor

theorem rest_next (c : Cursor) : c.next.rest = c.rest.drop 1 := by
  unfold next
  split
  · rename_i empty
    simp [empty]
  · rename_i ch rest shape
    split_ifs <;> simp [shape]

theorem rest_skip (n : Nat) (c : Cursor) : (c.skip n).rest = c.rest.drop n := by
  induction n generalizing c with
  | zero => rfl
  | succ n ih => rw [skip, ih, rest_next, List.drop_drop, Nat.add_comm]

theorem line_next_le (c : Cursor) : c.line ≤ c.next.line := by
  unfold next
  split
  · exact Nat.le_refl _
  · split_ifs <;> simp

theorem line_skip_le (n : Nat) (c : Cursor) : c.line ≤ (c.skip n).line := by
  induction n generalizing c with
  | zero => exact Nat.le_refl _
  | succ n ih => exact Nat.le_trans (line_next_le c) (ih c.next)

/-- A place stays on its line over characters that break none. -/
theorem line_next_eq {c : Cursor} {ch : Char} (seen : c.peek? = some ch) (inline : isBreak ch = false) :
    c.next.line = c.line := by
  unfold next
  split
  · rfl
  · rename_i first rest shape
    obtain rfl : first = ch := by simpa [peek?, shape] using seen
    rw [inline, Bool.false_and, if_neg Bool.false_ne_true]
    split_ifs <;> rfl

theorem line_skip_eq : ∀ (n : Nat) {c : Cursor}, (∀ ch ∈ c.rest.take n, isBreak ch = false) →
    (c.skip n).line = c.line
  | 0, _, _ => rfl
  | n + 1, c, inline => by
    cases shape : c.rest with
    | nil =>
      have stays : c.next = c := by
        unfold next
        rw [shape]
      rw [skip, stays]
      exact line_skip_eq n (by simp [shape])
    | cons ch rest =>
      rw [shape] at inline
      have others : ∀ ch' ∈ c.next.rest.take n, isBreak ch' = false := by
        rw [rest_next, shape]
        exact fun ch' mem => inline ch' (by simpa using .inr mem)
      rw [skip, line_skip_eq n others]
      exact line_next_eq (by rw [peek?, shape]; rfl) (inline ch (by simp))

theorem lineBreak?_eq_none {c : Cursor} (inline : ∀ ch ∈ c.peek?, isBreak ch = false) :
    c.lineBreak? = none := by
  unfold lineBreak?
  split
  · rename_i shape
    exact absurd (inline '\r' (by simp [peek?, shape])) (by decide)
  · rename_i ch rest _ shape
    rw [inline ch (by simp [peek?, shape])]
    rfl
  · rfl

theorem line_lineBreak?_le {c c' : Cursor} {b : Char} (broken : c.lineBreak? = some (b, c')) :
    c.line ≤ c'.line := by
  unfold lineBreak? at broken
  split at broken
  · obtain ⟨-, rfl⟩ := Prod.mk.inj (Option.some.inj broken)
    exact line_skip_le 2 c
  · split at broken
    · obtain ⟨-, rfl⟩ := Prod.mk.inj (Option.some.inj broken)
      exact line_next_le c
    · cases broken
  · cases broken

theorem line_skipComment_skipSpaces_le (c : Cursor) : c.line ≤ c.skipSpaces.skipComment.line := by
  have spaces : c.line ≤ c.skipSpaces.line := line_skip_le _ c
  unfold skipComment
  split
  · exact Nat.le_trans spaces (line_skip_le _ _)
  · exact spaces

end Cursor

namespace Lexer

variable {ts : List Token} {l l' : Lexer}

/-- Some tokens come first, and no candidate stands before any of them. -/
structure Begins (ts : List Token) (l : Lexer) : Prop where
  tokens : ∃ later, l.tokens = later ++ ts.reverse
  count : l.count = l.tokens.length
  candidate : ∀ k ∈ l.candidate, ts.length ≤ k.before
  outerCandidates : ∀ c ∈ l.outerCandidates, ∀ k ∈ c, ts.length ≤ k.before

/-- Giving up leaves no candidate. -/
theorem giveUp_eq_ok {k k' : Option Candidate} (given : giveUp k = .ok k') : k' = none := by
  unfold giveUp at given
  split at given
  · split at given
    · cases given
    · exact (Except.ok.inj given).symm
  · exact (Except.ok.inj given).symm

/-- A candidate that does not expire has been there before. -/
theorem of_expireOne_eq_ok {c : Cursor} {k k' : Option Candidate} (kept : expireOne c k = .ok k')
    {one : Candidate} (mem : one ∈ k') : one ∈ k := by
  unfold expireOne at kept
  split at kept
  · split at kept
    · rw [giveUp_eq_ok kept] at mem
      cases mem
    · exact Except.ok.inj kept ▸ mem
  · exact Except.ok.inj kept ▸ mem

/-- Going over what is between tokens moves the place down and changes nothing else but whether a key may
begin there. -/
theorem exists_skipGaps_eq (l : Lexer) (fuel : Nat) : ∃ cursor keyAllowed,
    l.skipGaps fuel = { l with cursor, keyAllowed } ∧ l.cursor.line ≤ cursor.line := by
  induction fuel generalizing l with
  | zero => exact ⟨l.cursor, l.keyAllowed, rfl, Nat.le_refl _⟩
  | succ fuel ih =>
    have spaces := l.cursor.line_skipComment_skipSpaces_le
    unfold skipGaps
    dsimp only
    split
    · rename_i c broken
      obtain ⟨cursor, keyAllowed, same, later⟩ :=
        ih { l with cursor := c, keyAllowed := l.keyAllowed || !l.inFlow }
      exact ⟨cursor, keyAllowed, same, Nat.le_trans spaces (Nat.le_trans (Cursor.line_lineBreak?_le broken) later)⟩
    · exact ⟨_, l.keyAllowed, rfl, spaces⟩

namespace Begins

/-- Neither the place nor the indentation counts, nor whether a key may begin here. -/
theorem moved (h : l.Begins ts) {cursor : Cursor} {indent : Int} {outerIndents : List Int}
    {keyAllowed : Bool} : Begins ts { l with cursor, indent, outerIndents, keyAllowed } :=
  ⟨h.tokens, h.count, h.candidate, h.outerCandidates⟩

/-- Nor does a candidate that is given up. -/
theorem freed (h : l.Begins ts) {keyAllowed : Bool} :
    Begins ts { l with candidate := none, keyAllowed } :=
  ⟨h.tokens, h.count, nofun, h.outerCandidates⟩

theorem length_le (h : l.Begins ts) : ts.length ≤ l.count := by
  obtain ⟨later, tokens⟩ := h.tokens
  simp [h.count, tokens]

theorem emit (h : l.Begins ts) (t : Token) : (l.emit t).Begins ts := by
  obtain ⟨later, tokens⟩ := h.tokens
  exact ⟨⟨t :: later, by simp [Lexer.emit, tokens]⟩, by simp [Lexer.emit, h.count], h.candidate,
    h.outerCandidates⟩

theorem emitBehind (h : l.Begins ts) (length : Nat) (t : Token) : (l.emitBehind length t).Begins ts :=
  h.moved.emit t

/-- A token that is put before others is put behind the first ones. -/
theorem insertAt (h : l.Begins ts) {before : Nat} (behind : ts.length ≤ before) (t : Token) :
    (l.insertAt before t).Begins ts := by
  obtain ⟨later, tokens⟩ := h.tokens
  have few : l.count - before ≤ later.length := by
    have := h.count
    simp only [tokens, List.length_append, List.length_reverse] at this
    omega
  refine ⟨⟨later.take (l.count - before) ++ t :: later.drop (l.count - before), ?_⟩, ?_, h.candidate,
    h.outerCandidates⟩
  · simp [Lexer.insertAt, tokens, List.take_append_of_le_length few, List.drop_append_of_le_length few]
  · simp only [Lexer.insertAt, List.length_append, List.length_cons, List.length_take, List.length_drop,
      h.count]
    omega

theorem closeDeeper (column : Int) : ∀ (outer : List Int) (indent : Int) {l : Lexer}, l.Begins ts →
    (Lexer.closeDeeper column indent outer l).Begins ts
  | [], _, _, h => h.moved
  | outer :: rest, indent, _, h => by
    unfold Lexer.closeDeeper
    split
    · exact closeDeeper column rest outer (h.emit .blockEnd)
    · exact h.moved

theorem unwind (h : l.Begins ts) (column : Int) : (l.unwind column).Begins ts := by
  unfold Lexer.unwind
  split
  · exact h
  · exact closeDeeper column _ _ h

theorem indentTo (h : l.Begins ts) (column : Nat) : (l.indentTo column).2.Begins ts := by
  unfold Lexer.indentTo
  split
  · exact h.moved
  · exact h

theorem openBlock (h : l.Begins ts) (t : Token) : (l.openBlock t).Begins ts := by
  have opened := h.indentTo l.cursor.column
  unfold Lexer.openBlock
  split <;> rename_i same <;> rw [same] at opened
  · exact opened.emit t
  · exact opened

theorem promote (h : l.Begins ts) {k : Candidate} (behind : ts.length ≤ k.before) :
    (l.promote k).Begins ts := by
  have freed : Begins ts { l with candidate := none, keyAllowed := false } := h.freed
  have marked := freed.insertAt behind .key
  have opened := marked.indentTo k.column
  unfold Lexer.promote
  dsimp only
  split
  · exact marked
  · split <;> rename_i same <;> rw [same] at opened
    · exact opened.insertAt behind .blockMappingStart
    · exact opened

theorem skipGaps (h : l.Begins ts) (fuel : Nat) : (l.skipGaps fuel).Begins ts := by
  obtain ⟨cursor, keyAllowed, same, -⟩ := l.exists_skipGaps_eq fuel
  exact same ▸ h.moved

theorem dropCandidate (h : l.Begins ts) (dropped : l.dropCandidate = .ok l') : l'.Begins ts := by
  obtain ⟨candidate, given, same⟩ := bind_eq_ok.1 dropped
  obtain rfl := Except.ok.inj same
  obtain rfl := giveUp_eq_ok given
  exact h.freed

theorem expire (h : l.Begins ts) (expired : l.expire = .ok l') : l'.Begins ts := by
  obtain ⟨candidate, inner, expired⟩ := bind_eq_ok.1 expired
  obtain ⟨outer, others, same⟩ := bind_eq_ok.1 expired
  obtain rfl := Except.ok.inj same
  refine ⟨h.tokens, h.count, fun k mem => h.candidate k (of_expireOne_eq_ok inner mem), ?_⟩
  intro c among k mem
  obtain ⟨c', among', kept⟩ := exists_mem_of_mapM_eq_ok others c among
  exact h.outerCandidates c' among' k (of_expireOne_eq_ok kept mem)

theorem keepCandidate (h : l.Begins ts) (kept : l.keepCandidate = .ok l') : l'.Begins ts := by
  unfold Lexer.keepCandidate at kept
  split at kept
  · obtain ⟨freed, dropped, same⟩ := bind_eq_ok.1 kept
    obtain rfl := Except.ok.inj same
    have begins := h.dropCandidate dropped
    exact ⟨begins.tokens, begins.count, by simpa using begins.length_le, begins.outerCandidates⟩
  · exact Except.ok.inj kept ▸ h

theorem breakOff (h : l.Begins ts) (broken : l.breakOff = .ok l') : l'.Begins ts := by
  obtain ⟨freed, dropped, same⟩ := bind_eq_ok.1 broken
  obtain rfl := Except.ok.inj same
  exact ((h.unwind (-1)).dropCandidate dropped).moved

theorem openFlow (h : l.Begins ts) {t : Token} (opened : l.openFlow t = .ok l') : l'.Begins ts := by
  obtain ⟨inner, kept, same⟩ := bind_eq_ok.1 opened
  obtain rfl := Except.ok.inj same
  have begins := h.keepCandidate kept
  have behind : ∀ c ∈ inner.candidate :: inner.outerCandidates, ∀ k ∈ c, ts.length ≤ k.before :=
    List.forall_mem_cons.2 ⟨begins.candidate, begins.outerCandidates⟩
  have opened : Begins ts { inner with
      candidate := none, outerCandidates := inner.candidate :: inner.outerCandidates, keyAllowed := true } :=
    ⟨begins.tokens, begins.count, nofun, behind⟩
  exact opened.emitBehind 1 t

theorem closeFlow (h : l.Begins ts) {t : Token} (closed : l.closeFlow t = .ok l') : l'.Begins ts := by
  unfold Lexer.closeFlow at closed
  split at closed
  · cases closed
  · rename_i candidate outerCandidates split
    obtain rfl := Except.ok.inj closed
    obtain ⟨inner, others⟩ := List.forall_mem_cons.1 (split ▸ h.outerCandidates)
    have closed : Begins ts { l with candidate, outerCandidates, keyAllowed := false } :=
      ⟨h.tokens, h.count, inner, others⟩
    exact closed.emitBehind 1 t

theorem flowEntry (h : l.Begins ts) (entered : l.flowEntry = .ok l') : l'.Begins ts := by
  obtain ⟨freed, dropped, same⟩ := bind_eq_ok.1 entered
  obtain rfl := Except.ok.inj same
  exact (h.moved.dropCandidate dropped).emitBehind 1 _

/-- Opening a block collection unless a bracket is open. -/
theorem openBlockUnless (h : l.Begins ts) (t : Token) :
    (if l.inFlow then l else l.openBlock t).Begins ts := by
  split
  · exact h
  · exact h.openBlock t

theorem blockEntry (h : l.Begins ts) (entered : l.blockEntry = .ok l') : l'.Begins ts := by
  unfold Lexer.blockEntry at entered
  dsimp only at entered
  split at entered
  · cases entered
  · obtain ⟨freed, dropped, same⟩ := bind_eq_ok.1 entered
    obtain rfl := Except.ok.inj same
    exact ((h.openBlockUnless _).moved.dropCandidate dropped).emitBehind 1 _

theorem keyMark (h : l.Begins ts) (marked : l.keyMark = .ok l') : l'.Begins ts := by
  unfold Lexer.keyMark at marked
  dsimp only at marked
  split at marked
  · cases marked
  · obtain ⟨freed, dropped, same⟩ := bind_eq_ok.1 marked
    obtain rfl := Except.ok.inj same
    exact ((h.openBlockUnless _).moved.dropCandidate dropped).emitBehind 1 _

theorem valueMark (h : l.Begins ts) (marked : l.valueMark = .ok l') : l'.Begins ts := by
  unfold Lexer.valueMark at marked
  split at marked
  · rename_i k found
    obtain rfl := Except.ok.inj marked
    exact (h.promote (h.candidate k found)).emitBehind 1 _
  · split at marked
    · obtain rfl := Except.ok.inj marked
      exact h.moved.emitBehind 1 _
    · split at marked
      · obtain rfl := Except.ok.inj marked
        exact (h.openBlock _).emitBehind 1 _
      · cases marked

theorem nodeToken (h : l.Begins ts) {read : Lexer → Except Fault (Token × Cursor)}
    (cut : l.nodeToken read = .ok l') : l'.Begins ts := by
  obtain ⟨inner, kept, cut⟩ := bind_eq_ok.1 cut
  obtain ⟨⟨t, c⟩, -, same⟩ := bind_eq_ok.1 cut
  obtain rfl := Except.ok.inj same
  exact (h.keepCandidate kept).moved.emit t

theorem directive (h : l.Begins ts) (cut : l.directive = .ok l') : l'.Begins ts := by
  obtain ⟨closed, broken, cut⟩ := bind_eq_ok.1 cut
  obtain ⟨⟨d, c⟩, -, same⟩ := bind_eq_ok.1 cut
  obtain rfl := Except.ok.inj same
  exact (h.breakOff broken).moved.emit _

theorem separator (h : l.Begins ts) {t : Token}
    (cut : (do let l ← l.breakOff; return l.emitBehind 3 t) = .ok l') : l'.Begins ts := by
  obtain ⟨closed, broken, same⟩ := bind_eq_ok.1 cut
  obtain rfl := Except.ok.inj same
  exact (h.breakOff broken).emitBehind 3 t

theorem block (h : l.Begins ts) {folded : Bool} (cut : l.block folded = .ok l') : l'.Begins ts := by
  obtain ⟨freed, dropped, cut⟩ := bind_eq_ok.1 cut
  obtain ⟨⟨text, c⟩, -, same⟩ := bind_eq_ok.1 cut
  obtain rfl := Except.ok.inj same
  have begins := h.moved.dropCandidate dropped
  exact begins.moved.emit _

theorem plain (h : l.Begins ts) (cut : l.plain = .ok l') : l'.Begins ts := by
  obtain ⟨inner, kept, same⟩ := bind_eq_ok.1 cut
  obtain rfl := Except.ok.inj same
  exact (h.keepCandidate kept).moved.emit _

/-- Whatever token is cut, it is put behind the first ones. -/
theorem step (h : l.Begins ts) {ch : Char} (cut : l.step ch = .ok l') : l'.Begins ts := by
  have choose {c : Prop} [Decidable c] {x y : Except Fault Lexer} (first : x = .ok l' → l'.Begins ts)
      (second : y = .ok l' → l'.Begins ts) : (if c then x else y) = .ok l' → l'.Begins ts := by
    split
    · exact first
    · exact second
  revert cut
  exact choose h.directive <| choose h.separator <| choose h.separator <| choose h.openFlow <|
    choose h.openFlow <| choose h.closeFlow <| choose h.closeFlow <| choose h.flowEntry <|
    choose h.blockEntry <| choose h.keyMark <| choose h.valueMark <| choose h.nodeToken <|
    choose h.nodeToken <| choose h.nodeToken <| choose h.block <| choose h.block <|
    choose h.nodeToken <| choose h.plain nofun

end Begins

/-- Tokens that come first once gaps have been skipped are the first ones of the whole text. -/
theorem isPrefix_run : ∀ (fuel : Nat) {l : Lexer} {cut : List Token},
    (∀ l', (l.skipGaps fuel).expire = .ok l' → l'.Begins ts) → l.run fuel = .ok cut → ts <+: cut
  | 0, _, _, _, ran => nomatch ran
  | fuel + 1, l, cut, begins, ran => by
    obtain ⟨expired, same, ran⟩ := bind_eq_ok.1 ran
    have begins := (begins expired same).unwind expired.cursor.column
    dsimp only at ran
    split at ran
    · obtain ⟨closed, broken, same⟩ := bind_eq_ok.1 ran
      obtain rfl := Except.ok.inj same
      obtain ⟨later, tokens⟩ := (begins.breakOff broken).tokens
      exact ⟨later.reverse, by simp [tokens]⟩
    · obtain ⟨next, stepped, ran⟩ := bind_eq_ok.1 ran
      exact isPrefix_run fuel (fun _ same => ((begins.step stepped).skipGaps fuel).expire same) ran

end Lexer

end FlatRecord.Yaml
