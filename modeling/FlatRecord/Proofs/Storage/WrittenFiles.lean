import FlatRecord.Proofs.Outcome
import FlatRecord.Storage.FileTree

/-!
# Written files

A file that has been written is read back. What else has been there before is still there, unless its path
leads to the same file: writing puts an entry where there is a file or nothing, and no directory is in the
way of that, since every path that leads somewhere leads there over directories.
-/

namespace FlatRecord.Storage.FileTree

variable {t t' : FileTree}

/-- The first entry of a table is looked up under its own key. -/
private theorem lookup_cons_ite {p k : Path} {e : Entry} {table : List (Path × Entry)} :
    ((k, e) :: table).lookup p = if p = k then some e else table.lookup p := by
  by_cases here : p = k
  · rw [here, List.lookup_cons_self, if_pos rfl]
  · rw [List.lookup_cons, beq_false_of_ne here, if_neg here]

/-- Replacing the entries of a key replaces what is looked up under it, if there is anything. -/
private theorem lookup_map_replaced (q : Path) (e : Entry) (p : Path) (table : List (Path × Entry)) :
    (table.map fun old => if old.1 = q then (q, e) else old).lookup p =
      if p = q then (table.lookup q).map fun _ => e else table.lookup p := by
  induction table with
  | nil => exact (ite_self none).symm
  | cons old table ih =>
    obtain ⟨k, before⟩ := old
    rw [List.map_cons, lookup_cons_ite, lookup_cons_ite]
    by_cases here : k = q
    · rw [if_pos here, if_pos here.symm, here, lookup_cons_ite, ih]
      by_cases same : p = q
      · rw [if_pos same, if_pos same, Option.map_some]
      · simp only [if_neg same]
    · rw [if_neg here, if_neg (Ne.symm here), lookup_cons_ite, ih]
      by_cases same : p = k
      · rw [if_pos same, if_pos same, if_neg (same ▸ here)]
      · rw [if_neg same, if_neg same]

/-- The entries of a tree in which one has been set. -/
theorem entry?_set (t : FileTree) {q : Path} (below : q.names ≠ []) (e : Entry) (p : Path) :
    entry? (t.set q e) p = if p = q then some e else t.entry? p := by
  have found : (t.set q e).entries.lookup p = if p = q then some e else t.entries.lookup p := by
    unfold set
    cases known : t.entries.lookup q with
    | some before =>
      rw [Option.isSome_some, if_pos rfl]
      exact (lookup_map_replaced q e p t.entries).trans (by rw [known, Option.map_some])
    | none =>
      rw [Option.isSome_none, if_neg Bool.false_ne_true, List.lookup_append, lookup_cons_ite]
      by_cases same : p = q
      · rw [if_pos same, if_pos same, same, known, Option.none_or]
      · rw [if_neg same, if_neg same, List.lookup_nil, Option.or_none]
  unfold entry?
  rw [found]
  by_cases same : p = q
  · subst same
    simp [below]
  · simp [same]

/-- Only what is not at the root may be no directory. -/
theorem names_ne_nil {q : Path} (free : t.entry? q ≠ some .directory) : q.names ≠ [] := by
  intro root
  refine free ?_
  unfold entry?
  simp [root]

/-- Following names goes on from where the first of them lead. -/
theorem follow_append (t : FileTree) (here : Path) (front back : List String) :
    t.follow here (front ++ back) = t.follow here front >>= fun found => t.follow found.1 back := by
  induction front generalizing here with
  | nil =>
    rw [List.nil_append]
    cases at_here : t.entry? here with
    | some e => simp [follow, at_here, bind, Except.bind]
    | none => cases back <;> simp [follow, at_here, bind, Except.bind]
  | cons name front ih =>
    rw [List.cons_append, follow, follow]
    cases t.entry? here with
    | none => rfl
    | some e =>
      cases e with
      | file octets => rfl
      | directory =>
        dsimp only
        split
        · exact ih _
        · split
          · rfl
          · exact ih _

/-- Whether a path leads down over directories. -/
def IsRooted (t : FileTree) (p : Path) : Prop :=
  ∀ n < p.names.length, t.entry? ⟨p.root, p.names.take n⟩ = some .directory

theorem IsRooted.parent {p : Path} (rooted : t.IsRooted p) : t.IsRooted p.parent := by
  intro n less
  have shorter : n < p.names.length - 1 := by simpa [Path.parent] using less
  have same : p.parent.names.take n = p.names.take n := by
    show p.names.dropLast.take n = _
    rw [List.dropLast_eq_take, List.take_take, Nat.min_eq_left (Nat.le_of_lt shorter)]
  rw [same]
  exact rooted n (by omega)

/-- The directory above a place that directories lead to. -/
theorem IsRooted.entry?_parent {p : Path} (rooted : t.IsRooted p) (here : t.entry? p = some .directory) :
    t.entry? p.parent = some .directory := by
  obtain ⟨root, names⟩ := p
  cases names with
  | nil => exact here
  | cons name names =>
    have step := rooted names.length (Nat.lt_succ_self _)
    have same : (name :: names).take names.length = (name :: names).dropLast := by
      rw [List.dropLast_eq_take]
      rfl
    rwa [same] at step

theorem IsRooted.child {p : Path} (rooted : t.IsRooted p) (here : t.entry? p = some .directory)
    (name : String) : t.IsRooted (p.child name) := by
  intro n less
  have bound : n ≤ p.names.length := by
    have : n < p.names.length + 1 := by simpa [Path.child] using less
    omega
  rw [show (p.child name).names.take n = p.names.take n by
    simp [Path.child, List.take_append_of_le_length bound]]
  obtain less | rfl := Nat.lt_or_eq_of_le bound
  · exact rooted n less
  · rwa [List.take_length]

/-- Names that lead somewhere lead to an entry, over directories. -/
theorem follow_eq_ok {here r : Path} {names : List String} {e : Entry} (rooted : t.IsRooted here)
    (found : t.follow here names = .ok (r, e)) : t.IsRooted r ∧ t.entry? r = some e := by
  induction names generalizing here with
  | nil =>
    unfold follow at found
    cases at_here : t.entry? here with
    | none => simp [at_here] at found
    | some before =>
      simp only [at_here, Except.ok.injEq, Prod.mk.injEq] at found
      obtain ⟨rfl, rfl⟩ := found
      exact ⟨rooted, at_here⟩
  | cons name names ih =>
    unfold follow at found
    cases at_here : t.entry? here with
    | none => simp [at_here] at found
    | some before =>
      cases before with
      | file octets => simp [at_here] at found
      | directory =>
        simp only [at_here] at found
        split at found
        · exact ih rooted.parent found
        · split at found
          · cases found
          · exact ih (rooted.child at_here name) found

/-- A path leads somewhere if it is short enough and its names lead there from the top. -/
theorem find_eq_ok_iff {p : Path} {found : Path × Entry} :
    t.find p = .ok found ↔
      ¬ maxPathLength < p.text.utf8ByteSize ∧ t.follow ⟨p.root, []⟩ p.names = .ok found := by
  unfold find
  split <;> simp [*]

/-- What a path leads to is an entry, over directories. -/
theorem find_eq_ok {p r : Path} {e : Entry} (found : t.find p = .ok (r, e)) :
    t.IsRooted r ∧ t.entry? r = some e :=
  follow_eq_ok (fun _ less => absurd less (Nat.not_lt_zero _)) (find_eq_ok_iff.1 found).2

/-- Names lead to where they have led before an entry has been set, if that is in no directory's place. -/
theorem follow_set {q : Path} (free : t.entry? q ≠ some .directory) (e' : Entry) {here r : Path}
    {names : List String} {e : Entry} (found : t.follow here names = .ok (r, e)) :
    (t.set q e').follow here names = .ok (r, if r = q then e' else e) := by
  have set := t.entry?_set (names_ne_nil free) e'
  induction names generalizing here with
  | nil =>
    unfold follow at found ⊢
    cases at_here : t.entry? here with
    | none => simp [at_here] at found
    | some before =>
      simp only [at_here, Except.ok.injEq, Prod.mk.injEq] at found
      obtain ⟨rfl, rfl⟩ := found
      rw [set, at_here]
      by_cases there : here = q
      · simp only [if_pos there]
      · simp only [if_neg there]
  | cons name names ih =>
    unfold follow at found ⊢
    cases at_here : t.entry? here with
    | none => simp [at_here] at found
    | some before =>
      cases before with
      | file octets => simp [at_here] at found
      | directory =>
        have other : here ≠ q := fun same => free (same ▸ at_here)
        rw [set, if_neg other, at_here]
        simp only [at_here] at found ⊢
        split at found
        · rename_i up
          rw [if_pos up]
          exact ih found
        · rename_i down
          rw [if_neg down]
          split at found
          · cases found
          · rename_i short
            rw [if_neg short]
            exact ih found

/-- The same for a path. -/
theorem find_set {q p r : Path} (free : t.entry? q ≠ some .directory) (e' : Entry) {e : Entry}
    (found : t.find p = .ok (r, e)) : (t.set q e').find p = .ok (r, if r = q then e' else e) :=
  have ⟨short, leads⟩ := find_eq_ok_iff.1 found
  find_eq_ok_iff.2 ⟨short, follow_set free e' leads⟩

/-- The last name of a path leads on from the directory that holds it. -/
theorem find_eq_follow {p here : Path} {e : Entry} (below : p.names ≠ [])
    (short : ¬ maxPathLength < p.text.utf8ByteSize) (above : t.find p.parent = .ok (here, e)) :
    t.find p = t.follow here [p.names.getLast?.getD ""] := by
  have split : p.names = p.parent.names ++ [p.names.getLast?.getD ""] := by
    rw [List.getLast?_eq_some_getLast below, Option.getD_some]
    exact (List.dropLast_concat_getLast below).symm
  have leads : t.follow ⟨p.root, []⟩ p.parent.names = .ok (here, e) := (find_eq_ok_iff.1 above).2
  rw [find, if_neg short, split, follow_append, leads, ok_bind, ← split]

/-- A path that leads nowhere has its place where nothing is, and leads there once something is. -/
theorem place_eq_ok {p q : Path} {refusal : Refusal} (refused : t.find p = .error refusal)
    (placed : t.place p = .ok q) : t.entry? q = none ∧ ∀ e, (t.set q e).find p = .ok (q, e) := by
  unfold place at placed
  split at placed
  · cases placed
  rename_i short
  have below : p.names ≠ [] := by
    intro root
    simp [find, short, root, follow, entry?] at refused
  cases above : t.find p.parent with
  | error refusal => simp [above] at placed
  | ok found =>
    obtain ⟨here, e⟩ := found
    cases e with
    | file octets => simp [above] at placed
    | directory =>
      simp only [above] at placed
      split at placed
      · cases placed
      rename_i brief
      obtain rfl : here.child (p.names.getLast?.getD "") = q := Except.ok.inj placed
      obtain ⟨rooted, at_here⟩ := find_eq_ok above
      have last := find_eq_follow below short above
      rw [refused, follow, at_here] at last
      simp only at last
      split at last
      · rw [follow, rooted.entry?_parent at_here] at last
        cases last
      rename_i down
      rw [follow] at last
      have nothing : t.entry? (here.child (p.names.getLast?.getD "")) = none := by
        cases there : t.entry? (here.child (p.names.getLast?.getD "")) with
        | none => rfl
        | some e => simp [there] at last
      have free : t.entry? (here.child (p.names.getLast?.getD "")) ≠ some .directory := by simp [nothing]
      refine ⟨nothing, fun e => ?_⟩
      have set := t.entry?_set (names_ne_nil free) e
      have other : here ≠ here.child (p.names.getLast?.getD "") := by
        intro same
        rw [← same, at_here] at nothing
        cases nothing
      rw [find_eq_follow below short (find_set free e above), follow, set, if_neg other, at_here]
      dsimp only
      rw [if_neg down, if_neg brief, follow, set, if_pos rfl]

/-- Writing a file sets an entry where a file or nothing is, and the path leads there. -/
theorem write_eq_ok {p : Path} {octets : List UInt8} (written : t.write p octets = .ok t') :
    ∃ q, t.entry? q ≠ some .directory ∧ t' = t.set q (.file octets) ∧
      t'.find p = .ok (q, .file octets) := by
  unfold write at written
  cases found : t.find p with
  | ok there =>
    obtain ⟨q, e⟩ := there
    cases e with
    | directory => simp [found] at written
    | file before =>
      obtain rfl : t.set q (.file octets) = t' := by simpa [found] using written
      have free : t.entry? q ≠ some .directory := by simp [(find_eq_ok found).2]
      exact ⟨q, free, rfl, by rw [find_set free _ found, if_pos rfl]⟩
  | error refusal =>
    cases placed : t.place p with
    | error refusal => simp [found, placed] at written
    | ok q =>
      obtain rfl : t.set q (.file octets) = t' := by simpa [found, placed] using written
      obtain ⟨nothing, leads⟩ := place_eq_ok found placed
      exact ⟨q, by simp [nothing], rfl, leads _⟩

/-- Making a directory sets an entry where nothing is. -/
theorem makeDirectory_eq_ok {p : Path} (made : t.makeDirectory p = .ok t') :
    ∃ q, t.entry? q = none ∧ t' = t.set q .directory := by
  unfold makeDirectory holds at made
  cases found : t.find p with
  | ok there => simp [found, Except.toOption] at made
  | error refusal =>
    cases placed : t.place p with
    | error refusal => simp [found, placed, Except.toOption] at made
    | ok q =>
      obtain rfl : t.set q .directory = t' := by simpa [found, placed, Except.toOption] using made
      exact ⟨q, (place_eq_ok found placed).1, rfl⟩

/-- Whether every path that leads somewhere still leads there. -/
def IsKept (t t' : FileTree) : Prop := ∀ p found, t.find p = .ok found → t'.find p = .ok found

theorem IsKept.of_makeDirectory {p : Path} (made : t.makeDirectory p = .ok t') : IsKept t t' := by
  obtain ⟨q, nothing, rfl⟩ := makeDirectory_eq_ok made
  rintro p ⟨r, e⟩ found
  have other : r ≠ q := by
    rintro rfl
    rw [(find_eq_ok found).2] at nothing
    cases nothing
  rw [find_set (by simp [nothing]) _ found, if_neg other]

theorem IsKept.of_orKept {p : Path} (kept : t.orKept p (t.makeDirectory p) = .ok t') :
    IsKept t t' := by
  unfold orKept at kept
  cases made : t.makeDirectory p with
  | ok after =>
    obtain rfl : after = t' := by simpa [made] using kept
    exact .of_makeDirectory made
  | error fault =>
    simp only [made] at kept
    split at kept
    · obtain rfl := Except.ok.inj kept
      exact fun _ _ found => found
    · cases kept

/-- Making directories keeps what is there. -/
theorem IsKept.of_makeDirectoriesUp {levels : Nat} {p : Path}
    (made : t.makeDirectoriesUp p levels = .ok t') : IsKept t t' := by
  induction levels generalizing p t' with
  | zero => exact .of_orKept made
  | succ levels ih =>
    unfold makeDirectoriesUp at made
    split at made
    · obtain ⟨above, first, last⟩ := bind_eq_ok.1 made
      exact fun p found leads => IsKept.of_orKept last p found (ih first p found leads)
    · exact .of_orKept made

/-- A file that has been written, with the directories that lead there, is read back, and every other file
is as it was. -/
theorem read_written {p : Path} {octets : List UInt8} {between : FileTree}
    (made : t.makeDirectories p.parent = .ok between) (written : between.write p octets = .ok t') :
    t'.read p = .ok octets ∧
      ∀ p' before, t.read p' = .ok before → t'.read p' = .ok before ∨ t'.read p' = .ok octets := by
  obtain ⟨q, free, rfl, leads⟩ := write_eq_ok written
  refine ⟨by simp [read, leads], fun p' before seen => ?_⟩
  obtain ⟨r, found⟩ : ∃ r, t.find p' = .ok (r, .file before) := by
    unfold read at seen
    split at seen
    · obtain rfl := Except.ok.inj seen
      exact ⟨_, ‹_›⟩
    · cases seen
    · cases seen
  have still := find_set free (.file octets) (IsKept.of_makeDirectoriesUp made _ _ found)
  unfold read
  rw [still]
  by_cases same : r = q
  · exact .inr (by simp [same])
  · exact .inl (by simp [same])

end FlatRecord.Storage.FileTree
