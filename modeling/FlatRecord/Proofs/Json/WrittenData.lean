import FlatRecord.Proofs.Json.JsonForms
import FlatRecord.Proofs.Json.Numbers
import FlatRecord.Proofs.Json.Strings

/-!
# Reading written data

The text of a value in a document is read as what it means, in either layout: numbers that are not finite
mean null, keys mean their text, and an integer with too many digits is a fault.
-/

namespace FlatRecord.Json

open FlatRecord.Number FlatRecord.Text

/-- What a document shows of a scalar. -/
def shownScalar : Datum → Datum
  | .float x => if x.isFinite then .float x else .null
  | v => v

/-- The text of a key in a document. -/
def keyName : Datum → String
  | .text s => s
  | .null => "null"
  | .bool b => if b then "true" else "false"
  | .int n => String.ofList (integerText n)
  | .float x => String.ofList (documentNumber x)
  | _ => ""

mutual

/-- What the text of a value in a document means. -/
def meaning : Datum → Except Cause Datum
  | .int n => integerMeaning n
  | .list xs => (itemsMeaning xs).map .list
  | .map es => (entriesMeaning es []).map .map
  | v => .ok (shownScalar v)

/-- What the text of some items means. -/
def itemsMeaning : List Datum → Except Cause (List Datum)
  | [] => .ok []
  | x :: rest => do
    let item ← meaning x
    let more ← itemsMeaning rest
    return item :: more

/-- What the text of some entries means behind those read so far. -/
def entriesMeaning : List (Datum × Datum) → List (Datum × Datum) →
    Except Cause (List (Datum × Datum))
  | [], read => .ok read
  | (k, v) :: rest, read => do
    let item ← meaning v
    entriesMeaning rest (Datum.put (.text (keyName k)) item read)

end

section Answers

variable {α β : Type} {result : Except Fault (Read α)} {m : Except Cause α} {rest rest' : List Char}

theorem Answers.of_ok (v : α) (position : Nat) :
    Answers (.ok (v, rest, position)) (.ok v) rest := ⟨position, rfl⟩

/-- Two steps of reading answer what the steps mean. -/
theorem Answers.bind {next : Read α → Except Fault (Read β)} {g : α → Except Cause β}
    (first : Answers result m rest)
    (second : ∀ v position, Answers (next (v, rest, position)) (g v) rest') :
    Answers (result >>= next) (m >>= g) rest' := by
  obtain ⟨position, rfl⟩ := first
  cases m with
  | error cause => exact ⟨position, rfl⟩
  | ok v => exact second v position

/-- What is read is worked on as it means. -/
theorem Answers.map {f : α → β} (first : Answers result m rest) :
    Answers (result >>= fun r => pure (f r.1, r.2)) (m.map f) rest := by
  obtain ⟨position, rfl⟩ := first
  cases m <;> exact ⟨position, rfl⟩

end Answers

/-- A text without anything but blanks. -/
def IsBlank (gap : List Char) : Prop := ∀ c ∈ gap, isSpace c

/-- A text of a value that is read as what it means, whatever follows. It is neither blank at its beginning
nor the end of a list. -/
structure IsText (cs : List Char) (m : Except Cause Datum) : Prop where
  starts : ∃ c tail, cs = c :: tail ∧ isSpace c = false ∧ c ≠ ']'
  reads : ∀ {rest}, EndsToken rest → ∀ fuel position, cs.length ≤ fuel →
    Answers (value fuel (cs ++ rest) position) m rest

/-- A text of items that is read as what it means, up to the end of the list. -/
structure AreItems (cs : List Char) (m : Except Cause (List Datum)) : Prop where
  starts : ∃ c tail, cs = c :: tail ∧ isSpace c = false ∧ c ≠ ']'
  reads : ∀ {gap}, IsBlank gap → ∀ rest fuel position, cs.length < fuel →
    Answers (items fuel (cs ++ (gap ++ ']' :: rest)) position) m rest

/-- A text of entries that is read as what it means, up to the end of the mapping. -/
structure AreEntries (cs : List Char)
    (m : List (Datum × Datum) → Except Cause (List (Datum × Datum))) : Prop where
  starts : ∃ tail, cs = '"' :: tail
  reads : ∀ {gap}, IsBlank gap → ∀ rest fuel position read, cs.length < fuel →
    Answers (entries fuel (cs ++ (gap ++ '\x7d' :: rest)) position read) (m read) rest

section Blanks

variable {gap : List Char} (blank : IsBlank gap) {c : Char} (rest : List Char) (position : Nat)
include blank

/-- Blanks between tokens are skipped. -/
theorem skipSpaces_append (plain : isSpace c = false) :
    skipSpaces (gap ++ c :: rest) position = (c :: rest, position + gap.length) := by
  induction gap generalizing position with
  | nil => exact if_neg (by simp [plain])
  | cons b gap ih =>
    obtain ⟨first, others⟩ := List.forall_mem_cons.1 blank
    rw [List.cons_append, skipSpaces, if_pos first, ih others, List.length_cons, Nat.add_assoc,
      Nat.add_comm 1]

omit position in
/-- Blanks end a token. -/
theorem endsToken_blank (ends : EndsToken (c :: rest)) : EndsToken (gap ++ c :: rest) := by
  cases gap with
  | nil => exact ends
  | cons b gap =>
    have space := blank b (.head _)
    rintro _ ⟨⟩
    simp only [isSpace, Bool.or_eq_true, decide_eq_true_eq] at space
    obtain ((rfl | rfl) | rfl) | rfl := space <;> decide

end Blanks

/-- A token is not preceded by blanks. -/
theorem skipSpaces_cons {c : Char} (plain : isSpace c = false) (rest : List Char) (position : Nat) :
    skipSpaces (c :: rest) position = (c :: rest, position) :=
  skipSpaces_append (List.forall_mem_nil _) rest position plain

theorem isBlank_lineBreak (layout : Layout) (depth : Nat) : IsBlank (layout.lineBreak depth) := by
  cases layout with
  | compact => exact List.forall_mem_nil _
  | indented =>
    refine List.forall_mem_cons.2 ⟨rfl, fun c mem => ?_⟩
    rw [List.eq_of_mem_replicate mem]
    rfl

/-- A colon may be followed by blanks. -/
theorem exists_colon_eq (layout : Layout) : ∃ gap, IsBlank gap ∧ layout.colon = ':' :: gap := by
  cases layout with
  | compact => exact ⟨[], List.forall_mem_nil _, rfl⟩
  | indented => exact ⟨[' '], List.forall_mem_singleton.2 rfl, rfl⟩

section Scalars

/-- A scalar without quotes is no container. -/
private theorem isText_of_scalar {c : Char} {tail : List Char} {m : Except Cause Datum}
    (plain : c ∉ ['"', '[', '\x7b', ']']) (starts : isSpace c = false)
    (reads : ∀ {rest}, EndsToken rest → ∀ position,
      Answers (scalar (c :: tail ++ rest) position) m rest) : IsText (c :: tail) m := by
  simp only [List.mem_cons, List.not_mem_nil, or_false, not_or] at plain
  refine ⟨⟨c, tail, rfl, starts, plain.2.2.2⟩, fun ends fuel position enough => ?_⟩
  obtain ⟨fuel, rfl⟩ := Nat.exists_eq_succ_of_ne_zero (Nat.ne_zero_of_lt enough)
  have same := reads ends position
  rw [List.cons_append] at same ⊢
  simpa [value, plain] using same

/-- A number is the text of a value. -/
private theorem IsNumber.isText {cs : List Char} {m : Except Cause Datum} (number : IsNumber cs m) :
    IsText cs m := by
  obtain ⟨⟨c, tail, rfl, first⟩, reads⟩ := number
  have apart (d : Char) (other : ¬ (d = '-' ∨ d.isDigit)) : c ≠ d := by
    rintro rfl
    exact other first
  have plain : c ∉ ['"', '[', '\x7b', ']'] := by
    simp [apart '"' (by decide), apart '[' (by decide), apart '\x7b' (by decide),
      apart ']' (by decide)]
  have starts : isSpace c = false := by
    simp [isSpace, apart ' ' (by decide), apart '\n' (by decide), apart '\r' (by decide),
      apart '\t' (by decide)]
  exact isText_of_scalar plain starts reads

/-- A string is the text of its characters. -/
private theorem isText_documentString (s : String) : IsText (documentString s) (.ok (.text s)) := by
  refine ⟨⟨'"', _, rfl, rfl, by decide⟩, fun {rest} _ fuel position enough => ?_⟩
  obtain ⟨fuel, rfl⟩ := Nat.exists_eq_succ_of_ne_zero (Nat.ne_zero_of_lt enough)
  obtain ⟨position', read⟩ := stringRest_documentString position s.toList rest (position + 1) []
  refine ⟨position', ?_⟩
  rw [documentString, List.cons_append, List.append_assoc, List.singleton_append, value]
  dsimp only
  rw [read]
  simp [bind, Except.bind, pure, Except.pure]

private theorem isText_documentNumber (x : Binary64) :
    IsText (documentNumber x) (.ok (shownScalar (.float x))) := by
  show IsText (documentNumber x) (.ok (if x.isFinite then .float x else .null))
  split_ifs with finite
  · exact (isNumber_documentNumber finite).isText
  · rw [documentNumber, if_neg finite]
    exact isText_of_scalar (by decide) rfl fun _ position => ⟨_, rfl⟩

private theorem isText_bool (b : Bool) :
    IsText (if b then "true".toList else "false".toList) (.ok (.bool b)) := by
  cases b <;> exact isText_of_scalar (by decide) rfl fun _ position => ⟨_, rfl⟩

private theorem isText_null : IsText "null".toList (.ok .null) :=
  isText_of_scalar (by decide) rfl fun _ position => ⟨_, rfl⟩

private theorem isText_emptyList : IsText "[]".toList (.ok (.list [])) := by
  refine ⟨⟨_, _, rfl, rfl, by decide⟩, fun {rest} _ fuel position enough => ?_⟩
  obtain ⟨fuel, rfl⟩ := Nat.exists_eq_succ_of_ne_zero (Nat.ne_zero_of_lt enough)
  exact ⟨_, rfl⟩

private theorem isText_emptyMap : IsText "\x7b\x7d".toList (.ok (.map [])) := by
  refine ⟨⟨_, _, rfl, rfl, by decide⟩, fun {rest} _ fuel position enough => ?_⟩
  obtain ⟨fuel, rfl⟩ := Nat.exists_eq_succ_of_ne_zero (Nat.ne_zero_of_lt enough)
  exact ⟨_, rfl⟩

end Scalars

section Lists

variable {cs body gap : List Char} {m : Except Cause Datum} {ms : Except Cause (List Datum)}

/-- A bracket or a comma ends a token. -/
private theorem endsToken_mark {c : Char} (mark : c ∈ [',', ']', '\x7d']) (rest : List Char) :
    EndsToken (c :: rest) := by
  simp only [List.mem_cons, List.not_mem_nil, or_false] at mark
  rintro _ ⟨⟩
  obtain rfl | rfl | rfl := mark <;> decide

/-- The last item of a list. -/
theorem IsText.areItems (text : IsText cs m) : AreItems cs (m >>= fun v => .ok [v]) := by
  refine ⟨text.starts, fun {gap} blank rest fuel position enough => ?_⟩
  obtain ⟨fuel, rfl⟩ := Nat.exists_eq_succ_of_ne_zero (Nat.ne_zero_of_lt enough)
  have ends := endsToken_blank blank rest (endsToken_mark (c := ']') (by decide) rest)
  rw [items]
  refine (text.reads ends fuel position (Nat.le_of_lt_succ enough)).bind fun v behind => ?_
  simp only [skipSpaces_append blank rest behind (c := ']') rfl]
  exact .of_ok _ _

/-- An item of a list and those behind it. -/
theorem IsText.areItems_cons (text : IsText cs m) (others : AreItems body ms) (blank : IsBlank gap) :
    AreItems (cs ++ ',' :: (gap ++ body)) (do
      let item ← m
      let more ← ms
      return item :: more) := by
  obtain ⟨c, tail, rfl, plain, other⟩ := others.starts
  refine ⟨?_, fun {outer} space rest fuel position enough => ?_⟩
  · obtain ⟨d, more, rfl, first⟩ := text.starts
    exact ⟨d, _, rfl, first⟩
  obtain ⟨fuel, rfl⟩ := Nat.exists_eq_succ_of_ne_zero (Nat.ne_zero_of_lt enough)
  simp only [List.length_append, List.length_cons] at enough
  have shape : cs ++ ',' :: (gap ++ c :: tail) ++ (outer ++ ']' :: rest) =
      cs ++ ',' :: (gap ++ c :: (tail ++ (outer ++ ']' :: rest))) := by simp
  rw [shape, items]
  refine (text.reads (endsToken_mark (by decide) _) fuel position (by omega)).bind fun v behind => ?_
  simp only [skipSpaces_cons (c := ',') rfl, skipSpaces_append blank _ _ plain]
  refine (others.reads space rest fuel _ (by simp only [List.length_cons]; omega)).bind
    fun vs end' => ?_
  exact .of_ok _ _

/-- A list around its items. -/
theorem AreItems.isText (items : AreItems body ms) (before : IsBlank gap) {outer : List Char}
    (behind : IsBlank outer) : IsText ('[' :: (gap ++ body ++ outer ++ [']'])) (ms.map .list) := by
  obtain ⟨c, tail, rfl, plain, other⟩ := items.starts
  refine ⟨⟨_, _, rfl, rfl, by decide⟩, fun {rest} _ fuel position enough => ?_⟩
  obtain ⟨fuel, rfl⟩ := Nat.exists_eq_succ_of_ne_zero (Nat.ne_zero_of_lt enough)
  simp only [List.length_append, List.length_cons, List.length_nil] at enough
  have shape : '[' :: (gap ++ c :: tail ++ outer ++ [']']) ++ rest =
      '[' :: (gap ++ c :: (tail ++ (outer ++ ']' :: rest))) := by simp
  rw [shape, value]
  simp only [skipSpaces_append before _ _ plain]
  split
  · rename_i closed
    exact absurd (List.cons.inj closed).1 other
  · exact (items.reads behind rest fuel _ (by simp only [List.length_cons]; omega)).map

end Lists

section Mappings

variable {cs body gap : List Char} {m : Except Cause Datum} (key : String) (layout : Layout)
  {ms : List (Datum × Datum) → Except Cause (List (Datum × Datum))}

/-- An entry up to its value. -/
private theorem entries_eq (text : IsText cs m) (rest : List Char) (fuel position : Nat)
    (read : List (Datum × Datum)) : ∃ start,
    entries (fuel + 1) (documentString key ++ layout.colon ++ cs ++ rest) position read = (do
      let (item, rest, position) ← value fuel (cs ++ rest) start
      let (rest, position) := skipSpaces rest position
      let read := Datum.put (.text key) item read
      match rest with
      | '\x7d' :: rest => return (read, rest, position + 1)
      | ',' :: rest =>
        let (rest, position) := skipSpaces rest (position + 1)
        entries fuel rest position read
      | _ => .error ⟨.comma, position⟩) := by
  obtain ⟨c, tail, rfl, plain, -⟩ := text.starts
  obtain ⟨gap, blank, colon⟩ := exists_colon_eq layout
  obtain ⟨behind, name⟩ := stringRest_documentString position key.toList
    (layout.colon ++ (c :: tail ++ rest)) (position + 1) []
  rw [List.reverse_nil, List.nil_append, String.ofList_toList] at name
  have shape : documentString key ++ layout.colon ++ (c :: tail) ++ rest =
      '"' :: (key.toList.flatMap documentChar ++ '"' :: (layout.colon ++ (c :: tail ++ rest))) := by
    simp [documentString]
  refine ⟨behind + 1 + gap.length, ?_⟩
  rw [shape, entries]
  dsimp only
  rw [name, ok_bind, colon, List.cons_append]
  simp only [skipSpaces_cons (c := ':') rfl, List.cons_append, skipSpaces_append blank _ _ plain]
  -- the two sides differ at most in how their matches are compiled
  all_goals rfl

/-- The last entry of a mapping. -/
theorem IsText.areEntries (text : IsText cs m) : AreEntries (documentString key ++ layout.colon ++ cs)
    fun read => m >>= fun v => .ok (Datum.put (.text key) v read) := by
  refine ⟨⟨_, by simp only [documentString, List.cons_append]; rfl⟩,
    fun {gap} blank rest fuel position read enough => ?_⟩
  obtain ⟨fuel, rfl⟩ := Nat.exists_eq_succ_of_ne_zero (Nat.ne_zero_of_lt enough)
  have ends := endsToken_blank blank rest (endsToken_mark (c := '\x7d') (by decide) rest)
  obtain ⟨start, same⟩ := entries_eq key layout text (gap ++ '\x7d' :: rest) fuel position read
  rw [same]
  simp only [List.length_append] at enough
  refine (text.reads ends fuel start (by omega)).bind fun v behind => ?_
  simp only [skipSpaces_append blank rest behind (c := '\x7d') rfl]
  exact .of_ok _ _

/-- An entry of a mapping and those behind it. -/
theorem IsText.areEntries_cons (text : IsText cs m) (others : AreEntries body ms) (blank : IsBlank gap) :
    AreEntries (documentString key ++ layout.colon ++ cs ++ ',' :: (gap ++ body))
      fun read => m >>= fun v => ms (Datum.put (.text key) v read) := by
  obtain ⟨tail, rfl⟩ := others.starts
  refine ⟨⟨_, by simp only [documentString, List.cons_append]; rfl⟩,
    fun {outer} space rest fuel position read enough => ?_⟩
  obtain ⟨fuel, rfl⟩ := Nat.exists_eq_succ_of_ne_zero (Nat.ne_zero_of_lt enough)
  simp only [List.length_append, List.length_cons] at enough
  have shape : documentString key ++ layout.colon ++ cs ++ ',' :: (gap ++ '"' :: tail) ++
      (outer ++ '\x7d' :: rest) = documentString key ++ layout.colon ++ cs ++
        ',' :: (gap ++ '"' :: (tail ++ (outer ++ '\x7d' :: rest))) := by simp
  obtain ⟨start, same⟩ := entries_eq key layout text
    (',' :: (gap ++ '"' :: (tail ++ (outer ++ '\x7d' :: rest)))) fuel position read
  rw [shape, same]
  refine (text.reads (endsToken_mark (by decide) _) fuel start (by omega)).bind fun v behind => ?_
  simp only [skipSpaces_cons (c := ',') rfl, skipSpaces_append blank (c := '"') _ _ rfl]
  exact others.reads space rest fuel _ _ (by simp only [List.length_cons]; omega)

/-- A mapping around its entries. -/
theorem AreEntries.isText (entries : AreEntries body ms) (before : IsBlank gap) {outer : List Char}
    (behind : IsBlank outer) :
    IsText ('\x7b' :: (gap ++ body ++ outer ++ ['\x7d'])) ((ms []).map .map) := by
  obtain ⟨tail, rfl⟩ := entries.starts
  refine ⟨⟨_, _, rfl, rfl, by decide⟩, fun {rest} _ fuel position enough => ?_⟩
  obtain ⟨fuel, rfl⟩ := Nat.exists_eq_succ_of_ne_zero (Nat.ne_zero_of_lt enough)
  simp only [List.length_append, List.length_cons, List.length_nil] at enough
  have shape : '\x7b' :: (gap ++ '"' :: tail ++ outer ++ ['\x7d']) ++ rest =
      '\x7b' :: (gap ++ '"' :: (tail ++ (outer ++ '\x7d' :: rest))) := by simp
  rw [shape, value]
  simp only [skipSpaces_append before (c := '"') _ _ rfl]
  exact (entries.reads behind rest fuel _ [] (by simp only [List.length_cons]; omega)).map

end Mappings

/-- The characters of numbers stand for themselves in strings. -/
private theorem documentString_number {cs : List Char} (number : ∀ c ∈ cs, InNumber c) :
    documentString (String.ofList cs) = '"' :: (cs ++ ['"']) := by
  have plain : ∀ c ∈ cs, documentChar c = [c] := fun c mem =>
    (number c mem).elim (P := fun c => documentChar c = [c]) (by decide) (by decide)
  rw [documentString, String.toList_ofList, List.flatMap_congr plain, List.flatMap_singleton']

/-- The text of a key is the string of its name. -/
theorem keyText_eq_ok {layout : Layout} {k : Datum} {cs : List Char}
    (written : keyText (.document layout) k = .ok cs) : cs = documentString (keyName k) := by
  cases k with
  | null | text =>
    obtain rfl := Except.ok.inj written
    rfl
  | bool b =>
    obtain rfl := Except.ok.inj written
    cases b <;> rfl
  | int n =>
    obtain rfl := Except.ok.inj written
    exact (documentString_number (inNumber_integerText n)).symm
  | float x =>
    obtain rfl := Except.ok.inj written
    cases x with
    | finite negative m e canonical =>
      exact (documentString_number (inNumber_magnitudeText .json negative m e)).symm
    | nan => rfl
    | infinite negative => cases negative <;> rfl
  | _ => cases written

section Written

variable (layout : Layout)

mutual

/-- What is written of a value is a text of it. -/
theorem isText_write : ∀ (v : Datum) {depth : Nat} {cs : List Char},
    write (.document layout) depth v = .ok cs → IsText cs (meaning v)
  | .null, _, _, rfl => isText_null
  | .bool b, _, _, rfl => isText_bool b
  | .int n, _, _, rfl => (isNumber_integerText n).isText
  | .float x, _, _, rfl => isText_documentNumber x
  | .text s, _, _, rfl => isText_documentString s
  | .list [], _, _, rfl => isText_emptyList
  | .list (x :: xs), depth, cs, written => by
    rw [write, List.isEmpty_cons, if_neg Bool.false_ne_true] at written
    obtain ⟨body, inner, written⟩ := bind_eq_ok.1 written
    obtain ⟨body, rfl, reads⟩ := areItems_writeItems (x :: xs) inner (List.cons_ne_nil x xs)
    obtain rfl := Except.ok.inj written
    exact reads.isText (isBlank_lineBreak layout _) (isBlank_lineBreak layout _)
  | .map [], _, _, rfl => isText_emptyMap
  | .map (e :: es), depth, cs, written => by
    rw [write, List.isEmpty_cons, if_neg Bool.false_ne_true] at written
    obtain ⟨body, inner, written⟩ := bind_eq_ok.1 written
    obtain ⟨body, rfl, reads⟩ := areEntries_writeEntries (e :: es) inner (List.cons_ne_nil e es)
    obtain rfl := Except.ok.inj written
    exact reads.isText (isBlank_lineBreak layout _) (isBlank_lineBreak layout _)

/-- What is written of items is a text of them behind a line break. -/
theorem areItems_writeItems : ∀ (xs : List Datum) {depth : Nat} {cs : List Char},
    writeItems (.document layout) depth xs = .ok cs → xs ≠ [] →
      ∃ body, cs = layout.lineBreak depth ++ body ∧ AreItems body (itemsMeaning xs)
  | [], _, _, _, nonempty => absurd rfl nonempty
  | [x], depth, cs, written, _ => by
    rw [writeItems] at written
    obtain ⟨item, first, written⟩ := bind_eq_ok.1 written
    exact ⟨item, (Except.ok.inj written).symm, (isText_write x first).areItems⟩
  | x :: y :: ys, depth, cs, written, _ => by
    rw [writeItems_cons] at written
    obtain ⟨item, first, written⟩ := bind_eq_ok.1 written
    obtain ⟨more, others, written⟩ := bind_eq_ok.1 written
    obtain ⟨body, rfl, reads⟩ := areItems_writeItems (y :: ys) others (List.cons_ne_nil y ys)
    refine ⟨_, ?_, (isText_write x first).areItems_cons reads (isBlank_lineBreak layout depth)⟩
    rw [← Except.ok.inj written, ← List.append_assoc]
    rfl

/-- What is written of entries is a text of them behind a line break. -/
theorem areEntries_writeEntries : ∀ (es : List (Datum × Datum)) {depth : Nat} {cs : List Char},
    writeEntries (.document layout) depth es = .ok cs → es ≠ [] →
      ∃ body, cs = layout.lineBreak depth ++ body ∧ AreEntries body (entriesMeaning es)
  | [], _, _, _, nonempty => absurd rfl nonempty
  | [(k, v)], depth, cs, written, _ => by
    rw [writeEntries] at written
    obtain ⟨name, key, written⟩ := bind_eq_ok.1 written
    obtain ⟨item, first, written⟩ := bind_eq_ok.1 written
    obtain rfl := keyText_eq_ok key
    refine ⟨_, ?_, (isText_write v first).areEntries (keyName k) layout⟩
    rw [← Except.ok.inj written]
    simp only [Style.document, List.append_assoc]
  | (k, v) :: e :: es, depth, cs, written, _ => by
    rw [writeEntries_cons] at written
    obtain ⟨name, key, written⟩ := bind_eq_ok.1 written
    obtain ⟨item, first, written⟩ := bind_eq_ok.1 written
    obtain ⟨more, others, written⟩ := bind_eq_ok.1 written
    obtain rfl := keyText_eq_ok key
    obtain ⟨body, rfl, reads⟩ := areEntries_writeEntries (e :: es) others (List.cons_ne_nil e es)
    refine ⟨_, ?_, (isText_write v first).areEntries_cons (keyName k) layout reads
      (isBlank_lineBreak layout depth)⟩
    rw [← Except.ok.inj written]
    simp only [Style.document, List.append_assoc]

end

end Written

/-- A fault of reading that an integer with too many digits causes. -/
def Cause.IsTooLong (cause : Cause) : Prop := ∃ text digits, cause = .integer text (.tooLong digits)

private theorem isTooLong_of_integerMeaning {n : Int} {cause : Cause}
    (fails : integerMeaning n = .error cause) : cause.IsTooLong := by
  unfold integerMeaning at fails
  dsimp only at fails
  split_ifs at fails
  exact ⟨_, _, (Except.error.inj fails).symm⟩

mutual

/-- Only integers with too many digits are not read back. -/
theorem isTooLong_of_meaning : ∀ (v : Datum) (cause : Cause), meaning v = .error cause → cause.IsTooLong
  | .int n => fun _ fails => isTooLong_of_integerMeaning fails
  | .list xs => by
    intro cause fails
    rw [meaning, map_eq_error] at fails
    exact isTooLong_of_itemsMeaning xs cause fails
  | .map es => by
    intro cause fails
    rw [meaning, map_eq_error] at fails
    exact isTooLong_of_entriesMeaning es [] cause fails
  | .null | .bool _ | .float _ | .text _ | .bytes _ | .date _ | .dateTime _ | .decimal _ | .set _ => by
    intro cause fails
    cases fails

theorem isTooLong_of_itemsMeaning : ∀ (xs : List Datum) (cause : Cause),
    itemsMeaning xs = .error cause → cause.IsTooLong
  | [] => by
    intro cause fails
    cases fails
  | x :: xs => by
    intro cause fails
    rw [itemsMeaning, bind_eq_error] at fails
    obtain fails | ⟨v, -, fails⟩ := fails
    · exact isTooLong_of_meaning x cause fails
    obtain fails | ⟨vs, -, fails⟩ := bind_eq_error.1 fails
    · exact isTooLong_of_itemsMeaning xs cause fails
    · cases fails

theorem isTooLong_of_entriesMeaning : ∀ (es read : List (Datum × Datum)) (cause : Cause),
    entriesMeaning es read = .error cause → cause.IsTooLong
  | [], read => by
    intro cause fails
    cases fails
  | (k, v) :: es, read => by
    intro cause fails
    rw [entriesMeaning, bind_eq_error] at fails
    obtain fails | ⟨w, -, fails⟩ := fails
    · exact isTooLong_of_meaning v cause fails
    · exact isTooLong_of_entriesMeaning es _ cause fails

end

/-- The document of a mapping is read as what it means. -/
theorem read_write_entries {layout : Layout} {es : List (Datum × Datum)} {cs : List Char}
    (written : write (.document layout) 0 (.map es) = .ok cs) :
    (∃ entries, entriesMeaning es [] = .ok entries ∧ read (String.ofList cs) = .ok (.map entries)) ∨
      ∃ cause position, entriesMeaning es [] = .error cause ∧ cause.IsTooLong ∧
        read (String.ofList cs) = .error ⟨cause, position⟩ := by
  have text := isText_write layout _ written
  obtain ⟨tail, rfl⟩ : ∃ tail, cs = '\x7b' :: tail := by
    rw [write] at written
    split at written
    · exact ⟨_, (Except.ok.inj written).symm⟩
    · obtain ⟨body, -, written⟩ := bind_eq_ok.1 written
      exact ⟨_, (Except.ok.inj written).symm⟩
  have ends : EndsToken [] := by
    rintro _ ⟨⟩
  obtain ⟨position, same⟩ := text.reads ends (2 * ('\x7b' :: tail).length + 2) 0 (by omega)
  rw [List.append_nil, meaning] at same
  unfold read
  rw [String.toList_ofList, if_neg (by simp)]
  simp only [skipSpaces_cons (c := '\x7b') rfl, same]
  cases means : entriesMeaning es [] with
  | ok entries => exact .inl ⟨entries, rfl, rfl⟩
  | error cause =>
    exact .inr ⟨cause, position, rfl, isTooLong_of_entriesMeaning es [] cause means, rfl⟩

end FlatRecord.Json
