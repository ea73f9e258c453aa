import FlatRecord.Proofs.Marshalling.XmlLayout
import FlatRecord.Proofs.Script.Cutting
import FlatRecord.Proofs.Text.StoredText

/-!
# Reading XML text

What a processor of XML 1.0 reports of a document: line ends are normalised first, elements are opened and
closed by tags of their names, and references stand for characters. Markup other than elements without
attributes and references is not read here.
-/

namespace FlatRecord.Xml

open FlatRecord.Text

/-- Whether documents may hold the character: `Char` of the grammar. -/
def isCharacter (c : Char) : Bool :=
  Ranges.holds [(0x9, 0xa), (0xd, 0xd), (0x20, 0xd7ff), (0xe000, 0xfffd), (0x10000, 0x10ffff)]
    c.toNat

/-- Whether a name may begin with the character: `NameStartChar` of the grammar. -/
def isNameStart (c : Char) : Bool :=
  Ranges.holds [(0x3a, 0x3a), (0x41, 0x5a), (0x5f, 0x5f), (0x61, 0x7a), (0xc0, 0xd6), (0xd8, 0xf6),
    (0xf8, 0x2ff), (0x370, 0x37d), (0x37f, 0x1fff), (0x200c, 0x200d), (0x2070, 0x218f),
    (0x2c00, 0x2fef), (0x3001, 0xd7ff), (0xf900, 0xfdcf), (0xfdf0, 0xfffd), (0x10000, 0xeffff)]
    c.toNat

/-- Whether a name may go on with the character: `NameChar` of the grammar. -/
def isNameCharacter (c : Char) : Bool :=
  isNameStart c || Ranges.holds [(0x2d, 0x2e), (0x30, 0x39), (0xb7, 0xb7), (0x300, 0x36f),
    (0x203f, 0x2040)] c.toNat

/-- Whether the character separates parts of a tag: `S` of the grammar. -/
def isSpace (c : Char) : Bool := c = ' ' || c = '\t' || c = '\r' || c = '\n'

/-- A name at the beginning of a text, and what is left of the text. -/
def name? : List Char → Option (List Char × List Char)
  | [] => none
  | c :: rest =>
    if isNameStart c then
      some (c :: rest.takeWhile isNameCharacter, rest.dropWhile isNameCharacter)
    else none

/-- The value of a digit to a base. -/
def digit? (base : Nat) (c : Char) : Option Nat :=
  let value :=
    if c.isDigit then c.toNat - 0x30
    else if 'a' ≤ c && c ≤ 'f' then c.toNat - 0x57
    else if 'A' ≤ c && c ≤ 'F' then c.toNat - 0x37
    else base
  if value < base then some value else none

/-- The character of a code point in digits to a base. -/
def characterOf? (base : Nat) (digits : List Char) : Option Char := do
  guard !digits.isEmpty
  let n ← digits.foldlM (fun n c => (digit? base c).map (base * n + ·)) 0
  let c := Char.ofNat n
  if isCharacter c then some c else none

/-- The character that a reference stands for. -/
def referent? : List Char → Option Char
  | '#' :: 'x' :: digits => characterOf? 16 digits
  | '#' :: digits => characterOf? 10 digits
  | name => [("amp", '&'), ("lt", '<'), ("gt", '>'), ("quot", '"'), ("apos", '\'')].lookup
      (String.ofList name)

/-- The character of a reference behind its ampersand, and what is left. -/
def reference? (cs : List Char) : Option (Char × List Char) :=
  match cs.dropWhile (· != ';') with
  | _ :: left => (referent? (cs.takeWhile (· != ';'))).map fun c => (c, left)
  | [] => none

/-- What is left behind the end tag of a name. -/
def endTag? (name : List Char) : List Char → Option (List Char)
  | '<' :: '/' :: rest => do
    let (closed, behind) ← name? rest
    match behind.dropWhile isSpace with
    | '>' :: left => if closed = name then some left else none
    | _ => none
  | _ => none

/-- A piece of content: a character, or an element with its name and content. -/
inductive Item where
  | character (c : Char)
  | element (name : List Char) (content : List Item)

/-- Content up to an end tag or the end of the text, and what is left of the text. -/
def content? : Nat → List Char → Option (List Item × List Char)
  | 0, _ => none
  | _ + 1, [] => some ([], [])
  | fuel + 1, c :: rest =>
    if c = '<' then
      if rest.head? = some '/' then some ([], c :: rest)
      else do
        let (name, tag) ← name? rest
        match tag.dropWhile isSpace with
        | '>' :: inner => do
          let (content, closing) ← content? fuel inner
          let behind ← endTag? name closing
          let (more, left) ← content? fuel behind
          return (.element name content :: more, left)
        | '/' :: '>' :: behind => do
          let (more, left) ← content? fuel behind
          return (.element name [] :: more, left)
        | _ => none
    else if c = '&' then do
      let (referent, behind) ← reference? rest
      let (more, left) ← content? fuel behind
      return (.character referent :: more, left)
    else if isCharacter c && !"]]>".toList.isPrefixOf (c :: rest) then do
      let (more, left) ← content? fuel rest
      return (.character c :: more, left)
    else none

/-- The name and the content of the one element that a text consists of. -/
def read? (text : String) : Option (List Char × List Item) :=
  let cs := unifyBreaks text.toList
  match content? (cs.length + 1) cs with
  | some ([.element name content], []) => some (name, content)
  | _ => none

/-- The elements among content, with their names and contents. -/
def elements (content : List Item) : List (List Char × List Item) :=
  content.filterMap fun
    | .element name inner => some (name, inner)
    | .character _ => none

/-- The characters among content. -/
def characterData (content : List Item) : List Char :=
  content.filterMap fun
    | .character c => some c
    | .element .. => none

/-- Documents may hold exactly the characters that texts of records may. -/
theorem isCharacter_eq_isLegal (c : Char) : isCharacter c = isLegal c := by
  have control : ∀ n < 0x20, isCharacter (Char.ofNat n) = isLegal (Char.ofNat n) := by decide
  have limit : c.toNat < 0x110000 := by
    obtain small | ⟨-, small⟩ : c.toNat < 0xd800 ∨ 0xdfff < c.toNat ∧ c.toNat < 0x110000 := c.valid
    · omega
    · exact small
  by_cases low : c.toNat < 0x20
  · rw [← Char.ofNat_toNat c]
    exact control _ low
  · have other {d : Char} (small : d.toNat < 0x20) : c ≠ d := fun same => low (same ▸ small)
    rw [Bool.eq_iff_iff]
    simp only [isCharacter, isLegal, Ranges.holds, Bool.or_eq_true, Bool.and_eq_true, decide_eq_true_eq,
      other (d := '\t') (by decide), other (d := '\n') (by decide), other (d := '\r') (by decide)]
    split_ifs <;> simp <;> omega

/-- Content of a text, with any number of steps that is greater than the length of the text. -/
def Reads (cs : List Char) (content : List Item) (left : List Char) : Prop :=
  ∀ fuel, cs.length < fuel → content? fuel cs = some (content, left)

/-- The names of elements that are written. -/
def IsElementName (name : List Char) : Prop :=
  ∃ c rest, name = c :: rest ∧ isNameStart c ∧ ∀ d ∈ rest, isNameCharacter d

/-- An identifier is the name of an element. -/
theorem isElementName_of_isWord {name : List Char} (word : Naming.isWord name) : IsElementName name := by
  have known {c : Char} (follows : Naming.isFollowing c) :
      (Naming.isInitial c → isNameStart c) ∧ isNameCharacter c :=
    Script.isFollowing_elim (P := fun c => (Naming.isInitial c → isNameStart c) ∧ isNameCharacter c)
      (by decide) follows
  cases name with
  | nil => cases word
  | cons c rest =>
    simp only [Naming.isWord, Bool.and_eq_true, List.all_eq_true] at word
    exact ⟨c, rest, rfl, (known (Script.isFollowing_of_isInitial word.1)).1 word.1,
      fun d mem => (known (word.2 d mem)).2⟩

/-- The name of an element holds no carriage return. -/
theorem IsElementName.feeds {name : List Char} (named : IsElementName name) :
    ∀ c ∈ name, c ≠ '\r' := by
  obtain ⟨first, others, rfl, start, following⟩ := named
  refine List.forall_mem_cons.2 ⟨?_, fun c mem => ?_⟩
  · rintro rfl
    exact absurd start (by decide)
  · rintro rfl
    exact absurd (following _ mem) (by decide)

section Reading

variable {name cs left behind : List Char} {content more : List Item}

/-- A name ends before a character that no name holds. -/
theorem IsElementName.name?_append (named : IsElementName name) {c : Char}
    (ends : isNameCharacter c = false) (rest : List Char) :
    name? (name ++ c :: rest) = some (name, c :: rest) := by
  obtain ⟨first, others, rfl, start, following⟩ := named
  rw [List.cons_append, name?, if_pos start, List.takeWhile_append_of_pos following,
    List.dropWhile_append_of_pos following, List.takeWhile_cons, List.dropWhile_cons, ends]
  simp

theorem IsElementName.head?_ne (named : IsElementName name) (rest : List Char) :
    (name ++ rest).head? ≠ some '/' := by
  obtain ⟨first, others, rfl, start, -⟩ := named
  intro same
  obtain rfl : first = '/' := by simpa using same
  revert start
  decide

theorem reads_nil : Reads [] [] [] := by
  intro fuel enough
  obtain ⟨fuel, rfl⟩ := Nat.exists_eq_succ_of_ne_zero (Nat.ne_of_gt enough)
  rfl

/-- Content ends before an end tag. -/
theorem reads_endTag (rest : List Char) : Reads ('<' :: '/' :: rest) [] ('<' :: '/' :: rest) := by
  intro fuel enough
  obtain ⟨fuel, rfl⟩ := Nat.exists_eq_succ_of_ne_zero (Nat.ne_zero_of_lt enough)
  rfl

/-- A reference is read as the character that it stands for. -/
private theorem Reads.reference {c : Char} (name : List Char)
    (stands : reference? (name ++ cs) = some (c, cs)) (reads : Reads cs content left) :
    Reads ('&' :: (name ++ cs)) (.character c :: content) left := by
  intro fuel enough
  obtain ⟨fuel, rfl⟩ := Nat.exists_eq_succ_of_ne_zero (Nat.ne_zero_of_lt enough)
  have rest : content? fuel cs = some (content, left) :=
    reads fuel (by simp only [List.length_cons, List.length_append] at enough; omega)
  rw [content?, if_neg (by decide), if_pos rfl, stands]
  simp [rest]

/-- A character of a text is read back from its markup, if it does not complete the end of a section. -/
private theorem Reads.escapedOne {c : Char} (legal : isCharacter c)
    (apart : "]]>".toList.isPrefixOf (c :: cs) = false) (reads : Reads cs content left) :
    Reads (escape c ++ cs) (.character c :: content) left := by
  unfold Xml.escape
  split_ifs with ampersand less greater
  · subst ampersand
    exact reads.reference "amp;".toList (by with_unfolding_all rfl)
  · subst less
    exact reads.reference "lt;".toList (by with_unfolding_all rfl)
  · subst greater
    exact reads.reference "gt;".toList (by with_unfolding_all rfl)
  · intro fuel enough
    obtain ⟨fuel, rfl⟩ := Nat.exists_eq_succ_of_ne_zero (Nat.ne_zero_of_lt enough)
    have rest : content? fuel cs = some (content, left) :=
      reads fuel (by simpa using enough)
    rw [List.singleton_append, content?, if_neg less, if_neg ampersand, legal, apart]
    simp [rest]

/-- The markup of a character begins with an ampersand, or it is the character. -/
theorem head?_escape {c d : Char} {rest : List Char} (head : (Xml.escape c ++ rest).head? = some d) :
    d = '&' ∨ d = c ∧ d ≠ '>' := by
  unfold Xml.escape at head
  split_ifs at head with ampersand less greater
  case neg =>
    obtain rfl : c = d := Option.some.inj head
    exact .inr ⟨rfl, greater⟩
  all_goals exact .inl (Option.some.inj head).symm

/-- No end of a section begins with a character before the markup of a text. -/
private theorem isPrefixOf_escaped (c : Char) (text tail : List Char) :
    "]]>".toList.isPrefixOf (c :: (text.flatMap escape ++ '<' :: tail)) = false := by
  have head (rest : List Char) : (rest.flatMap escape ++ '<' :: tail).head? ≠ some '>' := by
    intro closing
    cases rest with
    | nil => exact absurd (Option.some.inj closing) (by decide)
    | cons d rest =>
      rw [List.flatMap_cons, List.append_assoc] at closing
      obtain same | ⟨-, other⟩ := head?_escape closing
      · exact absurd same (by decide)
      · exact other rfl
  rw [Bool.eq_false_iff]
  intro begun
  obtain ⟨others, whole⟩ := List.isPrefixOf_iff_prefix.1 begun
  obtain ⟨-, second⟩ : _ ∧ ']' :: '>' :: others = text.flatMap escape ++ '<' :: tail :=
    List.cons.inj whole
  cases text with
  | nil => cases second
  | cons d rest =>
    rw [List.flatMap_cons, List.append_assoc] at second
    have next := head rest
    generalize rest.flatMap escape ++ '<' :: tail = more at second next
    unfold escape at second
    split_ifs at second with ampersand less greater
    case neg =>
      obtain rfl : '>' :: others = more := (List.cons.inj second).2
      exact next rfl
    all_goals exact absurd (List.cons.inj second).1 (by decide)

/-- The characters of a text are read back from its markup before a tag. -/
theorem Reads.escaped {text : List Char} (legal : ∀ c ∈ text, isCharacter c)
    (reads : Reads ('<' :: cs) content left) :
    Reads (text.flatMap Xml.escape ++ '<' :: cs) (text.map .character ++ content) left := by
  induction text with
  | nil => exact reads
  | cons c rest ih =>
    obtain ⟨first, others⟩ := List.forall_mem_cons.1 legal
    rw [List.flatMap_cons, List.append_assoc]
    exact (ih others).escapedOne first (isPrefixOf_escaped c rest cs)

/-- The end tag of a name is read. -/
private theorem IsElementName.endTag?_eq (named : IsElementName name) (behind : List Char) :
    endTag? name ('<' :: '/' :: (name ++ '>' :: behind)) = some behind := by
  rw [endTag?, named.name?_append (by decide)]
  simp [isSpace]

/-- An element is read back from its markup, if its content is. -/
theorem Reads.element (named : IsElementName name)
    (inner : Reads (cs ++ '<' :: '/' :: (name ++ '>' :: behind)) content
      ('<' :: '/' :: (name ++ '>' :: behind)))
    (reads : Reads behind more left) :
    Reads ('<' :: (name ++ '>' :: (cs ++ '<' :: '/' :: (name ++ '>' :: behind))))
      (.element name content :: more) left := by
  intro fuel enough
  obtain ⟨fuel, rfl⟩ := Nat.exists_eq_succ_of_ne_zero (Nat.ne_zero_of_lt enough)
  simp only [List.length_cons, List.length_append] at enough
  have within := inner fuel (by simp only [List.length_cons, List.length_append]; omega)
  have others := reads fuel (by omega)
  rw [content?, if_pos rfl, if_neg (named.head?_ne _), named.name?_append (by decide)]
  simp [isSpace, within, named.endTag?_eq, others]

/-- An element that is closed at once is read back from its markup. -/
theorem Reads.emptyElement (named : IsElementName name) (reads : Reads behind more left) :
    Reads ('<' :: (name ++ " />".toList ++ behind)) (.element name [] :: more) left := by
  intro fuel enough
  obtain ⟨fuel, rfl⟩ := Nat.exists_eq_succ_of_ne_zero (Nat.ne_zero_of_lt enough)
  simp only [List.length_cons, List.length_append] at enough
  have others := reads fuel (by omega)
  rw [content?, if_pos rfl, List.append_assoc, if_neg (named.head?_ne _)]
  show (do
    let (name, tag) ← name? (name ++ ' ' :: ('/' :: '>' :: behind))
    _) = _
  rw [named.name?_append (by decide)]
  simp [isSpace, others]

end Reading

end FlatRecord.Xml
