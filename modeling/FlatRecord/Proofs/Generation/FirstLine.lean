import FlatRecord.Proofs.Generation.Loaded
import FlatRecord.Proofs.Yaml.QuotedLine

/-!
# The first line of a record module

A record module begins with the qualified name of its type in a documentation text on a line of its own.
Nothing in that line needs an escape, so a record module that is read as a document is refused.
-/

namespace FlatRecord

namespace Text

/-- Whether a character stands for itself in every quoted text. -/
def IsPlain (c : Char) : Prop :=
  0x20 ≤ c.toNat ∧ c.toNat < 0x7f ∧ c ≠ '"' ∧ c ≠ '\'' ∧ c ≠ '\\'

instance (c : Char) : Decidable (IsPlain c) := by
  unfold IsPlain
  infer_instance

namespace IsPlain

variable {c : Char}

theorem escapeDocChar (plain : IsPlain c) : escapeDocChar c = [c] := by
  obtain ⟨low, high, -, -, backslash⟩ := plain
  have control (d : Char) (below : d.toNat < 0x20) : c ≠ d := by
    rintro rfl
    omega
  unfold Text.escapeDocChar isPrintable
  simp [control '\n' (by decide), control '\t' (by decide), control '\r' (by decide), backslash, low, high]

theorem isQuotable (plain : IsPlain c) : Yaml.IsQuotable c := by
  obtain ⟨low, high, double, -, backslash⟩ := plain
  have outside (d : Char) (apart : d.toNat < 0x20 ∨ 0x7f ≤ d.toNat) : c ≠ d := by
    rintro rfl
    omega
  refine ⟨double, backslash, ?_⟩
  simp [Yaml.isBreak, outside '\n' (by decide), outside '\r' (by decide), outside '\x85' (by decide),
    outside '\u2028' (by decide), outside '\u2029' (by decide)]

/-- The characters of names are plain. -/
theorem of_isFollowing (follows : Naming.isFollowing c) : IsPlain c :=
  Script.isFollowing_elim (by decide) follows

end IsPlain

/-- A text without some quote has no three of them in a row. -/
theorem hasTriple_eq_false {q : Char} : ∀ {cs : List Char}, q ∉ cs → hasTriple q cs = false
  | a :: b :: c :: rest, other => by
    have first : (a == q) = false := by
      rw [beq_eq_false_iff_ne]
      rintro rfl
      exact other (.head _)
    rw [hasTriple, first, hasTriple_eq_false fun mem => other (.tail _ mem)]
    rfl
  | [], _ | [_], _ | [_, _], _ => rfl

/-- A documentation text of plain characters is written as it is. -/
theorem quoteDoc_eq {cs : List Char} (plain : ∀ c ∈ cs, IsPlain c) :
    quoteDoc cs = '"' :: '"' :: '"' :: (cs ++ ['"', '"', '"']) := by
  have written : cs.flatMap escapeDocChar = cs := by
    rw [List.flatMap_congr fun c mem => (plain c mem).escapeDocChar, List.flatMap_singleton']
  have double : '"' ∉ cs := fun mem => (plain _ mem).2.2.1 rfl
  have last : cs.getLast? ≠ some '"' := fun last => double (List.mem_of_getLast? last)
  unfold quoteDoc
  simp [written, hasTriple_eq_false double, last]

end Text

namespace Naming

/-- A dotted name consists of dots and the characters of names. -/
theorem of_isQualified {name : String} (qualified : isQualified name) (clean : '\n' ∉ name.toList) :
    ∀ c ∈ name.toList, c = '.' ∨ isFollowing c := by
  intro c mem
  refine (mem_of_isQualified qualified mem).imp_right fun other => other.resolve_right ?_
  rintro rfl
  exact clean mem

end Naming

namespace Descriptor

variable {d : Descriptor}

/-- A record module begins with a documentation text on a line of its own. -/
theorem IsValid.exists_moduleText_eq (valid : d.IsValid) (clean : d.IsLineFree) :
    ∃ inner rest, (∀ c ∈ inner, Text.IsPlain c) ∧ d.moduleText =
      String.ofList ('"' :: '"' :: '"' :: (inner ++ '"' :: '"' :: '"' :: '\n' :: rest)) := by
  have named : ∀ c ∈ d.qualifiedName.toList, Text.IsPlain c := by
    have whole : '\n' ∉ d.qualifiedName.toList := by
      have names := clean.typeName
      simp [qualifiedName, clean.space, names]
    intro c mem
    obtain rfl | follows :=
      Naming.of_isQualified (valid.isQualified_qualifiedName.2 clean.space) whole c mem
    · decide
    · exact .of_isFollowing follows
  have title : ("Generated record type " ++ d.qualifiedName ++ ".").toList =
      "Generated record type ".toList ++ (d.qualifiedName.toList ++ ".".toList) := by
    simp
  have plain : ∀ c ∈ ("Generated record type " ++ d.qualifiedName ++ ".").toList, Text.IsPlain c := by
    rw [title]
    exact List.forall_mem_append.2 ⟨by decide, List.forall_mem_append.2 ⟨named, by decide⟩⟩
  have first : (Generation.module d.planned).print = Script.indentation 0 ++
      Text.quoteDoc ("Generated record type " ++ d.qualifiedName ++ ".").toList ++
        '\n' :: Script.Stmt.printAll 0 (Generation.module d.planned).body.tail := rfl
  refine ⟨_, Script.Stmt.printAll 0 (Generation.module d.planned).body.tail, plain, ?_⟩
  rw [moduleText, first, Text.quoteDoc_eq plain]
  simp [Script.indentation]

/-- A record module is no document. -/
theorem IsValid.read_moduleText (valid : d.IsValid) (clean : d.IsLineFree) :
    (∃ fault, Json.read d.moduleText = .error fault) ∧ ∃ fault, Yaml.read d.moduleText = .error fault := by
  obtain ⟨inner, rest, plain, shape⟩ := valid.exists_moduleText_eq clean
  rw [shape]
  exact ⟨Json.read_of_quotes _, Yaml.read_of_quoted_line fun c mem => (plain c mem).isQuotable⟩

end Descriptor

end FlatRecord
