import FlatRecord.Proofs.Generation.Loaded
import FlatRecord.Proofs.Script.BrokenLines

/-!
# Names that break their lines

Validation overlooks a line feed at the very end of a name. In the text of the record module such a
name breaks the line that it stands on: the line of the class, or the line that declares the field. The
text is no module then, so that only clean descriptors are ever loaded.
-/

namespace FlatRecord

open FlatRecord.Script

namespace Naming

/-- An allowed name that holds a line feed is a word with a line feed behind it. -/
theorem IsAllowed.exists_word {name : String} (allowed : IsAllowed name)
    (broken : '\n' ∈ name.toList) :
    ∃ w : String, isWord w.toList ∧ name.toList = w.toList ++ ['\n'] := by
  refine ⟨String.ofList (dropFinalLineFeed name.toList), ?_, ?_⟩
  · rw [String.toList_ofList]
    exact allowed.identifier
  · rw [String.toList_ofList]
    refine (eq_dropFinalLineFeed name.toList).resolve_left fun same => ?_
    rw [same] at broken
    exact absurd (isFollowing_of_isWord allowed.identifier _ broken) (by decide)

/-- The attribute of a field whose name ends in a line feed ends in one, too. -/
theorem attributeName_of_broken {name w : String} (word : isWord w.toList)
    (shape : name.toList = w.toList ++ ['\n']) :
    ∃ v : String, isWord v.toList ∧ (attributeName name).toList = v.toList ++ ['\n'] := by
  have following := isFollowing_of_isWord word
  have free (base : String) (ends : base.toList.getLast? = some '\n') : isTaken base = false := by
    have table : ∀ n ∈ inheritedNames ++ annotationNames ++ moduleNames,
        n.toList.getLast? ≠ some '\n' := by decide
    simp only [isTaken, List.contains_eq_mem, Bool.or_eq_false_iff, decide_eq_false_iff_not]
    have other (names : List String) (part : names ⊆ inheritedNames ++ annotationNames ++ moduleNames) :
        base ∉ names := fun mem => table base (part mem) ends
    exact ⟨⟨other _ (by simp), other _ (by simp)⟩, other _ (by simp)⟩
  unfold attributeName
  cases given : isProtected name.toList with
  | false =>
    rw [if_neg Bool.false_ne_true]
    dsimp only
    rw [free name (by rw [shape, List.getLast?_concat]), if_neg Bool.false_ne_true]
    exact ⟨w, word, shape⟩
  | true =>
    let kept := w.toList.dropWhile fun c => c = '_'
    have moved : ("field_" ++ String.ofList (name.toList.dropWhile fun c => c = '_')).toList =
        ("field_" ++ String.ofList kept).toList ++ ['\n'] := by
      simp only [shape, List.dropWhile_append, String.toList_append, String.toList_ofList,
        List.append_assoc]
      split
      · rename_i empty
        simp [kept, List.isEmpty_iff.1 empty]
      · rfl
    rw [if_pos rfl]
    dsimp only
    rw [free _ (by rw [moved, List.getLast?_concat]), if_neg Bool.false_ne_true]
    refine ⟨_, ?_, moved⟩
    rw [String.toList_append, String.toList_ofList]
    exact isWord_append (by decide) fun c mem =>
      following c (List.dropWhile_subset _ (String.toList_ofList ▸ mem))

end Naming

namespace Generation

variable {plan : RecordPlan}

/-- The text of a generated module: the lines before its class, the line of the class, and its body. -/
private theorem print_module (plan : RecordPlan) : ∃ methods, (module plan).print =
    Stmt.printBody 0 (preamble plan) ++ ('\n' :: ("class ".toList ++ (plan.typeName.toList ++
      ("(BaseModel):\n".toList ++ Stmt.printBody 1 (documentation plan ++
        settings plan :: (plan.fields.map fieldStatement ++ methods)))))) := by
  refine ⟨constructor :: (plan.fields.flatMap (fun f => [getter f, setter f]) ++
    [textMethod plan, equalityMethod plan, hashMethod plan]), ?_⟩
  rw [Module.print, body_module, Stmt.printBody_append _ (by simp [preamble])]
  simp [recordClass, Stmt.printAll, Stmt.print, separated, Expr.printEach, Generation.read,
    Expr.print, indentation, Datum.joinWith]

/-- The lines before the class, with the empty line behind them. -/
private theorem cuts_preamble (spaced : ∃ space, plan.space = .text space) : ∃ ss ts line,
    PrintsLines 0 1 (Stmt.printBody 0 (preamble plan)) ss ts 0 ∧
      CutsLines .start (Stmt.printBody 0 (preamble plan) ++ ['\n']) ts (.behind line 0) := by
  obtain ⟨ts, prints⟩ : ∃ ts, PrintsLines 0 1 (Stmt.printBody 0 (preamble plan))
      (Stmt.placedBody 0 1 (preamble plan)) ts 0 :=
    Printable.prints_flat (Nat.le_of_ble_eq_true rfl) (by simp [preamble]) (printable_preamble spaced)
  have both : CutsLines .start (Stmt.printBody 0 (preamble plan) ++ ['\n']) (ts ++ [])
      (.behind (1 + (Stmt.printBody 0 (preamble plan)).count '\n' + 1) 0) :=
    prints.cutsLines.append CutsLines.blank
  rw [List.append_nil] at both
  exact ⟨_, ts, _, prints, both⟩

/-- There is no module of a plan whose type name ends in a line feed. -/
private theorem read_of_broken_typeName {w : String} (spaced : ∃ space, plan.space = .text space)
    (word : Naming.isWord w.toList) (shape : plan.typeName.toList = w.toList ++ ['\n']) :
    ∃ fault, Module.read (module plan).print = .error fault := by
  obtain ⟨methods, text⟩ := print_module plan
  generalize "(BaseModel):\n".toList ++ Stmt.printBody 1 _ = tail at text
  obtain ⟨ss, ts, line, prints, before⟩ := cuts_preamble spaced
  have start := Starts.of_lines (before.append (CutsLines.namedClass line word))
  have feeds : '\r' ∉ Stmt.printBody 0 (preamble plan) ++ ['\n'] ++
      ("class ".toList ++ w.toList ++ ['\n']) := by
    have keyword : '\r' ∉ "class ".toList := by decide
    simp only [List.mem_append, List.mem_singleton, not_or]
    exact ⟨⟨prints.feeds, by decide⟩, ⟨keyword, feeds_of_isWord word⟩, by decide⟩
  obtain ⟨fault, failed⟩ := Module.read_of_stuck start feeds tail fun n rest enough => by
    rw [List.append_assoc]
    refine prints.stuck ?_ (stuck_class n w line line rest)
    simp only [List.length_append] at enough
    omega
  refine ⟨fault, ?_⟩
  rw [text, shape]
  simpa only [List.append_assoc, List.cons_append, List.nil_append] using failed

/-- The members of the class up to one of its fields. -/
private def membersBefore (plan : RecordPlan) (fields : List FieldPlan) : List Stmt :=
  documentation plan ++ settings plan :: fields.map fieldStatement

private theorem printable_membersBefore {n : Nat} {fields : List FieldPlan}
    (described : ∃ description, plan.description = Datum.ofText? description)
    (sound : ∀ f ∈ fields, f.IsSound) : ∀ s ∈ membersBefore plan fields, Printable n s := by
  refine List.forall_mem_append.2 ⟨printable_documentation described, ?_⟩
  refine List.forall_mem_cons.2 ⟨printable_settings plan, fun s mem => ?_⟩
  obtain ⟨f, among, rfl⟩ := List.mem_map.1 mem
  exact printable_fieldStatement (sound f among)

/-- The text of the members of the class, up to the declaration of a field and behind its attribute. -/
private theorem print_members {before after : List FieldPlan} {f : FieldPlan}
    (fields : plan.fields = before ++ f :: after) (methods : List Stmt) : ∃ tail,
      Stmt.printBody 1 (documentation plan ++
        settings plan :: (plan.fields.map fieldStatement ++ methods)) =
      Stmt.printBody 1 (membersBefore plan before) ++ (indentation 1 ++
        ((Naming.attributeName f.name).toList ++ (':' :: ' ' :: tail))) := by
  have split : documentation plan ++ settings plan :: (plan.fields.map fieldStatement ++ methods) =
      membersBefore plan before ++ fieldStatement f :: (after.map fieldStatement ++ methods) := by
    simp [membersBefore, fields]
  rw [split, Stmt.printBody_append _ (by simp [membersBefore]), Stmt.printAll]
  unfold fieldStatement
  rw [Stmt.print]
  simp only [Expr.print, List.append_assoc]
  exact ⟨_, rfl⟩

/-- The lines of the class up to a line that holds a word only. -/
private theorem cuts_members {fields : List FieldPlan} {w : String} (line : Nat)
    (described : ∃ description, plan.description = Datum.ofText? description)
    (named : IsName plan.typeName) (sound : ∀ f ∈ fields, f.IsSound)
    (word : Naming.isWord w.toList) : ∃ ss ts i j,
      PrintsLines 1 (line + 1) (Stmt.printBody 1 (membersBefore plan fields)) ss ts 0 ∧
        CutsLines (.behind line 0)
          ("class ".toList ++ (plan.typeName.toList ++ ("(BaseModel):\n".toList ++
            (Stmt.printBody 1 (membersBefore plan fields) ++
              (indentation 1 ++ (w.toList ++ ['\n']))))))
          (classTokens plan.typeName "BaseModel" line line i ++
            (ts ++ [⟨.word w, j⟩, ⟨.newline, j⟩]))
          (.behind (j + 1) 1) := by
  obtain ⟨ts, prints⟩ : ∃ ts, PrintsLines 1 (line + 1)
      (Stmt.printBody 1 (membersBefore plan fields))
      (Stmt.placedBody 1 (line + 1) (membersBefore plan fields)) ts 0 :=
    Printable.prints_flat (Nat.le_of_ble_eq_true rfl) (by simp [membersBefore])
      (printable_membersBefore described sound)
  obtain ⟨i, members⟩ := prints.cuts 0 (by omega)
  let j := line + 1 + (Stmt.printBody 1 (membersBefore plan fields)).count '\n'
  have header := CutsLines.derivedClass line named.1 (by decide : Naming.isWord "BaseModel".toList)
  have last : CutsLines (.behind j (1 + 0)) _ (moves j 1 1 ++ [⟨.word w, j⟩, ⟨.newline, j⟩]) _ :=
    CutsLines.wordLine j (by omega) (Nat.le_of_ble_eq_true rfl) word
  have whole := header.append (members.append last)
  have deeper : moves i 0 1 = [⟨.indent, i⟩] := rfl
  have stay : moves j 1 1 = [] := rfl
  have bases : '(' :: ("BaseModel".toList ++ [')']) ++ [':'] ++ ['\n'] = "(BaseModel):\n".toList := rfl
  refine ⟨_, ts, i, j, prints, ?_⟩
  rw [deeper, stay, ← List.append_assoc "class ".toList] at whole
  rw [← bases]
  simpa only [classTokens, List.append_assoc, List.cons_append, List.nil_append] using whole

/-- There is no module of a plan with a field whose attribute ends in a line feed. -/
private theorem read_of_broken_attribute {before after : List FieldPlan} {f : FieldPlan} {w : String}
    (spaced : ∃ space, plan.space = .text space)
    (described : ∃ description, plan.description = Datum.ofText? description)
    (named : IsName plan.typeName) (fields : plan.fields = before ++ f :: after)
    (sound : ∀ f ∈ before, f.IsSound) (word : Naming.isWord w.toList)
    (shape : (Naming.attributeName f.name).toList = w.toList ++ ['\n']) :
    ∃ fault, Module.read (module plan).print = .error fault := by
  obtain ⟨methods, text⟩ := print_module plan
  obtain ⟨tail, inside⟩ := print_members fields methods
  obtain ⟨ss, ts, line, prints, ahead⟩ := cuts_preamble spaced
  obtain ⟨ss', ts', i, j, prints', lines⟩ := cuts_members line described named sound word
  have colon : Cuts AnyBorder (.behind (j + 1) 0) [':', ' '] [⟨.mark ":", j + 1⟩] _ :=
    cuts_colon (admits_behind (j + 1) 0).closers
  have start := Starts.token (ahead.append lines) (Nat.zero_le _) (Nat.le_of_ble_eq_true rfl)
    (by decide) colon fun _ => trivial
  have feeds : '\r' ∉ Stmt.printBody 0 (preamble plan) ++ ['\n'] ++
      ("class ".toList ++ (plan.typeName.toList ++ ("(BaseModel):\n".toList ++
        (Stmt.printBody 1 (membersBefore plan before) ++
          (indentation 1 ++ (w.toList ++ ['\n'])))))) ++ (indentation 0 ++ [':', ' ']) := by
    have keyword : '\r' ∉ "class ".toList := by decide
    have bases : '\r' ∉ "(BaseModel):\n".toList := by decide
    have margin : '\r' ∉ indentation 1 := by decide
    have rest : '\r' ∉ indentation 0 ++ [':', ' '] := by decide
    simp only [List.mem_append, List.mem_singleton, not_or] at rest ⊢
    exact ⟨⟨⟨prints.feeds, by decide⟩, keyword, feeds_of_isWord named.1, bases, prints'.feeds, margin,
      feeds_of_isWord word, by decide⟩, rest⟩
  obtain ⟨fault, failed⟩ := Module.read_of_stuck start feeds tail fun n rest enough => by
    have leave : moves (j + 1) 1 0 = [⟨.dedent, j + 1⟩] := rfl
    have fits := prints'.fits
    simp only [List.length_append] at enough
    have stuck : Stuck n (classTokens plan.typeName "BaseModel" line line i ++ (ts' ++
        ⟨.word w, j⟩ :: ⟨.newline, j⟩ :: ⟨.dedent, j + 1⟩ :: ⟨.mark ":", j + 1⟩ :: rest)) :=
      stuck_member named.2 (by decide) prints'.reads (by omega) line line i j (j + 1)
    have whole := prints.stuck (by omega) stuck
    rw [leave]
    simpa only [List.append_assoc, List.cons_append, List.nil_append] using whole
  refine ⟨fault, ?_⟩
  rw [text, inside, shape]
  have flat : indentation 0 = [] := rfl
  simpa only [flat, List.append_assoc, List.cons_append, List.nil_append] using failed

end Generation

namespace Descriptor

variable {d : Descriptor} (valid : d.IsValid)
include valid

/-- A valid descriptor whose record module can be read has clean names. -/
theorem IsValid.isClean_of_read {m : Module} (parsed : Module.read d.moduleText.toList = .ok m) :
    d.IsClean := by
  rw [moduleText, String.toList_ofList] at parsed
  have unbroken : ¬ ∃ fault, Module.read (Generation.module d.planned).print = .error fault := by
    rintro ⟨fault, failed⟩
    rw [failed] at parsed
    cases parsed
  have spaced : ∃ space, d.planned.space = .text space := ⟨d.space, rfl⟩
  have typeName : '\n' ∉ d.typeName.toList := by
    intro broken
    obtain ⟨w, word, shape⟩ := valid.named.exists_word broken
    exact unbroken (Generation.read_of_broken_typeName spaced word shape)
  refine ⟨typeName, fun f mem broken => ?_⟩
  -- all fields before the first one with a broken name are sound
  obtain ⟨first, found⟩ : ∃ g, (d.fields.find? fun g => '\n' ∈ g.name.toList) = some g :=
    Option.isSome_iff_exists.1 (List.find?_isSome.2 ⟨f, mem, decide_eq_true broken⟩)
  obtain ⟨broken, before, after, split, others⟩ := List.find?_eq_some_iff_append.1 found
  have known {g : FieldSpec} (among : g ∈ before ++ first :: after) : g.IsValid :=
    valid.fields g (split ▸ among)
  obtain ⟨v, word, shape⟩ := (known (by simp)).named.exists_word (of_decide_eq_true broken)
  obtain ⟨w, word, shape⟩ := Naming.attributeName_of_broken word shape
  have fields : d.planned.fields =
      before.map FieldSpec.planned ++ first.planned :: after.map FieldSpec.planned := by
    rw [planned, split, List.map_append, List.map_cons]
  refine unbroken (Generation.read_of_broken_attribute spaced ⟨d.description, rfl⟩
    (valid.named.isName typeName) fields (fun g mem => ?_) word shape)
  obtain ⟨g, among, rfl⟩ := List.mem_map.1 mem
  exact (known (by simp [among])).planned_isSound (by simpa using others g among)

/-- A valid descriptor whose record module is loaded has names without a line feed. -/
theorem IsValid.isLineFree_of_load {label : String} {loaded : RecordClass × Execution.Bindings}
    (succeeds : load label d.qualifiedName d.moduleText = .ok loaded) : d.IsLineFree := by
  unfold load at succeeds
  cases qualified : Naming.isQualified d.qualifiedName with
  | false =>
    rw [qualified] at succeeds
    cases succeeds
  | true =>
    refine ⟨?_, valid.isQualified_qualifiedName.1 qualified⟩
    cases parsed : Module.read d.moduleText.toList with
    | ok m => exact valid.isClean_of_read parsed
    | error fault =>
      have failed : Loading.runSource label d.qualifiedName d.space d.typeName d.moduleText =
          .error (.unparsable d.qualifiedName) := by
        unfold Loading.runSource
        rw [parsed]
        rfl
      have dotted : d.qualifiedName.toList.contains '.' = true := by simp [qualifiedName]
      simp only [qualified, dotted, valid.splitLast_qualifiedName, failed, Bool.not_true,
        Bool.or_self, Bool.false_eq_true, if_false] at succeeds
      by_cases large : maxSourceBytes < d.moduleText.utf8ByteSize
      · rw [if_pos large] at succeeds
        cases succeeds
      · rw [if_neg large] at succeeds
        cases succeeds

end Descriptor

end FlatRecord
