import FlatRecord.Proofs.Generation.SoundPlan
import FlatRecord.Proofs.Script.PrintedStatements

/-!
# Generated modules read back

Everything in the record module of a sound plan is printable, so that its text reads as the module
itself.
-/

namespace FlatRecord.Generation

open FlatRecord.Script FlatRecord.Number

variable {d : Nat} {f : FieldPlan} {plan : RecordPlan}

/-- A name that is read. -/
theorem readable_read {id : String} (free : IsName id) : Readable d .primary (read id) := .name free

/-- An attribute of an instance. -/
theorem readable_attributeOf {owner attr : String} (free : IsName owner) (free' : IsName attr) :
    Readable d .primary (attributeOf owner attr) :=
  .member (.name free) free'

/-- A primary expression binds most strongly. -/
theorem readable_expression {e : Expr} (h : Readable d .primary e) : Readable d .expression e :=
  h.addend.sum.comparand.expression

/-- A text. -/
theorem readable_textLiteral (s : String) : Readable d .addend (textLiteral s) := .constant trivial

/-- A literal. -/
theorem readable_literal {v : Datum} (plain : (Constant.datum v).IsPlain) :
    Readable d .expression (literal v) :=
  (Readable.constant plain).sum.comparand.expression

/-- A call of a named function. -/
theorem readable_callName (callee : String) (args : List Expr) (keywords : List (String × Expr))
    (free : IsName callee) (values : ∀ e ∈ args, Readable d .expression e)
    (named : ∀ k ∈ keywords, IsName k.1 ∧ Readable d .expression k.2) :
    Readable (d + 1) .primary (callName callee args keywords) := by
  refine .call (.name free) values ?_ ?_
  · intro k mem
    obtain ⟨keyword, among, rfl⟩ := List.mem_map.1 mem
    exact (named keyword among).2
  · intro k mem
    obtain ⟨keyword, among, rfl⟩ := List.mem_map.1 mem
    exact ⟨_, rfl, (named keyword among).1⟩

/-- A mapping with one text key. -/
theorem readable_singleton {key : String} {value : Expr} (h : Readable d .expression value) :
    Readable (d + 1) .primary (singleton key value) :=
  .dict (readable_literal trivial) h

/-- The mapping that gives the name of an XML element. -/
theorem readable_xmlBinding (name : String) :
    Readable (d + 2) .expression (xmlBinding name) :=
  readable_expression (readable_singleton
    (readable_expression (readable_singleton (readable_literal trivial))))

/-- The annotation of a carrier. -/
theorem readable_carrierHint (carrier : Carrier) : Readable d .primary (carrierHint carrier) := by
  cases carrier with
  | date => exact readable_attributeOf (by decide) (by decide)
  | dateTime => exact readable_attributeOf (by decide) (by decide)
  | decimal => exact readable_attributeOf (by decide) (by decide)
  | _ => exact readable_read (by decide)

/-- The bounds of a kind are written as literals. -/
theorem isPlain_bounds {kind : Kind} {low high : Int} (bounds : kind.bounds? = some (low, high)) :
    (Constant.datum (.int low)).IsPlain ∧ (Constant.datum (.int high)).IsPlain := by
  have proper : low ≤ high := by
    cases kind <;> simp only [Kind.bounds?, Option.some.injEq, Prod.mk.injEq, reduceCtorEq] at bounds
    all_goals omega
  exact ⟨Kind.length_naturalText_le bounds ⟨le_rfl, proper⟩,
    Kind.length_naturalText_le bounds ⟨proper, le_rfl⟩⟩

/-- The annotation of a kind. -/
theorem readable_kindHint (kind : Kind) : Readable (d + 2) .primary (kindHint kind) := by
  unfold kindHint
  cases bounds : kind.bounds? with
  | none => exact readable_carrierHint _
  | some range =>
    obtain ⟨low, high⟩ := range
    have plain := isPlain_bounds bounds
    refine .subscripts (readable_read (by decide)) (by simp) ?_
    have notes : Readable (d + 1) .expression
        (callName "Field" [] [("ge", literal (.int low)), ("le", literal (.int high))]) := by
      refine readable_expression (readable_callName _ _ _ (by decide) (by simp) ?_)
      refine List.forall_mem_cons.2 ⟨⟨(by decide : IsName "ge"), readable_literal plain.1⟩, ?_⟩
      exact List.forall_mem_singleton.2 ⟨(by decide : IsName "le"), readable_literal plain.2⟩
    refine List.forall_mem_cons.2 ⟨readable_expression (readable_carrierHint _), ?_⟩
    exact List.forall_mem_singleton.2 notes

/-- The annotation of a field. -/
theorem readable_hint (f : FieldPlan) : Readable (d + 3) .expression (hint f) := by
  unfold hint
  split
  · exact readable_expression (readable_kindHint _)
  · have single : ∀ items use, kindHint f.kind ≠ .tuple items use := by
      intro items use
      unfold kindHint
      cases f.kind <;> simp [Kind.bounds?, Kind.carrier, carrierHint, read, attributeOf]
    exact readable_expression (.subscript (readable_read (by decide))
      (readable_expression (readable_kindHint _)) single)

/-- The default of a sound field is written as a literal. -/
theorem isPlain_defaultLiteral (sound : f.IsSound) :
    (Constant.datum (defaultLiteral f.default)).IsPlain := by
  obtain null | holds := sound.holds
  · rw [null]
    trivial
  have carried := holds.carried
  cases value : f.default <;> rw [value] at carried <;>
    simp only [defaultLiteral, Constant.IsPlain]
  case int n =>
    rw [value] at holds
    exact holds.length_naturalText_le
  case float x => exact sound.finite x value
  all_goals
    cases kind : f.kind.carrier <;> simp [kind, Carrier.Holds] at carried

/-- The settings in the declaration of a field. -/
private theorem readable_fieldKeywords (f : FieldPlan) :
    ∀ k ∈ [("alias", textLiteral f.name), ("json_schema_extra", xmlBinding f.name)] ++
      (if isTextDefault f.default f.kind then [("validate_default", literal (.bool true))] else []),
      IsName k.1 ∧ Readable (d + 2) .expression k.2 := by
  have other : IsName "alias" := by decide
  have extra : IsName "json_schema_extra" := by decide
  have checked : IsName "validate_default" := by decide
  intro k mem
  simp only [List.cons_append, List.nil_append, List.mem_cons, List.mem_ite_nil_right] at mem
  obtain rfl | rfl | ⟨-, rfl | none⟩ := mem
  · exact ⟨other, readable_literal trivial⟩
  · exact ⟨extra, readable_xmlBinding _⟩
  · exact ⟨checked, readable_literal trivial⟩
  · simp at none

/-- The declaration of a field. -/
theorem printable_fieldStatement {n : Nat} (sound : f.IsSound) : Printable n (fieldStatement f) := by
  have default : ∀ e ∈ [literal (defaultLiteral f.default)],
      Readable (maxBrackets - 2) .expression e :=
    List.forall_mem_singleton.2 (readable_literal (isPlain_defaultLiteral sound))
  have value : Readable (maxBrackets - 2 + 1) .primary _ :=
    readable_callName "Field" _ _ (by decide) default
      (readable_fieldKeywords (d := maxBrackets - 4) f)
  exact .annotated sound.attributeName.word (readable_hint (d := maxBrackets - 4) f)
    (readable_expression value)

/-- A method whose parameters besides the instance are plain. -/
theorem printable_method {n : Nat} {name : String} {params : List Param} {body : List Stmt}
    {returns : Expr} (free : IsName name) (plain : ∀ p ∈ params, p.IsPlain)
    (h : IsReadable .expression returns) (nonempty : body ≠ []) (inner : ∀ s ∈ body, Printable n s) :
    Printable (n + 1) (method name params body returns) :=
  .functionDef free (by simp)
    (List.forall_mem_cons.2 ⟨⟨by decide, by simp [Param.hint]⟩, plain⟩) h nonempty inner

/-- The constructor. -/
theorem printable_constructor {n : Nat} : Printable (n + 1) constructor :=
  printable_method (by decide) (by simp) (readable_literal trivial) (by simp)
    (List.forall_mem_singleton.2 (.calls (by decide) (by decide) (by decide)))

/-- The getter of a field. -/
theorem printable_getter {n : Nat} (sound : f.IsSound) : Printable (n + 1) (getter f) :=
  printable_method sound.getterName.word (by simp) (readable_hint (d := maxBrackets - 4) f) (by simp)
    (List.forall_mem_singleton.2
      (.ret (readable_expression (readable_attributeOf (by decide) sound.attributeName.word))))

/-- The setter of a field. -/
theorem printable_setter {n : Nat} (sound : f.IsSound) : Printable (n + 1) (setter f) := by
  have value : (Param.mk 0 "value" (some (hint f))).IsPlain := by
    refine ⟨(by decide : IsName "value"), ?_⟩
    rintro _ ⟨⟩
    exact readable_hint (d := maxBrackets - 4) f
  exact printable_method sound.setterName.word (List.forall_mem_singleton.2 value)
    (readable_literal trivial) (by simp) (List.forall_mem_singleton.2
      (.assignMember (by decide) (by decide) sound.attributeName.word
        (readable_expression (readable_read (by decide)))))

/-- Every piece of a text form is an operand of a sum. -/
theorem readable_textPieces {beginning : String} {fields : List FieldPlan}
    (sound : ∀ f ∈ fields, f.IsSound) :
    ∀ e ∈ textPieces beginning fields, Readable (d + 1) .addend e := by
  induction fields generalizing beginning with
  | nil => simp [textPieces]
  | cons f rest ih =>
    obtain ⟨first, others⟩ := List.forall_mem_cons.1 sound
    have stored : ∀ e ∈ [attributeOf "self" (Naming.attributeName f.name)],
        Readable d .expression e :=
      List.forall_mem_singleton.2
        (readable_expression (readable_attributeOf (by decide) first.attributeName.word))
    refine List.forall_mem_cons.2 ⟨readable_textLiteral _, List.forall_mem_cons.2 ⟨?_, ih others⟩⟩
    exact (readable_callName _ _ [] (by decide) stored (by simp)).addend

/-- What holds of a piece and is kept by adding one more holds of pieces that are joined from left to right. -/
theorem joined_induction {P Q : Expr → Prop} (single : ∀ e, Q e → P e)
    (add : ∀ left right, P left → Q right → P (.binary left .add right)) (empty : Q (textLiteral ""))
    {pieces : List Expr} (each : ∀ e ∈ pieces, Q e) : P (joined pieces) := by
  have foldl (rest : List Expr) (behind : ∀ e ∈ rest, Q e) :
      ∀ first, P first → P (rest.foldl (fun left right => .binary left .add right) first) := by
    induction rest with
    | nil => exact fun _ here => here
    | cons e rest ih =>
      obtain ⟨next, others⟩ := List.forall_mem_cons.1 behind
      exact fun first here => ih others _ (add first e here next)
  cases pieces with
  | nil => exact single _ empty
  | cons first rest =>
    obtain ⟨head, others⟩ := List.forall_mem_cons.1 each
    exact foldl rest others first (single first head)

/-- Pieces joined from left to right are a sum. -/
theorem readable_joined {pieces : List Expr} (h : ∀ e ∈ pieces, Readable d .addend e) :
    Readable d .sum (joined pieces) :=
  joined_induction (fun _ piece => piece.sum) (fun _ _ first next => first.add next)
    (readable_textLiteral _) h

/-- The text form. -/
theorem printable_textMethod {n : Nat} (sound : plan.IsSound) :
    Printable (n + 1) (textMethod plan) := by
  have pieces : ∀ e ∈ textPieces (plan.typeName ++ "\x7b") plan.fields ++ [textLiteral "\x7d"],
      Readable (maxBrackets - 1) .addend e := by
    refine List.forall_mem_append.2 ⟨readable_textPieces (d := maxBrackets - 2) sound.fields, ?_⟩
    exact List.forall_mem_singleton.2 (readable_textLiteral _)
  exact printable_method (by decide) (by simp) (readable_expression (readable_read (by decide)))
    (by simp) (List.forall_mem_singleton.2 (.ret (readable_joined pieces).comparand.expression))

/-- The values of all fields of an instance. -/
theorem readable_attributeTuple {owner : String} {fields : List FieldPlan} (free : IsName owner)
    (sound : ∀ f ∈ fields, f.IsSound) : Readable (d + 1) .primary (attributeTuple owner fields) := by
  refine .tuple fun e mem => ?_
  obtain ⟨f, among, rfl⟩ := List.mem_map.1 mem
  exact readable_expression (readable_attributeOf free (sound f among).attributeName.word)

/-- Equality. -/
theorem printable_equalityMethod {n : Nat} (sound : plan.IsSound) :
    Printable (n + 2) (equalityMethod plan) := by
  have other : (Param.mk 0 "other" (some (read "object"))).IsPlain := by
    refine ⟨by decide, ?_⟩
    rintro _ ⟨⟩
    exact readable_expression (readable_read (by decide))
  have same : IsCondition (.compare (read "self") [.same] [read "other"]) :=
    .inl (.compare (readable_read (by decide)).addend.sum.comparand
      (readable_read (by decide)).addend.sum.comparand (.inr rfl))
  have arguments : ∀ e ∈ [read "other", read plan.typeName],
      Readable (maxBrackets - 2) .expression e :=
    List.forall_mem_cons.2 ⟨readable_expression (readable_read (by decide)),
      List.forall_mem_singleton.2 (readable_expression (readable_read sound.named))⟩
  have foreign : IsCondition
      (.unary .not (callName "isinstance" [read "other", read plan.typeName] [])) := by
    have call : Readable (maxBrackets - 2 + 1) .primary _ :=
      readable_callName "isinstance" _ [] (by decide) arguments (by simp)
    exact .inr ⟨_, rfl, call.addend.sum.comparand⟩
  have tuple (owner : String) (free : IsName owner) : Readable (maxBrackets - 1) .comparand
      (attributeTuple owner plan.fields) :=
    (readable_attributeTuple (d := maxBrackets - 2) free sound.fields).addend.sum.comparand
  have truth (b : Bool) : ∀ s ∈ [Stmt.ret 0 (some (literal (.bool b)))], Printable n s :=
    List.forall_mem_singleton.2 (.ret (readable_literal trivial))
  refine printable_method (by decide) (List.forall_mem_singleton.2 other)
    (readable_expression (readable_read (by decide))) (by simp) ?_
  refine List.forall_mem_cons.2 ⟨.branch same (by simp) (truth true), ?_⟩
  refine List.forall_mem_cons.2 ⟨.branch foreign (by simp) (truth false), ?_⟩
  exact List.forall_mem_singleton.2
    (.ret ((tuple "self" (by decide)).compare (tuple "other" (by decide)) (.inl rfl)))

/-- The hash code. -/
theorem printable_hashMethod {n : Nat} (sound : plan.IsSound) :
    Printable (n + 1) (hashMethod plan) := by
  have tuple : ∀ e ∈ [attributeTuple "self" plan.fields], Readable (maxBrackets - 2) .expression e :=
    List.forall_mem_singleton.2 (readable_expression
      (readable_attributeTuple (d := maxBrackets - 3) (by decide) sound.fields))
  have call : Readable (maxBrackets - 2 + 1) .primary _ :=
    readable_callName "hash" _ [] (by decide) tuple (by simp)
  exact printable_method (by decide) (by simp) (readable_expression (readable_read (by decide)))
    (by simp) (List.forall_mem_singleton.2 (.ret (readable_expression call)))

/-- An assignment to a name. -/
theorem printable_assignName {n : Nat} {target : String} {value : Expr} (free : IsName target)
    (plain : target ≠ "match") (h : IsReadable .expression value) :
    Printable n (assignName target value) :=
  .assign free plain h

/-- The settings of the class. -/
theorem printable_settings {n : Nat} (plan : RecordPlan) : Printable n (settings plan) := by
  have title : IsName "title" := by decide
  have checked : IsName "validate_assignment" := by decide
  have extra : IsName "json_schema_extra" := by decide
  have keywords : ∀ k ∈ [("title", textLiteral plan.typeName),
      ("validate_assignment", literal (.bool true)),
      ("json_schema_extra", xmlBinding plan.typeName)],
      IsName k.1 ∧ Readable (maxBrackets - 2) .expression k.2 := by
    refine List.forall_mem_cons.2 ⟨⟨title, readable_literal trivial⟩, ?_⟩
    refine List.forall_mem_cons.2 ⟨⟨checked, readable_literal trivial⟩, ?_⟩
    exact List.forall_mem_singleton.2 ⟨extra, readable_xmlBinding (d := maxBrackets - 4) _⟩
  have call : Readable (maxBrackets - 2 + 1) .primary _ :=
    readable_callName "ConfigDict" [] _ (by decide) (by simp) keywords
  exact printable_assignName (by decide) (by decide) (readable_expression call)

/-- The documentation of the class is a text that stands alone, if there is any. -/
theorem exists_text_of_mem_documentation {s : Stmt}
    (described : ∃ description, plan.description = Datum.ofText? description)
    (mem : s ∈ documentation plan) : ∃ text, s = .expr 0 (textLiteral text) := by
  obtain ⟨description, described⟩ := described
  rw [documentation, described] at mem
  split at mem
  · obtain rfl := List.mem_singleton.1 mem
    cases description with
    | none => contradiction
    | some text => exact ⟨text, rfl⟩
  · simp at mem

/-- The documentation of the class. -/
theorem printable_documentation {n : Nat}
    (described : ∃ description, plan.description = Datum.ofText? description) :
    ∀ s ∈ documentation plan, Printable n s := by
  intro s mem
  obtain ⟨text, rfl⟩ := exists_text_of_mem_documentation described mem
  exact .text text

/-- Everything in the body of the class. -/
theorem printable_recordClass {n : Nat} (sound : plan.IsSound) :
    Printable (n + 3) (recordClass plan) := by
  refine .classDef sound.named (by simp)
    (List.forall_mem_singleton.2 (readable_expression (readable_read (by decide)))) (by simp) ?_
  refine List.forall_mem_append.2 ⟨printable_documentation sound.described,
    List.forall_mem_cons.2 ⟨printable_settings plan, ?_⟩⟩
  refine List.forall_mem_append.2 ⟨?_, List.forall_mem_cons.2 ⟨printable_constructor, ?_⟩⟩
  · intro s mem
    obtain ⟨f, among, rfl⟩ := List.mem_map.1 mem
    exact printable_fieldStatement (sound.fields f among)
  refine List.forall_mem_append.2 ⟨?_, ?_⟩
  · intro s mem
    obtain ⟨f, among, mem⟩ := List.mem_flatMap.1 mem
    have known := sound.fields f among
    obtain rfl | rfl : s = getter f ∨ s = setter f := by simpa using mem
    · exact printable_getter known
    · exact printable_setter known
  · refine List.forall_mem_cons.2 ⟨printable_textMethod sound, ?_⟩
    refine List.forall_mem_cons.2 ⟨printable_equalityMethod sound, ?_⟩
    exact List.forall_mem_singleton.2 (printable_hashMethod sound)

/-- The imports. -/
theorem printable_imports {n : Nat} (plan : RecordPlan) : ∀ s ∈ imports plan, Printable n s := by
  have importNames {module : String} {names : List String} (free : IsName module)
      (free' : ∀ id ∈ names, IsName id) : ∀ s ∈ importNames module names, Printable n s := by
    intro s mem
    unfold Generation.importNames at mem
    split at mem
    · simp at mem
    · rename_i filled
      obtain rfl := List.mem_singleton.1 mem
      exact .importFrom free (by simpa using filled) free'
  refine List.forall_mem_append.2 ⟨List.forall_mem_append.2 ⟨List.forall_mem_append.2 ⟨?_, ?_⟩, ?_⟩,
    importNames (by decide) (by decide)⟩
  · split
    · exact List.forall_mem_singleton.2 (.importModule (by decide))
    · simp
  · split
    · exact List.forall_mem_singleton.2 (.importModule (by decide))
    · simp
  · refine importNames (by decide) ?_
    split <;> split <;> decide

/-- The statements of a generated module that stand before its class. -/
def preamble (plan : RecordPlan) : List Stmt :=
  .expr 0 (textLiteral s!"Generated record type {plan.title}.") :: (imports plan ++
    [assignName "__namespace__" (literal plan.space),
      assignName "__all__" (.list [textLiteral plan.typeName] .load)])

theorem body_module (plan : RecordPlan) : (module plan).body = preamble plan ++ [recordClass plan] := by
  simp [module, preamble]

/-- The statements before the class. -/
theorem printable_preamble {n : Nat} (spaced : ∃ space, plan.space = .text space) :
    ∀ s ∈ preamble plan, Printable n s := by
  refine List.forall_mem_cons.2 ⟨.text _, List.forall_mem_append.2 ⟨printable_imports plan, ?_⟩⟩
  obtain ⟨space, spaced⟩ := spaced
  have declared : IsReadable .expression (literal plan.space) := by
    rw [spaced]
    exact readable_literal trivial
  have names : ∀ e ∈ [textLiteral plan.typeName], Readable (maxBrackets - 2) .expression e :=
    List.forall_mem_singleton.2 (readable_literal trivial)
  have listed : Readable (maxBrackets - 2 + 1) .primary (.list [textLiteral plan.typeName] .load) :=
    .list names
  refine List.forall_mem_cons.2 ⟨printable_assignName (by decide) (by decide) declared, ?_⟩
  exact List.forall_mem_singleton.2
    (printable_assignName (by decide) (by decide) (readable_expression listed))

/-- Everything in a generated module can be printed. -/
theorem printable_module (sound : plan.IsSound) : ∀ s ∈ (module plan).body, Printable 3 s := by
  rw [body_module]
  refine List.forall_mem_append.2 ⟨printable_preamble sound.spaced, ?_⟩
  exact List.forall_mem_singleton.2 (printable_recordClass sound)

/-- The text of a generated module reads as the module. -/
theorem read_print (sound : plan.IsSound) :
    Module.read (module plan).print = .ok (module plan).placed :=
  Module.read_print (by decide) (by simp [module]) (printable_module sound)

end FlatRecord.Generation
