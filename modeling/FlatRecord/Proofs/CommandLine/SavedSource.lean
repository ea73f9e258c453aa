import FlatRecord.CommandLine.Run
import FlatRecord.Proofs.CommandLine.NewCache
import FlatRecord.Proofs.Descriptor.Acceptance
import FlatRecord.Proofs.Generation.FirstLine
import FlatRecord.Proofs.Rendering.Refinement
import FlatRecord.Proofs.Storage.WrittenFiles
import FlatRecord.Proofs.Text.StoredText

/-!
# Rendering with a saved source text

A source text that has been generated into a file renders documents as a generated one does. The file holds
the octets of the text, these are read back as the text because it has no carriage returns, and compiling
it gives the artifact that generating it again gives.
-/

namespace FlatRecord

open FlatRecord.Storage

/-- The text of a record module has no carriage returns. -/
theorem Descriptor.IsValid.feeds_moduleText {d : Descriptor} (valid : d.IsValid) (clean : d.IsClean) :
    ∀ c ∈ d.moduleText.toList, c ≠ '\r' := by
  have nonempty : (Generation.module d.planned).body ≠ [] := by simp [Generation.module]
  have printable := Generation.printable_module (valid.planned_isSound clean)
  have room : 0 + 3 < Script.maxMargins := by decide
  obtain ⟨ts, owed, -, prints⟩ := Script.Printable.prints_body room nonempty printable 1
  rintro c mem rfl
  rw [moduleText, String.toList_ofList] at mem
  exact prints.feeds mem

/-- A note: carriage returns stand in its description and in a default. -/
def Descriptor.note : Descriptor where
  typeName := "Note"
  space := "a"
  fields := [⟨"text", "string", false, .text "one\r\ntwo"⟩]
  description := some "a\rb"

namespace CommandLine

/-- Notices are about what succeeds, and none is a warning. -/
theorem Notice.rank_level_le (n : Notice) : n.level.rank ≤ Level.info.rank := by
  have ranks : Level.debug.rank ≤ Level.info.rank := by decide
  cases n <;> first | exact ranks | exact Nat.le_refl _

/-- What a run leaves does not depend on its notices where only warnings are shown. -/
theorem Progress.outcome_congr {p q : Progress Answer} {least : Level}
    (quiet : Level.warning.rank ≤ least.rank) (files : p.files = q.files) (result : p.result = q.result) :
    p.outcome least = q.outcome least := by
  have hidden (notices : List Notice) :
      notices.filter (fun n => least.rank ≤ n.level.rank) = [] := by
    refine List.filter_eq_nil_iff.2 fun n _ shown => ?_
    have low := n.rank_level_le
    have high : Level.info.rank < Level.warning.rank := by decide
    have := of_decide_eq_true shown
    omega
  unfold outcome
  rw [hidden, hidden, files, result]

/-- A run that exits with zero has an answer. -/
theorem Progress.exists_result_eq {p : Progress Answer} {least : Level}
    (succeeded : (p.outcome least).exit = .ok 0) : ∃ answer, p.result = .ok answer := by
  unfold outcome at succeeded
  split at succeeded
  · exact ⟨_, ‹_›⟩
  all_goals simp at succeeded

/-- A run leaves the files that are there in the end. -/
theorem Progress.files_outcome (p : Progress Answer) (least : Level) :
    (p.outcome least).files = p.files := by
  unfold outcome
  split <;> rfl

/-- A file with the octets of a text without carriage returns has that text. -/
theorem readText_of_read {files : FileTree} {p : Path} {text : String} (feeds : ∀ c ∈ text.toList, c ≠ '\r')
    (clean : ¬ p.text.toList.contains '\x00' = true) (holds : files.read p = .ok (Text.encodeUtf8 text)) :
    readText files p = .ok text := by
  have decoded := Text.decodeUtf8_encodeUtf8 text.toList
  rw [String.ofList_toList] at decoded
  unfold readText
  rw [if_neg clean, holds]
  simp only [decoded, Text.unifyBreaks_eq_self feeds, String.ofList_toList]

/-- The text of a file that has been written with a source text is that text. Other files are as they were,
unless they are the same file. -/
theorem readText_of_writeSource {files files' : FileTree} {p : Path} {overwrite : Bool} {source : String}
    (feeds : ∀ c ∈ source.toList, c ≠ '\r') (written : writeSource files p overwrite source = .ok files') :
    readText files' p = .ok source ∧ ∀ p' text, readText files p' = .ok text →
      readText files' p' = .ok text ∨ readText files' p' = .ok source := by
  have null : ¬ p.text.toList.contains '\x00' = true := by
    intro null
    unfold writeSource at written
    rw [if_pos null] at written
    cases written
  obtain ⟨between, made, saved⟩ : ∃ between, files.makeDirectories p.parent = .ok between ∧
      between.write p (Text.encodeUtf8 source) = .ok files' := by
    unfold writeSource at written
    rw [if_neg null] at written
    obtain ⟨taken, -, written⟩ := bind_eq_ok.1 written
    split at written
    · cases written
    · have written := toOption_eq_some.2 written
      rw [toOption_mapError] at written
      exact bind_eq_ok.1 (toOption_eq_some.1 written)
  obtain ⟨back, others⟩ := FileTree.read_written made saved
  refine ⟨readText_of_read feeds null back, fun q text seen => ?_⟩
  have clean : ¬ q.text.toList.contains '\x00' = true := by
    intro null
    unfold readText at seen
    rw [if_pos null] at seen
    cases seen
  unfold readText at seen
  rw [if_neg clean] at seen
  cases before : files.read q with
  | error fault => simp [before] at seen
  | ok octets =>
    rw [before] at seen
    obtain kept | overwritten := others q octets before
    · left
      unfold readText
      rw [if_neg clean, kept]
      exact seen
    · exact .inr (readText_of_read feeds clean overwritten)

/-- A file with the text of a record module holds no document. -/
theorem readDocument_moduleText {files : FileTree} {p : Path} {d : Descriptor} (valid : d.IsValid)
    (clean : d.IsLineFree) (holds : readText files p = .ok d.moduleText) :
    ∃ stop, readDocument files p = .error stop := by
  obtain ⟨⟨json, badJson⟩, yaml, badYaml⟩ := valid.read_moduleText clean
  have json' : ∃ stop, parseJson p d.moduleText = .error stop := by
    unfold parseJson
    rw [badJson]
    dsimp only
    split <;> exact ⟨_, rfl⟩
  have yaml' : ∃ stop, parseYaml p d.moduleText = .error stop := by
    unfold parseYaml
    rw [badYaml]
    cases yaml <;> exact ⟨_, rfl⟩
  obtain ⟨stop, json'⟩ := json'
  obtain ⟨stop', yaml'⟩ := yaml'
  unfold readDocument
  rw [holds]
  by_cases name : isJsonPath p = true
  · exact ⟨stop, by simp [name, json', Except.mapError, bind, Except.bind]⟩
  · exact ⟨stop', by simp [name, yaml', Except.mapError, bind, Except.bind]⟩

/-- A document is read again from a file with the same text. -/
theorem readDocument_congr {files files' : FileTree} {p : Path} (same : readText files' p = readText files p) :
    readDocument files' p = readDocument files p := by
  unfold readDocument
  rw [same]

/-- What can be read as a document is a text. -/
theorem exists_readText_eq {files : FileTree} {p : Path} {entries : Document}
    (read : readDocument files p = .ok entries) : ∃ text, readText files p = .ok text := by
  obtain ⟨text, seen, -⟩ := bind_eq_ok.1 read
  have seen := toOption_eq_some.2 seen
  rw [toOption_mapError] at seen
  exact ⟨text, toOption_eq_some.1 seen⟩

/-- What it takes that the source text of a descriptor is generated and stored. -/
structure Stores (files : FileTree) (g : GenerateRequest) (d : Descriptor) (files' : FileTree) : Prop where
  declared : readDescriptor files (Path.ofText g.input) = .ok d
  valid : d.submission.validate = .ok d
  compiles : ∃ a, Cache.build 0 (contentHash d.qualifiedName d.moduleText) d.qualifiedName d.moduleText = .ok a
  stored : storeSource files g d.moduleText = .ok files'

/-- A new cache that generates what is asked for has stored its source text. -/
theorem Stores.of_runGenerate {files : FileTree} {g : GenerateRequest} {capacity : Nat}
    {positive : 0 < capacity} {answer : Answer}
    (succeeded : (runGenerate files (Cache.empty capacity positive) g).result = .ok answer) :
    ∃ d, Stores files g d (runGenerate files (Cache.empty capacity positive) g).files := by
  unfold runGenerate at succeeded ⊢
  cases declared : readDescriptor files (Path.ofText g.input) with
  | error stop => simp [declared] at succeeded
  | ok d =>
    simp only [declared] at succeeded ⊢
    rcases generated : (Cache.empty capacity positive).generate (some d.submission) g.verify with
      ⟨fault | made, after⟩
    · simp [generated] at succeeded
    · obtain ⟨valid, -, built⟩ := Cache.compile_of_generate generated
      have source : made.artifact.source = d.moduleText := congrArg Prod.snd (Cache.origin_of_build built).1
      simp only [generated, source] at succeeded ⊢
      cases stored : storeSource files g d.moduleText with
      | error stop => simp [stored] at succeeded
      | ok files' => exact ⟨d, declared, valid, ⟨_, built⟩, stored⟩

namespace Stores

variable {files files' : FileTree} {g : GenerateRequest} {d : Descriptor}

theorem isValid (h : Stores files g d files') : d.IsValid := (Submission.validate_eq_ok h.valid).1

theorem isLineFree (h : Stores files g d files') : d.IsLineFree := by
  obtain ⟨a, built⟩ := h.compiles
  exact (h.isValid.parts_of_build built).1

/-- The source text is read back from the file that it has been written to. -/
theorem readText_output (h : Stores files g d files') {output : String} (asked : g.output = some output) :
    readText files' (Path.ofText output) = .ok d.moduleText := by
  have stored := h.stored
  simp only [storeSource, asked] at stored
  exact (readText_of_writeSource (h.isValid.feeds_moduleText h.isLineFree.toIsClean) stored).1

/-- The descriptor is still there, unless the source text has been written over it. -/
theorem readDescriptor_again (h : Stores files g d files') (laidOut : g.relayout = false) :
    readDescriptor files' (Path.ofText g.input) = .ok d ∨
      ∃ stop, readDescriptor files' (Path.ofText g.input) = .error stop := by
  obtain ⟨entries, document, meant⟩ := bind_eq_ok.1 h.declared
  obtain ⟨text, seen⟩ := exists_readText_eq document
  have again (same : readText files' (Path.ofText g.input) = readText files (Path.ofText g.input)) :
      readDescriptor files' (Path.ofText g.input) = .ok d := by
    unfold readDescriptor
    rw [readDocument_congr same, document]
    exact meant
  have stored := h.stored
  unfold storeSource at stored
  cases asked : g.output with
  | none =>
    simp only [asked, laidOut] at stored
    obtain rfl : files = files' := by simpa using stored
    exact .inl (again rfl)
  | some output =>
    simp only [asked] at stored
    obtain kept | overwritten := (readText_of_writeSource
      (h.isValid.feeds_moduleText h.isLineFree.toIsClean) stored).2 _ text seen
    · exact .inl (again (kept.trans seen.symm))
    · obtain ⟨stop, refused⟩ := readDocument_moduleText h.isValid h.isLineFree overwritten
      right
      unfold readDescriptor
      rw [refused]
      exact ⟨stop, rfl⟩

/-- Compiling the stored source text in a new cache gives what generating it in a new cache gives. -/
theorem exists_compile_eq (h : Stores files g d files') {capacity : Nat} (positive : 0 < capacity) :
    ∃ a after, (Cache.empty capacity positive).compile d.qualifiedName d.moduleText = (.ok a, after) ∧
      after.compile d.qualifiedName d.moduleText = (.ok a, after) ∧ a.source = d.moduleText := by
  obtain ⟨a, built⟩ := h.compiles
  have compiled : ((Cache.empty capacity positive).compile d.qualifiedName d.moduleText).1 = .ok a := by
    have nothing (hash : String) : (Cache.empty capacity positive).artifact? hash = none := rfl
    rw [Cache.compile_fst _ (h.isValid.isQualified_qualifiedName.2 h.isLineFree.space), nothing]
    exact built
  have again := Cache.compile_again compiled
  rcases pair : (Cache.empty capacity positive).compile d.qualifiedName d.moduleText with ⟨result, after⟩
  rw [pair] at compiled again
  obtain rfl : result = .ok a := compiled
  exact ⟨a, after, rfl, again, congrArg Prod.snd (Cache.origin_of_build built).1⟩

/-- Storing a source text exits with zero, unless the record is to be verified. -/
theorem exit_eq (h : Stores files g d files') (unverified : g.verify = false) (plain : g.json = false)
    {capacity : Nat} (positive : 0 < capacity) (least : Level) :
    ((runGenerate files (Cache.empty capacity positive) g).outcome least).exit = .ok 0 := by
  obtain ⟨a, after, compiled, -, source⟩ := h.exists_compile_eq positive
  have generated := (Cache.empty capacity positive).generate_eq_compile h.valid g.verify
  simp only [compiled, unverified] at generated
  have answered : ∃ answer, generateAnswer g ⟨d, a, after.stats, none⟩ = .ok answer ∧ answer.code = 0 := by
    unfold generateAnswer
    rw [plain]
    cases g.output.isNone <;> exact ⟨⟨_, [], 0⟩, rfl, rfl⟩
  obtain ⟨answer, answered, code⟩ := answered
  have result : (runGenerate files (Cache.empty capacity positive) g).result = .ok answer := by
    unfold runGenerate
    simp only [h.declared, unverified, generated, source, h.stored]
    exact answered
  unfold Progress.outcome
  rw [result]
  exact congrArg Except.ok code

/-- A document is rendered alike with the stored source text and without it. -/
theorem runRender_eq (h : Stores files g d files') (laidOut : g.relayout = false) {capacity : Nat}
    (positive : 0 < capacity) (r : RenderRequest) :
    (runRender files' (Cache.empty capacity positive)
        { r with descriptor := g.input, source := g.output }).files =
      (runRender files' (Cache.empty capacity positive)
        { r with descriptor := g.input, source := none }).files ∧
    (runRender files' (Cache.empty capacity positive)
        { r with descriptor := g.input, source := g.output }).result =
      (runRender files' (Cache.empty capacity positive)
        { r with descriptor := g.input, source := none }).result := by
  unfold runRender
  dsimp only
  obtain declared | ⟨stop, refused⟩ := h.readDescriptor_again laidOut
  · simp only [declared, ok_bind]
    cases readDocument files' (Path.ofText r.data) with
    | error stop => exact ⟨rfl, rfl⟩
    | ok document =>
      obtain ⟨a, after, compiled, again, source⟩ := h.exists_compile_eq positive
      cases asked : g.output with
      | none => exact ⟨rfl, rfl⟩
      | some output =>
        have read := h.readText_output asked
        have generated := (Cache.empty capacity positive).generate_eq_compile h.valid false
        simp only [compiled] at generated
        simp only [ok_bind, pure, Except.pure]
        unfold renderDocument chooseSource
        simp only [read, generated, Except.map, Except.mapError, source, compiled, again]
        -- What is left differs in the notices only.
        cases a.render after.stats document r.format (!r.compact) <;> exact ⟨rfl, rfl⟩
  · simp only [refused, error_bind, and_self]

end Stores

/-- A source text that has been generated into a file renders every document as the generated one does: the
output, the messages, the exit code and the files are the same, however the document is to be rendered and
shown. The file is read back as the text that was generated. -/
theorem run_saved_eq_run_regenerated {files : FileTree} {storing saved regenerated : List String}
    {least level : Level} {kept cache : Cache} {g : GenerateRequest} {r : RenderRequest}
    (stores : Request.read storing = .ok ⟨least, kept, .generate g⟩) (laidOut : g.relayout = false)
    (succeeded : (run files storing).exit = .ok 0)
    (reuses : Request.read saved =
      .ok ⟨level, cache, .render { r with descriptor := g.input, source := g.output }⟩)
    (repeats : Request.read regenerated =
      .ok ⟨level, cache, .render { r with descriptor := g.input, source := none }⟩)
    (quiet : Level.warning.rank ≤ level.rank) :
    run (run files storing).files saved = run (run files storing).files regenerated ∧
      ∃ d source, readDescriptor files (Path.ofText g.input) = .ok d ∧ d.source = .ok source ∧
        ∀ output, g.output = some output →
          readText (run files storing).files (Path.ofText output) = .ok source := by
  obtain ⟨capacity, positive, new⟩ := Request.exists_cache_eq stores
  obtain ⟨capacity', positive', new'⟩ := Request.exists_cache_eq reuses
  dsimp only at new new'
  subst new new'
  have left : run files storing =
      (runGenerate files (Cache.empty capacity positive) g).outcome least := by
    unfold run
    rw [stores]
    rfl
  rw [left] at succeeded ⊢
  obtain ⟨answer, answered⟩ := Progress.exists_result_eq succeeded
  rw [Progress.files_outcome]
  obtain ⟨d, h⟩ := Stores.of_runGenerate answered
  obtain ⟨files, result⟩ := h.runRender_eq laidOut positive' r
  refine ⟨?_, d, d.moduleText, h.declared, h.isValid.source, fun output asked => h.readText_output asked⟩
  unfold run
  rw [reuses, repeats]
  exact Progress.outcome_congr quiet files result

/-- A text that declares a note. -/
def noteText : String :=
  "\x7b\"typeName\": \"Note\", \"namespace\": \"a\", \"description\": \"a\\rb\", \"fields\": " ++
    "[\x7b\"name\": \"text\", \"type\": \"string\", \"defaultValue\": \"one\\r\\ntwo\"\x7d]\x7d"

/-- A file that declares a note, and one with a document. -/
def noteFiles : FileTree :=
  ⟨[(⟨"", ["d.json"]⟩, .file (Text.encodeUtf8 noteText)),
    (⟨"", ["x.json"]⟩, .file (Text.encodeUtf8 "\x7b\"text\": \"three\"\x7d"))]⟩

/-- The texts of a document that is laid out as the descriptor of a note is. -/
private def noteTexts : Except Json.Fault Datum → List String
  | .ok (.map [(.text a, .text b), (.text c, .text d), (.text e, .text f),
      (.text g, .list [.map [(.text h, .text i), (.text j, .text k), (.text l, .text m)]])]) =>
    [a, b, c, d, e, f, g, h, i, j, k, l, m]
  | _ => []

private theorem read_noteText : ∃ entries, Json.read noteText = .ok (.map entries) ∧
    Payload.read (.map entries) = .ok .note ∧ Payload.hasUnwritableDefault entries = false := by
  have texts : noteTexts (Json.read noteText) = ["typeName", "Note", "namespace", "a", "description",
      "a\rb", "fields", "name", "text", "type", "string", "defaultValue", "one\r\ntwo"] := by decide +kernel
  unfold noteTexts at texts
  split at texts
  · rename_i read
    simp only [List.cons.injEq, and_true] at texts
    obtain ⟨rfl, rfl, rfl, rfl, rfl, rfl, rfl, rfl, rfl, rfl, rfl, rfl, rfl⟩ := texts
    exact ⟨_, read, by with_unfolding_all rfl, by with_unfolding_all rfl⟩
  · cases texts

private theorem readDescriptor_noteFiles :
    readDescriptor noteFiles (Path.ofText "d.json") = .ok .note := by
  have place : Path.ofText "d.json" = ⟨"", ["d.json"]⟩ := by decide +kernel
  have found : noteFiles.read ⟨"", ["d.json"]⟩ = .ok (Text.encodeUtf8 noteText) := by
    with_unfolding_all rfl
  have text : readText noteFiles ⟨"", ["d.json"]⟩ = .ok noteText :=
    readText_of_read (by decide +kernel) (by decide +kernel) found
  have json : isJsonPath ⟨"", ["d.json"]⟩ = true := by decide +kernel
  obtain ⟨entries, parsed, declared, writable⟩ := read_noteText
  unfold readDescriptor readDocument
  rw [place, text]
  simp [json, parseJson, parsed, declared, writable, Except.mapError, bind, Except.bind, pure, Except.pure]

private theorem stores_note : ∃ files, Stores noteFiles ⟨"d.json", some "f.py", false, false, false, false⟩
    .note files := by
  have valid : Descriptor.note.submission.validate = .ok .note := by with_unfolding_all rfl
  have clean : Descriptor.note.IsLineFree := ⟨⟨by decide, by decide⟩, by decide⟩
  have loadable : Descriptor.note.IsLoadable Descriptor.note.moduleText :=
    ⟨by decide, by decide, Descriptor.note.utf8ByteSize_moduleText_le.trans (by decide +kernel)⟩
  have built := (Submission.validate_eq_ok valid).1.build_of_isLoadable clean loadable 0
    (contentHash Descriptor.note.qualifiedName Descriptor.note.moduleText)
  have place : Path.ofText "f.py" = ⟨"", ["f.py"]⟩ := by decide +kernel
  have written (octets octets' : List UInt8) (source : String) :
      ∃ files, writeSource ⟨[(⟨"", ["d.json"]⟩, .file octets), (⟨"", ["x.json"]⟩, .file octets')]⟩
        ⟨"", ["f.py"]⟩ false source = .ok files := ⟨_, by with_unfolding_all rfl⟩
  obtain ⟨files, written⟩ := written (Text.encodeUtf8 noteText)
    (Text.encodeUtf8 "\x7b\"text\": \"three\"\x7d") Descriptor.note.moduleText
  rw [← place] at written
  exact ⟨files, readDescriptor_noteFiles, valid, ⟨_, built⟩, written⟩

/-- The source text of a note is stored, and renders a document as the generated one does. -/
theorem run_saved_note :
    (run noteFiles ["generate", "--input", "d.json", "--output", "f.py"]).exit = .ok 0 ∧
    run (run noteFiles ["generate", "--input", "d.json", "--output", "f.py"]).files
        ["render", "--descriptor", "d.json", "--data", "x.json", "--source", "f.py", "--json"] =
      run (run noteFiles ["generate", "--input", "d.json", "--output", "f.py"]).files
        ["render", "--descriptor", "d.json", "--data", "x.json", "--json"] ∧
    ∃ d source, readDescriptor noteFiles (Path.ofText "d.json") = .ok d ∧ d.source = .ok source ∧
      ∀ output, some "f.py" = some output →
        readText (run noteFiles ["generate", "--input", "d.json", "--output", "f.py"]).files
          (Path.ofText output) = .ok source := by
  have stores : Request.read ["generate", "--input", "d.json", "--output", "f.py"] = .ok ⟨.warning,
      Cache.empty 1000 (by decide), .generate ⟨"d.json", some "f.py", false, false, false, false⟩⟩ := by
    with_unfolding_all rfl
  have reuses : Request.read ["render", "--descriptor", "d.json", "--data", "x.json", "--source", "f.py",
      "--json"] = .ok ⟨.warning, Cache.empty 1000 (by decide),
        .render ⟨"d.json", "x.json", some "f.py", false, .xml, true⟩⟩ := by
    with_unfolding_all rfl
  have repeats : Request.read ["render", "--descriptor", "d.json", "--data", "x.json", "--json"] =
      .ok ⟨.warning, Cache.empty 1000 (by decide),
        .render ⟨"d.json", "x.json", none, false, .xml, true⟩⟩ := by
    with_unfolding_all rfl
  obtain ⟨files, h⟩ := stores_note
  have succeeded : (run noteFiles ["generate", "--input", "d.json", "--output", "f.py"]).exit = .ok 0 := by
    unfold run
    rw [stores]
    exact h.exit_eq rfl rfl _ _
  have rendered := run_saved_eq_run_regenerated (r := ⟨"d.json", "x.json", none, false, .xml, true⟩) stores rfl
    succeeded reuses repeats (by decide)
  exact ⟨succeeded, rendered⟩

end CommandLine

end FlatRecord
