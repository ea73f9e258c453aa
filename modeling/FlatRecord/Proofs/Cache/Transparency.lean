import FlatRecord.Proofs.Cache.Coherence
import FlatRecord.Rendering

/-!
# Transparency of the cache

A generator of records answers every request as a new one would, whatever it has been asked before and
however few artifacts it keeps. Two facts carry this. Nothing that a cache keeps is stale: a live
artifact is what building its pair gives now, up to its number. And the number of an artifact does not
show: not in documents, nor in what becomes of the keys that are bound, nor in reports.

How full the cache is shows in its answers, of course, and is no part of what is compared here.
-/

namespace FlatRecord

/-- The same artifact as another compilation. -/
def Artifact.renumber (a : Artifact) (serial : Nat) : Artifact := { a with serial := serial }

/-- The same instance, of the same class from another compilation. -/
def Instance.renumber (i : Instance) (serial : Nat) : Instance := { i with serial := serial }

/-- What is shown of a rendered document: its text, and what became of each key. -/
def Rendered.shown (r : Rendered) : String × List BoundKey := (r.text, r.keys)

/-- What is shown of a generated type: its identity, its source text and its report. -/
def GeneratedType.shown (g : GeneratedType) :
    Descriptor × String × String × Option VerificationReport :=
  (g.descriptor, g.artifact.hash, g.artifact.source, g.report)

section Numbers

variable (a : Artifact) (i : Instance) (serial number : Nat)

theorem Instance.store_renumber (attr : String) (v : Datum) :
    (i.renumber number).store attr v = (i.store attr v).map (·.renumber number) := by
  have same : (i.renumber number).record = i.record := rfl
  unfold Instance.store
  rw [same]
  by_cases hidden : RecordClass.isHidden attr = true
  · rw [if_pos hidden, if_pos hidden]
    rfl
  · rw [if_neg hidden, if_neg hidden]
    cases i.record.checksAssignment with
    | true =>
      cases i.record.field? attr with
      | some f =>
        dsimp only
        cases f.shape.accept v <;> rfl
      | none => rfl
    | false => cases i.record.field? attr <;> rfl

theorem Binding.bindKey_renumber (key value : Datum) :
    Binding.bindKey (a.renumber serial) (i.renumber number) key value =
      (Binding.bindKey a i key value).map (·.renumber number) := by
  cases key with
  | text name =>
    simp only [bindKey]
    by_cases blank : name.isEmpty = true
    · rw [if_pos blank, if_pos blank]
      rfl
    · rw [if_neg blank, if_neg blank]
      have setter : (a.renumber serial).setter? (Naming.setterName name) =
          a.setter? (Naming.setterName name) := rfl
      rw [setter]
      cases a.setter? (Naming.setterName name) with
      | none => rfl
      | some s =>
        show (convert s value >>= apply s (i.renumber number)) =
          (convert s value >>= apply s i).map (·.renumber number)
        cases convert s value with
        | error reason => rfl
        | ok converted =>
          show apply s (i.renumber number) converted = (apply s i converted).map _
          unfold apply
          split
          · rw [Instance.store_renumber]
            cases i.store _ converted <;> rfl
          · rfl
  | _ => rfl

theorem Artifact.bind_renumber (document : Document) :
    (a.renumber serial).bind (i.renumber number) document =
      ((a.bind i document).1.renumber number, (a.bind i document).2) := by
  unfold Artifact.bind
  generalize ([] : List BoundKey) = keys
  induction document generalizing i keys with
  | nil => rfl
  | cons entry document ih =>
    have step : Binding.step (a.renumber serial) (i.renumber number, keys) entry =
        ((Binding.step a (i, keys) entry).1.renumber number,
          (Binding.step a (i, keys) entry).2) := by
      simp only [Binding.step, Binding.bindKey_renumber]
      cases Binding.bindKey a i entry.1 entry.2 <;> rfl
    rw [List.foldl_cons, step]
    exact ih _ _

/-- Documents and keys show neither the number of an artifact nor how full the cache is. -/
theorem Artifact.shown_render_renumber (stats others : Cache.Stats) (document : Document)
    (format : OutputFormat) (pretty : Bool) :
    ((a.renumber serial).render stats document format pretty).map Rendered.shown =
      (a.render others document format pretty).map Rendered.shown := by
  unfold Artifact.render
  have made : (a.renumber serial).instantiate 0 =
      (a.instantiate 0).map (·.renumber serial) := by
    unfold Artifact.instantiate
    show a.record.construct.map _ = _
    cases a.record.construct <;> rfl
  rw [made]
  cases a.instantiate 0 with
  | error fault => rfl
  | ok i =>
    show ((do
      let made := (a.renumber serial).bind (i.renumber serial) document
      let text ← (made.1.marshal format pretty).mapError RenderFault.marshal
      return ⟨text, stats, made.2⟩ : Except RenderFault Rendered).map _) = _
    rw [Artifact.bind_renumber]
    show ((do
      let text ← ((a.bind i document).1.marshal format pretty).mapError RenderFault.marshal
      return ⟨text, stats, (a.bind i document).2⟩ : Except RenderFault Rendered).map _) =
      ((do
        let text ← ((a.bind i document).1.marshal format pretty).mapError RenderFault.marshal
        return ⟨text, others, (a.bind i document).2⟩ : Except RenderFault Rendered).map _)
    cases (a.bind i document).1.marshal format pretty <;> rfl

end Numbers

namespace Cache

/-- The number of a compilation shows in the artifact only. -/
theorem build_renumber (serial number : Nat) (hash name source : String) :
    build number hash name source = (build serial hash name source).map (·.renumber number) := by
  unfold build
  cases load (label name hash) name source with
  | error fault => rfl
  | ok loaded =>
    obtain ⟨record, globals⟩ := loaded
    show (do
      let setters ← (Setter.collect globals record).mapError CompileFault.unreadable
      return (⟨number, name, source, hash, record, setters⟩ : Artifact)) = (do
      let setters ← (Setter.collect globals record).mapError CompileFault.unreadable
      return (⟨serial, name, source, hash, record, setters⟩ : Artifact)).map
        fun a : Artifact => a.renumber number
    cases Setter.collect globals record <;> rfl

/-- A request to a generator of records. What it is given may be of any type. -/
inductive Request where
  | generate (submitted : Option Submission) (verify : Bool)
  | render (name source : Datum) (document : Document) (format : OutputFormat) (pretty : Bool)
  | evict (hash : String)
  | reload (hash : String)
  | reset

/-- The cache that a request leaves behind, whether it is met or not. -/
def after (c : Cache) : Request → Cache
  | .generate submitted verify => (c.generate submitted verify).2
  | .render name source document format pretty => (c.render name source document format pretty).2
  | .evict hash => (c.evict hash).2
  | .reload hash => (c.reload hash).2
  | .reset => c.clear

/-- What a generator answers, without how full its cache is. -/
inductive Reply where
  | generated (result : Except GenerateFault
      (Descriptor × String × String × Option VerificationReport))
  | rendered (result : Except RenderFault (String × List BoundKey))
  /-- An answer that only concerns the cache. -/
  | internal

/-- What is answered to a request. -/
def reply (c : Cache) : Request → Reply
  | .generate submitted verify =>
    .generated ((c.generate submitted verify).1.map GeneratedType.shown)
  | .render name source document format pretty =>
    .rendered ((c.render name source document format pretty).1.map Rendered.shown)
  | _ => .internal

/-- The pair of a qualified name and a source text that a request asks to compile. -/
def Request.pair? : Request → Option (String × String)
  | .generate submitted _ =>
    match validateSubmission submitted with
    | .error _ => none
    | .ok d =>
      match d.source with
      | .error _ => none
      | .ok source => some (d.qualifiedName, source)
  | .render (.text name) (.text source) _ _ _ => some (name, source)
  | _ => none

/-- Different pairs that requests ask to compile have different content hashes. -/
def PairsApart (requests : List Request) : Prop :=
  ∀ p ∈ requests.filterMap Request.pair?, ∀ q ∈ requests.filterMap Request.pair?,
    contentHash p.1 p.2 = contentHash q.1 q.2 → p = q

/-- Nothing that a cache keeps is stale: a live artifact is what building its pair gives, it is kept
under the hash of its pair, as a retained pair is, and these pairs have been asked for. -/
structure IsCurrent (c : Cache) (asked : List (String × String)) : Prop where
  live : ∀ key a, (key, a) ∈ c.artifacts → a.origin ∈ asked ∧
    key = contentHash a.qualifiedName a.source ∧
    ∃ serial, build serial key a.qualifiedName a.source = .ok a
  retained : ∀ key p, (key, p) ∈ c.sources → p ∈ asked ∧ key = contentHash p.1 p.2

namespace IsCurrent

variable {c : Cache} {asked : List (String × String)}

theorem mono {more : List (String × String)} (current : IsCurrent c asked)
    (le : ∀ p ∈ asked, p ∈ more) : IsCurrent c more where
  live := fun key a mem => (current.live key a mem).imp_left (le _)
  retained := fun key p mem => (current.retained key p mem).imp_left (le _)

theorem empty {capacity : Nat} (positive : 0 < capacity) :
    IsCurrent (Cache.empty capacity positive) [] where
  live := fun _ _ mem => absurd mem List.not_mem_nil
  retained := fun _ _ mem => absurd mem List.not_mem_nil

/-- What is compiled is current, also if the tier of artifacts is emptied to make room for it. -/
theorem compileNew (current : IsCurrent c asked) {name source : String}
    (member : (name, source) ∈ asked) :
    IsCurrent (c.compileNew (contentHash name source) name source).2 asked := by
  unfold Cache.compileNew
  cases built : build c.compilations (contentHash name source) name source with
  | error fault => exact ⟨current.live, current.retained⟩
  | ok a =>
    obtain ⟨origin, hash⟩ := origin_of_build built
    obtain ⟨rfl, rfl⟩ : a.qualifiedName = name ∧ a.source = source := by
      simpa [Artifact.origin] using origin
    constructor
    · intro key b mem
      have kept : (key, b) = (a.hash, a) ∨ (key, b) ∈ c.artifacts := by
        refine (mem_putKey mem).imp_right fun old => ?_
        split at old
        · exact absurd old List.not_mem_nil
        · exact old
      rcases kept with new | old
      · obtain ⟨rfl, rfl⟩ := Prod.mk.inj new
        exact ⟨member, hash, _, hash ▸ built⟩
      · exact current.live key b old
    · intro key p mem
      rcases mem_putKey mem with new | old
      · obtain ⟨rfl, rfl⟩ := Prod.mk.inj new
        exact ⟨member, hash⟩
      · exact current.retained key p old

theorem compile (current : IsCurrent c asked) {name source : String}
    (member : (name, source) ∈ asked) : IsCurrent (c.compile name source).2 asked := by
  unfold Cache.compile
  by_cases qualified : Naming.isQualified name = true
  · rw [if_pos qualified]
    dsimp only
    cases c.artifact? (contentHash name source) with
    | some a => exact current
    | none => exact current.compileNew member
  · rw [if_neg qualified]
    exact current

theorem reload (current : IsCurrent c asked) (hash : String) :
    IsCurrent (c.reload hash).2 asked := by
  unfold Cache.reload
  cases c.artifact? hash with
  | some a => exact current
  | none =>
    cases kept : c.sources.lookup hash with
    | none => exact current
    | some p =>
      obtain ⟨member, rfl⟩ := current.retained hash p (mem_of_lookup kept)
      exact current.compileNew member

/-- Every request leaves the cache current, whether it is met or not. -/
theorem after (current : IsCurrent c asked) (request : Request) :
    IsCurrent (c.after request) (asked ++ request.pair?.toList) := by
  have known : IsCurrent c (asked ++ request.pair?.toList) :=
    current.mono fun p mem => List.mem_append_left _ mem
  have asks {name source : String} (pair : request.pair? = some (name, source)) :
      (name, source) ∈ asked ++ request.pair?.toList :=
    List.mem_append_right _ (by simp [pair])
  cases request with
  | generate submitted verify =>
    show IsCurrent (c.generate submitted verify).2 _
    unfold Cache.generate
    cases valid : validateSubmission submitted with
    | error violation => exact known
    | ok d =>
      dsimp only
      cases rendered : d.source with
      | error fault => exact known
      | ok source =>
        have member : (d.qualifiedName, source) ∈ asked ++ _ :=
          asks (by simp only [Request.pair?, valid, rendered])
        have compiled := known.compile member
        dsimp only
        cases answer : c.compile d.qualifiedName source with
        | mk result left =>
          rw [answer] at compiled
          cases result <;> exact compiled
  | render name source document format pretty =>
    show IsCurrent (c.render name source document format pretty).2 _
    have compiled : IsCurrent (c.compileGiven name source).2
        (asked ++ (Request.render name source document format pretty).pair?.toList) := by
      cases name with
      | text n =>
        cases source with
        | text s => exact known.compile (asks rfl)
        | _ => exact known
      | _ => exact known
    unfold Cache.render
    cases answer : c.compileGiven name source with
    | mk result left =>
      rw [answer] at compiled
      cases result <;> exact compiled
  | evict hash =>
    exact ⟨fun key a mem => known.live key a (List.mem_of_mem_filter mem), known.retained⟩
  | reload hash => exact known.reload hash
  | reset =>
    exact ⟨fun _ _ mem => absurd mem List.not_mem_nil, fun _ _ mem => absurd mem List.not_mem_nil⟩

/-- So does a sequence of requests. -/
theorem foldl_after (current : IsCurrent c asked) (requests : List Request) :
    IsCurrent (requests.foldl Cache.after c) (asked ++ requests.filterMap Request.pair?) := by
  induction requests generalizing c asked with
  | nil => exact current.mono fun p mem => List.mem_append_left _ mem
  | cons request requests ih =>
    refine (ih (current.after request)).mono fun p mem => ?_
    rw [List.append_assoc] at mem
    cases pair : request.pair? with
    | none => simpa [List.filterMap_cons, pair] using mem
    | some q => simpa [List.filterMap_cons, pair] using mem

/-- Compiling a pair through a current cache gives what building it gives, up to its number. -/
theorem compile_fst (current : IsCurrent c asked) {name source : String}
    (qualified : Naming.isQualified name)
    (apart : ∀ p ∈ asked, contentHash p.1 p.2 = contentHash name source → p = (name, source)) :
    ∃ serial, (c.compile name source).1 =
      (build 0 (contentHash name source) name source).map (·.renumber serial) := by
  rw [Cache.compile_fst c qualified]
  cases found : c.artifact? (contentHash name source) with
  | none => exact ⟨c.compilations, build_renumber 0 _ _ _ _⟩
  | some a =>
    obtain ⟨member, key, serial, built⟩ := current.live _ a (mem_of_lookup found)
    obtain ⟨rfl, rfl⟩ : a.qualifiedName = name ∧ a.source = source := by
      simpa [Artifact.origin] using apart a.origin member key.symm
    exact ⟨serial, built.symm.trans (build_renumber 0 serial _ _ _)⟩

end IsCurrent

/-- An answer with a document depends on the artifact of a pair, and beyond what it shows on the cache
that is left. -/
theorem render_fst (c : Cache) (name source : String) (document : Document) (format : OutputFormat)
    (pretty : Bool) : (c.render (.text name) (.text source) document format pretty).1 =
      match (c.compile name source).1 with
      | .error fault => .error (.compile fault)
      | .ok a => a.render (c.compile name source).2.stats document format pretty := by
  unfold render compileGiven
  dsimp only
  cases c.compile name source with
  | mk result left => cases result <;> rfl

/-- The same for an answer with a type. -/
theorem generate_fst (c : Cache) {submitted : Option Submission} (verify : Bool) {d : Descriptor}
    {source : String} (valid : validateSubmission submitted = .ok d)
    (rendered : d.source = .ok source) : (c.generate submitted verify).1 =
      match (c.compile d.qualifiedName source).1 with
      | .error fault => .error (.compile fault)
      | .ok a => .ok ⟨d, a, (c.compile d.qualifiedName source).2.stats,
          if verify then some (a.verify d) else none⟩ := by
  unfold generate
  rw [valid]
  dsimp only
  rw [rendered]
  dsimp only
  cases c.compile d.qualifiedName source with
  | mk result left => cases result <;> rfl

namespace IsCurrent

variable {c : Cache} {asked : List (String × String)} (current : IsCurrent c asked) {fresh : Nat}
  (positive : 0 < fresh)
include current

/-- Two current caches compile a pair alike, up to the number of the artifact. -/
theorem compile_as_new {name source : String}
    (apart : ∀ p ∈ asked, contentHash p.1 p.2 = contentHash name source → p = (name, source)) :
    (∃ fault, (c.compile name source).1 = .error fault ∧
      ((Cache.empty fresh positive).compile name source).1 = .error fault) ∨
    ∃ (a : Artifact) (serial number : Nat), (c.compile name source).1 = .ok (a.renumber serial) ∧
      ((Cache.empty fresh positive).compile name source).1 = .ok (a.renumber number) := by
  by_cases qualified : Naming.isQualified name = true
  · obtain ⟨serial, mine⟩ := current.compile_fst qualified apart
    obtain ⟨number, others⟩ : ∃ number, ((Cache.empty fresh positive).compile name source).1 =
        (build 0 (contentHash name source) name source).map (·.renumber number) :=
      (IsCurrent.empty positive).compile_fst qualified fun p mem => absurd mem List.not_mem_nil
    rw [mine, others]
    cases build 0 (contentHash name source) name source with
    | error fault => exact .inl ⟨fault, rfl, rfl⟩
    | ok a => exact .inr ⟨a, serial, number, rfl, rfl⟩
  · refine .inl ⟨.invalidName name, ?_, ?_⟩ <;>
    · unfold Cache.compile
      rw [if_neg qualified]

theorem shown_render (name source : Datum) (document : Document) (format : OutputFormat)
    (pretty : Bool)
    (apart : ∀ p ∈ asked, ∀ q, (Request.render name source document format pretty).pair? = some q →
      contentHash p.1 p.2 = contentHash q.1 q.2 → p = q) :
    (c.render name source document format pretty).1.map Rendered.shown =
      ((Cache.empty fresh positive).render name source document format pretty).1.map
        Rendered.shown := by
  cases name with
  | text n =>
    cases source with
    | text s =>
      rw [render_fst, render_fst]
      rcases current.compile_as_new positive fun p mem => apart p mem (n, s) rfl with
        ⟨fault, mine, others⟩ | ⟨a, serial, number, mine, others⟩
      · rw [mine, others]
      · rw [mine, others]
        exact (a.shown_render_renumber serial _ ⟨0, 0⟩ document format pretty).trans
          (a.shown_render_renumber number _ ⟨0, 0⟩ document format pretty).symm
    | _ => rfl
  | _ => rfl

theorem shown_generate (submitted : Option Submission) (verify : Bool)
    (apart : ∀ p ∈ asked, ∀ q, (Request.generate submitted verify).pair? = some q →
      contentHash p.1 p.2 = contentHash q.1 q.2 → p = q) :
    (c.generate submitted verify).1.map GeneratedType.shown =
      ((Cache.empty fresh positive).generate submitted verify).1.map GeneratedType.shown := by
  cases valid : validateSubmission submitted with
  | error violation =>
    unfold Cache.generate
    rw [valid]
  | ok d =>
    cases rendered : d.source with
    | error fault =>
      unfold Cache.generate
      rw [valid]
      dsimp only
      rw [rendered]
    | ok source =>
      rw [generate_fst _ _ valid rendered, generate_fst _ _ valid rendered]
      have pair : (Request.generate submitted verify).pair? = some (d.qualifiedName, source) := by
        simp only [Request.pair?, valid, rendered]
      rcases current.compile_as_new positive fun p mem => apart p mem _ pair with
        ⟨fault, mine, others⟩ | ⟨a, serial, number, mine, others⟩
      · rw [mine, others]
      · rw [mine, others]
        rfl

end IsCurrent

/-- Whatever a generator of records has been asked before, and whatever number of artifacts it keeps
at most, it answers like a new one: a document is rendered as the same text with the same keys bound
and skipped, a type is generated with the same identity, source text and report, or else the fault is
the same. -/
theorem reply_as_new {capacity fresh : Nat} (positive : 0 < capacity) (positive' : 0 < fresh)
    (earlier : List Request) (request : Request) (apart : PairsApart (earlier ++ [request])) :
    (earlier.foldl after (empty capacity positive)).reply request =
      (empty fresh positive').reply request := by
  have current := (IsCurrent.empty positive).foldl_after earlier
  have different : ∀ p ∈ [] ++ earlier.filterMap Request.pair?, ∀ q, request.pair? = some q →
      contentHash p.1 p.2 = contentHash q.1 q.2 → p = q := by
    intro p mem q pair
    rw [PairsApart, List.filterMap_append] at apart
    exact apart p (List.mem_append_left _ mem) q (List.mem_append_right _ (by simp [pair]))
  cases request with
  | generate submitted verify =>
    exact congrArg Reply.generated (current.shown_generate positive' submitted verify different)
  | render name source document format pretty =>
    exact congrArg Reply.rendered
      (current.shown_render positive' name source document format pretty different)
  | _ => rfl

/-- The source text of a record without fields. -/
def emptyRecordSource : String :=
  "from pydantic import BaseModel\n__namespace__ = 'a'\nclass T(BaseModel):\n    'empty'\n"

/-- Requests of every kind, for a record that loads and for a text that does not. -/
def mixedRequests : List Request :=
  [.render (.text "a.T") (.text emptyRecordSource) [] .xml true,
    .evict (contentHash "a.T" emptyRecordSource), .generate none true,
    .render (.text "a.T") (.text "x = 1") [] .json false,
    .reload (contentHash "a.T" emptyRecordSource), .reset,
    .render (.text "a.T") (.text emptyRecordSource) [] .json true]

/-- A document for the record is rendered after the mixed requests as it is by a new generator. -/
theorem mixedRequests_reply :
    let request : Request := .render (.text "a.T") (.text emptyRecordSource)
      [(.text "x", .int 1), (.int 2, .null)] .xml false
    PairsApart (mixedRequests ++ [request]) ∧
      (mixedRequests.foldl after (empty 1 Nat.one_pos)).reply request =
        (empty 1000 (by decide)).reply request := by
  intro request
  have apart : PairsApart (mixedRequests ++ [request]) := by
    unfold PairsApart
    decide +kernel
  exact ⟨apart, reply_as_new Nat.one_pos (by decide) mixedRequests request apart⟩

end Cache

end FlatRecord
