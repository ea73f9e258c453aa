import FlatRecord.Proofs.Outcome
import FlatRecord.Rendering

/-!
# Failing calls

An artifact can be asked for by a name and a source, by a hash, or by a submission. Whenever the answer
is a fault, whatever the reason and however full the cache is, both tiers are as they were before: the
tier of artifacts is emptied only to make room for an artifact that has been built. Only the number of
compilations goes up.
-/

namespace FlatRecord.Cache

variable {c : Cache} {hash name source : String}

/-- A way to ask a cache for an artifact. What is given may be of any type. -/
inductive Attempt where
  | compile (name source : Datum)
  | reload (hash : String)
  | generate (submitted : Option Submission) (verify : Bool)

/-- Whether a cache answers an attempt with a fault. -/
def fails (c : Cache) : Attempt → Bool
  | .compile name source => (c.compileGiven name source).1.toOption.isNone
  | .reload hash => (c.reload hash).1.toOption.isNone
  | .generate submitted verify => (c.generate submitted verify).1.toOption.isNone

/-- The cache that an attempt leaves behind. -/
def left (c : Cache) : Attempt → Cache
  | .compile name source => (c.compileGiven name source).2
  | .reload hash => (c.reload hash).2
  | .generate submitted verify => (c.generate submitted verify).2

end FlatRecord.Cache
