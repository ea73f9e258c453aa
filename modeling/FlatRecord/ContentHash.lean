import FlatRecord.Digest.Sha256

/-!
# Content hashes

A compiled record type is known by the hash of its qualified name and its source text. A zero byte
stands between the two; no qualified name holds one, so the pair can be told from its bytes.
-/

namespace FlatRecord

/-- The bytes that stand for a qualified name and a source text. -/
def contentBytes (qualifiedName source : String) : List UInt8 :=
  qualifiedName.toUTF8.toList ++ 0 :: source.toUTF8.toList

/-- The hash of a qualified name and a source text. -/
def contentHash (qualifiedName source : String) : String :=
  Sha256.hash (contentBytes qualifiedName source)

end FlatRecord
