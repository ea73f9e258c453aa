import FlatRecord.Yaml.Cursor

/-!
# Tokens

The tokens of a YAML text: marks between documents, the beginnings and ends of collections, marks of
entries, keys and values, scalars, and what may be written before a node: its anchor and its tag.
-/

namespace FlatRecord.Yaml

/-- A line that tells how the document behind it is to be read. -/
inductive Directive where
  /-- The version of the format: the number before the point. -/
  | version (major : Nat)
  /-- A handle for the beginning of tags. -/
  | handle (name expansion : String)
  | other
  deriving DecidableEq, Repr

/-- A token. -/
inductive Token where
  | directive (d : Directive)
  | documentStart
  | documentEnd
  | blockSequenceStart
  | blockMappingStart
  | blockEnd
  | flowSequenceStart
  | flowSequenceEnd
  | flowMappingStart
  | flowMappingEnd
  | blockEntry
  | flowEntry
  | key
  | value
  | alias (name : String)
  | anchor (name : String)
  /-- A tag: its handle, if it is shortened, and the rest of it. -/
  | tag (handle : Option String) (suffix : String)
  | scalar (text : String) (plain : Bool)
  deriving DecidableEq, Repr

end FlatRecord.Yaml
