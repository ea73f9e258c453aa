import FlatRecord.Yaml.Lexer
import FlatRecord.Yaml.Tag

/-!
# Nodes

The nodes of a document: scalars, sequences and mappings, each with a tag. An alias is the node that its
anchor names; inside that node itself, it is an empty collection of the same kind.
-/

namespace FlatRecord.Yaml

/-- A node of a document. -/
inductive Node where
  | scalar (tag : Tag) (text : String)
  | sequence (tag : Tag) (items : List Node)
  | mapping (tag : Tag) (entries : List (Node × Node))

namespace Node

/-- The tag of a node. -/
def tag : Node → Tag
  | scalar t _ => t
  | sequence t _ => t
  | mapping t _ => t

/-- A node that is left out. -/
def empty : Node := scalar .null ""

end Node

/-- What is left to be read: tokens, and the nodes that anchors name so far. -/
structure NodeReader where
  tokens : List Token
  anchors : List (String × Node)

/-- What may be written before a node. -/
structure Properties where
  anchor : Option String
  /-- The tag in full. -/
  tag : Option String

/-- Where a node stands: inside brackets, in a block, or in a block where the items of a sequence need
no indentation of their own. -/
inductive Setting where
  | flow
  | block
  | hanging
  deriving DecidableEq

namespace NodeReader

/-- A node, or something else, and what is left behind it. -/
abbrev Read (α : Type) := Except Fault (α × NodeReader)

/-- Whether one of some tokens comes next. -/
def sees (ts : List Token) (r : NodeReader) : Bool := r.tokens.head?.any ts.contains

/-- What is left behind the next token. -/
def next (r : NodeReader) : NodeReader := { r with tokens := r.tokens.drop 1 }

/-- Go behind a token that must come next. -/
def demand (t : Token) (r : NodeReader) : Except Fault NodeReader :=
  if r.sees [t] then .ok r.next else .error .malformed

/-- Note the node that an anchor names. -/
def note (anchor : Option String) (n : Node) (r : NodeReader) : NodeReader :=
  match anchor with
  | some name => { r with anchors := (name, n) :: r.anchors }
  | none => r

/-- The tag that a handle and the rest of a tag make. -/
def fullTag (handles : List (String × String)) (handle : Option String) (suffix : String) :
    Except Fault String :=
  match handle with
  | none => .ok suffix
  | some h =>
    match handles.lookup h with
    | some expansion => .ok (expansion ++ suffix)
    | none => .error .malformed

/-- Read what is written before a node, in either order. -/
def properties (handles : List (String × String)) (r : NodeReader) :
    Except Fault (Properties × NodeReader) := do
  let (p, r) ←
    match r.tokens with
    | .anchor a :: .tag h s :: _ => do
      let full ← fullTag handles h s
      pure (Properties.mk (some a) (some full), r.next.next)
    | .tag h s :: .anchor a :: _ => do
      let full ← fullTag handles h s
      pure (Properties.mk (some a) (some full), r.next.next)
    | .anchor a :: _ => pure (Properties.mk (some a) none, r.next)
    | .tag h s :: _ => do
      let full ← fullTag handles h s
      pure (Properties.mk none (some full), r.next)
    | _ => pure (Properties.mk none none, r)
  match p.anchor with
  | some a => if (r.anchors.lookup a).isSome then .error .malformed else return (p, r)
  | none => return (p, r)

end NodeReader

namespace Properties

/-- Whether nothing is written. -/
def isEmpty (p : Properties) : Bool := p.anchor.isNone && p.tag.isNone

/-- Whether the type of the value is left to the node. -/
def isOpen (p : Properties) : Bool := p.tag.isNone || p.tag == some "!"

/-- The type of a collection, where that is not left to its kind. -/
def collectionTag (p : Properties) (kind : Tag) : Tag :=
  if p.isOpen then kind else Tag.ofName (p.tag.getD "")

/-- The type of a scalar. Quotes make a text, unless there is a tag. -/
def scalarTag (p : Properties) (text : String) (plain : Bool) : Tag :=
  match p.tag with
  | none => if plain then Tag.ofPlain text else .text
  | some "!" => Tag.ofPlain text
  | some full => Tag.ofName full

end Properties

namespace NodeReader

mutual

/-- Read a node. -/
def node (handles : List (String × String)) :
    Nat → Setting → NodeReader → Except Fault (Node × NodeReader)
  | 0, _, _ => .error .malformed
  | fuel + 1, setting, r =>
    match r.tokens with
    | .alias name :: _ =>
      match r.anchors.lookup name with
      | some n => .ok (n, r.next)
      | none => .error .malformed
    | _ => do
      let (p, r) ← properties handles r
      match r.tokens with
      | .scalar text plain :: _ =>
        let n := Node.scalar (p.scalarTag text plain) text
        return (n, r.next.note p.anchor n)
      | .flowSequenceStart :: _ =>
        let t := p.collectionTag .sequence
        let (items, r) ← flowItems handles fuel true (r.next.note p.anchor (.sequence t []))
        return (.sequence t items, r.note p.anchor (.sequence t items))
      | .flowMappingStart :: _ =>
        let t := p.collectionTag .mapping
        let (entries, r) ← flowEntries handles fuel true (r.next.note p.anchor (.mapping t []))
        return (.mapping t entries, r.note p.anchor (.mapping t entries))
      | .blockSequenceStart :: _ =>
        if setting = .flow then plainEmpty p r
        else
          let t := p.collectionTag .sequence
          let (items, r) ← blockItems handles fuel (r.next.note p.anchor (.sequence t []))
          let r ← r.demand .blockEnd
          return (.sequence t items, r.note p.anchor (.sequence t items))
      | .blockMappingStart :: _ =>
        if setting = .flow then plainEmpty p r
        else
          let t := p.collectionTag .mapping
          let (entries, r) ← blockEntries handles fuel (r.next.note p.anchor (.mapping t []))
          let r ← r.demand .blockEnd
          return (.mapping t entries, r.note p.anchor (.mapping t entries))
      | .blockEntry :: _ =>
        if setting = .hanging then
          let t := p.collectionTag .sequence
          let (items, r) ← hangingItems handles fuel (r.note p.anchor (.sequence t []))
          return (.sequence t items, r.note p.anchor (.sequence t items))
        else plainEmpty p r
      | _ => plainEmpty p r

/-- A node that is left out behind its anchor or tag. -/
def plainEmpty (p : Properties) (r : NodeReader) : Except Fault (Node × NodeReader) :=
  if p.isEmpty then .error .malformed
  else
    let n := Node.scalar (p.scalarTag "" p.isOpen) ""
    .ok (n, r.note p.anchor n)

/-- Read a node, unless a token comes next that shows that it is left out. -/
def nodeUnless (handles : List (String × String)) :
    Nat → Setting → List Token → NodeReader → Except Fault (Node × NodeReader)
  | 0, _, _, _ => .error .malformed
  | fuel + 1, setting, stops, r =>
    if r.sees stops then .ok (.empty, r) else node handles fuel setting r

/-- Read the items of a block sequence. -/
def blockItems (handles : List (String × String)) :
    Nat → NodeReader → Except Fault (List Node × NodeReader)
  | 0, _ => .error .malformed
  | fuel + 1, r =>
    if r.sees [.blockEntry] then do
      let (item, r) ← nodeUnless handles fuel .block [.blockEntry, .blockEnd] r.next
      let (items, r) ← blockItems handles fuel r
      return (item :: items, r)
    else .ok ([], r)

/-- Read the items of a sequence that is indented no deeper than the mapping that holds it. -/
def hangingItems (handles : List (String × String)) :
    Nat → NodeReader → Except Fault (List Node × NodeReader)
  | 0, _ => .error .malformed
  | fuel + 1, r =>
    if r.sees [.blockEntry] then do
      let (item, r) ← nodeUnless handles fuel .block [.blockEntry, .key, .value, .blockEnd] r.next
      let (items, r) ← hangingItems handles fuel r
      return (item :: items, r)
    else .ok ([], r)

/-- Read the entries of a block mapping. -/
def blockEntries (handles : List (String × String)) :
    Nat → NodeReader → Except Fault (List (Node × Node) × NodeReader)
  | 0, _ => .error .malformed
  | fuel + 1, r =>
    if r.sees [.key] then do
      let (key, r) ← nodeUnless handles fuel .hanging [.key, .value, .blockEnd] r.next
      let (value, r) ← valueOf handles fuel .hanging [.key, .value, .blockEnd] r
      let (entries, r) ← blockEntries handles fuel r
      return ((key, value) :: entries, r)
    else .ok ([], r)

/-- Read the value behind a key, which may be left out with or without its mark. -/
def valueOf (handles : List (String × String)) :
    Nat → Setting → List Token → NodeReader → Except Fault (Node × NodeReader)
  | 0, _, _, _ => .error .malformed
  | fuel + 1, setting, stops, r =>
    if r.sees [.value] then nodeUnless handles fuel setting stops r.next else .ok (.empty, r)

/-- Read the items of a sequence in brackets, and the closing bracket. An item may be a mapping of one
entry. -/
def flowItems (handles : List (String × String)) :
    Nat → Bool → NodeReader → Except Fault (List Node × NodeReader)
  | 0, _, _ => .error .malformed
  | fuel + 1, first, r =>
    if r.sees [.flowSequenceEnd] then .ok ([], r.next)
    else do
      let r ← if first then pure r else r.demand .flowEntry
      if r.sees [.key] then
        let (key, r) ← nodeUnless handles fuel .flow [.value, .flowEntry, .flowSequenceEnd] r.next
        let (value, r) ← valueOf handles fuel .flow [.flowEntry, .flowSequenceEnd] r
        let (items, r) ← flowItems handles fuel false r
        return (.mapping .mapping [(key, value)] :: items, r)
      else if r.sees [.flowSequenceEnd] then return ([], r.next)
      else
        let (item, r) ← node handles fuel .flow r
        let (items, r) ← flowItems handles fuel false r
        return (item :: items, r)

/-- Read the entries of a mapping in braces, and the closing brace. An entry may be a key alone. -/
def flowEntries (handles : List (String × String)) :
    Nat → Bool → NodeReader → Except Fault (List (Node × Node) × NodeReader)
  | 0, _, _ => .error .malformed
  | fuel + 1, first, r =>
    if r.sees [.flowMappingEnd] then .ok ([], r.next)
    else do
      let r ← if first then pure r else r.demand .flowEntry
      if r.sees [.key] then
        let (key, r) ← nodeUnless handles fuel .flow [.value, .flowEntry, .flowMappingEnd] r.next
        let (value, r) ← valueOf handles fuel .flow [.flowEntry, .flowMappingEnd] r
        let (entries, r) ← flowEntries handles fuel false r
        return ((key, value) :: entries, r)
      else if r.sees [.flowMappingEnd] then return ([], r.next)
      else
        let (key, r) ← node handles fuel .flow r
        let (entries, r) ← flowEntries handles fuel false r
        return ((key, .empty) :: entries, r)

end

/-- The handles that every document knows. -/
def commonHandles : List (String × String) := [("!", "!"), ("!!", tagPrefix)]

/-- Read the directives before a document: the handles that they give. There may be one version, which
must be of the first kind, and each handle once. -/
def directives : Nat → Bool → List (String × String) → NodeReader →
    Except Fault (List (String × String) × NodeReader)
  | 0, _, _, _ => .error .malformed
  | fuel + 1, versioned, handles, r =>
    match r.tokens with
    | .directive (.version major) :: _ =>
      if versioned || major != 1 then .error .malformed else directives fuel true handles r.next
    | .directive (.handle name expansion) :: _ =>
      if (handles.lookup name).isSome then .error .malformed
      else directives fuel versioned ((name, expansion) :: handles) r.next
    | .directive .other :: _ => directives fuel versioned handles r.next
    | _ => .ok (handles, r)

/-- Read the node of the only document, if there is one. -/
def document (r : NodeReader) : Except Fault (Option Node × NodeReader) := do
  let fuel := 4 * r.tokens.length + 4
  match r.tokens with
  | [] => return (none, r)
  | .directive _ :: _ | .documentStart :: _ =>
    let (handles, r) ← directives fuel false [] r
    let r ← r.demand .documentStart
    let ended :=
      match r.tokens with
      | [] | .directive _ :: _ | .documentStart :: _ | .documentEnd :: _ => true
      | _ => false
    if ended then return (some .empty, r)
    else
      let (n, r) ← node (handles ++ commonHandles) fuel .block r
      return (some n, r)
  | _ =>
    let (n, r) ← node commonHandles fuel .block r
    return (some n, r)

end NodeReader

/-- The node of a text with one document, or nothing if there is no document. -/
def Node.read (cs : List Char) : Except Fault (Option Node) := do
  let ts ← tokens cs
  let (n, r) ← NodeReader.document ⟨ts, []⟩
  if r.tokens.all (· == .documentEnd) then return n else .error .malformed

end FlatRecord.Yaml
