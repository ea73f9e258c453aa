import FlatRecord.Execution.Fault
import FlatRecord.Script.Reading.Statement

/-!
# Evaluation

The meaning of an expression in a scope: literals, names, members of modules, type expressions, the
calls that record modules make, and comparisons. A type may be given by source text, which is read
as an expression when the type is needed.
-/

namespace FlatRecord.Execution

open FlatRecord.Script FlatRecord.Number FlatRecord.Text

/-- The names that every module knows. -/
def builtins : Bindings :=
  [("bool", .type .boolean), ("float", .type .float), ("hash", .function .hash),
   ("int", .type .integer), ("isinstance", .function .isInstance), ("object", .type .object),
   ("str", .type .text), ("super", .type .parent)]

/-- Where names are looked up: in the class that is being run, in the module, and among the names
that every module knows. -/
structure Scope where
  /-- The class around an expression, whose hidden names are its own. -/
  owner : Option String
  locals : Bindings
  globals : Bindings
  builtins : Bindings

/-- A hidden name of a class, with two underscores before it and not behind it, carries the name of
the class. -/
def ownName (owner name : String) : String :=
  let bare := owner.toList.dropWhile (· = '_')
  if "__".toList.isPrefixOf name.toList && !"__".toList.isSuffixOf name.toList && !bare.isEmpty then
    "_" ++ String.ofList bare ++ name
  else name

namespace Scope

/-- The scope of a module. -/
def module (globals : Bindings) : Scope := ⟨none, [], globals, Execution.builtins⟩

/-- The scope of a class body. -/
def classBody (owner : String) (locals globals : Bindings) : Scope :=
  ⟨some owner, locals, globals, Execution.builtins⟩

/-- A name as the scope knows it. -/
def nameOf (scope : Scope) (name : String) : String :=
  match scope.owner with
  | some owner => ownName owner name
  | none => name

/-- The meaning of a name. -/
def lookup? (scope : Scope) (name : String) : Option Object :=
  (scope.locals.lookup name).or ((scope.globals.lookup name).or (scope.builtins.lookup name))

/-- The meaning of a name as it stands in source text. -/
def resolve (scope : Scope) (id : String) : Except Fault Object :=
  let name := scope.nameOf id
  match scope.lookup? name with
  | some o => .ok o
  | none => .error (.unbound name)

end Scope

/-- Check that source text can stand for a type. -/
def checkTypeSource (source : String) : Except Fault Expr :=
  if source.isEmpty then .error .emptyType
  else if source.toList.contains '\x00' then .error .nullInType
  else
    match Expr.read? source.toList with
    | some e => .ok e
    | none => .error (.malformedType source)

/-- The type that an object stands for where a type is expected. -/
def asType (expectation : String) (o : Object) : Except Fault Object :=
  match o with
  | .datum .null => .ok (.type .null)
  | .datum (.text source) => do
    let _ ← checkTypeSource source
    return .forward source
  | .optionalForm => .error .plainForm
  | .tuple _ => .error (.severalTypes expectation o)
  | o => .ok o

/-- The types that a type is one of. -/
def membersOf : Object → List Object
  | .union members => members
  | o => [o]

/-- Types without repetitions. -/
def distinct : List Object → List Object
  | [] => []
  | o :: rest => o :: (distinct rest).filter fun other => !other.same o

/-- One of several types. -/
def unionOf (types : List Object) : Object :=
  match distinct (types.flatMap membersOf) with
  | [one] => one
  | several => .union several

/-- The type with an argument. -/
def applyType (owner argument : Object) : Except Fault Object :=
  match owner, argument with
  | .optionalForm, argument => do
    let inner ← asType "Optional[t] requires a single type." argument
    return unionOf [inner, .type .null]
  | .type .annotated, .tuple (base :: note :: notes) => do
    let base ← asType "Annotated[t, ...]: t must be a type." base
    match base with
    | .annotated inner first => return .annotated inner (first ++ note :: notes)
    | base => return .annotated base (note :: notes)
  | .type .annotated, _ => .error .withoutNotes
  | .type name, _ => .error (.plainType name.name)
  | o, _ => .error (.withoutItems o.typeName)

/-- The member of an object. -/
def memberOf (owner : Object) (name : String) : Except Fault Object :=
  match owner, name with
  | .module "datetime", "date" => .ok (.type .date)
  | .module "datetime", "datetime" => .ok (.type .dateTime)
  | .module "decimal", "Decimal" => .ok (.type .decimal)
  | .module m, name => .error (.missingMember ("module " ++ quoted m) name)
  | .type t, name => .error (.missingMember ("type object " ++ quoted t.name) name)
  | o, name => .error (.missingMember (quoted o.typeName ++ " object") name)

/-- The result of an operator with one operand. -/
def applyUnary (op : UnaryOp) (o : Object) : Except Fault Object :=
  match op, o with
  | .not, o => .ok (.datum (.bool !o.isTruthy))
  | .minus, .datum (.int n) => .ok (.datum (.int (-n)))
  | .minus, .datum (.bool b) => .ok (.datum (.int (if b then -1 else 0)))
  | .minus, .datum (.float x) => .ok (.datum (.float x.negate))
  | .minus, o => .error (.operand "-" o.typeName)
  | .plus, .datum (.int n) => .ok (.datum (.int n))
  | .plus, .datum (.float x) => .ok (.datum (.float x))
  | .plus, o => .error (.operand "+" o.typeName)
  | .invert, .datum (.int n) => .ok (.datum (.int (-n - 1)))
  | .invert, o => .error (.operand "~" o.typeName)

/-- Whether an object is a type expression by itself. -/
def isTypeExpression : Object → Bool
  | .type _ => true
  | .union _ => true
  | .annotated .. => true
  | .forward _ => true
  | _ => false

/-- Whether an object is a type expression beside another one. -/
def joinsTypes : Object → Bool
  | .datum .null => true
  | o => isTypeExpression o

/-- The result of an operator with two operands. -/
def applyBinary (op : BinaryOp) (left right : Object) : Except Fault Object :=
  match op, left, right with
  | .add, .datum (.text s), .datum (.text t) => .ok (.text (s ++ t))
  | .add, .datum (.int a), .datum (.int b) => .ok (.datum (.int (a + b)))
  | .add, left, right => .error (.operands "+" left.typeName right.typeName)
  | .union, left, right =>
    if (isTypeExpression left && joinsTypes right) || (joinsTypes left && isTypeExpression right)
    then do
      let a ← asType "" left
      let b ← asType "" right
      return unionOf [a, b]
    else .error (.operands "|" left.typeName right.typeName)
  | .other construct, _, _ => .error (.construct construct)

/-- Whether a comparison holds. -/
def applyCompare (op : CompareOp) (left right : Object) : Except Fault Bool :=
  match op with
  | .equal => .ok (left.same right)
  | .same => .ok (left.typeName == right.typeName && left.same right)
  | .other construct => .error (.construct construct)

/-- The types that an object names as a type or as a choice of types. -/
def instanceTypes? : Object → Option (List TypeName)
  | .type name => some [name]
  | .union members => members.mapM fun m =>
    match m with
    | .type name => some name
    | _ => none
  | .tuple items => items.mapM fun m =>
    match m with
    | .type name => some name
    | _ => none
  | _ => none

/-- Whether an object belongs to a type. -/
def belongs (o : Object) (type : TypeName) : Bool :=
  match type, o with
  | .object, _ => true
  | .null, .datum .null => true
  | .boolean, .datum (.bool _) => true
  | .integer, .datum (.bool _) => true
  | .integer, .datum (.int _) => true
  | .float, .datum (.float _) => true
  | .text, .datum (.text _) => true
  | _, _ => false

/-- The hash code of an object, as far as it is the same in every run. -/
def hashCode (o : Object) : Int :=
  match o with
  | .datum v => ((v.exactValue?.bind Exact.hashCode?).getD 0)
  | _ => 0

/-- The text of an object. -/
def displayText (o : Object) : String :=
  match o with
  | .datum v => v.displayString
  | o => o.writtenString

/-- A count of arguments with the word for it. -/
def given (n : Nat) : String := toString n

/-- The factory for the default of a field; null stands for none. -/
def factory? (settings : Bindings) : Option Object :=
  match settings.lookup "default_factory" with
  | some (.datum .null) => none
  | o => o

/-- A field with the given settings: it has a default or a factory for one, not both. -/
def fieldWith (settings : Bindings) : Except Fault Object :=
  if (settings.lookup "default").isSome && (factory? settings).isSome then
    .error .defaultAndFactory
  else .ok (.field settings)

/-- The settings of a field. -/
def fieldSettings (args : List Object) (keywords : Bindings) : Except Fault Object :=
  match args with
  | [] => fieldWith keywords
  | [default] =>
    if (keywords.lookup "default").isSome then .error .repeatedDefault
    else fieldWith (("default", default) :: keywords)
  | args =>
    .error (.argumentCount
      ("Field() takes from 0 to 1 positional arguments but " ++ given args.length ++ " were given"))

/-- The result of a call. -/
def applyCall (callee : Object) (args : List Object) (keywords : Bindings) :
    Except Fault Object :=
  match callee with
  | .function .field => fieldSettings args keywords
  | .function .hash =>
    if !keywords.isEmpty then .error (.argumentCount "hash() takes no keyword arguments")
    else
      match args with
      | [o] =>
        match o.unhashable? with
        | some typeName => .error (.unhashable typeName)
        | none => .ok (.datum (.int (hashCode o)))
      | args =>
        .error (.argumentCount
          ("hash() takes exactly one argument (" ++ given args.length ++ " given)"))
  | .function .isInstance =>
    if !keywords.isEmpty then .error (.argumentCount "isinstance() takes no keyword arguments")
    else
      match args with
      | [o, type] =>
        match instanceTypes? type with
        | some types => .ok (.datum (.bool (types.any (belongs o))))
        | none => .error .notInstanceType
      | args =>
        .error (.argumentCount ("isinstance expected 2 arguments, got " ++ given args.length))
  | .type .text =>
    match args ++ keywords.map Prod.snd with
    | [] => .ok (.text "")
    | [o] => .ok (.text (displayText o))
    | o :: _ => .error (.notText o.typeName)
  | .type .settings =>
    let named := keywords.map fun k => (Object.text k.1, k.2)
    match args with
    | [] => .ok (.map named)
    | [.map entries] => .ok (.map (named.foldl (fun es e => Object.put e.1 e.2 es) entries))
    | [o] => .error (.settings o.typeName)
    | args =>
      .error (.argumentCount ("dict expected at most 1 argument, got " ++ given args.length))
  | .type .parent => .error .outsideMethod
  | .type name => .error (.construct name.name)
  | o => .error (.uncallable o.typeName)

/-- An entry of a mapping. -/
def putEntry (key value : Object) (entries : List (Object × Object)) :
    Except Fault (List (Object × Object)) :=
  match key.unhashable? with
  | some typeName => .error (.unhashable typeName)
  | none => .ok (Object.put key value entries)

/-- The entries of a mapping that is unpacked into another one. -/
def unpackEntries (o : Object) (entries : List (Object × Object)) :
    Except Fault (List (Object × Object)) :=
  match o with
  | .map more => .ok (more.foldl (fun es e => Object.put e.1 e.2 es) entries)
  | o => .error (.notMapping o.typeName)

/-- The entries of a mapping from the meanings of its keys and values. A missing key stands where
another mapping is unpacked. -/
def entriesOf (entries : List (Object × Object)) :
    List (Option (Except Fault Object)) → List (Except Fault Object) →
      Except Fault (List (Object × Object))
  | some key :: keys, value :: values => do
    let k ← key
    let v ← value
    let entries ← putEntry k v entries
    entriesOf entries keys values
  | none :: keys, value :: values => do
    let o ← value
    let entries ← unpackEntries o entries
    entriesOf entries keys values
  | _, _ => .ok entries

/-- Whether a chain of comparisons holds, from the meanings of its operands. -/
def comparisonsHold (left : Object) : List CompareOp → List (Except Fault Object) →
    Except Fault Bool
  | op :: ops, right :: rights => do
    let b ← right
    let holds ← applyCompare op left b
    if holds then comparisonsHold b ops rights else return false
  | _, _ => .ok true

/-- The meanings of expressions, if all of them have one; otherwise the first fault. -/
def collect : List (Except Fault Object) → Except Fault (List Object)
  | [] => .ok []
  | result :: rest => do
    let o ← result
    let os ← collect rest
    return o :: os

/-- Named arguments, if all of them have a meaning; otherwise the first fault. -/
def collectNamed : List (Option String × Except Fault Object) → Except Fault Bindings
  | [] => .ok []
  | (name, result) :: rest => do
    let o ← result
    let others ← collectNamed rest
    match name with
    | some n => return (n, o) :: others
    | none => return others

mutual

/-- The meaning of an expression. -/
def evaluate (scope : Scope) : Expr → Except Fault Object
  | .constant (.datum v) => .ok (.datum v)
  | .constant (.complex _) => .error (.construct "complex")
  | .constant .ellipsis => .error (.construct "ellipsis")
  | .name id _ => scope.resolve id
  | .member owner name _ => do
    let o ← evaluate scope owner
    memberOf o (scope.nameOf name)
  | .subscript owner index _ => do
    let o ← evaluate scope owner
    let i ← evaluate scope index
    applyType o i
  | .list items _ => (collect (meanings scope items)).map .list
  | .tuple items _ => (collect (meanings scope items)).map .tuple
  | .dict keys values =>
    (entriesOf [] (keyMeanings scope keys) (meanings scope values)).map .map
  | .call callee args keywords => do
    let f ← evaluate scope callee
    let os ← collect (meanings scope args)
    let named ← collectNamed (namedMeanings scope keywords)
    applyCall f os named
  | .unary op operand => do
    let o ← evaluate scope operand
    applyUnary op o
  | .binary left op right => do
    let a ← evaluate scope left
    let b ← evaluate scope right
    applyBinary op a b
  | .compare left ops rights => do
    let a ← evaluate scope left
    let holds ← comparisonsHold a ops (meanings scope rights)
    return .datum (.bool holds)
  | .foreign construct _ => .error (.construct construct)

/-- The meaning of each expression. -/
def meanings (scope : Scope) : List Expr → List (Except Fault Object)
  | [] => []
  | e :: rest => evaluate scope e :: meanings scope rest

/-- The meaning of each key; none for a missing one. -/
def keyMeanings (scope : Scope) : List (Option Expr) → List (Option (Except Fault Object))
  | [] => []
  | none :: rest => none :: keyMeanings scope rest
  | some e :: rest => some (evaluate scope e) :: keyMeanings scope rest

/-- The meaning of each named argument. -/
def namedMeanings (scope : Scope) : List Keyword → List (Option String × Except Fault Object)
  | [] => []
  | .mk _ name value :: rest => (name, evaluate scope value) :: namedMeanings scope rest

end

end FlatRecord.Execution
