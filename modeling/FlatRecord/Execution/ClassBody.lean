import FlatRecord.Execution.Evaluation

/-!
# Class bodies

Running the body of a class binds the names of its members in order and notes the annotations of
declared members. Each statement sees the members that were bound before it.
-/

namespace FlatRecord.Execution

open FlatRecord.Script

/-- What a class body leaves behind. -/
structure ClassBody where
  name : String
  documentation : Option String
  /-- The members, in the order in which they were first bound. -/
  members : Bindings
  /-- The annotations of declared members. -/
  hints : Bindings

/-- A method of a class. -/
structure Method where
  name : String
  /-- The names of the parameters, the instance among them. -/
  parameters : List String
  /-- The annotations of the parameters and of the result, in that order. -/
  hints : Bindings
  behaviour : Behaviour

/-- The name under which the annotation of a method's result is noted. -/
def resultHint : String := "return"

/-- A behaviour in terms of the attributes that the hidden names of a class stand for. -/
def ownBehaviour (owner : String) : Behaviour → Behaviour
  | .construct => .construct
  | .read name => .read (ownName owner name)
  | .store name => .store (ownName owner name)
  | .spell parts =>
    .spell (parts.map fun p =>
      match p with
      | .text s => .text s
      | .attribute name => .attribute (ownName owner name))
  | .equal mine theirs => .equal (mine.map (ownName owner)) (theirs.map (ownName owner))
  | .digest names => .digest (names.map (ownName owner))

/-- The objects that an object is taken apart into. -/
def unpacked (o : Object) : Except Fault (List Object) :=
  match o with
  | .tuple items => .ok items
  | .list items => .ok items
  | .map entries => .ok (entries.map Prod.fst)
  | .datum (.text s) => .ok (s.toList.map fun c => .text (String.singleton c))
  | o => .error (.items s!"cannot unpack non-iterable {o.typeName} object")

/-- The objects that an object is taken apart into, if there are as many as expected. -/
def unpackedTo (count : Nat) (o : Object) : Except Fault (List Object) := do
  let items ← unpacked o
  if items.length = count then return items
  else if count < items.length then
    .error (.items s!"too many values to unpack (expected {count})")
  else .error (.items s!"not enough values to unpack (expected {count}, got {items.length})")

namespace ClassBody

/-- The scope of a statement. -/
def scope (body : ClassBody) (globals : Bindings) : Scope :=
  Scope.classBody body.name body.members globals

/-- Bind a member. -/
def bind (body : ClassBody) (name : String) (o : Object) : ClassBody :=
  { body with members := bindName (ownName body.name name) o body.members }

mutual

/-- Assign an object to a target. -/
def assign (globals : Bindings) (o : Object) (body : ClassBody) : Expr → Except Fault ClassBody
  | .name id _ => .ok (body.bind id o)
  | .tuple targets _ => do
    let items ← unpackedTo targets.length o
    assignEach globals items body targets
  | .list targets _ => do
    let items ← unpackedTo targets.length o
    assignEach globals items body targets
  | .member owner _ _ => do
    let _ ← evaluate (body.scope globals) owner
    return body
  | .subscript owner index _ => do
    let container ← evaluate (body.scope globals) owner
    let _ ← evaluate (body.scope globals) index
    .error (.items (Text.quoted container.typeName ++ " object does not support item assignment"))
  | e => .error (.construct e.construct)

/-- Assign objects to targets, one to each. -/
def assignEach (globals : Bindings) (items : List Object) (body : ClassBody) :
    List Expr → Except Fault ClassBody
  | [] => .ok body
  | target :: rest => do
    let body ← assign globals (items.headD .null) body target
    assignEach globals items.tail body rest

end

/-- The annotations of parameters. -/
def parameterHints (scope : Scope) : List Param → Except Fault Bindings
  | [] => .ok []
  | p :: rest =>
    match p.hint with
    | none => parameterHints scope rest
    | some hint => do
      let o ← evaluate scope hint
      let others ← parameterHints scope rest
      return (scope.nameOf p.name, o) :: others

/-- The annotation of a result. -/
def returnHint (scope : Scope) : Option Expr → Except Fault Bindings
  | none => .ok []
  | some hint => (evaluate scope hint).map fun o => [(resultHint, o)]

/-- The method that a definition introduces. -/
def method (scope : Scope) (className name : String) (params : Params) (body : List Stmt)
    (returns : Option Expr) : Except Fault Object := do
  let hints ← parameterHints scope params.args
  let result ← returnHint scope returns
  match Behaviour.ofBody? className name (params.args.tail.map Param.name) body with
  | some behaviour =>
    return .method (scope.nameOf name) (params.args.map fun p => scope.nameOf p.name)
      (hints ++ result) (ownBehaviour className behaviour)
  | none => .error (.construct name)

/-- Declare a member: its value is bound first, and its annotation is read after that. -/
def declare (globals : Bindings) (body : ClassBody) (target hint : Expr) (value : Option Expr)
    (simple : Bool) : Except Fault ClassBody := do
  let body ←
    match value with
    | none => pure body
    | some e => do
      let o ← evaluate (body.scope globals) e
      assign globals o body target
  let o ← evaluate (body.scope globals) hint
  match simple, target with
  | true, .name id _ => return { body with hints := bindName (ownName body.name id) o body.hints }
  | _, _ => return body

/-- Run one statement of a class body. -/
def step (globals : Bindings) (body : ClassBody) (s : Stmt) : Except Fault ClassBody :=
  match s with
  | .assign _ targets value => do
    let o ← evaluate (body.scope globals) value
    targets.foldlM (assign globals o) body
  | .annotated _ target hint value simple => declare globals body target hint value simple
  | .functionDef _ name params statements _ returns => do
    let o ← method (body.scope globals) body.name name params statements returns
    return body.bind name o
  | _ => .ok body

/-- The documentation at the head of a class body. -/
def documentationOf : List Stmt → Option String
  | .expr _ (.constant (.datum (.text s))) :: _ => some s
  | _ => none

/-- Run a class body. -/
def run (globals : Bindings) (name : String) (statements : List Stmt) : Except Fault ClassBody :=
  statements.foldlM (step globals) ⟨name, documentationOf statements, [], []⟩

/-- The methods among the members. -/
def methods (body : ClassBody) : List Method :=
  body.members.filterMap fun m =>
    match m.2 with
    | .method _ parameters hints behaviour => some ⟨m.1, parameters, hints, behaviour⟩
    | _ => none

end ClassBody

end FlatRecord.Execution
