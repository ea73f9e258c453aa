import FlatRecord.Record.Factory
import FlatRecord.Record.Report

/-!
# Instances

An instance of a record class holds a value for each field. Its methods do what their behaviour says;
a class without a method of its own for construction, text form, equality or hash code has the ones
that all records have. The functions that methods call are looked up by name, so a class that takes
the name of one is called in its place. Equality and hash codes look at the identity of what is held
before its value: a number that equals nothing equals itself where two instances hold the same object.
-/

namespace FlatRecord

open FlatRecord.Execution FlatRecord.Text

/-- An instance of a record class. -/
structure Instance where
  /-- The number of the instance; no two instances share one. -/
  identity : Nat
  /-- The number of the class; a class that is loaded again gets another one. -/
  serial : Nat
  record : RecordClass
  values : List (String × Datum)

/-- Why an instance is not constructed. -/
inductive ConstructionFault where
  /-- The type of a field names something unknown. -/
  | incomplete (className name : String)
  /-- Construction calls itself without end. -/
  | endless
  /-- A default cannot be made. -/
  | unmade (fault : Execution.Fault)
  /-- A field is missing or has a default that it does not accept. -/
  | refused (report : Report)

/-- The text of the fault. -/
def ConstructionFault.message : ConstructionFault → String
  | incomplete className name =>
    "`" ++ className ++ "` is not fully defined; you should define `" ++ name ++ "`, then call `" ++
      className ++ ".model_rebuild()`."
  | endless => "maximum recursion depth exceeded while calling a Python object"
  | unmade fault => fault.message
  | refused report => report.message

/-- Why the call of a method fails. -/
inductive CallFault where
  /-- The instance has no such attribute. -/
  | missingAttribute (className name : String)
  /-- The class has no such field. -/
  | unknownField (className name : String)
  /-- A name has no meaning. -/
  | unbound (name : String)
  /-- A method or constructor is called with the wrong number of arguments. -/
  | arguments (complaint : String)
  /-- Values of the type cannot be called. -/
  | uncallable (typeName : String)
  /-- Something that is no type is asked for its instances. -/
  | notInstanceType
  /-- A value has no hash code. -/
  | unhashable (fault : Datum.Unhashable)
  /-- A signalling non-number is compared. -/
  | signalling
  /-- A value is not accepted. -/
  | refused (report : Report)
  /-- An instance is not constructed. -/
  | construction (fault : ConstructionFault)

/-- The text of the fault. -/
def CallFault.message : CallFault → String
  | missingAttribute className name =>
    quoted className ++ " object has no attribute " ++ quoted name
  | unknownField className name => "\"" ++ className ++ "\" object has no field \"" ++ name ++ "\""
  | unbound name => "name " ++ quoted name ++ " is not defined"
  | arguments complaint => complaint
  | uncallable typeName => quoted typeName ++ " object is not callable"
  | notInstanceType => "isinstance() arg 2 must be a type, a tuple of types, or a union"
  | unhashable (.type name) => "unhashable type: " ++ quoted name
  | unhashable .signalling => "Cannot hash a signaling NaN value."
  | signalling => "[<class 'decimal.InvalidOperation'>]"
  | refused report => report.message
  | construction fault => fault.message

namespace RecordClass

/-- The value that a field starts with, if that value is not refused. -/
def initialValue (f : Field) : Except ConstructionFault (Except Complaint Datum) := do
  match ← f.initial?.mapError ConstructionFault.unmade with
  | none => return .error ⟨f.documentName, .missing, .map []⟩
  | some o =>
    let v := o.datum?.getD .null
    if f.checksDefault then
      return (f.shape.accept v).mapError fun objection => ⟨f.attr, objection, v⟩
    else return .ok v

/-- The objections among the values that fields start with. -/
def initialComplaints : List (Field × Except Complaint Datum) → List Complaint :=
  List.filterMap fun start =>
    match start.2 with
    | .ok _ => none
    | .error complaint => some complaint

/-- The values that fields start with, as far as they have one. -/
def initialValues : List (Field × Except Complaint Datum) → List (String × Datum) :=
  List.filterMap fun start =>
    match start.2 with
    | .ok v => some (start.1.attr, v)
    | .error _ => none

/-- The name of the constructor. -/
def constructorName : String := "__init__"

/-- The values of a new instance. -/
def construct (c : RecordClass) : Except ConstructionFault (List (String × Datum)) :=
  match c.unresolved with
  | some name => .error (.incomplete c.name name)
  | none =>
    if c.name = "super" && (c.method? constructorName).isSome then .error .endless
    else do
      let starts ← c.fields.mapM fun f => (initialValue f).map fun start => (f, start)
      match initialComplaints starts with
      | [] => return initialValues starts
      | complaints => .error (.refused ⟨c.title, complaints⟩)

/-- The fault of calling the class with arguments: its constructor takes none. -/
def callFault (c : RecordClass) (count : Nat) : CallFault :=
  let owner := if (c.method? constructorName).isSome then c.name else "BaseModel"
  .arguments (owner ++ ".__init__() takes 1 positional argument but " ++ toString (count + 1) ++
    " were given")

end RecordClass

namespace Instance

/-- Set the value of an attribute: a known one keeps its place, a new one comes last. -/
def putValue (name : String) (v : Datum) : List (String × Datum) → List (String × Datum)
  | [] => [(name, v)]
  | (n, old) :: rest => if n = name then (n, v) :: rest else (n, old) :: putValue name v rest

/-- The instance with a value in an attribute, whatever the class says. -/
def poke (i : Instance) (name : String) (v : Datum) : Instance :=
  { i with values := putValue name v i.values }

/-- The value of an attribute. -/
def value (i : Instance) (name : String) : Except CallFault Datum :=
  match i.values.lookup name with
  | some v => .ok v
  | none => .error (.missingAttribute i.record.name name)

/-- An attribute with its value. -/
def entry (i : Instance) (name : String) : Except CallFault (String × Datum) :=
  (i.value name).map (Prod.mk name)

/-- Store a value in an attribute. -/
def store (i : Instance) (name : String) (v : Datum) : Except CallFault Instance :=
  if RecordClass.isHidden name then .ok (i.poke name v)
  else
    match i.record.checksAssignment, i.record.field? name with
    | true, some f =>
      match f.shape.accept v with
      | .ok accepted => .ok (i.poke name accepted)
      | .error objection => .error (.refused ⟨i.record.title, [⟨name, objection, v⟩]⟩)
    | true, none => .error (.refused ⟨i.record.title, [⟨name, .unknownAttribute name, v⟩]⟩)
    | false, some _ => .ok (i.poke name v)
    | false, none => .error (.unknownField i.record.name name)

/-- The text of one part of a text form. The text of a value is asked from the function of that
name, or from the class if it took the name. -/
def partText (i : Instance) : TextPart → Except CallFault String
  | .text s => .ok s
  | .attribute name => do
    let v ← i.value name
    if i.record.name = "str" then .error (i.record.callFault 1) else return v.displayString

/-- The text that parts join to. -/
def spell (i : Instance) (parts : List TextPart) : Except CallFault String :=
  (parts.mapM (partText i)).map String.join

/-- The text form that all records have. -/
def plainText (i : Instance) : String :=
  " ".intercalate (i.record.fields.map fun f =>
    f.attr ++ "=" ++ ((i.values.lookup f.attr).getD .null).writtenString)

/-- The text form. -/
def text (i : Instance) : Except CallFault String :=
  match i.record.method? "__str__" with
  | some ⟨_, _, _, .spell parts⟩ => i.spell parts
  | _ => .ok i.plainText

/-- Something that an instance is compared with. -/
inductive Other where
  | record (i : Instance)
  | value (v : Datum)

/-- Whether a value is a signalling non-number. -/
def isSignalling : Datum → Bool
  | .decimal (.nan _ true _) => true
  | _ => false

/-- Whether a value is a number. -/
def isNumber (v : Datum) : Bool := v.exactValue?.isSome

/-- Equality of two values of different instances. -/
def sameValue (v w : Datum) : Except CallFault Bool :=
  if (isSignalling v && isNumber w) || (isNumber v && isSignalling w) then .error .signalling
  else .ok (v.same w)

/-- Which attributes of an instance hold the object that attributes of another one hold. Objects with
equal values need not be the same. -/
abbrev Sharing := String → String → Bool

/-- Instances that have no object in common. -/
def apart : Sharing := fun _ _ => false

/-- Equality of the values of attributes, up to the first difference. An object equals itself. -/
def sameValues (shared : Sharing) :
    List (String × Datum) → List (String × Datum) → Except CallFault Bool
  | [], [] => .ok true
  | (mine, v) :: vs, (theirs, w) :: ws => do
    let same ← if shared mine theirs then .ok true else sameValue v w
    if same then sameValues shared vs ws else return false
  | _, _ => .ok false

/-- Whether something is an instance of the class that the name of the class stands for in a method
with the given parameters. -/
def belongs (c : RecordClass) (serial : Nat) (parameters : List String) (other : Other) :
    Except CallFault Bool :=
  let name := ownName c.name c.name
  if parameters.contains name then .error .notInstanceType
  else if name != c.name then .error (.unbound name)
  else if c.name = "isinstance" then .error (c.callFault 2)
  else
    match other with
    | .record i => .ok (i.serial = serial)
    | .value _ => .ok false

/-- Equality by the attributes that a method names. -/
def equalBy (shared : Sharing) (i : Instance) (m : Method) (mine theirs : List String) (other : Other) :
    Except CallFault Bool := do
  let isSelf :=
    match other with
    | .record j => i.identity == j.identity
    | .value _ => false
  if isSelf then return true
  let related ← belongs i.record i.serial m.parameters other
  match related, other with
  | true, .record j => do
    let vs ← mine.mapM i.entry
    let ws ← theirs.mapM j.entry
    sameValues shared vs ws
  | _, _ => return false

/-- Equality that all records have: instances of one class with equal values are equal. -/
def plainEqual (shared : Sharing) (i : Instance) (other : Other) : Except CallFault Bool :=
  match other with
  | .value _ => .ok false
  | .record j =>
    if i.identity = j.identity then .ok true
    else if i.serial = j.serial then sameValues shared i.values j.values
    else .ok false

/-- Equality with something that may hold objects of the instance. -/
def equalSharing (shared : Sharing) (i : Instance) (other : Other) : Except CallFault Bool :=
  match i.record.method? "__eq__" with
  | some ⟨name, parameters, hints, .equal mine theirs⟩ =>
    equalBy shared i ⟨name, parameters, hints, .equal mine theirs⟩ mine theirs other
  | _ => plainEqual shared i other

/-- Equality with something that holds objects of its own. -/
def equal (i : Instance) (other : Other) : Except CallFault Bool := equalSharing apart i other

/-- What the hash code depends on, by attribute. -/
def hashKeys (i : Instance) : Except CallFault (List (String × Datum.HashKey)) :=
  match i.record.method? "__hash__" with
  | some ⟨_, _, _, .digest names⟩ => do
    let vs ← names.mapM i.entry
    if i.record.name = "hash" then .error (i.record.callFault 1)
    vs.mapM fun r => (r.2.hashKey.mapError CallFault.unhashable).map (Prod.mk r.1)
  | _ => .error (.unhashable (.type i.record.name))

/-- Whether the hash codes of two instances are the same. An object has one hash code. -/
def sameHashSharing (shared : Sharing) (i j : Instance) : Except CallFault Bool := do
  let mine ← i.hashKeys
  let theirs ← j.hashKeys
  if i.identity = j.identity then return true
  return mine.length == theirs.length && (mine.zip theirs).all fun p =>
    shared p.1.1 p.2.1 || p.1.2.agrees p.2.2

/-- Whether the hash codes of two instances with objects of their own are the same. -/
def sameHash (i j : Instance) : Except CallFault Bool := sameHashSharing apart i j

/-- Names of parameters in a list, each in quotes. -/
def nameList (names : List String) : String :=
  match (names.map quoted).reverse with
  | [] => ""
  | [one] => one
  | [last, first] => first ++ " and " ++ last
  | last :: others => ", ".intercalate others.reverse ++ ", and " ++ last

/-- The fault of a method that is called with too few or too many arguments. -/
def argumentFault (c : RecordClass) (m : Method) (count : Nat) : CallFault :=
  let needed := m.parameters.length
  if count < needed then
    let missing := m.parameters.drop count
    .arguments (s!"{c.name}.{m.name}() missing {missing.length} required positional " ++
      (if missing.length = 1 then "argument: " else "arguments: ") ++ nameList missing)
  else
    .arguments (s!"{c.name}.{m.name}() takes {needed} positional " ++
      (if needed = 1 then "argument" else "arguments") ++ s!" but {count} were given")

/-- What an instance has under a name: a method, or the value of an attribute. -/
def methodOf (i : Instance) (name : String) : Except CallFault Method :=
  match i.record.method? name, i.values.lookup name with
  | some m, none => .ok m
  | _, some v => .error (.uncallable v.typeName)
  | none, none => .error (.missingAttribute i.record.name name)

/-- The result of a method without arguments. -/
def get (i : Instance) (name : String) : Except CallFault Datum := do
  let m ← i.methodOf name
  if m.parameters.length != 1 then .error (argumentFault i.record m 1)
  match m.behaviour with
  | .read attr => i.value attr
  | .spell parts => (i.spell parts).map .text
  | _ => return .null

/-- The instance after a method has been called with one argument. -/
def set (i : Instance) (name : String) (v : Datum) : Except CallFault Instance := do
  let m ← i.methodOf name
  if m.parameters.length != 2 then .error (argumentFault i.record m 2)
  match m.behaviour with
  | .store attr => i.store attr v
  | _ => return i

end Instance

end FlatRecord
