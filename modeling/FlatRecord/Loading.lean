import FlatRecord.Admission
import FlatRecord.ContentHash
import FlatRecord.Naming
import FlatRecord.Record.Setter

/-!
# Loading

Source text becomes a record class in steps, each of which can refuse it: the qualified name must
name a type in a namespace, the text must not be too long, it must be a module that is admitted and
that defines the type, it must run, and it must declare the namespace.
-/

namespace FlatRecord

open FlatRecord.Execution FlatRecord.Script FlatRecord.Text

/-- Why source text is not loaded under a name. -/
inductive LoadFault where
  /-- The name does not name a type in a namespace. -/
  | invalidName (name : String)
  /-- The text has too many bytes. -/
  | oversized (name : String)
  /-- The text is no module. -/
  | unparsable (name : String)
  /-- The module is not admitted. -/
  | rejected (name : String) (reason : Rejection)
  /-- The module defines another type. -/
  | otherClass (found expected : String)
  /-- The module cannot be run. -/
  | execution (name : String) (fault : Fault)
  /-- The module declares another namespace. -/
  | otherSpace (declared : Object) (expected : String)
  /-- The name of the type means something else in the end. -/
  | missingClass (name : String)

/-- The number of bytes that source text may have. -/
def maxSourceBytes : Nat := 1048576

/-- The text of the fault. -/
def LoadFault.message : LoadFault → String
  | invalidName name => "Invalid qualified name: " ++ quoted name
  | oversized name => s!"Source for {name} exceeds {toString maxSourceBytes} bytes"
  | unparsable name => "Unable to parse source for " ++ name
  | rejected name reason => "Source for " ++ name ++ " was rejected: " ++ reason.message
  | otherClass found expected => s!"Source defines class {found}, expected {expected}"
  | execution name fault => "Executing source for " ++ name ++ " failed: " ++ fault.message
  | otherSpace declared expected =>
    "Source declares namespace " ++ declared.writtenString ++ ", expected " ++ quoted expected
  | missingClass name => s!"Generated class {name} is missing or invalid"

/-- A module that has been run. -/
structure LoadedModule where
  /-- The names of the module with their meanings. -/
  globals : Bindings
  /-- The class of the module. -/
  record : Option RecordClass

namespace Loading

/-- The first of several names that occurs again behind its first place, with the line of its second
place. -/
def repeatedName? : List (String × Nat) → Option (String × Nat)
  | [] => none
  | (name, _) :: rest =>
    match rest.find? fun other => other.1 = name with
    | some other => some other
    | none => repeatedName? rest

/-- The parameters of a method as its class knows them, with their lines. -/
def parameterNames (owner : String) (params : Params) : List (String × Nat) :=
  params.all.map fun p => (ownName owner p.name, p.line)

/-- The parameter lists of the methods in a module. -/
def parameterLists (m : Module) : List (List (String × Nat)) :=
  m.body.flatMap fun s =>
    match s with
    | .classDef _ owner _ _ body _ => body.filterMap fun member =>
      match member with
      | .functionDef _ _ params _ _ _ => some (parameterNames owner params)
      | _ => none
    | _ => []

/-- A named argument that a call gives again. -/
def repeatedKeyword? : Node → Option (String × Nat)
  | .expr (.call _ _ keywords) =>
    repeatedName? (keywords.filterMap fun k => k.name.map fun n => (n, k.line))
  | _ => none

/-- The place that comes first in the source text. -/
def firstByLine : List (String × Nat) → Option (String × Nat)
  | [] => none
  | place :: rest =>
    match firstByLine rest with
    | some other => if other.2 < place.2 then some other else some place
    | none => some place

/-- What prevents a module from being run at all. -/
def staticFault? (label : String) (m : Module) : Option Fault :=
  match (parameterLists m).findSome? repeatedName? with
  | some (name, line) => some (.repeatedParameter name ⟨label, line⟩)
  | none =>
    (firstByLine (m.walk.filterMap repeatedKeyword?)).map fun place =>
      .repeatedArgument place.1 ⟨label, place.2⟩

/-- What a name that is imported from a module means. -/
def imported? : String → Option Object
  | "Annotated" => some (.type .annotated)
  | "Optional" => some .optionalForm
  | "BaseModel" => some (.type .base)
  | "ConfigDict" => some (.type .settings)
  | "Field" => some (.function .field)
  | _ => none

/-- Run a class statement. -/
def runClass (space name : String) (bases : List Expr) (body : List Stmt) (m : LoadedModule) :
    Except Fault LoadedModule := do
  let _ ← collect (meanings (.module m.globals) bases)
  let body ← ClassBody.run m.globals name body
  let record ← RecordClass.ofBody space body
  return ⟨bindName name (.type (.record space name)) m.globals, some record⟩

/-- Bind the targets of an assignment outside of the class. -/
def bindTargets (o : Object) (targets : List Expr) (globals : Bindings) : Bindings :=
  targets.foldl (fun globals target =>
    match target with
    | .name id _ => bindName id o globals
    | _ => globals) globals

/-- Run one statement of a module. -/
def step (space : String) (m : LoadedModule) (s : Stmt) : Except Fault LoadedModule :=
  match s with
  | .importModules _ names =>
    .ok { m with globals := names.foldl (fun g a => bindName a.name (.module a.name) g) m.globals }
  | .importFrom _ _ names _ =>
    .ok { m with globals := names.foldl (fun g a =>
      bindName a.name ((imported? a.name).getD .null) g) m.globals }
  | .assign _ targets value => do
    let o ← evaluate (.module m.globals) value
    return { m with globals := bindTargets o targets m.globals }
  | .classDef _ name bases _ body _ => runClass space name bases body m
  | _ => .ok m

/-- Run a module in a namespace. -/
def run (label space : String) (m : Module) : Except Fault LoadedModule :=
  match staticFault? label m with
  | some fault => .error fault
  | none => m.body.foldlM (step space) ⟨[], none⟩

/-- Read, admit and run source text that must define a type in a namespace. -/
def runSource (label name space typeName source : String) : Except LoadFault LoadedModule := do
  let m ← (Module.read source.toList).mapError fun _ => LoadFault.unparsable name
  let found ← m.admit.mapError (LoadFault.rejected name)
  if found != typeName then .error (.otherClass found typeName)
  (run label space m).mapError (LoadFault.execution name)

/-- The class that a module defines for a type in a namespace. -/
def classOf (space typeName : String) (m : LoadedModule) : Except LoadFault RecordClass :=
  let declared := (m.globals.lookup "__namespace__").getD .null
  if declared.text? != some space then .error (.otherSpace declared space)
  else
    match m.globals.lookup typeName, m.record with
    | some (.type (.record ..)), some record => .ok record
    | _, _ => .error (.missingClass typeName)

end Loading

/-- Load source text under a qualified name. The label stands for the text in messages. -/
def load (label name source : String) : Except LoadFault (RecordClass × Bindings) := do
  if !Naming.isQualified name || !name.toList.contains '.' then .error (.invalidName name)
  let (space, typeName) := Naming.splitLast name
  if maxSourceBytes < source.utf8ByteSize then .error (.oversized name)
  let m ← Loading.runSource label name space typeName source
  let record ← Loading.classOf space typeName m
  return (record, m.globals)

end FlatRecord
