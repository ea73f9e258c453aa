import FlatRecord.Record.Shape

/-!
# Record classes

A class body becomes a record class: its settings, and one field for each declared member. Members
that are neither declared nor methods are refused. The type of a field may be given by source text
that names something unknown; then the class cannot be instantiated.
-/

namespace FlatRecord

open FlatRecord.Execution

/-- A field of a record class. -/
structure Field where
  /-- The attribute that holds the value. -/
  attr : String
  /-- The name of the field in documents, if it is another one. -/
  otherName : Option String
  /-- The default as it is written. -/
  default : Option Object
  /-- What makes the default of a field that is written without one; a field with neither is
  required. -/
  factory : Option Object
  /-- Whether the default is checked like other values. -/
  checksDefault : Bool
  shape : Shape
  /-- Entries that are added to the schema of the field. -/
  extra : Option Object

/-- The name of a field in documents. -/
def Field.documentName (f : Field) : String := f.otherName.getD f.attr

/-- A loaded record class. -/
structure RecordClass where
  name : String
  space : String
  documentation : Option String
  /-- The name that messages about values give the class. -/
  title : String
  /-- Whether values are checked when they are stored. -/
  checksAssignment : Bool
  /-- Entries that are added to the schema of the class. -/
  extra : Option Object
  fields : List Field
  methods : List Method
  /-- A name in the type of a field that has no meaning. -/
  unresolved : Option String

namespace RecordClass

/-- The namespace and the name of a class with a dot between them. -/
def qualifiedName (c : RecordClass) : String := c.space ++ "." ++ c.name

/-- The field that an attribute holds. -/
def field? (c : RecordClass) (attr : String) : Option Field := c.fields.find? fun f => f.attr = attr

/-- The method of a name. -/
def method? (c : RecordClass) (name : String) : Option Method :=
  c.methods.find? fun m => m.name = name

/-- Whether a name begins with an underscore. -/
def isHidden (name : String) : Bool := name.toList.head? = some '_'

/-- The member that holds the settings of a class. -/
def settingsName : String := "model_config"

/-- The settings of a class. -/
def settingsOf (body : ClassBody) : Except Fault (List (Object × Object)) :=
  match body.members.lookup settingsName with
  | some (.map entries) => .ok entries
  | some o => if o.isTruthy then .error (.settings o.typeName) else .ok []
  | none => if (body.hints.lookup settingsName).isSome then .error .settingsField else .ok []

/-- Check one member of a class body. -/
def checkMember (hints : Bindings) (m : String × Object) : Except Fault Unit :=
  if m.1 = settingsName then .ok ()
  else
    match m.2 with
    | .method .. => .ok ()
    | .field _ =>
      if isHidden m.1 then .error (.hiddenField m.1)
      else if (hints.lookup m.1).isSome then .ok ()
      else .error (.undeclaredMember m.1 m.2)
    | o =>
      if isHidden m.1 || (hints.lookup m.1).isSome then .ok ()
      else .error (.undeclaredMember m.1 o)

/-- The scope in which source text of field types is read: the members of the class, the class
itself, and the names that every module knows. -/
def typeScope (space : String) (body : ClassBody) : Scope :=
  ⟨none, body.members ++ [(body.name, .type (.record space body.name))], [], builtins⟩

/-- The settings of a declared member: those in the notes on its type, and then those of the value
that it is bound to. A value that is no field is the default. -/
def fieldSettings (type : Object) (value : Option Object) : Bindings :=
  let noted :=
    match type with
    | .annotated _ notes => Shape.noteSettings notes
    | _ => []
  match value with
  | some (.field settings) => settings.foldl (fun s e => bindName e.1 e.2 s) noted
  | some o => bindName "default" o noted
  | none => noted

/-- The field of an attribute, from its type and its settings. -/
def makeField (attr : String) (settings : Bindings) (shape : Shape) : Field :=
  { attr
    otherName := (settings.lookup "alias").bind Object.text?
    default := settings.lookup "default"
    factory := factory? settings
    checksDefault := ((settings.lookup "validate_default").map Object.isTruthy).getD false
    shape := Shape.limited (Shape.limitsOf settings) shape
    extra := settings.lookup "json_schema_extra" }

/-- A declared member as a field; a name without meaning in its type is answered beside it. -/
def declaredField (scope : Scope) (members : Bindings) (attr : String) (hint : Object) :
    Except Fault (Field × Option String) :=
  match typeOfHint scope hint with
  | .ok type => do
    let shape ← Shape.ofType (type.written.length + 2) type
    return (makeField attr (fieldSettings type (members.lookup attr)) shape, none)
  | .error (.unbound name) =>
    .ok (makeField attr (fieldSettings hint (members.lookup attr)) .anything, some name)
  | .error fault => .error fault

/-- The declared members of a class body that are fields. -/
def declared (body : ClassBody) : Bindings :=
  body.hints.filter fun h => h.1 != settingsName && !isHidden h.1

/-- The text that the settings of a class give. -/
def settingText? (settings : List (Object × Object)) (name : String) : Option String :=
  (Object.lookup? settings (.text name)).bind Object.text?

/-- The record class of a class body. -/
def ofBody (space : String) (body : ClassBody) : Except Fault RecordClass := do
  let settings ← settingsOf body
  body.members.forM (checkMember body.hints)
  let fields ← (declared body).mapM fun h =>
    declaredField (typeScope space body) body.members h.1 h.2
  let title := (settingText? settings "title").getD ""
  return {
    name := body.name
    space
    documentation := body.documentation
    title := if title.isEmpty then body.name else title
    checksAssignment :=
      ((Object.lookup? settings (.text "validate_assignment")).map Object.isTruthy).getD false
    extra := Object.lookup? settings (.text "json_schema_extra")
    fields := fields.map Prod.fst
    methods := body.methods
    unresolved := (fields.filterMap Prod.snd).head? }

end RecordClass

end FlatRecord
