import FlatRecord.Admission.Method
import FlatRecord.Scalar.Coercion

/-!
# Objects of running modules

Running a record module gives its names meanings: values, types, the functions it calls, type
expressions, settings of fields, and methods. `Object.written` is how messages show an object, and
`Object.same` is equality of objects.
-/

namespace FlatRecord.Execution

open FlatRecord.Text

/-- Types that a record module can name. -/
inductive TypeName where
  | object
  | null
  | boolean
  | integer
  | float
  | text
  | date
  | dateTime
  | decimal
  /-- The base of all record classes. -/
  | base
  /-- The settings of a class. -/
  | settings
  /-- The view of an instance as one of the base class. -/
  | parent
  /-- The type expression with notes, which is a type itself. -/
  | annotated
  /-- The class of a namespace and a name. -/
  | record (space name : String)
  deriving DecidableEq, Repr

/-- Functions that a record module can call. -/
inductive FunctionName where
  | hash
  | isInstance
  | field
  deriving DecidableEq, Repr

/-- The meanings of names and expressions. -/
inductive Object where
  | datum (value : Datum)
  | tuple (items : List Object)
  | list (items : List Object)
  | map (entries : List (Object × Object))
  | type (name : TypeName)
  | function (name : FunctionName)
  /-- The type expression that allows null, without a type. -/
  | optionalForm
  | module (name : String)
  /-- One of several types. -/
  | union (members : List Object)
  /-- A type with notes. -/
  | annotated (base : Object) (notes : List Object)
  /-- A type that is given by source text. -/
  | forward (source : String)
  /-- The settings of a field. -/
  | field (settings : List (String × Object))
  /-- A method: the names of its parameters, their annotations and that of its result, and what it
  does. -/
  | method (name : String) (parameters : List String) (hints : List (String × Object))
      (behaviour : Behaviour)

/-- Names with their meanings, in the order in which they were first bound. -/
abbrev Bindings := List (String × Object)

/-- Bind a name: a known name keeps its place, a new one comes last. -/
def bindName (name : String) (o : Object) : Bindings → Bindings
  | [] => [(name, o)]
  | (n, old) :: rest =>
    if n = name then (n, o) :: rest else (n, old) :: bindName name o rest

namespace TypeName

/-- The type that holds the values of a carrier. -/
def ofCarrier : Carrier → TypeName
  | .text => text
  | .integer => integer
  | .float => float
  | .boolean => boolean
  | .date => date
  | .dateTime => dateTime
  | .decimal => decimal

/-- The carrier whose values are those of the type. -/
def carrier? : TypeName → Option Carrier
  | text => some .text
  | integer => some .integer
  | float => some .float
  | boolean => some .boolean
  | date => some .date
  | dateTime => some .dateTime
  | decimal => some .decimal
  | _ => none

/-- The name of the type. -/
def name : TypeName → String
  | object => "object"
  | null => "NoneType"
  | boolean => "bool"
  | integer => "int"
  | float => "float"
  | text => "str"
  | date => "date"
  | dateTime => "datetime"
  | decimal => "Decimal"
  | base => "BaseModel"
  | settings => "ConfigDict"
  | parent => "super"
  | annotated => "Annotated"
  | record _ name => name

/-- The name of the type with the module it comes from. -/
def qualifiedName : TypeName → String
  | date => "datetime.date"
  | dateTime => "datetime.datetime"
  | decimal => "decimal.Decimal"
  | base => "pydantic.main.BaseModel"
  | settings => "pydantic.config.ConfigDict"
  | annotated => "typing.Annotated"
  | record space name => space ++ "." ++ name
  | other => other.name

/-- The name of the type that the type belongs to. -/
def kindName : TypeName → String
  | base => "ModelMetaclass"
  | record .. => "ModelMetaclass"
  | settings => "_TypedDictMeta"
  | _ => "type"

end TypeName

namespace Object

/-- The value null. -/
def null : Object := .datum .null

/-- A text. -/
def text (s : String) : Object := .datum (.text s)

/-- The name of the type of an object. -/
def typeName : Object → String
  | datum v => v.typeName
  | tuple _ => "tuple"
  | list _ => "list"
  | map _ => "dict"
  | type name => name.kindName
  | function .field => "function"
  | function _ => "builtin_function_or_method"
  | optionalForm => "_SpecialForm"
  | module _ => "module"
  | union _ => "_UnionGenericAlias"
  | annotated .. => "_AnnotatedAlias"
  | forward _ => "ForwardRef"
  | field _ => "FieldInfo"
  | method .. => "function"

/-- Whether a condition on the object holds. -/
def isTruthy : Object → Bool
  | datum v => v.isTruthy
  | tuple items => !items.isEmpty
  | list items => !items.isEmpty
  | map entries => !entries.isEmpty
  | _ => true

/-- The text, if the object is one. -/
def text? : Object → Option String
  | datum (.text s) => some s
  | _ => none

mutual

/-- The value that an object stands for in documents; items in fixed positions are a list. -/
def datum? : Object → Option Datum
  | datum v => some v
  | tuple items => (dataOf? items).map .list
  | list items => (dataOf? items).map .list
  | map entries => (entriesOf? entries).map .map
  | _ => none

/-- The values of several objects. -/
def dataOf? : List Object → Option (List Datum)
  | [] => some []
  | x :: rest => do
    let v ← datum? x
    let vs ← dataOf? rest
    return v :: vs

/-- The entries of a mapping. -/
def entriesOf? : List (Object × Object) → Option (List (Datum × Datum))
  | [] => some []
  | (k, v) :: rest => do
    let key ← datum? k
    let value ← datum? v
    let more ← entriesOf? rest
    return (key, value) :: more

end

mutual

/-- The object that a value is. -/
def ofDatum : Datum → Object
  | .list items => .list (ofData items)
  | .map entries => .map (ofEntries entries)
  | v => .datum v

/-- The objects that values are. -/
def ofData : List Datum → List Object
  | [] => []
  | x :: rest => ofDatum x :: ofData rest

/-- The entries of a mapping. -/
def ofEntries : List (Datum × Datum) → List (Object × Object)
  | [] => []
  | (k, v) :: rest => (ofDatum k, ofDatum v) :: ofEntries rest

end

mutual

/-- Equality of objects. -/
def same : Object → Object → Bool
  | datum v, other => match other with
    | datum w => v.same w
    | _ => false
  | tuple xs, other => match other with
    | tuple ys => sameItems xs ys
    | _ => false
  | list xs, other => match other with
    | list ys => sameItems xs ys
    | _ => false
  | map es, other => match other with
    | map fs => es.length == fs.length && sameEntries es fs
    | _ => false
  | type n, other => match other with
    | type m => n == m
    | _ => false
  | function n, other => match other with
    | function m => n == m
    | _ => false
  | optionalForm, other => match other with
    | optionalForm => true
    | _ => false
  | module n, other => match other with
    | module m => n == m
    | _ => false
  | union xs, other => match other with
    | union ys => sameItems xs ys
    | _ => false
  | annotated base notes, other => match other with
    | annotated base' notes' => same base base' && sameItems notes notes'
    | _ => false
  | forward s, other => match other with
    | forward t => s == t
    | _ => false
  | field settings, other => match other with
    | field settings' => sameSettings settings settings'
    | _ => false
  | method name .., other => match other with
    | method name' .. => name == name'
    | _ => false

/-- Equality of objects, item by item. -/
def sameItems : List Object → List Object → Bool
  | [], [] => true
  | x :: xs, y :: ys => same x y && sameItems xs ys
  | _, _ => false

/-- Whether every entry has an equal one among the others. -/
def sameEntries : List (Object × Object) → List (Object × Object) → Bool
  | [], _ => true
  | (k, v) :: rest, others =>
    (others.any fun e => same k e.1 && same v e.2) && sameEntries rest others

/-- Equality of settings, name by name. -/
def sameSettings : List (String × Object) → List (String × Object) → Bool
  | [], [] => true
  | (n, v) :: rest, (m, w) :: others => n == m && same v w && sameSettings rest others
  | _, _ => false

end

/-- The value of a key of a mapping. -/
def lookup? (entries : List (Object × Object)) (key : Object) : Option Object :=
  (entries.find? fun e => key.same e.1).map Prod.snd

/-- The value of a text key, if the object is a mapping. -/
def entry? (key : String) : Object → Option Object
  | map entries => lookup? entries (text key)
  | _ => none

/-- Set the value of a key: a known key keeps its place, a new one comes last. -/
def put (key value : Object) : List (Object × Object) → List (Object × Object)
  | [] => [(key, value)]
  | (k, v) :: rest => if key.same k then (k, value) :: rest else (k, v) :: put key value rest

/-- Whether an object can be a key of a mapping; if not, the name of the type that prevents it. -/
def unhashable? : Object → Option String
  | list _ => some "list"
  | map _ => some "dict"
  | field _ => some "FieldInfo"
  | tuple items =>
    items.firstM fun item =>
      match item with
      | list _ => some "list"
      | map _ => some "dict"
      | field _ => some "FieldInfo"
      | _ => none
  | _ => none

/-- A part of a written field, if it has the setting. -/
def fieldPart (settings : List (String × List Char)) (name : String) : List (List Char) :=
  match settings.lookup name with
  | some value => if value = "None".toList && name != "default" then [] else [name.toList ++ '=' :: value]
  | none => []

/-- A bound in a written field, if it has one of the name. -/
def boundPart (settings : List (String × List Char)) (name title : String) : List (List Char) :=
  match settings.lookup name with
  | some value =>
    if value = "None".toList then [] else [title.toList ++ '(' :: name.toList ++ '=' :: value ++ [')']]
  | none => []

/-- The parts of a written field: whether it is required, its settings in a fixed order, and its
bounds. -/
def fieldParts (settings : List (String × List Char)) : List (List Char) :=
  let required := if (settings.lookup "default").isSome then "False" else "True"
  let priority :=
    if (fieldPart settings "alias").isEmpty then [] else ["alias_priority=2".toList]
  let bounds := boundPart settings "gt" "Gt" ++ boundPart settings "ge" "Ge" ++
    boundPart settings "lt" "Lt" ++ boundPart settings "le" "Le"
  ["annotation=NoneType".toList, ("required=" ++ required).toList] ++
    fieldPart settings "default" ++ fieldPart settings "alias" ++ priority ++
    fieldPart settings "title" ++ fieldPart settings "description" ++
    fieldPart settings "json_schema_extra" ++ fieldPart settings "validate_default" ++
    (if bounds.isEmpty then []
      else ["metadata=[".toList ++ Datum.joinWith ", ".toList bounds ++ [']']])

mutual

/-- How messages show an object. -/
def written : Object → List Char
  | datum v => v.written
  | tuple [x] => '(' :: (written x ++ [',', ')'])
  | tuple items => '(' :: (Datum.joinWith ", ".toList (writtenAll items) ++ [')'])
  | list items => '[' :: (Datum.joinWith ", ".toList (writtenAll items) ++ [']'])
  | map entries => '\x7b' :: (Datum.joinWith ", ".toList (writtenEntries entries) ++ ['\x7d'])
  | type name => "<class ".toList ++ quote name.qualifiedName.toList ++ ['>']
  | function .hash => "<built-in function hash>".toList
  | function .isInstance => "<built-in function isinstance>".toList
  | function .field => "<function Field>".toList
  | optionalForm => "typing.Optional".toList
  | module name => "<module ".toList ++ quote name.toList ++ ['>']
  | union members => "typing.Union[".toList ++ Datum.joinWith ", ".toList (writtenAll members) ++ [']']
  | annotated base notes =>
    "typing.Annotated[".toList ++
      Datum.joinWith ", ".toList (written base :: writtenAll notes) ++ [']']
  | forward source => "ForwardRef(".toList ++ quote source.toList ++ [')']
  | field settings =>
    "FieldInfo(".toList ++ Datum.joinWith ", ".toList (fieldParts (writtenSettings settings)) ++ [')']
  | method name .. => "<function ".toList ++ name.toList ++ ['>']

/-- How messages show several objects. -/
def writtenAll : List Object → List (List Char)
  | [] => []
  | x :: rest => written x :: writtenAll rest

/-- How messages show the entries of a mapping. -/
def writtenEntries : List (Object × Object) → List (List Char)
  | [] => []
  | (k, v) :: rest => (written k ++ ':' :: ' ' :: written v) :: writtenEntries rest

/-- How messages show settings. -/
def writtenSettings : List (String × Object) → List (String × List Char)
  | [] => []
  | (n, v) :: rest => (n, written v) :: writtenSettings rest

end

/-- How messages show an object, as a string. -/
def writtenString (o : Object) : String := String.ofList o.written

end Object

end FlatRecord.Execution
