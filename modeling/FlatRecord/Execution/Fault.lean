import FlatRecord.Execution.Object

/-!
# Faults of running modules

Why a record module, or a type that is given by source text, has no meaning.
-/

namespace FlatRecord.Execution

open FlatRecord.Text

/-- The source text and the line that a fault is found in. -/
structure Place where
  label : String
  line : Nat
  deriving DecidableEq, Repr

/-- Why a module cannot be run. -/
inductive Fault where
  /-- A parameter list has a name twice. -/
  | repeatedParameter (name : String) (place : Place)
  /-- A call gives a named argument twice. -/
  | repeatedArgument (name : String) (place : Place)
  /-- A name has no meaning. -/
  | unbound (name : String)
  /-- The view as the base class is asked for outside of a method. -/
  | outsideMethod
  /-- The view as the base class is asked for by a function of no class. -/
  | outsideClass
  /-- A type takes no arguments. -/
  | plainType (name : String)
  /-- Objects of the type have no items. -/
  | withoutItems (typeName : String)
  /-- Objects of the type cannot be called. -/
  | uncallable (typeName : String)
  /-- The owner, as messages describe it, has no such member. -/
  | missingMember (owner name : String)
  /-- Several types are given where one is expected. -/
  | severalTypes (expectation : String) (given : Object)
  /-- A type with notes is given without notes. -/
  | withoutNotes
  /-- The type expression that allows null is given without a type. -/
  | plainForm
  /-- The source text of a type is no expression. -/
  | malformedType (source : String)
  /-- The source text of a type is empty. -/
  | emptyType
  /-- The source text of a type holds a null character. -/
  | nullInType
  /-- Objects of the type cannot be keys. -/
  | unhashable (typeName : String)
  /-- Objects of the type have no keys to unpack. -/
  | notMapping (typeName : String)
  /-- The operator has no meaning for objects of the type. -/
  | operand (operator typeName : String)
  /-- The operator has no meaning for objects of the types. -/
  | operands (operator left right : String)
  /-- A function is called with the wrong number of arguments. -/
  | argumentCount (complaint : String)
  /-- A field is given its default twice. -/
  | repeatedDefault
  /-- A field is given both a default and a factory for one. -/
  | defaultAndFactory
  /-- Something that is no type is asked for its instances. -/
  | notInstanceType
  /-- A text is asked to be read from objects of the type. -/
  | notText (typeName : String)
  /-- An item cannot be taken, or a value cannot be taken apart. -/
  | items (complaint : String)
  /-- A construct has no meaning in types. -/
  | construct (name : String)
  /-- The settings of a class are of a type that has no items. -/
  | settings (typeName : String)
  /-- The name of the settings is declared as a field. -/
  | settingsField
  /-- A member of a class is neither declared nor a method. -/
  | undeclaredMember (name : String) (value : Object)
  /-- The name of a field begins with an underscore. -/
  | hiddenField (name : String)
  /-- No field can have the type. -/
  | unsupportedType (type : Object)
  deriving Inhabited

namespace Fault

/-- Whether the fault is about a name or a type, so that an annotation that shows it counts as no
annotation. -/
def isUnresolved : Fault → Bool
  | unbound _ => true
  | plainType _ => true
  | withoutItems _ => true
  | uncallable _ => true
  | severalTypes .. => true
  | withoutNotes => true
  | plainForm => true
  | unhashable _ => true
  | notMapping _ => true
  | operand .. => true
  | operands .. => true
  | argumentCount _ => true
  | repeatedDefault => true
  | defaultAndFactory => true
  | notInstanceType => true
  | notText _ => true
  | construct _ => true
  | _ => false

/-- A place, as it follows the text of a fault. -/
def placeText (place : Place) : String := s!" ({place.label}, line {place.line})"

/-- The text of the fault. -/
def message : Fault → String
  | repeatedParameter name place =>
    "duplicate argument " ++ quoted name ++ " in function definition" ++ placeText place
  | repeatedArgument name place => "keyword argument repeated: " ++ name ++ placeText place
  | unbound name => "name " ++ quoted name ++ " is not defined"
  | outsideMethod => "super(): no arguments"
  | outsideClass => "super(): __class__ cell not found"
  | plainType name => "type " ++ quoted name ++ " is not subscriptable"
  | withoutItems typeName => quoted typeName ++ " object is not subscriptable"
  | uncallable typeName => quoted typeName ++ " object is not callable"
  | missingMember owner name => owner ++ " has no attribute " ++ quoted name
  | severalTypes expectation given =>
    expectation ++ " Got " ++ String.ofList (given.written.take 100) ++ "."
  | withoutNotes =>
    "Annotated[...] should be used with at least two arguments (a type and an annotation)."
  | plainForm => "Plain typing.Optional is not valid as type argument"
  | malformedType source => "Forward reference must be an expression -- got " ++ quoted source
  | emptyType => "string index out of range"
  | nullInType => "source code string cannot contain null bytes"
  | unhashable typeName => "unhashable type: " ++ quoted typeName
  | notMapping typeName => quoted typeName ++ " object is not a mapping"
  | operand operator typeName => "bad operand type for unary " ++ operator ++ ": " ++ quoted typeName
  | operands operator left right =>
    "unsupported operand type(s) for " ++ operator ++ ": " ++ quoted left ++ " and " ++ quoted right
  | argumentCount complaint => complaint
  | repeatedDefault => "Field() got multiple values for argument 'default'"
  | defaultAndFactory => "cannot specify both default and default_factory"
  | notInstanceType => "isinstance() arg 2 must be a type, a tuple of types, or a union"
  | notText "str" => "decoding str is not supported"
  | notText typeName => "decoding to str: need a bytes-like object, " ++ typeName ++ " found"
  | items complaint => complaint
  | construct name => "unsupported construct " ++ name
  | settings typeName => quoted typeName ++ " object is not iterable"
  | settingsField =>
    "`model_config` cannot be used as a model field name. Use `model_config` for model configuration."
  | undeclaredMember name value =>
    "A non-annotated attribute was detected: `" ++ name ++ " = " ++ value.writtenString ++
      "`. All model fields require a type annotation; if `" ++ name ++
      "` is not meant to be a field, you may be able to resolve this error by annotating it as a " ++
      "`ClassVar` or updating `model_config['ignored_types']`."
  | hiddenField name =>
    "Fields must not use names with leading underscores; e.g., use " ++
      quoted (String.ofList (name.toList.dropWhile (· = '_'))) ++ " instead of " ++ quoted name ++ "."
  | unsupportedType type =>
    "Unable to generate pydantic-core schema for " ++ type.writtenString ++
      ". Set `arbitrary_types_allowed=True` in the model_config to ignore this error or implement " ++
      "`__get_pydantic_core_schema__` on your type to fully support it.\n\nIf you got this error by " ++
      "calling handler(<some type>) within `__get_pydantic_core_schema__` then you likely need to " ++
      "call `handler.generate_schema(<some type>)` since we do not call " ++
      "`__get_pydantic_core_schema__` on `<some type>` otherwise to avoid infinite recursion."

end Fault

end FlatRecord.Execution
