import FlatRecord.Datum.Written

/-!
# Valid schemas

A JSON schema is a truth value or a mapping whose known keywords hold what they must: texts, numbers,
type names, lists, or further schemas. Keywords are checked in a fixed order, and the first fault
counts.
-/

namespace FlatRecord.Metaschema

open FlatRecord.Number

/-- What a keyword must hold. -/
inductive Rule where
  /-- Anything. -/
  | free
  | text
  | boolean
  | number
  /-- A number greater than zero. -/
  | positive
  /-- An integer that is not negative. -/
  | count
  /-- Any list. -/
  | list
  /-- A list of distinct texts. -/
  | names
  /-- A mapping to lists of distinct texts. -/
  | nameLists
  /-- A type name, or a list of distinct type names with at least one. -/
  | types
  | schema
  /-- A list of schemas with at least one. -/
  | schemas
  /-- A mapping to schemas. -/
  | schemaMap
  /-- A mapping to schemas and lists of distinct texts. -/
  | dependencies
  deriving DecidableEq, Repr

/-- The keywords with what they must hold, in the order in which they are checked. -/
def keywords : List (String × Rule) :=
  [("$id", .text), ("$schema", .text), ("$ref", .text), ("$anchor", .text), ("$dynamicRef", .text),
   ("$dynamicAnchor", .text), ("$comment", .text), ("$defs", .schemaMap),
   ("prefixItems", .schemas), ("items", .schema), ("contains", .schema),
   ("additionalProperties", .schema), ("properties", .schemaMap), ("patternProperties", .schemaMap),
   ("dependentSchemas", .schemaMap), ("propertyNames", .schema), ("if", .schema), ("then", .schema),
   ("else", .schema), ("allOf", .schemas), ("anyOf", .schemas), ("oneOf", .schemas),
   ("not", .schema), ("unevaluatedItems", .schema), ("unevaluatedProperties", .schema),
   ("type", .types), ("const", .free), ("enum", .list), ("multipleOf", .positive),
   ("maximum", .number), ("exclusiveMaximum", .number), ("minimum", .number),
   ("exclusiveMinimum", .number), ("maxLength", .count), ("minLength", .count), ("pattern", .text),
   ("maxItems", .count), ("minItems", .count), ("uniqueItems", .boolean), ("maxContains", .count),
   ("minContains", .count), ("maxProperties", .count), ("minProperties", .count),
   ("required", .names), ("dependentRequired", .nameLists), ("title", .text),
   ("description", .text), ("default", .free), ("deprecated", .boolean), ("readOnly", .boolean),
   ("writeOnly", .boolean), ("examples", .list), ("format", .text), ("contentEncoding", .text),
   ("contentMediaType", .text), ("contentSchema", .schema), ("definitions", .schemaMap),
   ("dependencies", .dependencies)]

/-- The names of types. -/
def typeNames : List String :=
  ["array", "boolean", "integer", "null", "number", "object", "string"]

/-- The fault of a value that has none of the types. -/
def wrongType (v : Datum) (types : List String) : Option String :=
  some (v.writtenString ++ " is not of type " ++ ", ".intercalate (types.map Text.quoted))

/-- Whether a list has an item twice. -/
def hasRepetition : List Datum → Bool
  | [] => false
  | v :: rest => rest.any v.same || hasRepetition rest

/-- Whether a value is a type name. -/
def isTypeName (v : Datum) : Bool :=
  match v with
  | .text s => typeNames.contains s
  | _ => false

/-- Whether a value is a type name or a list of them. -/
def isTypes (v : Datum) : Bool :=
  match v with
  | .list items => !items.isEmpty && items.all isTypeName && !hasRepetition items
  | v => isTypeName v

/-- Whether a value is a whole number. -/
def isInteger (v : Datum) : Bool :=
  match v with
  | .int _ => true
  | .float x =>
    match x.truncate? with
    | some n => Datum.same (.int n) (.float x)
    | none => false
  | _ => false

/-- Whether a value is a number. -/
def isNumber (v : Datum) : Bool :=
  match v with
  | .int _ => true
  | .float _ => true
  | _ => false

/-- Whether a number is less than zero. -/
def isNegative (v : Datum) : Bool :=
  match v.exactValue? with
  | some x => x.less (Exact.ofInt 0)
  | none => false

/-- The fault of a value that is not a text. -/
def textFault? (v : Datum) : Option String :=
  match v with
  | .text _ => none
  | v => wrongType v ["string"]

/-- The fault of a value that is not a list of distinct texts. -/
def namesFault? (v : Datum) : Option String :=
  match v with
  | .list items =>
    (items.findSome? textFault?).or
      (if hasRepetition items then some (v.writtenString ++ " has non-unique elements") else none)
  | v => wrongType v ["array"]

/-- The fault of a value under a rule that knows no further schemas. -/
def plainFault? (rule : Rule) (v : Datum) : Option String :=
  match rule with
  | .text => textFault? v
  | .boolean =>
    match v with
    | .bool _ => none
    | v => wrongType v ["boolean"]
  | .number => if isNumber v then none else wrongType v ["number"]
  | .positive =>
    if !isNumber v then wrongType v ["number"]
    else if isNegative v || !v.isTruthy then
      some (v.writtenString ++ " is less than or equal to the minimum of 0")
    else none
  | .count =>
    if !isInteger v then wrongType v ["integer"]
    else if isNegative v then some (v.writtenString ++ " is less than the minimum of 0")
    else none
  | .list =>
    match v with
    | .list _ => none
    | v => wrongType v ["array"]
  | .names => namesFault? v
  | .nameLists =>
    match v with
    | .map entries => entries.findSome? fun e => namesFault? e.2
    | v => wrongType v ["object"]
  | .types =>
    if isTypes v then none
    else some (v.writtenString ++ " is not valid under any of the given schemas")
  | _ => none

/-- The first fault of a value under a rule. Schemas within schemas are checked down to the given
depth. -/
def fault? : Nat → Rule → Datum → Option String
  | 0, _, _ => none
  | depth + 1, .schema, v =>
    match v with
    | .bool _ => none
    | .map entries =>
      keywords.findSome? fun k => (Datum.field? entries k.1).bind (fault? depth k.2)
    | v => wrongType v ["object", "boolean"]
  | depth + 1, .schemas, v =>
    match v with
    | .list [] => some "[] should be non-empty"
    | .list items => items.findSome? (fault? depth .schema)
    | v => wrongType v ["array"]
  | depth + 1, .schemaMap, v =>
    match v with
    | .map entries => entries.findSome? fun e => fault? depth .schema e.2
    | v => wrongType v ["object"]
  | depth + 1, .dependencies, v =>
    match v with
    | .map entries => entries.findSome? fun e =>
      if (fault? depth .schema e.2).isSome && (namesFault? e.2).isSome then
        some (e.2.writtenString ++ " is not valid under any of the given schemas")
      else none
    | v => wrongType v ["object"]
  | _, rule, v => plainFault? rule v

mutual

/-- How deep containers lie within a value. -/
def depth : Datum → Nat
  | .list items => itemsDepth items + 1
  | .map entries => entriesDepth entries + 1
  | _ => 1

/-- How deep containers lie within items. -/
def itemsDepth : List Datum → Nat
  | [] => 0
  | v :: rest => max (depth v) (itemsDepth rest)

/-- How deep containers lie within entries. -/
def entriesDepth : List (Datum × Datum) → Nat
  | [] => 0
  | (_, v) :: rest => max (depth v) (entriesDepth rest)

end

/-- The first fault of a schema, if it has one. -/
def schemaFault? (schema : Datum) : Option String := fault? (depth schema + 1) .schema schema

end FlatRecord.Metaschema
