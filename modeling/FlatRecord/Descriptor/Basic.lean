import FlatRecord.Naming
import FlatRecord.Scalar.Coercion

/-!
# Descriptors

A descriptor declares a flat record type: its name, its namespace, its fields in order and a
description. A submission has the same parts, but each may hold a value of any type.
-/

namespace FlatRecord

/-- The declaration of a field. A field without a default has the default null. -/
structure FieldSpec where
  name : String
  typeName : String
  required : Bool
  default : Datum
  deriving Inhabited

namespace FieldSpec

/-- The kind of the field, if its type name stands for one. -/
def kind? (f : FieldSpec) : Option Kind := Kind.resolve? f.typeName

/-- The attribute that stores the field. -/
def attributeName (f : FieldSpec) : String := Naming.attributeName f.name

/-- The getter of the field. -/
def getterName (f : FieldSpec) : String := Naming.getterName f.name

/-- The setter of the field. -/
def setterName (f : FieldSpec) : String := Naming.setterName f.name

end FieldSpec

/-- The declaration of a record type. -/
structure Descriptor where
  typeName : String
  space : String
  fields : List FieldSpec
  description : Option String
  deriving Inhabited

/-- The name of the record type with its namespace. -/
def Descriptor.qualifiedName (d : Descriptor) : String := d.space ++ "." ++ d.typeName

/-- The declaration of a field as it was submitted. -/
structure SubmittedField where
  name : Datum
  typeName : Datum
  required : Datum
  default : Datum

/-- The fields of a submission: a list of declarations, or a value of some other type. -/
inductive SubmittedFields where
  | listed (fields : List SubmittedField)
  | other (value : Datum)

/-- A declaration as it was submitted. -/
structure Submission where
  typeName : Datum
  space : Datum
  fields : SubmittedFields
  description : Datum

/-- The declaration of a field, as a submission. -/
def FieldSpec.submission (f : FieldSpec) : SubmittedField :=
  ⟨.text f.name, .text f.typeName, .bool f.required, f.default⟩

/-- An optional text as a value, null where there is none. -/
def Datum.ofText? : Option String → Datum
  | some s => .text s
  | none => .null

/-- A descriptor, as a submission. -/
def Descriptor.submission (d : Descriptor) : Submission :=
  ⟨.text d.typeName, .text d.space, .listed (d.fields.map FieldSpec.submission),
    Datum.ofText? d.description⟩

end FlatRecord
