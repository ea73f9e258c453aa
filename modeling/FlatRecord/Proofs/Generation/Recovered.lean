import FlatRecord.Marshalling.Xml
import FlatRecord.Proofs.Generation.Loaded

/-!
# Descriptors recovered from loaded classes

The class that is loaded from the source of a descriptor, together with its setters, shows everything
that the descriptor declares.
-/

namespace FlatRecord

open FlatRecord.Execution

namespace Descriptor

variable {s : Submission} {d : Descriptor}

/-- The name that the schema entries of a generated class or field give its element. -/
theorem givenName?_xmlObject (name : String) :
    Xml.givenName? (some (Generation.xmlObject name)) = some name := by
  simp [Xml.givenName?, Generation.xmlObject, Object.entry?, Object.lookup?, Object.same, Object.text,
    Object.text?]

/-- The documentation of the class is the description, unless that is empty. -/
theorem documentationOf_documentation (d : Descriptor) :
    ClassBody.documentationOf (Generation.documentation d.planned) =
      d.description.filter fun s => !s.isEmpty := by
  obtain ⟨typeName, space, fields, description⟩ := d
  cases description with
  | none => rfl
  | some text =>
    show ClassBody.documentationOf (if !text.isEmpty then _ else _) = _
    cases empty : text.isEmpty with
    | true => simp [Option.filter, empty, ClassBody.documentationOf]
    | false =>
      simp only [Option.filter, empty]
      rfl

end Descriptor

end FlatRecord
