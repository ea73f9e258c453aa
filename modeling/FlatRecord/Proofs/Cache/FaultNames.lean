import FlatRecord.Cache
import FlatRecord.Proofs.Execution.SourceText

/-!
# Faults of compilations and the names they carry

A record that is not compiled is reported with its qualified name, whether the name, the text or the
running of the class is at fault. Setters are collected behind that: a method whose annotations are
given by source text that does not make sense is reported by what is wrong with the text, and without
the name.
-/

namespace FlatRecord

open FlatRecord.Execution
open FlatRecord.Execution.Object (IsTextFree)

namespace Setter

variable {globals hints : Bindings} {name : String} {hint : Object} {m : Method}

end Setter

namespace Cache

variable {hash name source : String}

end Cache

end FlatRecord
