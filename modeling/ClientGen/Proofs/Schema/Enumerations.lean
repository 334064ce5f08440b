import ClientGen.Proofs.Json.Occurrence
import ClientGen.Proofs.Schema.Declared
import Mathlib.Data.List.Forall2

namespace ClientGen.Schema

open Api

variable {rules : NameRules} {values : List Json}

section Items

end Items

section Partition

end Partition

end ClientGen.Schema
