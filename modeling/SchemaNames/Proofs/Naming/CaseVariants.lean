import Mathlib.Data.List.Forall2
import SchemaNames.Proofs.Naming.BlamedMembers
import SchemaNames.Proofs.Naming.MemberOutlines
import SchemaNames.Proofs.Text.AsciiCase

/-! Members whose names differ in the case of ASCII letters only. They generate names that agree in
lower case, whatever other characters there are, so that the later one is blamed for all of its
names.
-/

namespace SchemaNames

-----------------------------------------------------------------------------------------
-- Blame as a question of candidates
-----------------------------------------------------------------------------------------

namespace Service

end Service

end SchemaNames
