import SheetFormulas.Proofs.Finance.Annuities

/-!
The number of periods of an annuity of data. It comes from one quotient: of amounts where the rate
is zero, and otherwise of what is paid with its interest, in the logarithm that is divided by that
of one plus the rate. A rate that is lost when it is added to one gives no number, but a division by
zero; any other rate gives a finite number for a finite quotient.
-/

namespace SheetFormulas.Finance.Annuity

open Outcome

attribute [local irreducible] Binary64.unitsPerOne

variable {rate payment present future : Number} {timing : Timing}

end SheetFormulas.Finance.Annuity
