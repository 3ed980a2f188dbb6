import SheetFormulas.Proofs.Finance.Depreciation
import SheetFormulas.Proofs.Finance.PeriodCount
import SheetFormulas.Proofs.Finance.Rates
import SheetFormulas.Proofs.Finance.Returns

/-!
Calls of the financial functions without a search, with data for arguments: when they answer with a
finite number or an error value, when the number may leave the range of doubles, and when they fail.
-/

namespace SheetFormulas

open Outcome

namespace Finance

end Finance

end SheetFormulas
