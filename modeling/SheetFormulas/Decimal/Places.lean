import SheetFormulas.Binary64.Nearest

/-!
Doubles rounded to a number of decimal places.
-/

namespace SheetFormulas.Decimal

open Binary64

/-- The double nearest to the exact value rounded to `places` decimal places, a half to the even
digit. Infinities and what is no number stay as they are. -/
def roundToPlaces (places : Nat) (x : Float) : Float :=
  if x.isFinite then
    ofRatio (isNegative x) (roundQuotient (units x * tenTo places) unitsPerOne) (tenTo places)
  else x

end SheetFormulas.Decimal
