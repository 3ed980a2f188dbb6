import SheetFormulas.Binary64.Units
import SheetFormulas.Rounding

/-!
Whole parts of doubles, taken from the exact value. All of these are meant for finite doubles.
-/

namespace SheetFormulas.Binary64

/-- The greatest whole number that is not above the value. -/
def floor (x : Float) : Int := signedUnits x / (unitsPerOne : Int)

/-- The least whole number that is not below the value. -/
def ceil (x : Float) : Int := -(-signedUnits x / (unitsPerOne : Int))

/-- The whole part, toward zero. -/
def truncate (x : Float) : Int := (signedUnits x).tdiv unitsPerOne

/-- The nearest whole number, a half to the even neighbour. -/
def round (x : Float) : Int :=
  let magnitude := roundQuotient (units x) unitsPerOne
  if isNegative x then -(magnitude : Int) else magnitude

/-- Whether the value is finite and has no fraction. -/
def isWhole (x : Float) : Bool := x.isFinite && units x % unitsPerOne == 0

def isOdd (x : Float) : Bool := isWhole x && units x / unitsPerOne % 2 == 1

end SheetFormulas.Binary64
