import SheetFormulas.Binary64.Power
import SheetFormulas.Number.Order

/-!
Powers and logarithms of numbers. A whole number to a whole power that is not negative stays whole.
-/

namespace SheetFormulas.Number

/-- A power of doubles that fails where the exact power is infinite although both operands are
finite, or has no real value. -/
def powFloat (x y : Float) : Outcome Float :=
  if x.isFinite && y.isFinite then
    if x == 0 && y < 0 then fail .zeroDivision
    else
      let r := Binary64.pow x y
      if r.isFinite then .ok r else fail .overflow
  else .ok (Binary64.pow x y)

def pow : Number → Number → Outcome Number
  | int a, int b =>
    if 0 ≤ b then .ok (int (Int.pow a b.toNat))
    else do return float (← powFloat (← (int a).toFloat) (← (int b).toFloat))
  | a, b => do return float (← powFloat (← a.toFloat) (← b.toFloat))

/-- The natural logarithm of a positive number. -/
def ln : Number → Float
  | int n => Binary64.lnOfNat n.toNat
  | float x => Binary64.ln x

end SheetFormulas.Number
