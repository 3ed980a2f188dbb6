import SheetFormulas.Binary64.Units
import SheetFormulas.Rounding

/-!
The double nearest to a rational number, a tie going to the even significand. Quotients of whole
numbers, whole numbers and decimal fractions all become doubles here, with one rounding.
-/

namespace SheetFormulas.Binary64

def infinityBits : Nat := 0x7ff * twoTo 52

/-- The bits of the double nearest to `num / den`. One binade is `2⁵²` patterns long, and a
significand that rounds up to `2⁵³` runs over into the next binade by itself. -/
def nearestBits (num den : Nat) : Nat :=
  let binade := ((num * unitsPerOne) / den).log2 - 52
  min (binade * twoTo 52 + roundQuotient (num * unitsPerOne) (den <<< binade)) infinityBits

/-- The double nearest to `num / den`, or its negation; infinite from the end of the range on. -/
def ofRatio (negative : Bool) (num den : Nat) : Float :=
  let magnitude := nearestBits num den
  Float.ofBits (UInt64.ofNat (if negative then magnitude + twoTo 63 else magnitude))

def ofInt (n : Int) : Float := ofRatio (n < 0) n.natAbs 1

/-- The double nearest to `digits · 10 ^ exponent`. Beyond the range of the type the power of ten
is cut off, which leaves the result as it is. -/
def ofDecimal (digits : Nat) (exponent : Int) : Float :=
  let size : Int := Nat.log2 digits * 30103 / 100000
  if digits = 0 then ofRatio false 0 1
  else if 0 ≤ exponent then
    ofRatio false (digits * tenTo (min exponent.toNat 400)) 1
  else if size + exponent < -400 then ofRatio false 0 1
  else ofRatio false digits (tenTo (-exponent).toNat)

end SheetFormulas.Binary64
