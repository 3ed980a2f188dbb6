import SheetFormulas.Powers

/-!
The exact value of a double. Every finite double is a whole number of units of size `2⁻¹⁰⁷⁴`, so its
exact value is kept as that whole number. The bit pattern of an infinity reads as `2²⁰⁹⁸` units,
which lies above every finite double.
-/

namespace SheetFormulas.Binary64

/-- How many units make up the number one. -/
def unitsPerOne : Nat := twoTo 1074

/-- The biased exponent, 0 to 2047. -/
def exponentField (x : Float) : Nat := ((x.toBits >>> 52) &&& 0x7ff).toNat

/-- The 52 bits after the leading one. -/
def fractionField (x : Float) : Nat := (x.toBits &&& 0xfffffffffffff).toNat

/-- The sign bit; also set on the negative zero. -/
def isNegative (x : Float) : Bool := x.toBits >>> 63 == 1

/-- The significand as a whole number below `2⁵³`. -/
def significand (x : Float) : Nat :=
  if exponentField x = 0 then fractionField x else fractionField x + twoTo 52

/-- The number of places by which the significand is shifted to give the units. -/
def scale (x : Float) : Nat := exponentField x - 1

/-- The magnitude in units of `2⁻¹⁰⁷⁴`. -/
def units (x : Float) : Nat := significand x <<< scale x

/-- The value in units of `2⁻¹⁰⁷⁴`, with its sign. -/
def signedUnits (x : Float) : Int :=
  if isNegative x then -(units x : Int) else units x

theorem units_eq (x : Float) : units x = significand x * twoTo (scale x) :=
  Nat.shiftLeft_eq (significand x) (scale x)

theorem natAbs_signedUnits (x : Float) : (signedUnits x).natAbs = units x := by
  unfold signedUnits; split <;> simp

end SheetFormulas.Binary64
