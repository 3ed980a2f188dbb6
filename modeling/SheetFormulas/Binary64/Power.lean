import SheetFormulas.Binary64.Integral
import SheetFormulas.Binary64.Nearest

/-!
Logarithms and powers of doubles, computed with whole numbers in fixed point and rounded once.
A fixed-point number is a whole number of steps of size `2⁻¹²⁸`, far finer than the last place of
the result.
-/

namespace SheetFormulas.Binary64

/-- The number of binary places of a fixed-point number. -/
def fixedPlaces : Nat := 128

def fixedOne : Nat := twoTo fixedPlaces

/-- `power / (2k+1) + power·z² / (2k+3) + …`, with at most the given number of terms. -/
def inverseTanhTail (zSquared : Nat) : Nat → Nat → Nat → Nat
  | 0, _, _ => 0
  | terms + 1, k, power =>
    if power = 0 then 0
    else
      power / (2 * k + 1)
        + inverseTanhTail zSquared terms (k + 1) ((power * zSquared) >>> fixedPlaces)

/-- The natural logarithm of `num / den`, for `num ≥ den` and a quotient of at most two: the series
`2 (z + z³/3 + z⁵/5 + …)` at `z = (num - den) / (num + den)`. -/
def lnAbove (num den : Nat) : Nat :=
  let z := ((num - den) <<< fixedPlaces) / (num + den)
  2 * inverseTanhTail ((z * z) >>> fixedPlaces) 44 0 z

def lnTwo : Nat := lnAbove 2 1

/-- The natural logarithm of `num · 2 ^ exponent` in fixed point, for `num > 0`. The power of two is
chosen so that the series runs between one half of the square root of two and that root. -/
def lnFixed (num : Nat) (exponent : Int) : Int :=
  let bits := num.log2
  let power := twoTo bits
  if num * num ≤ 2 * (power * power) then
    (exponent + bits) * lnTwo + lnAbove num power
  else
    (exponent + bits + 1) * lnTwo - lnAbove (2 * power) num

/-- `term + term·r/n + term·r²/(n(n+1)) + …`, with the given number of terms. -/
def expTail (r : Int) : Nat → Nat → Int → Int
  | 0, _, _ => 0
  | terms + 1, n, term =>
    term + expTail r terms (n + 1) (((term * r) >>> fixedPlaces) / (n : Int))

/-- The double nearest to `e ^ t` for a fixed-point `t`. The whole powers of two are split off, so
that the series runs on at most half the logarithm of two. -/
def expFixed (t : Int) : Float :=
  if (800 * fixedOne : Nat) ≤ t then ofRatio false (twoTo 1100) 1
  else if t ≤ -(800 * fixedOne : Nat) then ofRatio false 0 1
  else
    let twos := (t + (lnTwo / 2 : Nat)) / (lnTwo : Int)
    let mantissa := (expTail (t - twos * lnTwo) 30 1 fixedOne).toNat
    if 0 ≤ twos then ofRatio false (mantissa <<< twos.toNat) fixedOne
    else ofRatio false mantissa (fixedOne <<< (-twos).toNat)

/-- The product of a fixed-point number and a double, rounded down. -/
def scaleFixed (t : Int) (y : Float) : Int :=
  (t * signedUnits y) >>> (1074 : Nat)

/-- `x ^ y` for a positive finite `x` and a finite `y`. -/
def powPositive (x y : Float) : Float :=
  expFixed (scaleFixed (lnFixed (units x) (-1074)) y)

/-- The power of two doubles. Nothing is refused: zero to a negative power is infinite, and a
negative base with a fractional exponent gives no number. -/
def pow (x y : Float) : Float :=
  let magnitude := x.abs
  let odd := isOdd y
  let signed (r : Float) : Float := if isNegative x && odd then -r else r
  if y == 0 then 1
  else if x == 1 then 1
  else if x.isNaN then x
  else if y.isNaN then y
  else if y.isInf then
    if magnitude == 1 then 1
    else if (0 < y) == decide (1 < magnitude) then y.abs else 0
  else if x.isInf then signed (if 0 < y then magnitude else 0)
  else if magnitude == 0 then signed (if 0 < y then 0 else 1 / 0)
  else if isNegative x && !isWhole y then 0 / 0
  else if magnitude == 1 then signed 1
  else signed (powPositive magnitude y)

/-- The double nearest to a fixed-point number. -/
def ofFixed (t : Int) : Float := ofRatio (t < 0) t.natAbs fixedOne

def ln (x : Float) : Float :=
  if x.isNaN || x.isInf then x else ofFixed (lnFixed (units x) (-1074))

/-- The natural logarithm of a positive whole number of any size. -/
def lnOfNat (n : Nat) : Float := ofFixed (lnFixed n 0)

end SheetFormulas.Binary64
