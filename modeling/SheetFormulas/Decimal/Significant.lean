import SheetFormulas.Powers
import SheetFormulas.Rounding

/-!
A positive quotient rounded to a fixed count of significant decimal digits.
-/

namespace SheetFormulas.Decimal

/-- Significant digits as a whole number, and the power of ten of the first of them: the digits
`d₀d₁…dₖ` with exponent `e` stand for `d₀.d₁…dₖ · 10 ^ e`. -/
structure Scientific where
  digits : Nat
  exponent : Int
  deriving DecidableEq

/-- `num · 10 ^ shift / den` as a pair of whole numbers. -/
def shifted (num den : Nat) (shift : Int) : Nat × Nat :=
  if 0 ≤ shift then (num * tenTo shift.toNat, den) else (num, den * tenTo (-shift).toNat)

/-- Whether `10 ^ e ≤ num / den`. -/
def reaches (num den : Nat) (e : Int) : Bool :=
  let (n, d) := shifted num den (-e)
  d ≤ n

/-- The power of ten of the first digit of `num / den`. The difference of the bit lengths gives it
up to one place, and two comparisons settle which. -/
def leadingExponent (num den : Nat) : Int :=
  let bits : Int := (num.log2 : Int) - den.log2 - 1
  let estimate : Int := bits * 30103 / 100000
  if reaches num den (estimate + 1) then estimate + 1
  else if reaches num den estimate then estimate
  else estimate - 1

/-- The nearest value with `count` significant digits, a tie to the even digit. Zero has zero
digits and the exponent zero. -/
def significant (count num den : Nat) : Scientific :=
  if num = 0 then ⟨0, 0⟩
  else
    let e := leadingExponent num den
    let (n, d) := shifted num den ((count : Int) - 1 - e)
    let rounded := roundQuotient n d
    if rounded = tenTo count then ⟨tenTo (count - 1), e + 1⟩ else ⟨rounded, e⟩

/-- Drops the zeros at the end of a digit string, down to one digit. -/
def dropTrailingZeros (digits : List Char) : List Char :=
  match (digits.reverse.dropWhile (· == '0')).reverse with
  | [] => ['0']
  | kept => kept

end SheetFormulas.Decimal
