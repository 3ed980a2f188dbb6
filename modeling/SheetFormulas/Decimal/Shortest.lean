import SheetFormulas.Binary64.Units
import SheetFormulas.Decimal.Significant

/-!
The shortest decimal that reads back as the same double. The numbers that round to a double form an
interval around it; its ends belong to it when the significand is even. The first decimal grid with
a point in that interval gives the digits, and of two such points the nearer one is taken.
-/

namespace SheetFormulas.Decimal

open Binary64

/-- The numbers that round to one double, in quarters of a unit. -/
structure Interval where
  low : Nat
  high : Nat
  closed : Bool

namespace Interval

/-- The interval of a positive finite double. Below a power of two the neighbour is only half as
far away. -/
def ofFloat (x : Float) : Interval :=
  let gap := 1 <<< scale x
  let lowGap := if significand x = twoTo 52 ∧ 0 < scale x then gap else 2 * gap
  { low := 4 * units x - lowGap
    high := 4 * units x + 2 * gap
    closed := significand x % 2 == 0 }

/-- Whether the interval holds `num / den` units. -/
def holds (i : Interval) (num den : Nat) : Bool :=
  if i.closed then i.low * den ≤ 4 * num && 4 * num ≤ i.high * den
  else i.low * den < 4 * num && 4 * num < i.high * den

end Interval

/-- The point of the grid with `count` significant digits that lies in the interval of the double,
if there is one: of the two neighbours of the double on the grid the nearer, the even one at a
tie. -/
def onGrid (x : Float) (interval : Interval) (e : Int) (count : Nat) : Option Scientific :=
  let shift := (count : Int) - 1 - e
  let (n, d) := shifted (units x) unitsPerOne shift
  let below := n / d
  let nearer := roundQuotient n d
  let other := if nearer = below then below + 1 else below
  let inside (digits : Nat) : Bool :=
    let (p, q) := shifted (digits * unitsPerOne) 1 (-shift)
    interval.holds p q
  let normal (digits : Nat) : Scientific :=
    if digits = tenTo count then ⟨tenTo (count - 1), e + 1⟩ else ⟨digits, e⟩
  if inside nearer then some (normal nearer)
  else if inside other then some (normal other)
  else none

/-- The first grid, from one digit up, that answers. -/
def firstGrid (grid : Nat → Option Scientific) : Nat → Nat → Scientific
  | 0, count => (grid count).getD ⟨0, 0⟩
  | more + 1, count => (grid count).getD (firstGrid grid more (count + 1))

/-- The shortest digits of a positive finite double; seventeen always suffice. -/
def shortest (x : Float) : Scientific :=
  firstGrid (onGrid x (Interval.ofFloat x) (leadingExponent (units x) unitsPerOne)) 16 1

end SheetFormulas.Decimal
