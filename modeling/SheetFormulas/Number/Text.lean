import SheetFormulas.Decimal.Layout
import SheetFormulas.Number.Basic

/-!
Texts of numbers. A whole number of more than 4300 digits is not written out.
-/

namespace SheetFormulas.Number

/-- The most digits that a whole number may have when it is written or read. -/
def digitLimit : Nat := 4300

/-- A whole number in decimal, if it has not too many digits. -/
def intText (n : Int) : Outcome String :=
  if n.natAbs < tenTo digitLimit then .ok n.repr else fail .invalid

/-- A number as messages show it. -/
def shown : Number → Outcome String
  | int n => intText n
  | float x => .ok (Decimal.shownText x)

/-- A number as text in a cell: at most fifteen significant digits, and a whole number below `10¹⁵`
without a point. -/
def general : Number → Outcome String
  | int n => intText n
  | float x =>
    if Binary64.isWhole x && (Binary64.floor x).natAbs < tenTo 15 then
      .ok (Binary64.floor x).repr
    else .ok (Decimal.generalText x)

end SheetFormulas.Number
