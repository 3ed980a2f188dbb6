import SheetFormulas.Binary64.Integral
import SheetFormulas.Binary64.Nearest
import SheetFormulas.Fault

/-!
Numbers are whole numbers of any size or doubles. Whole numbers stay whole under addition,
subtraction and multiplication; a quotient is always a double, and an operation on a whole number
and a double is one on doubles. A whole number that no double comes near fails to become one.
-/

namespace SheetFormulas

/-- A number of a cell. -/
inductive Number where
  | int (n : Int)
  | float (x : Float)

namespace Number

instance : Inhabited Number := ⟨int 0⟩

/-- Whether the number is a double that is no number. -/
def isNaN : Number → Bool
  | int _ => false
  | float x => x.isNaN

def toFloat : Number → Outcome Float
  | int n =>
    let x := Binary64.ofInt n
    if x.isInf then fail .overflow else .ok x
  | float x => .ok x

/-- Whether the number is neither infinite nor outside the numbers. A whole number beyond the range
of doubles fails. -/
def isFinite (a : Number) : Outcome Bool := do
  return (← a.toFloat).isFinite

def add : Number → Number → Outcome Number
  | int a, int b => .ok (int (a + b))
  | a, b => do return float ((← a.toFloat) + (← b.toFloat))

def sub : Number → Number → Outcome Number
  | int a, int b => .ok (int (a - b))
  | a, b => do return float ((← a.toFloat) - (← b.toFloat))

def mul : Number → Number → Outcome Number
  | int a, int b => .ok (int (a * b))
  | a, b => do return float ((← a.toFloat) * (← b.toFloat))

/-- The quotient, a double rounded once from the exact quotient of two whole numbers. -/
def div : Number → Number → Outcome Float
  | int a, int b =>
    if b = 0 then fail .zeroDivision
    else
      let x := Binary64.ofRatio ((a < 0) != (b < 0)) a.natAbs b.natAbs
      if x.isInf then fail .overflow else .ok x
  | a, b => do
    let x ← a.toFloat
    let y ← b.toFloat
    if y == 0 then fail .zeroDivision else return x / y

/-- The number with the opposite sign. -/
def neg : Number → Number
  | int a => int (-a)
  | float x => float (-x)

def abs : Number → Number
  | int a => int a.natAbs
  | float x => float x.abs

/-- The greatest whole number that is not above a finite number. -/
def floor : Number → Int
  | int n => n
  | float x => Binary64.floor x

/-- The least whole number that is not below a finite number. -/
def ceil : Number → Int
  | int n => n
  | float x => Binary64.ceil x

/-- The whole part of a finite number, toward zero. -/
def truncate : Number → Int
  | int n => n
  | float x => Binary64.truncate x

theorem truncate_int (n : Int) : (int n).truncate = n := rfl

theorem floor_int (n : Int) : (int n).floor = n := rfl

end Number

end SheetFormulas
