import SheetFormulas.Formula
import SheetFormulas.Number.Order

/-!
Values: what cells hold and functions take and give. An array is a row of values or, when its items
are arrays, a table row by row; rows may differ in length and arrays may be nested.
-/

namespace SheetFormulas

/-- A value. -/
inductive Value where
  | empty
  | number (n : Number)
  | text (s : String)
  | bool (b : Bool)
  | error (kind : ErrorKind)
  | array (items : List Value)
  /-- A formula that is not evaluated yet. -/
  | deferred (label : String) (body : Formula)

inductive Kind where
  | empty
  | number
  | text
  | boolean
  | error
  | array
  deriving DecidableEq

namespace Kind

def name : Kind → String
  | empty => "EMPTY"
  | number => "NUMBER"
  | text => "TEXT"
  | boolean => "BOOLEAN"
  | error => "ERROR"
  | array => "ARRAY"

def code : Kind → Nat
  | empty => 1
  | number => 2
  | text => 3
  | boolean => 4
  | error => 5
  | array => 6

end Kind

namespace Value

instance : Inhabited Value := ⟨empty⟩

def ofInt (n : Int) : Value := number (.int n)

def ofNat (n : Nat) : Value := ofInt n

def ofFloat (x : Float) : Value := number (.float x)

def ofScalar : Scalar → Value
  | .empty => empty
  | .number n => number n
  | .text s => text s
  | .bool b => bool b
  | .error kind => error kind

/-- The kind of a value; a deferred formula has none. -/
def kind? : Value → Option Kind
  | empty => some .empty
  | number _ => some .number
  | text _ => some .text
  | bool _ => some .boolean
  | error _ => some .error
  | array _ => some .array
  | deferred _ _ => none

def isEmpty : Value → Bool
  | empty => true
  | _ => false

def isError : Value → Bool
  | error _ => true
  | _ => false

/-- The error value, if it is one. -/
def error? : Value → Option ErrorKind
  | error kind => some kind
  | _ => none

/-- Whether a value is a particular error value. -/
def isErrorOf (kind : ErrorKind) : Value → Bool
  | error k => k == kind
  | _ => false

end Value

end SheetFormulas
