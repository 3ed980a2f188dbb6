import SheetFormulas.ErrorKind
import SheetFormulas.Number.Basic

/-!
Formulas before they are evaluated.
-/

namespace SheetFormulas

/-- A constant in a formula. -/
inductive Scalar where
  | empty
  | number (n : Number)
  | text (s : String)
  | bool (b : Bool)
  | error (kind : ErrorKind)

/-- A formula. A deferred formula is a value of its own: its body is evaluated, under the given
label, only where a function asks for it. -/
inductive Formula where
  | constant (value : Scalar)
  | array (items : List Formula)
  /-- An array whose items come from one formula, which is evaluated anew for each. -/
  | copies (item : Formula) (count : Nat)
  | call (function : String) (arguments : List Formula)
  | name (name : String)
  | deferred (label : String) (body : Formula)
  /-- Refuses with an error value of this kind. -/
  | refusing (kind : ErrorKind)
  | failing

mutual

/-- The number of deferred parts. -/
def Formula.deferredCount : Formula → Nat
  | .array items => Formula.deferredCounts items
  | .copies item _ => item.deferredCount
  | .call _ arguments => Formula.deferredCounts arguments
  | .deferred _ body => body.deferredCount + 1
  | _ => 0

def Formula.deferredCounts : List Formula → Nat
  | [] => 0
  | formula :: rest => formula.deferredCount + Formula.deferredCounts rest

end

end SheetFormulas
