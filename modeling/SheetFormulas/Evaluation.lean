import SheetFormulas.Catalog

/-!
Evaluation of formulas. A call looks its function up, evaluates the arguments from left to right and
then runs the function. A deferred formula is a value by itself, and functions that ask for it
evaluate it then.
-/

namespace SheetFormulas

/-- What formulas refer to: the functions, the values of names, and the current time. -/
structure Environment where
  catalog : Catalog
  names : List (String × Value)
  now : Moment

namespace Environment

/-- The value of a name, which is empty if nothing was bound to it. -/
def valueOf (environment : Environment) (name : String) : Value :=
  ((environment.names.find? (·.1 == name)).map Prod.snd).getD .empty

def bind (environment : Environment) (name : String) (value : Value) : Environment :=
  { environment with names := (name, value) :: environment.names }

variable (environment : Environment) (resume : Formula → Run Value)

mutual

/-- Evaluates a formula, given a way to evaluate deferred ones. -/
def evaluateWith : Formula → Run Value
  | .constant value => return .ofScalar value
  | .array items => return .array (← evaluateAllWith items)
  | .copies item count => return .array (← (evaluateWith item).times count)
  | .call function arguments => do
    let entry ← environment.catalog.entryOf function
    entry.call ⟨environment.now, resume⟩ (← evaluateAllWith arguments) []
  | .name name => return environment.valueOf name
  | .deferred label body => return .deferred label body
  | .refusing kind => refuse (.carried kind)
  | .failing => fail .invalid

def evaluateAllWith : List Formula → Run (List Value)
  | [] => return []
  | formula :: rest => do
    let value ← evaluateWith formula
    return value :: (← evaluateAllWith rest)

end

/-- Evaluates a formula in which deferred formulas may ask for each other to a given depth. -/
def evaluate : Nat → Formula → Run Value
  | 0 => fun _ => fail .tooDeep
  | depth + 1 => environment.evaluateWith (evaluate depth)

/-- What functions may use when deferred formulas may ask for each other to a given depth. -/
def contextAt (depth : Nat) : Context := ⟨environment.now, environment.evaluate depth⟩

/-- Puts a named value in the place of one of the same name, or else at the end. -/
def putNamed (named : List (String × Value)) (entry : String × Value) : List (String × Value) :=
  if named.any (·.1 == entry.1) then named.map fun old => if old.1 == entry.1 then entry else old
  else named ++ [entry]

/-- Evaluates arguments, those by position before those by name. Of several by one name the last one
counts. -/
def evaluateArguments (depth : Nat) (arguments : List Formula) (named : List (String × Formula)) :
    Run (List Value × List (String × Value)) := do
  let values ← arguments.mapM (environment.evaluate depth)
  let namedValues ← named.mapM fun (name, formula) => do
    return (name, ← environment.evaluate depth formula)
  return (values, namedValues.foldl putNamed [])

/-- Calls a function with formulas as arguments, which are evaluated before the function is looked
up. -/
def call (depth : Nat) (function : String) (arguments : List Formula)
    (named : List (String × Formula)) : Run Value := do
  let (values, namedValues) ← environment.evaluateArguments depth arguments named
  environment.catalog.call (environment.contextAt depth) function values namedValues

end Environment

end SheetFormulas
