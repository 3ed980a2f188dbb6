import SheetFormulas.Run
import SheetFormulas.Value.Comparison

/-!
Functions that choose one of their arguments. An argument may be deferred, and only the conditions
up to the deciding one and the chosen argument are asked for.
-/

namespace SheetFormulas.Choice

variable (context : Context)

/-- The truth value of a condition, which is a single value. -/
def truthOf : Value → Outcome Bool
  | .error kind => refuse (.carried kind)
  | .array _ => refuseCoercion .arrayCondition
  | v => v.toBool

/-- Asks for a condition and tests it. -/
def condition (argument : Value) : Run Bool := do
  truthOf (← context.force argument)

/-- One of two arguments, by a condition. -/
def either (test whenTrue whenFalse : Value) : Run Value := do
  if ← condition context test then context.force whenTrue else context.force whenFalse

/-- A value, or the other argument if the value is a matching error. -/
def orElse (isReplaced : Value → Bool) (value other : Value) : Run Value := do
  let result ← context.force value
  if isReplaced result then context.force other else return result

/-- The value after the first true condition in a list of conditions and values. -/
def firstTrueOf : List Value → Run Value
  | test :: value :: rest => do
    if ← condition context test then context.force value else firstTrueOf rest
  | _ => refuse .noTrueCondition

/-- The value after the first true condition. Conditions and values come in pairs. -/
def firstTrue (arguments : List Value) : Run Value :=
  if arguments.isEmpty ∨ arguments.length % 2 = 1 then refuse .unpairedConditions
  else firstTrueOf context arguments

/-- The result after the first case that equals the subject; a last argument without a partner is
the default. -/
def matchingCase (subject : Value) : List Value → Run Value
  | case :: result :: rest => do
    match ← subject.compare (← context.force case) with
    | .error kind => return .error kind
    | .order .eq => context.force result
    | .order _ => matchingCase subject rest
  | [default] => context.force default
  | [] => refuse .noMatchingCase

def switch (subject : Value) (arguments : List Value) : Run Value := do
  match ← context.force subject with
  | .error kind => return .error kind
  | subject => matchingCase context subject arguments

/-- The argument at a position, counted from one. -/
def choose (position : Value) (arguments : List Value) : Run Value :=
  match position with
  | .error kind => return .error kind
  | _ => do
    let index ← (position.toInt : Outcome Int)
    if index < 1 then refuse (.choiceIndex index)
    else
      match arguments[index.toNat - 1]? with
      | some argument => context.force argument
      | none => refuse (.choiceIndex index)

end SheetFormulas.Choice
