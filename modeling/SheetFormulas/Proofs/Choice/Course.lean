import SheetFormulas.Proofs.Catalog.Call
import SheetFormulas.Proofs.Value.Relation

/-!
How the functions that choose one of their arguments are meant to go, said without running them: the
arguments that are asked for, in order, and the answer. Of conditions and cases, those up to the
first one that settles the choice are asked for; of the other arguments, only the chosen one.
-/

namespace SheetFormulas

open Value Run

namespace Context

variable {context : Context} {argument v : Value} {label : String} {body : Formula}
  {labels : List String}

/-- The value that an argument has once it is asked for. -/
def valueOf (context : Context) (argument : Value) : Value :=
  match (context.force argument).start.1 with
  | .ok v => v
  | .error _ => .empty

/-- The labels of the deferred values that are asked for together with an argument: itself, and what
its body asks for. -/
def labelsOf (context : Context) (argument : Value) : List String :=
  (context.force argument).start.2.forced

/-- Asking for an argument gives a value, the same one at any time. -/
def Gives (context : Context) (argument : Value) : Prop :=
  ∃ v labels, v.kind? ≠ none ∧ (context.force argument).Yields (.ok v) labels

theorem valueOf_eq (h : (context.force argument).Yields (.ok v) labels) :
    context.valueOf argument = v ∧ context.labelsOf argument = labels := by
  obtain ⟨notes, hr⟩ := h .blank
  have hs : (context.force argument).start = (.ok v, ⟨[] ++ labels, notes⟩) := hr
  rw [valueOf, labelsOf, hs]
  exact ⟨rfl, rfl⟩

theorem Gives.yields (h : context.Gives argument) :
    (context.force argument).Yields (.ok (context.valueOf argument))
      (context.labelsOf argument) := by
  obtain ⟨v, labels, -, hy⟩ := h
  obtain ⟨hv, hl⟩ := valueOf_eq hy
  rw [hv, hl]
  exact hy

theorem Gives.kind?_ne_none (h : context.Gives argument) :
    (context.valueOf argument).kind? ≠ none := by
  obtain ⟨v, labels, hk, hy⟩ := h
  rw [(valueOf_eq hy).1]
  exact hk

theorem force_yields_self (h : argument.kind? ≠ none) :
    (context.force argument).Yields (.ok argument) [] := by
  have hf : context.force argument = pure argument := by
    cases argument <;> first | rfl | exact absurd rfl h
  rw [hf]
  exact .pure argument

theorem gives_self (h : argument.kind? ≠ none) : context.Gives argument :=
  ⟨argument, [], h, force_yields_self h⟩

theorem force_deferred_yields (h : (context.resume body).Yields (.ok v) labels) :
    (context.force (.deferred label body)).Yields (.ok v) (label :: labels) :=
  (Yields.recordForced label).bind h

end Context

namespace Choice

/-- What a test says about a choice. -/
inductive Verdict where
  | yes
  | no
  /-- The choice ends here. -/
  | stop (outcome : Outcome Value)

/-- How a choice goes: the arguments that it asks for, in order, and what it comes to. -/
structure Course where
  asked : List Value
  outcome : Outcome Value

namespace Verdict

def isNo : Verdict → Bool
  | no => true
  | _ => false

/-- The course after a test. -/
def course (verdict : Verdict) (whenYes whenNo : Course) : Course :=
  match verdict with
  | yes => whenYes
  | no => whenNo
  | stop outcome => ⟨[], outcome⟩

/-- What a condition says. An error value in its place is the answer; so is a bad value for an array
and for whatever else is no truth value. -/
def ofCondition (v : Value) : Verdict :=
  match v.toBool with
  | .ok true => yes
  | .ok false => no
  | .error _ => stop (.ok (.error (v.error?.getD .badValue)))

/-- What a case says about the subject it is compared with. An error value in place of an order ends
the choice with it; a number that is too large for a double makes the choice fail. -/
def ofCase (subject case : Value) : Verdict :=
  if subject.meetsTooLarge case then stop (fail .overflow)
  else
    match subject.relation case with
    | .error kind => stop (.ok (.error kind))
    | .order .eq => yes
    | .order _ => no

end Verdict

namespace Course

/-- The course after arguments that were asked for before. -/
def after (asked : List Value) (course : Course) : Course :=
  ⟨asked ++ course.asked, course.outcome⟩

/-- Nothing is asked for, and the answer is an error value. -/
def refused (kind : ErrorKind) : Course := ⟨[], .ok (.error kind)⟩

variable (context : Context)

/-- One argument is asked for, and its value is the answer. -/
def take (argument : Value) : Course := ⟨[argument], .ok (context.valueOf argument)⟩

/-- A run that goes as described: it asks for the arguments in order and comes to the outcome. -/
def Describes (course : Course) (run : Run Value) : Prop :=
  run.Yields course.outcome (course.asked.flatMap context.labelsOf)

/-- Arguments two by two, without a last one that has no partner. -/
def pairsOf : List Value → List (Value × Value)
  | test :: result :: rest => (test, result) :: pairsOf rest
  | _ => []

/-- The last of an odd number of arguments. -/
def unpaired? (arguments : List Value) : Option Value :=
  if arguments.length % 2 = 1 then arguments.getLast? else none

/-- The tests are asked for up to the first one that does not say no, and then the result behind it
if it says yes. If all say no, the choice goes on as otherwise. -/
def ofPairs (verdict : Value → Verdict) (otherwise : Course) (pairs : List (Value × Value)) :
    Course :=
  let saysNo (pair : Value × Value) : Bool := (verdict (context.valueOf pair.1)).isNo
  let rejected := (pairs.takeWhile saysNo).map Prod.fst
  match pairs.dropWhile saysNo with
  | [] => otherwise.after rejected
  | (test, result) :: _ =>
    ((verdict (context.valueOf test)).course (take context result) otherwise).after
      (rejected ++ [test])

/-- The condition and then one of two arguments. -/
def either (test whenTrue whenFalse : Value) : Course :=
  ((Verdict.ofCondition (context.valueOf test)).course (take context whenTrue)
    (take context whenFalse)).after [test]

/-- The value, and the other argument too if the value is replaced. -/
def orElse (isReplaced : Value → Bool) (value other : Value) : Course :=
  if isReplaced (context.valueOf value) then (take context other).after [value]
  else take context value

/-- The value behind the first true condition of an even number of conditions and values. -/
def firstTrue (arguments : List Value) : Course :=
  if arguments = [] ∨ arguments.length % 2 = 1 then refused .notAvailable
  else ofPairs context .ofCondition (refused .notAvailable) (pairsOf arguments)

/-- The default of a list of cases and results. -/
def default (arguments : List Value) : Course :=
  match unpaired? arguments with
  | some argument => take context argument
  | none => refused .notAvailable

/-- The result behind the first case that is equal to the subject, or the default. -/
def switch (subject : Value) (arguments : List Value) : Course :=
  let cases :=
    match context.valueOf subject with
    | .error kind => refused kind
    | v => ofPairs context (.ofCase v) (default context arguments) (pairsOf arguments)
  cases.after [subject]

/-- The argument at a position, which is not asked for itself. -/
def choose (position : Value) (arguments : List Value) : Course :=
  match position.toInt with
  | .error fault => ⟨[], Value.answer (.error fault)⟩
  | .ok index =>
    if h : 1 ≤ index ∧ index ≤ arguments.length then
      take context (arguments.get ⟨(index - 1).toNat, by omega⟩)
    else refused .badValue

end Course

/-- How a call of a function that chooses goes, for each number of arguments that it takes. -/
inductive Goes (context : Context) : String → List Value → Course → Prop where
  | onlyIf (test whenTrue : Value) :
      Goes context "IF" [test, whenTrue] (.either context test whenTrue (.bool false))
  | either (test whenTrue whenFalse : Value) :
      Goes context "IF" [test, whenTrue, whenFalse] (.either context test whenTrue whenFalse)
  | unlessError (value other : Value) :
      Goes context "IFERROR" [value, other] (.orElse context Value.isError value other)
  | unlessNotAvailable (value other : Value) :
      Goes context "IFNA" [value, other]
        (.orElse context (Value.isErrorOf .notAvailable) value other)
  | firstTrue (arguments : List Value) :
      Goes context "IFS" arguments (.firstTrue context arguments)
  | switch (subject : Value) (arguments : List Value) :
      Goes context "SWITCH" (subject :: arguments) (.switch context subject arguments)
  | choose (position : Value) (arguments : List Value) :
      Goes context "CHOOSE" (position :: arguments) (.choose context position arguments)

end Choice

end SheetFormulas
