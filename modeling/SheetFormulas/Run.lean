import SheetFormulas.Calendar.Moment
import SheetFormulas.Value.Coercion

/-!
Runs: computations that may be refused or fail, and that leave a journal of the deferred values they
asked for and of the notes they wrote. The journal is kept whatever the outcome is.
-/

namespace SheetFormulas

/-- What a run leaves behind. -/
structure Journal where
  /-- The labels of the deferred values that were asked for, in order. -/
  forced : List String
  notes : List String

/-- The journal before anything happens. -/
def Journal.blank : Journal := ⟨[], []⟩

/-- A computation with a journal. -/
abbrev Run := ExceptT Fault (StateM Journal)

namespace Run

/-- Runs from a blank journal. -/
def start {α : Type} (run : Run α) : Outcome α × Journal :=
  StateT.run (ExceptT.run run) Journal.blank

/-- An outcome as a run that leaves the journal as it is. -/
def ofOutcome {α : Type} (outcome : Outcome α) : Run α := ExceptT.mk (pure outcome)

instance : MonadLift Outcome Run := ⟨ofOutcome⟩

def note (text : String) : Run Unit :=
  modify fun journal => { journal with notes := journal.notes ++ [text] }

/-- Writes a note, unless a number in it is too long to be written out. -/
def noteShown (text : Outcome String) : Run Unit :=
  match text with
  | .ok text => note text
  | .error _ => pure ()

/-- Records that a deferred value was asked for. -/
def recordForced (label : String) : Run Unit :=
  modify fun journal => { journal with forced := journal.forced ++ [label] }

/-- The results of a run that is repeated some times. -/
def times {α : Type} (run : Run α) : Nat → Run (List α)
  | 0 => return []
  | count + 1 => do
    let result ← run
    return result :: (← run.times count)

/-- A run whose refusal is handled. -/
def onRefusal {α : Type} (run : Run α) (handle : Refusal → Run α) : Run α :=
  tryCatch run fun
    | .refusal cause => handle cause
    | .failure cause => throw (.failure cause)

end Run

/-- What a function may use besides its arguments. -/
structure Context where
  /-- The time of the call. -/
  now : Moment
  /-- Evaluates the body of a deferred value. -/
  resume : Formula → Run Value

/-- The value of a deferred value, recorded in the journal; any other value is itself. -/
def Context.force (context : Context) : Value → Run Value
  | .deferred label body => do
    Run.recordForced label
    context.resume body
  | v => pure v

end SheetFormulas
