import SheetFormulas.Definition
import SheetFormulas.Evaluation

/-!
Sessions: steps that bind values to names, or that change a catalogue and call its functions. A step
leaves its own journal, and a failed one changes nothing.
-/

namespace SheetFormulas.Session

/-- Evaluates formulas in turn and binds each value to its name for the formulas after it. -/
def bindAll (depth : Nat) (environment : Environment) :
    List (String × Formula) → List (Outcome Value × Journal)
  | [] => []
  | (name, formula) :: rest =>
    let (outcome, journal) := (environment.evaluate depth formula).start
    let next :=
      match outcome with
      | .ok value => environment.bind name value
      | .error _ => environment
    (outcome, journal) :: bindAll depth next rest

/-- The deferred parts of the formulas of a program: no chain of deferred formulas that ask for each
other is longer, unless it never ends. -/
def depthOf (formulas : List Formula) : Nat := Formula.deferredCounts formulas + 1

/-- Runs a program: formulas with the names that their values get. -/
def runProgram (environment : Environment) (program : List (String × Formula)) :
    List (Outcome Value × Journal) :=
  bindAll (depthOf (program.map Prod.snd)) environment program

/-- A step on a catalogue. -/
inductive Step where
  | define (definition : Definition)
  | defineGroup (members : List Member)
  | call (function : String) (arguments : List Formula)
  | remove (function : String)
  | changed

def ofNames (names : List String) : Value := .array (names.map .text)

/-- The answer of a step and the environment after it. `initial` is the catalogue before all
steps. -/
def runStep (depth : Nat) (initial : Catalog) (environment : Environment) :
    Step → (Outcome Value × Journal) × Environment
  | .define definition =>
    ((.ok (.text definition.name), .blank),
      { environment with catalog := environment.catalog.define definition })
  | .defineGroup members =>
    ((.ok (ofNames (Catalog.groupNames members)), .blank),
      { environment with catalog := environment.catalog.defineGroup members })
  | .call function arguments =>
    ((environment.evaluate depth (.call function arguments)).start, environment)
  | .remove function =>
    if environment.catalog.contains function then
      ((.ok .empty, .blank),
        { environment with catalog := environment.catalog.erase function })
    else ((fail .missingEntry, .blank), environment)
  | .changed =>
    ((.ok (ofNames (Catalog.changed environment.catalog initial)), .blank), environment)

/-- The answers of steps in turn. -/
def runSteps (depth : Nat) (initial : Catalog) :
    Environment → List Step → List (Outcome Value × Journal)
  | _, [] => []
  | environment, step :: rest =>
    let (answer, next) := runStep depth initial environment step
    answer :: runSteps depth initial next rest

end SheetFormulas.Session
