import SheetFormulas.Proofs.Run.Steps
import SheetFormulas.Session

/-!
Runs of steps that put functions into a catalogue. Every such step inserts a list of entries, so a
run inserts them all, and under each name the last one stays. A group is read twice: its members with
definitions of their own come in while it is built, and of the finished group those attributes come
in that are static methods, not hidden and not registered before.
-/

namespace SheetFormulas

namespace Catalog

variable {catalog : Catalog} {name : String} {entry : Entry} {entries : List Entry}

end Catalog

namespace Member

variable {name : String} {m : Member} {members : List Member}

end Member

namespace Catalog

end Catalog

namespace Entry

variable {entry : Entry} {context : Context} {arguments : List Value}
  {named : List (String × Value)} {kind : ErrorKind} {journal : Journal}

theorem error?_eq_some_iff {v : Value} : v.error? = some kind ↔ v = .error kind := by
  cases v <;> simp [Value.error?]

end Entry

namespace Session

variable (depth : Nat) (initial : Catalog) {environment : Environment} {step : Step}
  {steps more : List Step} {name : String}

/-- The environment after steps in turn. -/
def after (environment : Environment) (steps : List Step) : Environment :=
  steps.foldl (fun environment step => (runStep depth initial environment step).2) environment

/-- The answers to more steps are those from the environment that the steps before them leave. -/
theorem runSteps_append (environment : Environment) (steps more : List Step) :
    runSteps depth initial environment (steps ++ more) =
      runSteps depth initial environment steps ++
        runSteps depth initial (after depth initial environment steps) more := by
  induction steps generalizing environment with
  | nil => rfl
  | cons step rest ih =>
    show _ :: runSteps depth initial _ (rest ++ more) = _
    rw [ih]
    rfl

/-- The entries that a step puts in, in order. -/
def Step.entries : Step → List Entry
  | .define definition => [definition.entry]
  | .defineGroup members => Catalog.groupEntries members
  | _ => []

end Session

end SheetFormulas
