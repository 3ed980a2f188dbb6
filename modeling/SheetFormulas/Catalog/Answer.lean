import SheetFormulas.Catalog

/-!
How built-in functions are written down: the results of the library's functions as values, and
entries with a list of parameters.
-/

namespace SheetFormulas

/-- Results of functions, as values. -/
class Answer (α : Type) where
  toValue : α → Value

namespace Answer

instance : Answer Value := ⟨id⟩

instance : Answer Number := ⟨.number⟩

instance : Answer Float := ⟨Value.ofFloat⟩

instance : Answer Int := ⟨Value.ofInt⟩

instance : Answer Nat := ⟨Value.ofNat⟩

instance : Answer Bool := ⟨.bool⟩

instance : Answer String := ⟨.text⟩

end Answer

/-- The answer of a computation without effects. -/
def answer {α : Type} [Answer α] (outcome : Outcome α) : Run Value :=
  Run.ofOutcome (Answer.toValue <$> outcome)

/-- The answer of a run. -/
def answerRun {α : Type} [Answer α] (run : Run α) : Run Value := Answer.toValue <$> run

namespace Entry

/-- A function with a fixed list of parameters. -/
def fixed (name : String) (parameters : List Parameter)
    (body : Context → Body Value parameters) : Entry :=
  ⟨name, true, fun context => Body.apply false parameters (body context)⟩

/-- A function with a list of parameters and any number of further arguments. -/
def variadic (name : String) (parameters : List Parameter)
    (body : Context → Body Value parameters) : Entry :=
  ⟨name, true, fun context => Body.apply true parameters (body context)⟩

/-- The same function, which sees error values. -/
def seeingErrors (entry : Entry) : Entry := { entry with propagates := false }

end Entry

end SheetFormulas
