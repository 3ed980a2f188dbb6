import SheetFormulas.Number.Power

/-!
Calculations: formulas over numbers, any step of which may fail. Operands are worked out from left
to right before their operation.
-/

namespace SheetFormulas

/-- The result of a formula over numbers. -/
abbrev Calculation := Outcome Number

namespace Calculation

instance : Coe Number Calculation := ⟨.ok⟩

instance : Coe Int Calculation := ⟨fun n => .ok (.int n)⟩

instance : Coe Float Calculation := ⟨fun x => .ok (.float x)⟩

instance (n : Nat) : OfNat Calculation n := ⟨.ok (.int n)⟩

instance : Neg Calculation := ⟨fun a => do return (← a).neg⟩

instance : Add Calculation := ⟨fun a b => do (← a).add (← b)⟩

instance : Sub Calculation := ⟨fun a b => do (← a).sub (← b)⟩

instance : Mul Calculation := ⟨fun a b => do (← a).mul (← b)⟩

instance : Div Calculation := ⟨fun a b => do return .float (← (← a).div (← b))⟩

instance : Pow Calculation Calculation := ⟨fun a b => do (← a).pow (← b)⟩

end Calculation

end SheetFormulas
