import SheetFormulas.Finance.CashFlow
import SheetFormulas.Proofs.Number.Arithmetic
import SheetFormulas.Proofs.Value.Coercion

/-!
Arguments that are numbers, or arrays of numbers, all of which are data of calculations. Reading
them as a number, a whole number or a list of numbers gives data again, or is refused.
-/

namespace SheetFormulas

open Outcome

namespace Value

/-- Whether a value is a number, or an array of numbers, all of which are data. -/
def IsData (v : Value) : Prop := ∀ leaf ∈ v.leaves, ∃ n : Number, leaf = .number n ∧ n.IsDatum

variable {v : Value}

theorem isData_number {n : Number} : (number n).IsData ↔ n.IsDatum := by
  simp [IsData, leaves]

theorem IsData.cases (h : v.IsData) :
    (∃ n : Number, v = .number n ∧ n.IsDatum) ∨ ∃ items, v = .array items := by
  cases v with
  | array items => exact .inr ⟨items, rfl⟩
  | _ => exact .inl (h _ (List.mem_singleton.mpr rfl))

theorem IsData.error?_eq (h : v.IsData) : v.error? = none := by
  rcases h.cases with ⟨n, rfl, -⟩ | ⟨items, rfl⟩ <;> rfl

theorem toNumber_datum {n : Number} (h : n.IsDatum) : (number n).toNumber = .ok n := by
  refine toNumber_number ?_
  cases n with
  | int n => rfl
  | float x => exact Binary64.not_isNaN_of_isFinite h

theorem toFinite_datum {n : Number} (h : n.IsDatum) : (number n).toFinite = .ok n := by
  have hf : n.isFinite = .ok true := h.isExact.isFinite
  rw [toFinite, toNumber_datum h, ok_bind, hf]
  rfl

theorem IsData.toFloor_answers (h : v.IsData) : v.toFloor.Answers fun _ => True := by
  rcases h.cases with ⟨n, rfl, hn⟩ | ⟨items, rfl⟩
  · rw [toFloor, toFinite_datum hn]
    exact answers_ok trivial
  · exact answers_refuseCoercion _

theorem IsData.flatten (h : v.IsData) :
    ∀ leaf ∈ SheetFormulas.flatten [v], ∃ n : Number, leaf = .number n ∧ n.IsDatum := by
  intro leaf hleaf
  rw [flatten_singleton] at hleaf
  exact h leaf hleaf

end Value

namespace Aggregate

end Aggregate

namespace Finance.CashFlow

theorem days_answers {dates : Value} (h : dates.IsData) : (days dates).Answers fun _ => True := by
  refine (answers_mapM (R := fun _ : Int => True) h.flatten ?_).bind fun _ _ => answers_ok trivial
  rintro v ⟨n, rfl, hn⟩
  exact (Value.isData_number.mpr hn).toFloor_answers

end Finance.CashFlow

end SheetFormulas
