import SheetFormulas.Proofs.Number.ExactValue
import SheetFormulas.Value.Coercion

/-!
Steps of outcomes, and conversions that succeed.
-/

namespace SheetFormulas

namespace Outcome

variable {α β : Type}

@[simp] theorem pure_eq (a : α) : (pure a : Outcome α) = .ok a := rfl

@[simp] theorem ok_bind (a : α) (f : α → Outcome β) : (Except.ok a >>= f : Outcome β) = f a := rfl

@[simp] theorem error_bind (fault : Fault) (f : α → Outcome β) :
    ((Except.error fault : Outcome α) >>= f) = .error fault := rfl

theorem bind_eq_ok_iff {x : Outcome α} {f : α → Outcome β} {b : β} :
    x >>= f = .ok b ↔ ∃ a, x = .ok a ∧ f a = .ok b := by
  cases x <;> simp

/-- How a computation goes on matters only for what it may give. -/
theorem bind_congr {x : Outcome α} {f g : α → Outcome β} (h : ∀ a, x = .ok a → f a = g a) :
    x >>= f = x >>= g := by
  cases x with
  | ok a => exact h a rfl
  | error fault => rfl

theorem mapM_ofFn {n : Nat} {f : α → Outcome β} {a : Fin n → α} {b : Fin n → β}
    (h : ∀ i, f (a i) = .ok (b i)) : (List.ofFn a).mapM f = .ok (List.ofFn b) := by
  induction n with
  | zero =>
    rw [List.ofFn_zero, List.ofFn_zero]
    rfl
  | succ n ih =>
    rw [List.ofFn_succ, List.ofFn_succ, List.mapM_cons, h 0, ok_bind, ih fun i => h i.succ]
    rfl

/-- A map whose steps all succeed is a plain map. -/
theorem mapM_eq_ok_map {f : α → Outcome β} {g : α → β} {items : List α}
    (h : ∀ item ∈ items, f item = .ok (g item)) : items.mapM f = .ok (items.map g) := by
  induction items with
  | nil => rfl
  | cons item rest ih =>
    rw [List.mapM_cons, h item List.mem_cons_self,
      ih fun other hother => h other (List.mem_cons_of_mem _ hother)]
    rfl

end Outcome

namespace Value

/-- The number of a value that is one. -/
def number? : Value → Option Number
  | number n => some n
  | _ => none

theorem toNumber_number {n : Number} (h : n.isNaN = false) : (number n).toNumber = .ok n := by
  simp [toNumber, h]

theorem toInt_ofInt (n : Int) (h : n.natAbs < 2 ^ 1023) : (ofInt n).toInt = .ok n := by
  have hf := Number.isFinite_int n h
  have hn : (ofInt n).toNumber = .ok (.int n) := toNumber_number rfl
  simp only [toInt, toFinite, hn, hf, Outcome.ok_bind, Outcome.pure_eq, if_true, Number.truncate_int]

theorem toFloor_ofInt (n : Int) (h : n.natAbs < 2 ^ 1023) : (ofInt n).toFloor = .ok n := by
  have hf := Number.isFinite_int n h
  have hn : (ofInt n).toNumber = .ok (.int n) := toNumber_number rfl
  simp only [toFloor, toFinite, hn, hf, Outcome.ok_bind, Outcome.pure_eq, if_true, Number.floor_int]

/-- Anything but an error value is a truth value or fails to be converted to one. -/
theorem toBool_ok_or_coercion {v : Value} (h : v.error? = none) :
    (∃ b, v.toBool = .ok b) ∨ ∃ cause, v.toBool = refuseCoercion cause := by
  cases v with
  | number n =>
    by_cases hn : n.isNaN = true
    · exact .inr ⟨.notANumber .boolean, if_pos hn⟩
    · exact .inl ⟨_, if_neg hn⟩
  | text s =>
    simp only [toBool]
    split_ifs
    · exact .inl ⟨_, rfl⟩
    · exact .inl ⟨_, rfl⟩
    · exact .inr ⟨_, rfl⟩
  | error kind => cases h
  | array items => exact .inr ⟨_, rfl⟩
  | deferred label body => exact .inr ⟨_, rfl⟩
  | empty => exact .inl ⟨_, rfl⟩
  | bool b => exact .inl ⟨_, rfl⟩

end Value

end SheetFormulas
