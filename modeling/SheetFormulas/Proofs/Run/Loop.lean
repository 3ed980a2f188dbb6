import Mathlib.Data.List.Forall2
import SheetFormulas.Run

/-!
Two outcomes that go the same way, and loops that do so. Loops end by a result of one of their steps
or when their steps are used up; two of them have the same outcome if their steps go the same way at
all states that they come to.
-/

namespace SheetFormulas

namespace Outcome

variable {α β γ δ σ τ ρ : Type} {R : α → β → Prop} {S : γ → δ → Prop}

/-- Whether two outcomes are the same fault, or have related results. -/
inductive Related (R : α → β → Prop) : Outcome α → Outcome β → Prop where
  | ok {a : α} {b : β} : R a b → Related R (.ok a) (.ok b)
  | error (fault : Fault) : Related R (.error fault) (.error fault)

namespace Related

variable {a : Outcome α} {b : Outcome β}

theorem of_eq {a b : Outcome α} (h : a = b) : Related (· = ·) a b := by
  subst h
  cases a with
  | ok a => exact .ok rfl
  | error fault => exact .error fault

theorem eq {a b : Outcome α} (h : Related (· = ·) a b) : a = b := by
  cases h with
  | ok h => rw [h]
  | error fault => rfl

theorem mono {R' : α → β → Prop} (h : Related R a b) (hr : ∀ x y, R x y → R' x y) :
    Related R' a b := by
  cases h with
  | ok h => exact .ok (hr _ _ h)
  | error fault => exact .error fault

/-- What goes on from related results also goes the same way. -/
theorem bind {f : α → Outcome γ} {g : β → Outcome δ} (h : Related R a b)
    (hf : ∀ x y, a = .ok x → b = .ok y → R x y → Related S (f x) (g y)) :
    Related S (a >>= f) (b >>= g) := by
  cases h with
  | ok h => exact hf _ _ rfl rfl h
  | error fault => exact .error fault

theorem ite {c d : Prop} [Decidable c] [Decidable d] {a' : Outcome α} {b' : Outcome β} (hcd : c ↔ d)
    (h : c → Related R a b) (h' : ¬ c → Related R a' b') :
    Related R (if c then a else a') (if d then b else b') := by
  by_cases hc : c
  · rw [if_pos hc, if_pos (hcd.mp hc)]
    exact h hc
  · rw [if_neg hc, if_neg (mt hcd.mpr hc)]
    exact h' hc

/-- Maps over related lists go the same way if their steps do. -/
theorem mapM {P : γ → δ → Prop} {xs : List γ} {ys : List δ} (h : List.Forall₂ P xs ys)
    {f : γ → Outcome α} {g : δ → Outcome β} (hf : ∀ x y, P x y → Related R (f x) (g y)) :
    Related (List.Forall₂ R) (xs.mapM f) (ys.mapM g) := by
  induction h with
  | nil =>
    rw [List.mapM_nil, List.mapM_nil]
    exact .ok .nil
  | cons hx _ ih =>
    rw [List.mapM_cons, List.mapM_cons]
    refine (hf _ _ hx).bind fun _ _ _ _ hfirst => ih.bind fun _ _ _ _ hrest => ?_
    exact .ok (.cons hfirst hrest)

end Related

/-- Steps of a loop until one of them ends it, or until their number is used up. -/
def loop (step : σ → Outcome (ρ ⊕ σ)) (final : σ → ρ) (state : σ) : Nat → Outcome ρ
  | 0 => return final state
  | left + 1 => do
    match ← step state with
    | .inl result => return result
    | .inr next => loop step final next left

/-- The states that a loop comes to, by the number of steps before. -/
inductive Visits (step : σ → Outcome (ρ ⊕ σ)) (start : σ) : Nat → σ → Prop where
  | start : Visits step start 0 start
  | next {n : Nat} {state next : σ} :
      Visits step start n state → step state = .ok (.inr next) → Visits step start (n + 1) next

/-- What comes after the first step. -/
theorem Visits.of_first {step : σ → Outcome (ρ ⊕ σ)} {start next state : σ} {n : Nat}
    (hfirst : step start = .ok (.inr next)) (h : Visits step next n state) :
    Visits step start (n + 1) state := by
  induction h with
  | start => exact .next .start hfirst
  | next _ hstep ih => exact .next ih hstep

/-- What follows the first step leads to all states but the first. -/
theorem Visits.cases_first {step : σ → Outcome (ρ ⊕ σ)} {start state : σ} {n : Nat}
    (h : Visits step start (n + 1) state) :
    ∃ next, step start = .ok (.inr next) ∧ Visits step next n state := by
  obtain ⟨m, hm⟩ : ∃ m, m = n + 1 := ⟨_, rfl⟩
  rw [← hm] at h
  induction h generalizing n with
  | start => cases hm
  | @next m state next hv hstep ih =>
    cases n with
    | zero =>
      obtain rfl : m = 0 := Nat.succ.inj hm
      cases hv
      exact ⟨next, hstep, .start⟩
    | succ n =>
      obtain ⟨second, hfirst, hrest⟩ := ih (Nat.succ.inj hm)
      exact ⟨second, hfirst, .next hrest hstep⟩

/-- Whether a property holds of a state and of those that some steps from it come to. -/
def Throughout (step : σ → Outcome (ρ ⊕ σ)) (property : σ → Prop) : σ → Nat → Prop
  | _, 0 => True
  | state, left + 1 =>
    property state ∧ ∀ next, step state = .ok (.inr next) → Throughout step property next left

theorem Throughout.of_visits {step : σ → Outcome (ρ ⊕ σ)} {property : σ → Prop} {start : σ}
    {count : Nat} (h : Throughout step property start count) {n : Nat} (hn : n < count) {state : σ}
    (hv : Visits step start n state) : property state := by
  induction count generalizing start n with
  | zero => exact absurd hn (Nat.not_lt_zero n)
  | succ count ih =>
    cases n with
    | zero =>
      cases hv
      exact h.1
    | succ n =>
      obtain ⟨next, hfirst, hrest⟩ := hv.cases_first
      exact ih (h.2 next hfirst) (Nat.lt_of_succ_lt_succ hn) hrest

instance decidableForallOk {property : α → Prop} [DecidablePred property] (outcome : Outcome α) :
    Decidable (∀ a, outcome = .ok a → property a) :=
  match outcome with
  | .ok a => decidable_of_iff (property a) ⟨fun h _ ha => Except.ok.inj ha ▸ h, fun h => h a rfl⟩
  | .error _ => isTrue fun _ h => nomatch h

instance decidableForallInr {property : σ → Prop} [DecidablePred property] (result : ρ ⊕ σ) :
    Decidable (∀ next, result = .inr next → property next) :=
  match result with
  | .inl _ => isTrue fun _ h => nomatch h
  | .inr next =>
    decidable_of_iff (property next) ⟨fun h _ hn => Sum.inr.inj hn ▸ h, fun h => h next rfl⟩

instance decidableThroughout (step : σ → Outcome (ρ ⊕ σ)) (property : σ → Prop)
    [DecidablePred property] :
    (state : σ) → (left : Nat) → Decidable (Throughout step property state left)
  | _, 0 => isTrue trivial
  | state, left + 1 =>
    have : DecidablePred fun next => Throughout step property next left :=
      fun next => decidableThroughout step property next left
    decidable_of_iff (property state ∧ ∀ result, step state = .ok result →
        ∀ next, result = .inr next → Throughout step property next left)
      (and_congr_right fun _ => ⟨fun h next hn => h _ hn next rfl,
        fun h _ hr next hn => h next (hn ▸ hr)⟩)

/-- A loop that has a result comes to a state that ends it, or uses up its steps. -/
theorem loop_eq_ok {step : σ → Outcome (ρ ⊕ σ)} {final : σ → ρ} {start : σ} {count : Nat} {result : ρ}
    (h : loop step final start count = .ok result) :
    (∃ n < count, ∃ state, Visits step start n state ∧ step state = .ok (.inl result)) ∨
      ∃ state, Visits step start count state ∧ final state = result := by
  induction count generalizing start with
  | zero => exact .inr ⟨start, .start, Except.ok.inj h⟩
  | succ count ih =>
    rw [loop] at h
    cases hfirst : step start with
    | error fault =>
      rw [hfirst] at h
      cases h
    | ok next =>
      rw [hfirst] at h
      cases next with
      | inl other =>
        cases h
        exact .inl ⟨0, Nat.succ_pos _, start, .start, hfirst⟩
      | inr next =>
        obtain ⟨n, hn, state, hv, hstep⟩ | ⟨state, hv, hfinal⟩ := ih h
        · exact .inl ⟨n + 1, Nat.succ_lt_succ hn, state, hv.of_first hfirst, hstep⟩
        · exact .inr ⟨state, hv.of_first hfirst, hfinal⟩

/-- Whether steps go on to related states, or end with the same result. -/
def Alike (R : σ → τ → Prop) : ρ ⊕ σ → ρ ⊕ τ → Prop := Sum.LiftRel (· = ·) R

theorem alike_self (result : ρ ⊕ σ) : Alike (· = ·) result result := by
  cases result with
  | inl result => exact .inl rfl
  | inr next => exact .inr rfl

/-- Loops whose steps go the same way have the same outcome. -/
theorem loop_eq_loop {R : σ → τ → Prop} {step : σ → Outcome (ρ ⊕ σ)} {step' : τ → Outcome (ρ ⊕ τ)}
    {final : σ → ρ} {final' : τ → ρ} {start : σ} {start' : τ} (count : Nat) (h : R start start')
    (hfinal : ∀ s t, R s t → final s = final' t)
    (hstep : ∀ n < count, ∀ s t, Visits step start n s → Visits step' start' n t → R s t →
      Related (Alike R) (step s) (step' t)) :
    loop step final start count = loop step' final' start' count := by
  induction count generalizing start start' with
  | zero => exact congrArg Except.ok (hfinal start start' h)
  | succ count ih =>
    rw [loop, loop]
    refine Related.eq ((hstep 0 (Nat.succ_pos _) start start' .start .start h).bind ?_)
    intro x y hx hy hxy
    cases hxy with
    | inl hresult => exact .of_eq (congrArg Except.ok hresult)
    | inr hnext =>
      refine .of_eq (ih hnext fun n hn s t hs ht => ?_)
      exact hstep (n + 1) (Nat.succ_lt_succ hn) s t (hs.of_first hx) (ht.of_first hy)

end Outcome

theorem Run.ofOutcome_bind {α β γ : Type} (a : Outcome α) (f : α → Outcome β) (g : β → Run γ) :
    (Run.ofOutcome (a >>= f) >>= g) = (Run.ofOutcome a >>= fun x => Run.ofOutcome (f x) >>= g) := by
  cases a <;> rfl

/-- What a run does after an outcome matters only for what the outcome may be. -/
theorem Run.ofOutcome_bind_congr {α β γ : Type} {R : α → β → Prop} {a : Outcome α} {b : Outcome β}
    {f : α → Run γ} {g : β → Run γ} (h : Outcome.Related R a b)
    (hf : ∀ x y, a = .ok x → b = .ok y → R x y → f x = g y) :
    (Run.ofOutcome a >>= f) = (Run.ofOutcome b >>= g) := by
  cases h with
  | ok h => exact hf _ _ rfl rfl h
  | error fault => rfl

end SheetFormulas
