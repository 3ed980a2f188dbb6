import SheetFormulas.Proofs.Catalog.Call

/-!
Outcomes without a failure: a result with a property, or a refusal. One rule for each way to put an
outcome together, and what a call of a catalogued function answers with. Where an outcome can fail,
a second property says which failures it can be, and a third says which error values its refusals
stand for.
-/

namespace SheetFormulas

namespace Outcome

variable {α β : Type} {P Q : α → Prop} {R : β → Prop} {outcome : Outcome α}

/-- Whether an outcome is a refusal or a result with a property, and so no failure. -/
def Answers (P : α → Prop) : Outcome α → Prop
  | .ok a => P a
  | .error (.refusal _) => True
  | .error (.failure _) => False

theorem answers_ok {a : α} (h : P a) : Answers P (.ok a) := h

theorem answers_refuse (cause : Refusal) : Answers P (refuse cause) := trivial

theorem answers_refuseCoercion (cause : CoercionCause) : Answers P (refuseCoercion cause) := trivial

theorem not_answers_fail (cause : Failure) : ¬ Answers P (fail cause) := id

theorem Answers.mono (h : outcome.Answers P) (hpq : ∀ a, P a → Q a) : outcome.Answers Q := by
  rcases outcome with (cause | cause) | a
  · trivial
  · exact h
  · exact hpq a h

theorem Answers.bind {f : α → Outcome β} (h : outcome.Answers P)
    (hf : ∀ a, P a → (f a).Answers R) : (outcome >>= f).Answers R := by
  rcases outcome with (cause | cause) | a
  · trivial
  · exact h
  · exact hf a h

/-- A result is also what the outcome is equal to. -/
theorem Answers.self (h : outcome.Answers P) : outcome.Answers fun a => outcome = .ok a ∧ P a := by
  rcases outcome with (cause | cause) | a
  · trivial
  · exact h
  · exact ⟨rfl, h⟩

theorem Answers.map {f : α → β} (h : outcome.Answers P) (hf : ∀ a, P a → R (f a)) :
    (f <$> outcome).Answers R := by
  rcases outcome with (cause | cause) | a
  · trivial
  · exact h
  · exact hf a h

theorem answers_ite {c : Prop} [Decidable c] {a b : Outcome α} (ha : c → a.Answers P)
    (hb : ¬ c → b.Answers P) : (if c then a else b).Answers P := by
  split_ifs with h
  · exact ha h
  · exact hb h

/-- Two branches with the same steps after them. -/
theorem answers_ite_bind {c : Prop} [Decidable c] {a b : Outcome α} {f : α → Outcome β}
    (ha : c → a.Answers P) (hb : ¬ c → b.Answers P) (hf : ∀ x, P x → (f x).Answers R) :
    (if c then a >>= f else b >>= f).Answers R :=
  answers_ite (fun h => (ha h).bind hf) fun h => (hb h).bind hf

/-- A map whose steps do not fail does not fail. -/
theorem answers_mapM {f : α → Outcome β} {items : List α} (hi : ∀ a ∈ items, P a)
    (hf : ∀ a, P a → (f a).Answers R) : (items.mapM f).Answers fun results => ∀ b ∈ results, R b := by
  induction items with
  | nil =>
    rw [List.mapM_nil]
    exact answers_ok fun _ hb => nomatch hb
  | cons item rest ih =>
    rw [List.mapM_cons]
    refine (hf item (hi item List.mem_cons_self)).bind fun b hb => ?_
    refine (ih fun a ha => hi a (List.mem_cons_of_mem _ ha)).bind fun results hr => answers_ok ?_
    intro c hc
    rcases List.mem_cons.mp hc with rfl | hc
    · exact hb
    · exact hr c hc

/-- A fold whose steps do not fail and keep an invariant does so too. -/
theorem answers_foldlM {f : β → α → Outcome β} {items : List α} {start : β} (hs : R start)
    (hf : ∀ b, R b → ∀ a ∈ items, (f b a).Answers R) : (items.foldlM f start).Answers R := by
  induction items generalizing start with
  | nil =>
    rw [List.foldlM_nil]
    exact answers_ok hs
  | cons item rest ih =>
    rw [List.foldlM_cons]
    refine (hf start hs item List.mem_cons_self).bind fun next hn => ih hn fun b hb a ha => ?_
    exact hf b hb a (List.mem_cons_of_mem _ ha)

/-- A fold over places whose steps do not fail and lead from the invariant at each place to the next. -/
theorem answers_foldlM_range {f : β → Nat → Outcome β} {I : Nat → β → Prop} {start : β} (n : Nat)
    (hs : I 0 start) (hf : ∀ i < n, ∀ b, I i b → (f b i).Answers (I (i + 1))) :
    ((List.range n).foldlM f start).Answers (I n) := by
  induction n with
  | zero => exact answers_ok hs
  | succ n ih =>
    rw [List.range_succ, List.foldlM_append]
    refine (ih fun i hi => hf i (hi.trans (Nat.lt_succ_self n))).bind fun b hb => ?_
    rw [List.foldlM_cons]
    exact (hf n (Nat.lt_succ_self n) b hb).bind fun _ hnext => answers_ok hnext

/-- Whether an outcome is a refusal, a failure with a property, or a result with another. -/
def AnswersOr (F : Failure → Prop) (P : α → Prop) : Outcome α → Prop
  | .ok a => P a
  | .error (.refusal _) => True
  | .error (.failure cause) => F cause

variable {F : Failure → Prop}

theorem Answers.bind_or {f : α → Outcome β} (h : outcome.Answers P)
    (hf : ∀ a, P a → (f a).AnswersOr F R) : (outcome >>= f).AnswersOr F R := by
  rcases outcome with (cause | cause) | a
  · trivial
  · exact h.elim
  · exact hf a h

theorem AnswersOr.bind {f : α → Outcome β} (h : outcome.AnswersOr F P)
    (hf : ∀ a, P a → (f a).AnswersOr F R) : (outcome >>= f).AnswersOr F R := by
  rcases outcome with (cause | cause) | a
  · trivial
  · exact h
  · exact hf a h

theorem AnswersOr.self (h : outcome.AnswersOr F P) :
    outcome.AnswersOr F fun a => outcome = .ok a ∧ P a := by
  rcases outcome with (cause | cause) | a
  · trivial
  · exact h
  · exact ⟨rfl, h⟩

theorem answersOr_guard {c : Prop} [Decidable c] {cause : Refusal} (h : ¬ c → outcome.AnswersOr F P) :
    (if c then refuse cause else outcome).AnswersOr F P := by
  split_ifs with hc
  · trivial
  · exact h hc

theorem AnswersOr.mono {G : Failure → Prop} (h : outcome.AnswersOr F P) (hfg : ∀ cause, F cause → G cause)
    (hpq : ∀ a, P a → Q a) : outcome.AnswersOr G Q := by
  rcases outcome with (cause | cause) | a
  · trivial
  · exact hfg cause h
  · exact hpq a h

/-- An outcome that cannot fail answers a call with a value. -/
theorem Answers.exists_answer {outcome : Outcome Value} {P : Value → Prop} (h : outcome.Answers P)
    (he : ∀ kind, P (.error kind)) : ∃ v, Value.answer outcome = .ok v ∧ P v := by
  rcases outcome with (cause | cause) | v
  · exact ⟨_, rfl, he cause.kind⟩
  · exact absurd h id
  · exact ⟨v, rfl, h⟩

/-! The error values that stand for refusals. -/

/-- Whatever a computation refuses stands for an error value of an allowed kind. -/
def RefusesOnly (allowed : ErrorKind → Prop) (x : Outcome α) : Prop :=
  ∀ cause, x = refuse cause → allowed cause.kind

namespace RefusesOnly

variable {allowed : ErrorKind → Prop} {x y : Outcome α}

theorem ok (a : α) : RefusesOnly allowed (.ok a) := fun _ h => by cases h

theorem fail (cause : Failure) : RefusesOnly allowed (fail cause : Outcome α) :=
  fun _ h => by cases h

theorem refuse {cause : Refusal} (h : allowed cause.kind) :
    RefusesOnly allowed (refuse cause : Outcome α) := by
  intro other heq
  cases heq
  exact h

theorem bind {f : α → Outcome β} (hx : RefusesOnly allowed x)
    (hf : ∀ a, RefusesOnly allowed (f a)) : RefusesOnly allowed (x >>= f) := by
  intro cause h
  cases x with
  | ok a => exact hf a cause h
  | error fault =>
    rw [error_bind] at h
    cases h
    exact hx cause rfl

theorem mono {wider : ErrorKind → Prop} (hx : RefusesOnly allowed x)
    (h : ∀ {kind}, allowed kind → wider kind) : RefusesOnly wider x :=
  fun cause hc => h (hx cause hc)

theorem ite {p : Prop} [Decidable p] (hx : RefusesOnly allowed x) (hy : RefusesOnly allowed y) :
    RefusesOnly allowed (if p then x else y) := by
  split
  · exact hx
  · exact hy

end RefusesOnly

end Outcome

namespace Catalog

variable {α : Type} [Answer α] {name : String} {entry : Entry} {context : Context}
  {arguments : List Value} {result : Outcome α} {P : Value → Prop}

/-- A function that cannot fail answers with a value, where error values have the property of its
results. -/
theorem standard_call_answers (h : standard.find? name = some entry)
    (hs : entry.propagates = true) (hb : entry.body context arguments [] = answer result)
    (hr : result.Answers fun a => P (Answer.toValue a)) (he : ∀ kind, P (.error kind)) :
    ∃ v, (standard.call context name arguments []).Yields (.ok v) [] ∧ P v := by
  have hy := standard_call_yields_guarded h hs hb
  cases herror : Entry.firstErrorOf arguments [] with
  | some kind =>
    rw [Entry.guarded_of_error herror] at hy
    exact ⟨_, hy, he kind⟩
  | none =>
    rw [Entry.guarded_of_no_error herror] at hy
    obtain ⟨v, hv, hp⟩ := (hr.map fun _ hp => hp).exists_answer he
    rw [hv] at hy
    exact ⟨v, hy, hp⟩

/-- A failure of a function passes through its call. -/
theorem standard_call_fails {cause : Failure} (h : standard.find? name = some entry)
    (hs : entry.propagates = true) (hb : entry.body context arguments [] = answer result)
    (hr : result = fail cause) (hn : Entry.firstErrorOf arguments [] = none) :
    (standard.call context name arguments []).Yields (fail cause) [] := by
  subst hr
  exact standard_call_yields_answer h hs hb hn

end Catalog

end SheetFormulas
