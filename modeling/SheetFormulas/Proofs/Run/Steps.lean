import SheetFormulas.Proofs.Value.Coercion
import SheetFormulas.Run

/-!
Runs by what they yield. A run yields an outcome and asks for deferred values if it does so whatever
the journal holds before; notes are left out of account. One lemma for each way to put a run
together.
-/

namespace SheetFormulas

namespace Run

variable {α β : Type}

/-- The outcome of a run and the journal after it. -/
def on (run : Run α) (journal : Journal) : Outcome α × Journal :=
  StateT.run (ExceptT.run run) journal

theorem on_bind (run : Run α) (f : α → Run β) (journal : Journal) :
    (run >>= f).on journal =
      match run.on journal with
      | (.ok a, next) => (f a).on next
      | (.error fault, next) => (.error fault, next) := by
  unfold on ExceptT.run StateT.run
  simp only [bind, ExceptT.bind, ExceptT.mk, StateT.bind, ExceptT.bindCont]
  cases run journal with
  | mk outcome next => cases outcome <;> rfl

theorem on_onRefusal (run : Run α) (handle : Refusal → Run α) (journal : Journal) :
    (run.onRefusal handle).on journal =
      match run.on journal with
      | (.error (.refusal cause), next) => (handle cause).on next
      | other => other := by
  unfold onRefusal on ExceptT.run StateT.run
  simp only [tryCatch, tryCatchThe, MonadExceptOf.tryCatch, ExceptT.tryCatch, ExceptT.mk, bind,
    StateT.bind]
  cases run journal with
  | mk outcome next =>
    cases outcome with
    | ok a => rfl
    | error fault => cases fault <;> rfl

/-- Whatever the journal holds before, the run has this outcome and asks for the deferred values
with these labels, in order. -/
def Yields (run : Run α) (outcome : Outcome α) (labels : List String) : Prop :=
  ∀ journal, ∃ notes, run.on journal = (outcome, ⟨journal.forced ++ labels, notes⟩)

/-- Two runs have one outcome. -/
def SameOutcome (a b : Run α) : Prop := ∀ journal, (a.on journal).1 = (b.on journal).1

namespace Yields

variable {run : Run α} {outcome : Outcome α} {labels more : List String}

theorem ofOutcome (outcome : Outcome α) : (Run.ofOutcome outcome).Yields outcome [] := by
  intro journal
  exact ⟨journal.notes, by rw [List.append_nil]; rfl⟩

theorem pure (a : α) : (Pure.pure a : Run α).Yields (.ok a) [] := ofOutcome (.ok a)

theorem note (text : String) : (Run.note text).Yields (.ok ()) [] := by
  intro journal
  exact ⟨journal.notes ++ [text], by rw [List.append_nil]; rfl⟩

theorem recordForced (label : String) : (Run.recordForced label).Yields (.ok ()) [label] :=
  fun journal => ⟨journal.notes, rfl⟩

theorem bind {a : α} {f : α → Run β} {outcome : Outcome β} (h : run.Yields (.ok a) labels)
    (hf : (f a).Yields outcome more) : (run >>= f).Yields outcome (labels ++ more) := by
  intro journal
  obtain ⟨notes, hr⟩ := h journal
  obtain ⟨notes', hn⟩ := hf ⟨journal.forced ++ labels, notes⟩
  refine ⟨notes', ?_⟩
  rw [on_bind, hr]
  simp only [hn, List.append_assoc]

theorem bind_error {f : α → Run β} {fault : Fault} (h : run.Yields (.error fault) labels) :
    (run >>= f).Yields (.error fault) labels := by
  intro journal
  obtain ⟨notes, hr⟩ := h journal
  exact ⟨notes, by rw [on_bind, hr]⟩

/-- A step without effects before a run. -/
theorem ofOutcome_bind {a : α} {f : α → Run β} {outcome : Outcome β} {x : Outcome α}
    (hx : x = .ok a) (hf : (f a).Yields outcome labels) :
    (Run.ofOutcome x >>= f).Yields outcome labels := by
  subst hx
  exact (ofOutcome (.ok a)).bind hf

/-- An outcome before a run, whose results matter only. -/
theorem bind_ofOutcome {x : Outcome α} {f : α → Run β} {g : α → Outcome β}
    (hf : ∀ a, x = .ok a → (f a).Yields (g a) []) : (Run.ofOutcome x >>= f).Yields (x >>= g) [] := by
  cases x with
  | ok a => exact ofOutcome_bind rfl (hf a rfl)
  | error fault => exact (ofOutcome (.error fault)).bind_error

theorem map (f : α → β) (h : run.Yields outcome labels) :
    (f <$> run).Yields (f <$> outcome) labels := by
  rw [← bind_pure_comp]
  cases outcome with
  | ok a =>
    rw [← List.append_nil labels]
    exact h.bind (pure (f a))
  | error fault => exact h.bind_error

theorem onRefusal_ok {handle : Refusal → Run α} {a : α} (h : run.Yields (.ok a) labels) :
    (run.onRefusal handle).Yields (.ok a) labels := by
  intro journal
  obtain ⟨notes, hr⟩ := h journal
  exact ⟨notes, by rw [on_onRefusal, hr]⟩

theorem onRefusal_failure {handle : Refusal → Run α} {cause : Failure}
    (h : run.Yields (fail cause) labels) : (run.onRefusal handle).Yields (fail cause) labels := by
  intro journal
  obtain ⟨notes, hr⟩ := h journal
  exact ⟨notes, by rw [on_onRefusal, hr]; rfl⟩

theorem onRefusal_refusal {handle : Refusal → Run α} {cause : Refusal}
    (h : run.Yields (refuse cause) labels) (hh : (handle cause).Yields outcome more) :
    (run.onRefusal handle).Yields outcome (labels ++ more) := by
  intro journal
  obtain ⟨notes, hr⟩ := h journal
  obtain ⟨notes', hn⟩ := hh ⟨journal.forced ++ labels, notes⟩
  refine ⟨notes', ?_⟩
  rw [on_onRefusal, hr]
  simp only [refuse, hn, List.append_assoc]

/-- What a run yields is settled by any journal. -/
theorem unique {outcome' : Outcome α} (h : run.Yields outcome labels)
    (h' : run.Yields outcome' more) : outcome = outcome' ∧ labels = more := by
  obtain ⟨notes, hr⟩ := h .blank
  obtain ⟨notes', hr'⟩ := h' .blank
  rw [hr] at hr'
  obtain ⟨ho, hj⟩ := Prod.mk.inj hr'
  obtain ⟨hl, -⟩ := Journal.mk.inj hj
  exact ⟨ho, List.append_cancel_left hl⟩

theorem sameOutcome {other : Run α} (h : run.Yields outcome labels)
    (h' : other.Yields outcome more) : run.SameOutcome other := by
  intro journal
  obtain ⟨notes, hr⟩ := h journal
  obtain ⟨notes', hr'⟩ := h' journal
  rw [hr, hr']

theorem sameOutcome_iff {other : Run α} {outcome' : Outcome α} (h : run.Yields outcome labels)
    (h' : other.Yields outcome' more) : run.SameOutcome other ↔ outcome = outcome' := by
  constructor
  · intro hsame
    obtain ⟨notes, hr⟩ := h .blank
    obtain ⟨notes', hr'⟩ := h' .blank
    have houtcome := hsame .blank
    rwa [hr, hr'] at houtcome
  · rintro rfl
    exact h.sameOutcome h'

end Yields

end Run

end SheetFormulas
