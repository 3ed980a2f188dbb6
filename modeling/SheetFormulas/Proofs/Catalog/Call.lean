import SheetFormulas.Catalog.Standard
import SheetFormulas.Proofs.Run.Steps

/-!
Calls of catalogued functions, by what their bodies yield. A refusal of the body becomes the answer,
and an error value among the arguments comes before the body, unless the entry sees error values.
-/

namespace SheetFormulas

open Run

theorem Answer.toValue_map (outcome : Outcome Value) : toValue <$> outcome = outcome :=
  id_map outcome

section Signatures

open Parameter

variable {α : Type} {name second : String} {v : Value} {rest : List Parameter} {more : List Value}

/-- Whether a function has a property whatever its arguments are. -/
def Body.Always (P : Run α → Prop) : (parameters : List Parameter) → Body α parameters → Prop
  | [], body => ∀ further, P (body further)
  | _ :: rest, body => ∀ argument, Body.Always P rest (body argument)

/-- However arguments are given to a function, it runs on some arguments, or the call fails. -/
theorem Body.apply_of_always {P : Run α → Prop} (hf : P (fail .arguments)) (isOpen : Bool)
    (parameters : List Parameter) (body : Body α parameters) (h : Body.Always P parameters body)
    (arguments : List Value) (named : List (String × Value)) :
    P (Body.apply isOpen parameters body arguments named) := by
  induction parameters generalizing arguments named with
  | nil =>
    rw [Body.apply]
    split_ifs
    · exact h arguments
    · exact hf
  | cons parameter rest ih =>
    cases arguments with
    | cons argument more =>
      rw [Body.apply]
      split_ifs
      · exact hf
      · exact ih (body argument) (h argument) more named
    | nil =>
      rw [Body.apply]
      split
      · exact ih _ (h _) _ _
      · exact ih _ (h _) _ _
      · exact hf

/-- An optional argument has the parameter's own value where it is left out. -/
theorem Body.apply_optional (isOpen : Bool) (body : Body α (optional name v :: rest)) :
    Body.apply isOpen (optional name v :: rest) body more [] =
      Body.apply isOpen rest (body (more.getD 0 v)) more.tail [] := by
  cases more <;> rfl

/-- A function with one optional argument at the end. -/
theorem Body.apply_one_optional (body : Body α [optional name v]) (h : more.length ≤ 1) :
    Body.apply false [optional name v] body more [] = body (more.getD 0 v) [] := by
  have htail : more.tail = [] := List.length_eq_zero_iff.mp (by rw [List.length_tail]; omega)
  rw [Body.apply_optional, htail]
  rfl

end Signatures

namespace Entry

variable {entry : Entry} {context : Context} {arguments : List Value}
  {named : List (String × Value)} {outcome : Outcome Value} {labels : List String}

/-- What becomes of the outcome of a body where error values are not seen: the first error value
among the arguments takes its place. -/
def guarded (arguments : List Value) (outcome : Outcome Value) : Outcome Value :=
  match firstErrorOf arguments [] with
  | some kind => .ok (.error kind)
  | none => Value.answer outcome

theorem guarded_of_error {kind : ErrorKind} (h : firstErrorOf arguments [] = some kind) :
    guarded arguments outcome = .ok (.error kind) := by
  rw [guarded, h]

theorem guarded_of_no_error (h : firstErrorOf arguments [] = none) :
    guarded arguments outcome = Value.answer outcome := by
  rw [guarded, h]

theorem firstErrorOf_cons (v : Value) (rest : List Value) :
    firstErrorOf (v :: rest) [] = v.error?.or (firstErrorOf rest []) := by
  rw [firstErrorOf, firstErrorOf, List.map_nil, List.append_nil, List.append_nil,
    List.findSome?_cons]
  cases v.error? <;> rfl

theorem firstErrorOf_eq_none_iff :
    firstErrorOf arguments [] = none ↔ ∀ a ∈ arguments, a.error? = none := by
  rw [firstErrorOf, List.map_nil, List.append_nil, List.findSome?_eq_none_iff]

/-- Where only the first argument may be an error value, the others do not matter. -/
theorem guarded_cons {v : Value} {rest : List Value} (h : ∀ a ∈ rest, a.error? = none)
    (outcome : Outcome Value) : guarded (v :: rest) outcome = guarded [v] outcome := by
  rw [guarded, guarded, firstErrorOf_cons, firstErrorOf_cons, firstErrorOf_eq_none_iff.mpr h]
  rfl

theorem refused_yields (entry : Entry) (cause : Refusal) :
    (entry.refused cause).Yields (.ok (.error cause.kind)) [] :=
  (Yields.note _).bind (Yields.pure _)

theorem run_yields (h : (entry.body context arguments named).Yields outcome labels) :
    (entry.run context arguments named).Yields (Value.answer outcome) labels := by
  unfold Entry.run
  rcases outcome with cause | v
  · cases cause with
    | refusal cause =>
      rw [← List.append_nil labels]
      exact h.onRefusal_refusal (refused_yields entry cause)
    | failure cause => exact h.onRefusal_failure
  · exact h.onRefusal_ok

theorem call_yields_of_seeing (hs : entry.propagates = false)
    (h : (entry.body context arguments named).Yields outcome labels) :
    (entry.call context arguments named).Yields (Value.answer outcome) labels := by
  unfold Entry.call
  rw [hs]
  exact run_yields h

theorem call_yields_guarded (hs : entry.propagates = true)
    (h : (entry.body context arguments []).Yields outcome []) :
    (entry.call context arguments []).Yields (guarded arguments outcome) [] := by
  unfold Entry.call guarded
  rw [hs]
  cases firstErrorOf arguments [] with
  | none => exact run_yields h
  | some kind => exact Yields.pure _

/-- A number that a call answers with is what the function's body yields. -/
theorem eq_number_of_call {n : Number} {more : List String}
    (hb : (entry.body context arguments named).Yields outcome labels)
    (h : (entry.call context arguments named).Yields (.ok (.number n)) more) :
    outcome = .ok (.number n) := by
  unfold Entry.call at h
  split at h
  · cases ((Yields.pure _).unique h).1
  · have hanswer := ((run_yields hb).unique h).1
    rcases outcome with (cause | cause) | v
    · cases hanswer
    · cases hanswer
    · exact hanswer

end Entry

namespace Catalog

variable {name : String} {entry : Entry} {context : Context} {arguments : List Value}
  {outcome : Outcome Value} {labels : List String}

theorem standard_call (h : standard.find? name = some entry) :
    standard.call context name arguments [] = entry.call context arguments [] := by
  unfold call entryOf
  rw [h]
  rfl

/-- A call of a built-in function that sees error values. -/
theorem standard_call_yields_of_seeing (h : standard.find? name = some entry)
    (hs : entry.propagates = false)
    (hb : (entry.body context arguments []).Yields outcome labels) :
    (standard.call context name arguments []).Yields (Value.answer outcome) labels := by
  rw [standard_call h]
  exact Entry.call_yields_of_seeing hs hb

/-- A call of a built-in function without effects that does not see error values. -/
theorem standard_call_yields_guarded {α : Type} [Answer α] {result : Outcome α}
    (h : standard.find? name = some entry) (hs : entry.propagates = true)
    (hb : entry.body context arguments [] = answer result) :
    (standard.call context name arguments []).Yields
      (Entry.guarded arguments (Answer.toValue <$> result)) [] := by
  rw [standard_call h]
  refine Entry.call_yields_guarded hs ?_
  rw [hb]
  exact Yields.ofOutcome _

/-- Without an error value among the arguments the call answers as the function does. -/
theorem standard_call_yields_answer {α : Type} [Answer α] {result : Outcome α}
    (h : standard.find? name = some entry) (hs : entry.propagates = true)
    (hb : entry.body context arguments [] = answer result)
    (hn : Entry.firstErrorOf arguments [] = none) :
    (standard.call context name arguments []).Yields
      (Value.answer (Answer.toValue <$> result)) [] := by
  rw [← Entry.guarded_of_no_error hn]
  exact standard_call_yields_guarded h hs hb

theorem standard_call_yields_ok {α : Type} [Answer α] {result : Outcome α} {a : α}
    (h : standard.find? name = some entry) (hs : entry.propagates = true)
    (hb : entry.body context arguments [] = answer result)
    (hn : Entry.firstErrorOf arguments [] = none) (hr : result = .ok a) :
    (standard.call context name arguments []).Yields (.ok (Answer.toValue a)) [] := by
  subst hr
  exact standard_call_yields_answer h hs hb hn

end Catalog

end SheetFormulas
