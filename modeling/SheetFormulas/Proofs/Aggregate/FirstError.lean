import SheetFormulas.Evaluation
import SheetFormulas.Proofs.Catalog.Call
import SheetFormulas.Proofs.Value.Flattening

/-!
Error values in aggregates. An error value among the arguments themselves is the answer before any
array is looked into; without one, the leftmost error value inside the arrays is. In the logical
aggregates a double that is no number stops an array like an error value.
-/

namespace SheetFormulas

open Value

namespace Outcome

variable {α β : Type}

/-- What went wrong, if anything did. -/
def fault? : Outcome α → Option Fault
  | .ok _ => none
  | .error fault => some fault

theorem eq_error_of_fault? {x : Outcome α} {fault : Fault} (h : x.fault? = some fault) :
    x = .error fault := by
  cases x with
  | ok a => cases h
  | error e => rw [Option.some.inj h]

theorem fault?_map (f : α → β) (x : Outcome α) : (f <$> x).fault? = x.fault? := by
  cases x <;> rfl

/-- A map fails with the first value that fails. -/
theorem fault?_mapM (f : α → Outcome β) (values : List α) :
    (values.mapM f).fault? = values.findSome? fun v => (f v).fault? := by
  induction values with
  | nil => rfl
  | cons v rest ih =>
    rw [List.mapM_cons, List.findSome?_cons, ← ih]
    cases f v with
    | error e => rfl
    | ok b => cases rest.mapM f <;> rfl

end Outcome

namespace Aggregate

open Outcome

/-- The error value that a member of an array leads to in a logical aggregate. -/
def truthError? : Value → Option ErrorKind
  | .error kind => some kind
  | .number n => if n.isNaN then some .badValue else none
  | _ => none

/-- Whether an argument that is neither an error value nor an array is converted. -/
def Converted {α : Type} (convert : Value → Outcome α) (argument : Value) : Prop :=
  argument.error? = none → argument.kind? ≠ some .array → ∃ a, convert argument = .ok a

/-- What an argument contributes: the members of an array that count, or itself. -/
def contributed {α : Type} (member : Value → Outcome (Option α)) (convert : Value → Outcome α) :
    Value → Outcome (List α)
  | .array items => (fun found => found.filterMap id) <$> (flatten items).mapM member
  | .empty => .ok []
  | v => (fun a => [a]) <$> convert v

theorem argumentNumbers_eq : argumentNumbers = contributed memberNumber Value.toNumber := by
  funext v
  cases v <;> rfl

theorem argumentBools_eq : argumentBools = contributed memberBool Value.toBool := by
  funext v
  cases v <;> rfl

theorem findSome?_congr {α β : Type} {f g : α → Option β} {values : List α}
    (h : ∀ v ∈ values, f v = g v) : values.findSome? f = values.findSome? g := by
  induction values with
  | nil => rfl
  | cons v rest ih =>
    obtain ⟨hv, hrest⟩ := List.forall_mem_cons.mp h
    rw [List.findSome?_cons, List.findSome?_cons, hv, ih hrest]

/-- How the values of a kind of aggregate stop it: a member of an array by a refusal of its own, and
a value that is converted not at all. -/
structure StoppedBy {α : Type} (member : Value → Outcome (Option α)) (convert : Value → Outcome α)
    (stop : Value → Option Refusal) : Prop where
  member : ∀ v : Value, v.kind? ≠ none → (member v).fault? = (stop v).map .refusal
  converted : ∀ v a, convert v = .ok a → stop v = none

/-- The error value itself. -/
def carried? : Value → Option Refusal
  | .error kind => some (.carried kind)
  | _ => none

/-- The error value itself, or a double that is no truth value. -/
def refusedTruth? : Value → Option Refusal
  | .error kind => some (.carried kind)
  | .number n => if n.isNaN then some (.coercion (.notANumber .boolean)) else none
  | _ => none

theorem stoppedBy_carried : StoppedBy memberNumber Value.toNumber carried? where
  member v hv := by
    cases v <;> first | rfl | exact absurd rfl hv
  converted v a h := by
    cases v <;> first | rfl | cases h

theorem toBool_number (n : Number) :
    (Value.number n).toBool =
      if n.isNaN then refuseCoercion (.notANumber .boolean) else .ok (!n.isZero) := rfl

theorem stoppedBy_refusedTruth : StoppedBy memberBool Value.toBool refusedTruth? where
  member v hv := by
    cases v with
    | number n =>
      have hm : memberBool (.number n) = some <$> (Value.number n).toBool := rfl
      rw [hm, fault?_map, toBool_number, refusedTruth?]
      split <;> rfl
    | deferred label body => exact absurd rfl hv
    | _ => rfl
  converted v a h := by
    cases v with
    | number n =>
      rw [toBool_number] at h
      rw [refusedTruth?]
      split
      · next hn =>
        rw [if_pos hn] at h
        cases h
      · rfl
    | error kind => cases h
    | _ => rfl

section

variable {α : Type} {member : Value → Outcome (Option α)} {convert : Value → Outcome α}
  {stop : Value → Option Refusal}

theorem fault?_contributed_of_converted {v : Value} {a : α} (ha : v.kind? ≠ some .array)
    (h : convert v = .ok a) : (contributed member convert v).fault? = none := by
  cases v with
  | array items => exact absurd rfl ha
  | empty => rfl
  | _ =>
    show (Functor.map (fun a => [a]) (convert _)).fault? = none
    rw [h]
    rfl

theorem fault?_contributed (hs : StoppedBy member convert stop) {v : Value}
    (hvalues : ∀ leaf ∈ leaves v, leaf.kind? ≠ none) (hc : Converted convert v)
    (he : v.error? = none) :
    (contributed member convert v).fault? = ((leaves v).findSome? stop).map .refusal := by
  by_cases ha : v.kind? = some .array
  · cases v with
    | array items =>
      rw [leaves, contributed, fault?_map, fault?_mapM, flatten_eq_leavesOf, List.map_findSome?]
      exact findSome?_congr fun leaf hl => hs.member leaf (hvalues leaf hl)
    | _ => cases ha
  · obtain ⟨a, hv⟩ := hc he ha
    rw [fault?_contributed_of_converted ha hv, leaves_of_ne_array ha, List.findSome?_cons,
      hs.converted v a hv]
    rfl

theorem fault?_mapM_contributed (hs : StoppedBy member convert stop) {arguments : List Value}
    (hvalues : ∀ leaf ∈ leavesOf arguments, leaf.kind? ≠ none)
    (hc : ∀ a ∈ arguments, Converted convert a) (he : ∀ a ∈ arguments, a.error? = none) :
    (arguments.mapM (contributed member convert)).fault? =
      ((leavesOf arguments).findSome? stop).map .refusal := by
  rw [fault?_mapM]
  induction arguments with
  | nil => rfl
  | cons v rest ih =>
    obtain ⟨hcv, hcrest⟩ := List.forall_mem_cons.mp hc
    obtain ⟨hev, herest⟩ := List.forall_mem_cons.mp he
    rw [leavesOf] at hvalues ⊢
    have hv := fault?_contributed hs (fun leaf hl => hvalues leaf (List.mem_append_left _ hl))
      hcv hev
    -- an argument that fails comes before all arguments behind it
    have hrest := ih (fun leaf hl => hvalues leaf (List.mem_append_right _ hl)) hcrest herest
    rw [List.findSome?_cons, List.findSome?_append, hv, hrest]
    cases (leaves v).findSome? stop <;> rfl

theorem answer_of_stopped {β : Type} [Answer β] (hs : StoppedBy member convert stop)
    {arguments : List Value} {cause : Refusal}
    (hvalues : ∀ leaf ∈ flatten arguments, leaf.kind? ≠ none)
    (hc : ∀ a ∈ arguments, Converted convert a) (he : ∀ a ∈ arguments, a.error? = none)
    (hfirst : (flatten arguments).findSome? stop = some cause) (next : List (List α) → Outcome β) :
    Value.answer (Answer.toValue <$> (arguments.mapM (contributed member convert) >>= next)) =
      .ok (.error cause.kind) := by
  rw [flatten_eq_leavesOf] at hvalues hfirst
  have hfault := fault?_mapM_contributed hs hvalues hc he
  rw [hfirst] at hfault
  rw [eq_error_of_fault? hfault]
  rfl

end

/-- An aggregate whose body stops at an error value answers with it, unless an error value among the
arguments comes first. -/
theorem call_yields_stop {β : Type} [Answer β] {context : Context} {name : String} {entry : Entry}
    {arguments : List Value} {outcome : Outcome β} {stop : ErrorKind}
    (hf : Catalog.standard.find? name = some entry) (hp : entry.propagates = true)
    (hb : entry.body context arguments [] = answer outcome)
    (ha : (∀ a ∈ arguments, a.error? = none) →
      Value.answer (Answer.toValue <$> outcome) = .ok (.error stop)) :
    (Catalog.standard.call context name arguments []).Yields
      (.ok (.error ((Entry.firstErrorOf arguments []).getD stop))) [] := by
  have h := Catalog.standard_call_yields_guarded hf hp hb
  cases he : Entry.firstErrorOf arguments [] with
  | some kind =>
    rw [Entry.guarded_of_error he] at h
    exact h
  | none =>
    rw [Entry.guarded_of_no_error he, ha (Entry.firstErrorOf_eq_none_iff.mp he)] at h
    exact h

theorem numbers_bind {β : Type} (arguments : List Value) (f : List Number → Outcome β) :
    numbers arguments >>= f =
      arguments.mapM (contributed memberNumber Value.toNumber) >>= fun found => f found.flatten := by
  rw [numbers, argumentNumbers_eq, bind_assoc]
  rfl

theorem bools_bind {β : Type} (arguments : List Value) (f : List Bool → Outcome β) :
    bools arguments >>= f =
      arguments.mapM (contributed memberBool Value.toBool) >>= fun found => f found.flatten := by
  rw [bools, argumentBools_eq, bind_assoc]
  rfl

theorem truthError?_eq (v : Value) : truthError? v = (refusedTruth? v).map Refusal.kind := by
  cases v with
  | number n =>
    rw [truthError?, refusedTruth?]
    split <;> rfl
  | _ => rfl

/-- Where no double stops an array, the logical aggregates stop at the leftmost error value. -/
theorem findSome?_truthError? {arguments : List Value}
    (h : ∀ n, Value.number n ∈ flatten arguments → n.isNaN = false) :
    (flatten arguments).findSome? truthError? = firstError arguments := by
  refine findSome?_congr fun v hv => ?_
  cases v with
  | number n =>
    rw [truthError?, h n hv]
    rfl
  | _ => rfl

theorem exists_refusedTruth? {arguments : List Value} {first : ErrorKind}
    (h : firstError arguments = some first) :
    ∃ cause, (flatten arguments).findSome? refusedTruth? = some cause := by
  rw [← Option.ne_none_iff_exists', ne_eq, List.findSome?_eq_none_iff]
  intro hnone
  obtain ⟨v, hv, hk⟩ := List.exists_of_findSome?_eq_some h
  have hv := hnone v hv
  cases v with
  | error kind => cases hv
  | _ => cases hk

section

variable {context : Context} {name : String} {arguments : List Value}

theorem numeric_yields_first_error {first : ErrorKind}
    (hname : name ∈ ["SUM", "AVERAGE", "MAX", "MIN"])
    (hvalues : ∀ leaf ∈ flatten arguments, leaf.kind? ≠ none)
    (hc : ∀ a ∈ arguments, Converted Value.toNumber a) (hfirst : firstError arguments = some first) :
    (Catalog.standard.call context name arguments []).Yields
      (.ok (.error ((Entry.firstErrorOf arguments []).getD first))) [] := by
  have hcarried : (flatten arguments).findSome? carried? = some (.carried first) := by
    have hmap : carried? = Option.map Refusal.carried ∘ error? := by
      funext v
      cases v <;> rfl
    rw [hmap, ← List.map_findSome?]
    exact congrArg _ hfirst
  have hstop {β : Type} [Answer β] (f : List Number → Outcome β)
      (he : ∀ a ∈ arguments, a.error? = none) :
      Value.answer (Answer.toValue <$> (numbers arguments >>= f)) = .ok (.error first) := by
    rw [numbers_bind]
    exact answer_of_stopped stoppedBy_carried hvalues hc he hcarried _
  simp only [List.mem_cons, List.not_mem_nil, or_false] at hname
  rcases hname with rfl | rfl | rfl | rfl <;> exact call_yields_stop rfl rfl rfl (hstop _)

theorem logical_yields_stop {cause : Refusal} (hname : name ∈ ["AND", "OR"])
    (hvalues : ∀ leaf ∈ flatten arguments, leaf.kind? ≠ none)
    (hc : ∀ a ∈ arguments, Converted Value.toBool a)
    (hcause : (flatten arguments).findSome? refusedTruth? = some cause) :
    (Catalog.standard.call context name arguments []).Yields
      (.ok (.error ((Entry.firstErrorOf arguments []).getD cause.kind))) [] := by
  have hstop {β : Type} [Answer β] (f : List Bool → Outcome β)
      (he : ∀ a ∈ arguments, a.error? = none) :
      Value.answer (Answer.toValue <$> (bools arguments >>= f)) = .ok (.error cause.kind) := by
    rw [bools_bind]
    exact answer_of_stopped stoppedBy_refusedTruth hvalues hc he hcause _
  simp only [List.mem_cons, List.not_mem_nil, or_false] at hname
  rcases hname with rfl | rfl
  · refine call_yields_stop rfl rfl rfl fun he => ?_
    rw [all, logicals, bind_assoc]
    exact hstop _ he
  · refine call_yields_stop rfl rfl rfl fun he => ?_
    rw [any, logicals, bind_assoc]
    exact hstop _ he

end

/-- An aggregate of arguments with an error value in them answers with an error value: the first one
among the arguments themselves, else the leftmost one inside arrays. A logical aggregate answers with
a bad value if a double that is no number stands in an array before that. -/
theorem aggregates_answer_first_error (context : Context) {arguments : List Value}
    {first : ErrorKind} (hvalues : ∀ leaf ∈ flatten arguments, leaf.kind? ≠ none)
    (hfirst : firstError arguments = some first) :
    (∀ name ∈ ["SUM", "AVERAGE", "MAX", "MIN"], (∀ a ∈ arguments, Converted Value.toNumber a) →
      (Catalog.standard.call context name arguments []).Yields
        (.ok (.error ((Entry.firstErrorOf arguments []).getD first))) []) ∧
    ∀ name ∈ ["AND", "OR"], (∀ a ∈ arguments, Converted Value.toBool a) →
      ∃ stop, (flatten arguments).findSome? truthError? = some stop ∧
        ((∀ n, Value.number n ∈ flatten arguments → n.isNaN = false) → stop = first) ∧
        (Catalog.standard.call context name arguments []).Yields
          (.ok (.error ((Entry.firstErrorOf arguments []).getD stop))) [] := by
  refine ⟨fun name hname hc => numeric_yields_first_error hname hvalues hc hfirst,
    fun name hname hc => ?_⟩
  obtain ⟨cause, hcause⟩ := exists_refusedTruth? hfirst
  have hkind : (flatten arguments).findSome? truthError? = some cause.kind := by
    rw [funext truthError?_eq, ← Function.comp_def, ← List.map_findSome?, hcause]
    rfl
  refine ⟨cause.kind, hkind, fun hn => ?_, logical_yields_stop hname hvalues hc hcause⟩
  rw [findSome?_truthError? hn, hfirst] at hkind
  exact (Option.some.inj hkind).symm

/-- The error value deep inside an array comes before the one after it. -/
theorem aggregates_answer_nested_error :
    let context := Environment.contextAt ⟨Catalog.standard, [], ⟨⟨2024, 1, 15⟩, .midnight⟩⟩ 1
    let arguments : List Value := [.bool true,
      .array [.text "x", .array [.empty, .error .badNumber], .error .notAvailable], .empty]
    ((∀ leaf ∈ flatten arguments, leaf.kind? ≠ none) ∧
      firstError arguments = some .badNumber ∧
      (∀ a ∈ arguments, Converted Value.toNumber a) ∧
      ∀ a ∈ arguments, Converted Value.toBool a) ∧
    (Catalog.standard.call context "AVERAGE" arguments []).Yields (.ok (.error .badNumber)) [] ∧
      ∃ stop, (Catalog.standard.call context "OR" arguments []).Yields (.ok (.error stop)) [] := by
  intro context arguments
  have hflat : flatten arguments =
      [.bool true, .text "x", .empty, .error .badNumber, .error .notAvailable, .empty] := by
    rw [flatten_eq_leavesOf]
    rfl
  have hvalues : ∀ leaf ∈ flatten arguments, leaf.kind? ≠ none := by
    rw [hflat]
    simp [kind?]
  have hfirst : firstError arguments = some .badNumber := by
    rw [firstError, hflat]
    rfl
  have hnumber : ∀ a ∈ arguments, Converted Value.toNumber a := by
    simp only [arguments, List.forall_mem_cons]
    exact ⟨fun _ _ => ⟨_, rfl⟩, fun _ ha => absurd rfl ha, fun _ _ => ⟨_, rfl⟩,
      List.forall_mem_nil _⟩
  have hbool : ∀ a ∈ arguments, Converted Value.toBool a := by
    simp only [arguments, List.forall_mem_cons]
    exact ⟨fun _ _ => ⟨_, rfl⟩, fun _ ha => absurd rfl ha, fun _ _ => ⟨_, rfl⟩,
      List.forall_mem_nil _⟩
  obtain ⟨hnumeric, hlogical⟩ := aggregates_answer_first_error context hvalues hfirst
  obtain ⟨stop, -, -, hor⟩ := hlogical "OR" (by decide) hbool
  exact ⟨⟨hvalues, hfirst, hnumber, hbool⟩, hnumeric "AVERAGE" (by decide) hnumber, _, hor⟩

/-- The leftmost error value is not the answer if an error value is among the arguments, or, in a
logical aggregate, if a double that is no number stands before it. -/
theorem leftmost_error_not_answered :
    let context := Environment.contextAt ⟨Catalog.standard, [], ⟨⟨2024, 1, 15⟩, .midnight⟩⟩ 1
    let direct : List Value := [.array [.error .notAvailable], .error .divisionByZero]
    let nan : List Value :=
      [.array [.ofFloat (Float.ofBits 0x7ff8000000000000), .error .notAvailable]]
    (firstError direct = some .notAvailable ∧ (∀ a ∈ direct, Converted Value.toNumber a) ∧
      ¬ (Catalog.standard.call context "SUM" direct []).Yields (.ok (.error .notAvailable)) []) ∧
    (firstError nan = some .notAvailable ∧ (∀ a ∈ nan, Converted Value.toBool a) ∧
      ¬ (Catalog.standard.call context "AND" nan []).Yields (.ok (.error .notAvailable)) []) := by
  intro context direct nan
  have hdirect : firstError direct = some .notAvailable := by
    rw [firstError, flatten_eq_leavesOf]
    rfl
  have hnan : firstError nan = some .notAvailable := by
    rw [firstError, flatten_eq_leavesOf]
    rfl
  have hbool : ∀ a ∈ nan, Converted Value.toBool a := by
    simp only [nan, List.forall_mem_cons]
    exact ⟨fun _ ha => absurd rfl ha, List.forall_mem_nil _⟩
  refine ⟨⟨hdirect, ?_, fun h => ?_⟩, ⟨hnan, hbool, fun h => ?_⟩⟩
  · simp only [direct, List.forall_mem_cons]
    exact ⟨fun _ ha => absurd rfl ha, fun he => absurd he (by decide), List.forall_mem_nil _⟩
  · have hsum : (Catalog.standard.call context "SUM" direct []).Yields
        (.ok (.error .divisionByZero)) [] :=
      Catalog.standard_call_yields_guarded rfl rfl rfl
    cases (h.unique hsum).1
  · have hflat : flatten nan =
        [.ofFloat (Float.ofBits 0x7ff8000000000000), .error .notAvailable] := by
      rw [flatten_eq_leavesOf]
      rfl
    have hcause : (flatten nan).findSome? refusedTruth? =
        some (.coercion (.notANumber .boolean)) := by
      have hn : (Number.float (Float.ofBits 0x7ff8000000000000)).isNaN = true := by
        decide +kernel
      rw [hflat, List.findSome?_cons, ofFloat, refusedTruth?, if_pos hn]
    have hvalues : ∀ leaf ∈ flatten nan, leaf.kind? ≠ none := by
      rw [hflat]
      simp [kind?, ofFloat]
    have hand : (Catalog.standard.call context "AND" nan []).Yields (.ok (.error .badValue)) [] :=
      logical_yields_stop (by decide) hvalues hbool hcause
    cases (h.unique hand).1

end Aggregate

end SheetFormulas
