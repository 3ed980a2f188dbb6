import SheetFormulas.Evaluation
import SheetFormulas.Proofs.Choice.Course

/-!
The functions that choose one of their arguments go as they are meant to: only the arguments up to
the one that settles the choice are asked for, and of the rest only the chosen one.
-/

namespace SheetFormulas.Choice

open Value Run

variable {context : Context}

namespace Course

/-- A body whose refusal, taken as the answer, makes the course. -/
def Settles (context : Context) (course : Course) (run : Run Value) : Prop :=
  ∃ outcome, run.Yields outcome (course.asked.flatMap context.labelsOf) ∧
    Value.answer outcome = course.outcome

theorem settles_take {argument : Value} (h : context.Gives argument) :
    (take context argument).Settles context (context.force argument) := by
  refine ⟨.ok (context.valueOf argument), ?_, rfl⟩
  rw [take, List.flatMap_singleton]
  exact h.yields

theorem settles_outcome (outcome : Outcome Value) :
    Settles context ⟨[], Value.answer outcome⟩ (Run.ofOutcome outcome) :=
  ⟨outcome, .ofOutcome outcome, rfl⟩

theorem settles_refused (cause : Refusal) :
    (refused cause.kind).Settles context (Run.ofOutcome (refuse cause)) :=
  settles_outcome (refuse cause)

theorem settles_error (kind : ErrorKind) :
    (refused kind).Settles context (pure (.error kind)) :=
  settles_outcome (.ok (.error kind))

theorem settles_after {argument : Value} {course : Course} {next : Value → Run Value}
    (h : context.Gives argument) (hn : course.Settles context (next (context.valueOf argument))) :
    (course.after [argument]).Settles context (context.force argument >>= next) := by
  obtain ⟨outcome, hy, ha⟩ := hn
  refine ⟨outcome, ?_, ha⟩
  rw [after, List.flatMap_append, List.flatMap_singleton]
  exact h.yields.bind hy

theorem settles_bind {α : Type} {course : Course} {x : Outcome α} {next : α → Run Value}
    (hok : ∀ a, x = .ok a → course.Settles context (next a))
    (herror : ∀ fault, x = .error fault → course = ⟨[], Value.answer (.error fault)⟩) :
    course.Settles context (Run.ofOutcome x >>= next) := by
  cases x with
  | ok a =>
    obtain ⟨outcome, hy, ha⟩ := hok a rfl
    exact ⟨outcome, .ofOutcome_bind rfl hy, ha⟩
  | error fault =>
    rw [herror fault rfl]
    exact ⟨.error fault, (Yields.ofOutcome (.error fault)).bind_error, rfl⟩

theorem after_after (first second : List Value) (course : Course) :
    (course.after second).after first = course.after (first ++ second) := by
  rw [after, after, after, List.append_assoc]

theorem ofPairs_cons (verdict : Value → Verdict) (otherwise : Course) (test result : Value)
    (rest : List (Value × Value)) :
    ofPairs context verdict otherwise ((test, result) :: rest) =
      ((verdict (context.valueOf test)).course (take context result)
        (ofPairs context verdict otherwise rest)).after [test] := by
  unfold ofPairs
  dsimp only
  rw [List.takeWhile_cons, List.dropWhile_cons]
  cases hv : verdict (context.valueOf test) with
  | no =>
    simp only [Verdict.isNo, if_true, Verdict.course, List.map_cons]
    split
    · rw [after_after]
      rfl
    · rw [after_after]
      rfl
  | yes => simp [Verdict.isNo, Verdict.course, hv]
  | stop outcome => simp [Verdict.isNo, Verdict.course, hv]

/-- What a condition says is what testing it comes to. -/
theorem truthOf_cases (v : Value) :
    truthOf v = .ok true ∧ Verdict.ofCondition v = .yes ∨
      truthOf v = .ok false ∧ Verdict.ofCondition v = .no ∨
      ∃ cause, truthOf v = refuse cause ∧
        Verdict.ofCondition v = .stop (.ok (.error cause.kind)) := by
  have converted {v : Value} (ht : truthOf v = v.toBool) (he : v.error? = none)
      (hb : (∃ b, v.toBool = .ok b) ∨ ∃ cause, v.toBool = refuseCoercion cause) :
      truthOf v = .ok true ∧ Verdict.ofCondition v = .yes ∨
        truthOf v = .ok false ∧ Verdict.ofCondition v = .no ∨
        ∃ cause, truthOf v = refuse cause ∧
          Verdict.ofCondition v = .stop (.ok (.error cause.kind)) := by
    rw [ht, Verdict.ofCondition, he]
    rcases hb with ⟨b, hb⟩ | ⟨cause, hb⟩
    · cases b
      · exact .inr (.inl ⟨hb, by rw [hb]⟩)
      · exact .inl ⟨hb, by rw [hb]⟩
    · exact .inr (.inr ⟨.coercion cause, hb, by rw [hb]; rfl⟩)
  cases v with
  | error kind => exact .inr (.inr ⟨.carried kind, rfl, rfl⟩)
  | array items => exact .inr (.inr ⟨.coercion .arrayCondition, rfl, rfl⟩)
  | _ => exact converted rfl rfl (toBool_ok_or_coercion rfl)

/-- A condition decides which of two runs goes on. -/
theorem settles_condition {whenYes whenNo : Course} {test : Value} {runYes runNo : Run Value}
    (h : context.Gives test) (hyes : whenYes.Settles context runYes)
    (hno : whenNo.Settles context runNo) :
    (((Verdict.ofCondition (context.valueOf test)).course whenYes whenNo).after [test]).Settles
      context (condition context test >>= fun b => if b then runYes else runNo) := by
  have hassoc : (condition context test >>= fun b => if b then runYes else runNo) =
      context.force test >>= fun v => Run.ofOutcome (truthOf v) >>= fun b =>
        if b then runYes else runNo := bind_assoc _ _ _
  rw [hassoc]
  refine settles_after h (settles_bind (fun b hb => ?_) fun fault hf => ?_)
  · rcases truthOf_cases (context.valueOf test) with ⟨ht, hv⟩ | ⟨ht, hv⟩ | ⟨cause, ht, hv⟩
    · rw [ht] at hb
      cases hb
      rw [hv]
      exact hyes
    · rw [ht] at hb
      cases hb
      rw [hv]
      exact hno
    · rw [ht] at hb
      cases hb
  · rcases truthOf_cases (context.valueOf test) with ⟨ht, -⟩ | ⟨ht, -⟩ | ⟨cause, ht, hv⟩
    · rw [ht] at hf
      cases hf
    · rw [ht] at hf
      cases hf
    · rw [ht] at hf
      cases hf
      rw [hv]
      rfl

theorem settles_either {test whenTrue whenFalse : Value} (ht : context.Gives test)
    (hy : context.Gives whenTrue) (hn : context.Gives whenFalse) :
    (Course.either context test whenTrue whenFalse).Settles context
      (Choice.either context test whenTrue whenFalse) :=
  settles_condition ht (settles_take hy) (settles_take hn)

theorem settles_orElse {isReplaced : Value → Bool} {value other : Value}
    (hv : context.Gives value) (ho : context.Gives other) :
    (Course.orElse context isReplaced value other).Settles context
      (Choice.orElse context isReplaced value other) := by
  have hcourse : Course.orElse context isReplaced value other =
      (if isReplaced (context.valueOf value) then take context other
        else ⟨[], .ok (context.valueOf value)⟩).after [value] := by
    unfold Course.orElse
    split <;> rfl
  rw [hcourse]
  refine settles_after hv ?_
  split
  · exact settles_take ho
  · exact settles_outcome (.ok _)

theorem settles_firstTrueOf {arguments : List Value} (h : ∀ a ∈ arguments, context.Gives a)
    (heven : arguments.length % 2 = 0) :
    (ofPairs context .ofCondition (refused .notAvailable) (pairsOf arguments)).Settles context
      (firstTrueOf context arguments) := by
  induction arguments using pairsOf.induct with
  | case1 test value rest ih =>
    obtain ⟨ht, h⟩ := List.forall_mem_cons.mp h
    obtain ⟨hv, h⟩ := List.forall_mem_cons.mp h
    have hrest := ih h (by simp only [List.length_cons] at heven; omega)
    rw [pairsOf, ofPairs_cons]
    exact settles_condition ht (settles_take hv) hrest
  | case2 arguments hshort =>
    -- an even number of arguments leaves none over
    match arguments, heven with
    | [], _ => exact settles_refused .noTrueCondition
    | test :: value :: rest, _ => exact absurd rfl (hshort test value rest)

theorem settles_firstTrue {arguments : List Value} (h : ∀ a ∈ arguments, context.Gives a) :
    (Course.firstTrue context arguments).Settles context (Choice.firstTrue context arguments) := by
  unfold Course.firstTrue Choice.firstTrue
  simp only [List.isEmpty_iff]
  split
  · exact settles_refused .unpairedConditions
  · exact settles_firstTrueOf h (by omega)

/-- A case decides whether its result is taken or the next case looked at. -/
theorem settles_case {subject : Value} {whenYes whenNo : Course} {case : Value}
    {runYes runNo : Run Value} (hs : subject.kind? ≠ none) (h : context.Gives case)
    (hyes : whenYes.Settles context runYes) (hno : whenNo.Settles context runNo) :
    (((Verdict.ofCase subject (context.valueOf case)).course whenYes whenNo).after [case]).Settles
      context (context.force case >>= fun v => Run.ofOutcome (subject.compare v) >>= fun
        | .error kind => pure (.error kind)
        | .order .eq => runYes
        | .order _ => runNo) := by
  refine settles_after h ?_
  rw [Verdict.ofCase, compare_eq_relation hs h.kind?_ne_none]
  -- with a number that is too large for a double there is no order, and nothing else is asked for
  split
  · exact settles_bind (fun c hc => by cases hc) fun fault hf => by cases hf; rfl
  · refine settles_bind (fun c hc => ?_) fun fault hf => by cases hf
    cases hc
    cases subject.relation (context.valueOf case) with
    | error kind => exact settles_error kind
    | order o =>
      cases o with
      | eq => exact hyes
      | lt => exact hno
      | gt => exact hno

theorem unpaired?_cons_cons (test result : Value) (rest : List Value) :
    unpaired? (test :: result :: rest) = unpaired? rest := by
  have hlength : (test :: result :: rest).length % 2 = rest.length % 2 := by
    simp only [List.length_cons]
    omega
  rw [unpaired?, unpaired?, hlength]
  cases rest with
  | nil => simp
  | cons a rest => rw [List.getLast?_cons_cons, List.getLast?_cons_cons]

theorem settles_matchingCase {subject : Value} {arguments : List Value}
    (hs : subject.kind? ≠ none) (h : ∀ a ∈ arguments, context.Gives a) :
    (ofPairs context (.ofCase subject) (default context arguments) (pairsOf arguments)).Settles
      context (matchingCase context subject arguments) := by
  induction arguments using pairsOf.induct with
  | case1 case result rest ih =>
    obtain ⟨hc, h⟩ := List.forall_mem_cons.mp h
    obtain ⟨hr, h⟩ := List.forall_mem_cons.mp h
    have hdefault : default context (case :: result :: rest) = default context rest := by
      rw [default, default, unpaired?_cons_cons]
    rw [pairsOf, ofPairs_cons, hdefault]
    exact settles_case hs hc (settles_take hr) (ih h)
  | case2 arguments hshort =>
    -- an argument that is left over is the default
    match arguments with
    | [] => exact settles_refused .noMatchingCase
    | [argument] => exact settles_take (h argument (List.mem_singleton_self _))
    | case :: result :: rest => exact absurd rfl (hshort case result rest)

theorem settles_switch {subject : Value} {arguments : List Value} (hs : context.Gives subject)
    (h : ∀ a ∈ arguments, context.Gives a) :
    (Course.switch context subject arguments).Settles context
      (Choice.switch context subject arguments) := by
  refine settles_after hs ?_
  have hk := hs.kind?_ne_none
  cases hv : context.valueOf subject with
  | error kind => exact settles_error kind
  | _ =>
    rw [hv] at hk
    exact settles_matchingCase hk h

/-- A whole number picks an argument, counted from one. -/
theorem settles_pick {position : Value} {arguments : List Value}
    (h : ∀ a ∈ arguments, context.Gives a) :
    (Course.choose context position arguments).Settles context
      (Run.ofOutcome position.toInt >>= fun index =>
        if index < 1 then Run.ofOutcome (refuse (.choiceIndex index))
        else
          match arguments[index.toNat - 1]? with
          | some argument => context.force argument
          | none => Run.ofOutcome (refuse (.choiceIndex index))) := by
  unfold Course.choose
  refine settles_bind (fun index hi => ?_) fun fault hf => by rw [hf]
  rw [hi]
  dsimp only
  have hplace : (index - 1).toNat = index.toNat - 1 := by omega
  split
  · next hin =>
    have hlt : index.toNat - 1 < arguments.length := by omega
    rw [if_neg (by omega), List.getElem?_eq_getElem hlt]
    simp only [hplace]
    exact settles_take (h _ (List.getElem_mem hlt))
  · next hout =>
    split
    · exact settles_refused (.choiceIndex index)
    · rw [List.getElem?_eq_none (by omega)]
      exact settles_refused (.choiceIndex index)

theorem settles_choose {position : Value} {arguments : List Value}
    (h : ∀ a ∈ arguments, context.Gives a) :
    (Course.choose context position arguments).Settles context
      (Choice.choose context position arguments) := by
  cases position with
  | error kind => exact settles_error kind
  | _ => exact settles_pick h

end Course

/-- A call of a function that chooses asks for the arguments of its course and for no others, and
answers with what the course comes to. -/
theorem call_goes_as_described {name : String} {arguments : List Value} {course : Course}
    (hg : Goes context name arguments course) (h : ∀ a ∈ arguments, context.Gives a) :
    course.Describes context (Catalog.standard.call context name arguments []) := by
  have seeing {entry : Entry} (hf : Catalog.standard.find? name = some entry)
      (hs : entry.propagates = false)
      (hb : course.Settles context (entry.body context arguments [])) :
      course.Describes context (Catalog.standard.call context name arguments []) := by
    obtain ⟨outcome, hy, ha⟩ := hb
    rw [Course.Describes, ← ha]
    exact Catalog.standard_call_yields_of_seeing hf hs hy
  cases hg with
  | onlyIf test whenTrue =>
    simp only [List.forall_mem_cons] at h
    exact seeing rfl rfl (Course.settles_either h.1 h.2.1 (Context.gives_self (by decide)))
  | either test whenTrue whenFalse =>
    simp only [List.forall_mem_cons] at h
    exact seeing rfl rfl (Course.settles_either h.1 h.2.1 h.2.2.1)
  | unlessError value other =>
    simp only [List.forall_mem_cons] at h
    exact seeing rfl rfl (Course.settles_orElse h.1 h.2.1)
  | unlessNotAvailable value other =>
    simp only [List.forall_mem_cons] at h
    exact seeing rfl rfl (Course.settles_orElse h.1 h.2.1)
  | firstTrue => exact seeing rfl rfl (Course.settles_firstTrue h)
  | switch subject arguments =>
    obtain ⟨hs, h⟩ := List.forall_mem_cons.mp h
    exact seeing rfl rfl (Course.settles_switch hs h)
  | choose position arguments =>
    exact seeing rfl rfl (Course.settles_choose (List.forall_mem_cons.mp h).2)

/-- The case that overflows is asked for, its result and the default are not. Before a true condition
only its own value is left out. -/
theorem call_goes_as_described_up_to_overflow :
    let context := Environment.contextAt ⟨Catalog.standard, [], ⟨⟨2024, 1, 15⟩, .midnight⟩⟩ 1
    let later (label : String) (scalar : Scalar) : Value := .deferred label (.constant scalar)
    let cases := [later "case" (.text "x"), later "result" .empty,
      later "large case" (.number (.int (tenTo 309))), later "large result" .empty,
      later "default" (.text "d")]
    let conditions := [later "untrue" (.bool false), later "unchosen" .empty,
      later "true" (.bool true), later "chosen" (.text "yes"), later "further" .empty, .empty]
    (Goes context "SWITCH" (ofInt 1 :: cases) (.switch context (ofInt 1) cases) ∧
      (∀ a ∈ ofInt 1 :: cases, context.Gives a) ∧
      (Catalog.standard.call context "SWITCH" (ofInt 1 :: cases) []).Yields (fail .overflow)
        ["case", "large case"]) ∧
    (Goes context "IFS" conditions (.firstTrue context conditions) ∧
      (∀ a ∈ conditions, context.Gives a) ∧
      (Catalog.standard.call context "IFS" conditions []).Yields (.ok (.text "yes"))
        ["untrue", "true", "chosen"]) := by
  intro context later cases conditions
  have hlater (label : String) (scalar : Scalar) : context.Gives (later label scalar) := by
    refine ⟨.ofScalar scalar, [label], ?_, Context.force_deferred_yields (.pure _)⟩
    cases scalar <;> exact Option.some_ne_none _
  have hcases : ∀ a ∈ ofInt 1 :: cases, context.Gives a := by
    simp only [cases, List.forall_mem_cons]
    exact ⟨Context.gives_self (Option.some_ne_none _), hlater _ _, hlater _ _, hlater _ _,
      hlater _ _, hlater _ _, List.forall_mem_nil _⟩
  have hconditions : ∀ a ∈ conditions, context.Gives a := by
    simp only [conditions, List.forall_mem_cons]
    exact ⟨hlater _ _, hlater _ _, hlater _ _, hlater _ _, hlater _ _,
      Context.gives_self (Option.some_ne_none _), List.forall_mem_nil _⟩
  have hswitch : Course.switch context (ofInt 1) cases =
      ⟨[ofInt 1, later "case" (.text "x"), later "large case" (.number (.int (tenTo 309)))],
        fail .overflow⟩ := by
    have hlarge (n : Int) (hn : (Number.int n).hasDouble = false) :
        Verdict.ofCase (ofInt 1) (.number (.int n)) = .stop (fail .overflow) := by
      refine if_pos ?_
      simp only [meetsTooLarge, filledLike, ofInt, hn, Number.isNaN, Bool.not_false, Bool.and_true,
        Bool.or_true]
    have hno : Verdict.ofCase (ofInt 1) (context.valueOf (later "case" (.text "x"))) = .no := rfl
    have hstop : Verdict.ofCase (ofInt 1)
        (context.valueOf (later "large case" (.number (.int (tenTo 309))))) =
        .stop (fail .overflow) := hlarge (tenTo 309) (by decide +kernel)
    show (Course.ofPairs context (.ofCase (ofInt 1)) _ (Course.pairsOf cases)).after _ = _
    simp only [cases, Course.pairsOf, Course.ofPairs_cons, hno, hstop]
    rfl
  have hifs : Course.firstTrue context conditions =
      ⟨[later "untrue" (.bool false), later "true" (.bool true), later "chosen" (.text "yes")],
        .ok (.text "yes")⟩ := by
    rw [Course.firstTrue, if_neg (by simp [conditions])]
    rfl
  refine ⟨⟨.switch _ _, hcases, ?_⟩, ⟨.firstTrue _, hconditions, ?_⟩⟩
  · have h := call_goes_as_described (.switch (ofInt 1) cases) hcases
    rw [hswitch] at h
    exact h
  · have h := call_goes_as_described (.firstTrue conditions) hconditions
    rw [hifs] at h
    exact h

end SheetFormulas.Choice
