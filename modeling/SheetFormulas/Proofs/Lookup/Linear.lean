import SheetFormulas.Lookup.Nearest
import SheetFormulas.Proofs.Value.Coercion

/-!
The searches that look at one value after the other: the first hit in a line, and the first of the
nearest values.
-/

namespace SheetFormulas.Lookup

variable {test : Value → Outcome Bool}

/-- A test that never fails finds what the library's search for a position finds. -/
theorem firstFrom_eq_findIdx? {passes : Value → Bool} {values : List Value} (start : Nat)
    (h : ∀ v ∈ values, test v = .ok (passes v)) :
    firstFrom test start values = .ok ((values.findIdx? passes).map (start + ·)) := by
  induction values generalizing start with
  | nil => rfl
  | cons v rest ih =>
    have hv := h v (List.mem_cons_self ..)
    have hrest := ih (start + 1) fun w hw => h w (List.mem_cons_of_mem _ hw)
    unfold firstFrom
    rw [hv, Outcome.ok_bind, List.findIdx?_cons]
    cases passes v with
    | true => rfl
    | false =>
      rw [if_neg (by decide), hrest, if_neg (by decide), Option.map_map]
      congr 2
      funext i
      simp only [Function.comp_apply]
      omega

/-- A test that fails on some value, and finds none before it, fails the search. -/
theorem firstFrom_eq_error {values : List Value} {v : Value} {e : Fault} (start : Nat)
    (h : ∀ w ∈ values, test w = .ok false ∨ test w = .error e) (hv : v ∈ values)
    (he : test v = .error e) : firstFrom test start values = .error e := by
  induction values generalizing start with
  | nil => cases hv
  | cons w rest ih =>
    unfold firstFrom
    rcases h w (List.mem_cons_self ..) with hw | hw
    · have hne : v ≠ w := by
        rintro rfl
        rw [he] at hw
        cases hw
      rw [hw]
      exact ih (start + 1) (fun u hu => h u (List.mem_cons_of_mem _ hu))
        (List.mem_of_ne_of_mem hne hv)
    · rw [hw]
      rfl

theorem firstFrom_eq_some {values : List Value} {start position : Nat}
    (h : firstFrom test start values = .ok (some position)) :
    ∃ i v, position = start + i ∧ values[i]? = some v ∧ test v = .ok true := by
  induction values generalizing start with
  | nil => cases h
  | cons v rest ih =>
    unfold firstFrom at h
    obtain ⟨t, ht, h⟩ := Outcome.bind_eq_ok_iff.mp h
    cases t with
    | true =>
      cases h
      exact ⟨0, v, rfl, rfl, ht⟩
    | false =>
      obtain ⟨i, w, hp, hw, htw⟩ := ih h
      exact ⟨i + 1, w, by omega, by simpa using hw, htw⟩

/-- What a search finds in every line, it finds in either direction. -/
theorem inDirection_eq_some {found : Value → Prop}
    {search : List Value → Outcome (Option Nat)} {backward : Bool} {values : List Value}
    {position : Nat}
    (hs : ∀ l p, search l = .ok (some p) → ∃ v, l[p]? = some v ∧ found v)
    (h : inDirection backward search values = .ok (some position)) :
    ∃ v, values[position]? = some v ∧ found v := by
  cases backward with
  | false => exact hs values position h
  | true =>
    obtain ⟨r, hr, hm⟩ := Outcome.bind_eq_ok_iff.mp h
    cases r with
    | none => cases hm
    | some p =>
      cases hm
      obtain ⟨v, hv, hf⟩ := hs _ _ hr
      have hlt : p < values.length := by
        have := (List.getElem?_eq_some_iff.mp hv).1
        simpa using this
      rw [List.getElem?_reverse hlt] at hv
      exact ⟨v, hv, hf⟩

theorem isPresent_of_isHit {asPattern : Bool} {target v : Value}
    (h : isHit asPattern target v = .ok true) : isPresent v = true := by
  unfold isHit at h
  split at h
  · cases h
  · simp_all

theorem isPresent_of_isComparable {target v : Value} (h : isComparable target v = .ok true) :
    isPresent v = true := by
  unfold isComparable at h
  split at h
  · cases h
  · simp_all

theorem isComparable_of_improves {target : Value} {wanted : Ordering} {best : Option (Nat × Value)}
    {v : Value} (h : improves target wanted best v = .ok true) :
    isComparable target v = .ok true := by
  obtain ⟨comparable, hc, h⟩ := Outcome.bind_eq_ok_iff.mp h
  cases comparable with
  | true => exact hc
  | false => cases h

theorem nearestFrom_eq_some {target : Value} {wanted : Ordering} {best : Option (Nat × Value)}
    {values : List Value} {start position : Nat}
    (h : nearestFrom target wanted best start values = .ok (some position)) :
    best.map (·.1) = some position ∨
      ∃ i v, position = start + i ∧ values[i]? = some v ∧ isComparable target v = .ok true := by
  induction values generalizing best start with
  | nil => exact .inl (Except.ok.inj h)
  | cons v rest ih =>
    obtain ⟨improved, hi, h⟩ := Outcome.bind_eq_ok_iff.mp h
    rcases ih h with hb | ⟨i, w, hp, hw, hc⟩
    · cases improved with
      | true =>
        cases hb
        exact .inr ⟨0, v, rfl, rfl, isComparable_of_improves hi⟩
      | false => exact .inl hb
    · exact .inr ⟨i + 1, w, by omega, by simpa using hw, hc⟩

theorem exactPosition_eq_some {values : List Value} {target : Value} {asPattern backward : Bool}
    {position : Nat} (h : exactPosition values target asPattern backward = .ok (some position)) :
    ∃ v, values[position]? = some v ∧ isPresent v = true := by
  refine inDirection_eq_some (fun l p hp => ?_) h
  obtain ⟨i, v, rfl, hv, ht⟩ := firstFrom_eq_some hp
  exact ⟨v, by simpa using hv, isPresent_of_isHit ht⟩

theorem nearestPosition_eq_some {values : List Value} {target : Value} {wanted : Ordering}
    {backward : Bool} {position : Nat}
    (h : nearestPosition values target wanted backward = .ok (some position)) :
    ∃ v, values[position]? = some v ∧ isComparable target v = .ok true := by
  refine inDirection_eq_some (fun l p hp => ?_) h
  rcases nearestFrom_eq_some hp with hb | ⟨i, v, rfl, hv, hc⟩
  · cases hb
  · exact ⟨v, by simpa using hv, hc⟩

/-- A scan that finds nothing nearer keeps the best value it has. -/
theorem nearestFrom_of_not_improves {target : Value} {wanted : Ordering}
    {best : Option (Nat × Value)} {values : List Value} (start : Nat)
    (h : ∀ v ∈ values, improves target wanted best v = .ok false) :
    nearestFrom target wanted best start values = .ok (best.map (·.1)) := by
  induction values generalizing start with
  | nil => rfl
  | cons v rest ih =>
    have hv := h v (List.mem_cons_self ..)
    have hrest := ih (start + 1) fun w hw => h w (List.mem_cons_of_mem _ hw)
    simpa [nearestFrom, hv] using hrest

/-- A scan ends if no look at a value fails. -/
theorem exists_nearestFrom {target : Value} {wanted : Ordering}
    {mayBeBest : Option (Nat × Value) → Prop} {best : Option (Nat × Value)} {values : List Value}
    (start : Nat) (hbest : mayBeBest best)
    (h : ∀ v ∈ values, ∀ b, mayBeBest b → ∃ improved,
      improves target wanted b v = .ok improved ∧ (improved = true → ∀ k, mayBeBest (some (k, v)))) :
    ∃ found, nearestFrom target wanted best start values = .ok found := by
  induction values generalizing best start with
  | nil => exact ⟨_, rfl⟩
  | cons v rest ih =>
    obtain ⟨improved, himp, hm⟩ := h v (List.mem_cons_self ..) best hbest
    have hnext : mayBeBest (if improved = true then some (start, v) else best) := by
      split
      · exact hm ‹_› start
      · exact hbest
    obtain ⟨found, hf⟩ := ih (start + 1) hnext fun w hw => h w (List.mem_cons_of_mem _ hw)
    refine ⟨found, ?_⟩
    simp only [nearestFrom, himp, Outcome.ok_bind]
    exact hf

/-- A scan ends at a value that replaces whatever may be the best before it, and that no later value
replaces. -/
theorem nearestFrom_of_best {target : Value} {wanted : Ordering}
    {mayBeBest : Option (Nat × Value) → Prop} {best : Option (Nat × Value)} {values : List Value}
    {i : Nat} {v : Value} (start : Nat) (hi : values[i]? = some v) (hbest : mayBeBest best)
    (hbefore : ∀ j < i, ∀ w, values[j]? = some w → ∀ b, mayBeBest b → ∃ improved,
      improves target wanted b w = .ok improved ∧ (improved = true → ∀ k, mayBeBest (some (k, w))))
    (hv : ∀ b, mayBeBest b → improves target wanted b v = .ok true)
    (hafter : ∀ j > i, ∀ w, values[j]? = some w → ∀ k,
      improves target wanted (some (k, v)) w = .ok false) :
    nearestFrom target wanted best start values = .ok (some (start + i)) := by
  induction values generalizing best start i with
  | nil => cases hi
  | cons u rest ih =>
    cases i with
    | zero =>
      cases hi
      have hrest := nearestFrom_of_not_improves (start + 1) fun w hw => by
        obtain ⟨j, hj⟩ := List.mem_iff_getElem?.mp hw
        exact hafter (j + 1) (Nat.succ_pos j) w hj start
      simpa [nearestFrom, hv best hbest] using hrest
    | succ i =>
      obtain ⟨improved, himp, hm⟩ := hbefore 0 (Nat.succ_pos i) u rfl best hbest
      have hnext : mayBeBest (if improved = true then some (start, u) else best) := by
        split
        · exact hm ‹_› start
        · exact hbest
      have hrest := ih (start + 1) hi hnext
        (fun j hj w hw => hbefore (j + 1) (Nat.succ_lt_succ hj) w hw)
        (fun j hj w hw => hafter (j + 1) (Nat.succ_lt_succ hj) w hw)
      simp only [nearestFrom, himp, Outcome.ok_bind]
      rw [hrest, Nat.succ_add_eq_add_succ]

end SheetFormulas.Lookup
