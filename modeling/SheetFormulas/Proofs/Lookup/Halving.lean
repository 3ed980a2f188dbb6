import SheetFormulas.Lookup.Binary
import SheetFormulas.Proofs.Value.Coercion

/-!
What a halving search knows when it ends, for any test at all. It has looked at both sides of the
place it ends at, and every place it looked at lies on the side that its test says.
-/

namespace SheetFormulas.Lookup

variable {test : Nat → Outcome Bool}

/-- The places that the halving of `[low, high)` looks at, in turn. A test that fails ends it. -/
def probes (test : Nat → Outcome Bool) (low high : Nat) : List Nat :=
  if low < high then
    let middle := (low + high) / 2
    middle ::
      match test middle with
      | .ok true => probes test (middle + 1) high
      | .ok false => probes test low middle
      | .error _ => []
  else []
termination_by high - low
decreasing_by
  · have : low ≤ (low + high) / 2 := by omega
    omega
  · have : (low + high) / 2 < high := by omega
    omega

theorem lowerBound_of_le {low high : Nat} (h : high ≤ low) : lowerBound test low high = .ok low := by
  rw [lowerBound, if_neg (by omega)]

theorem probes_of_le {low high : Nat} (h : high ≤ low) : probes test low high = [] := by
  rw [probes, if_neg (by omega)]

theorem lowerBound_of_lt {low high : Nat} (h : low < high) :
    lowerBound test low high =
      (test ((low + high) / 2) >>= fun isBefore =>
        if isBefore then lowerBound test ((low + high) / 2 + 1) high
        else lowerBound test low ((low + high) / 2)) := by
  rw [lowerBound, if_pos h]

theorem probes_of_lt {low high : Nat} (h : low < high) :
    probes test low high = (low + high) / 2 ::
      match test ((low + high) / 2) with
      | .ok true => probes test ((low + high) / 2 + 1) high
      | .ok false => probes test low ((low + high) / 2)
      | .error _ => [] := by
  rw [probes, if_pos h]

/-- An induction over a halving search, by what the test says of the middle. -/
theorem halving_induction {motive : Nat → Nat → Prop} (test : Nat → Outcome Bool)
    (done : ∀ low high, high ≤ low → motive low high)
    (right : ∀ low high, low < high → test ((low + high) / 2) = .ok true →
      motive ((low + high) / 2 + 1) high → motive low high)
    (left : ∀ low high, low < high → test ((low + high) / 2) = .ok false →
      motive low ((low + high) / 2) → motive low high)
    (failed : ∀ low high e, low < high → test ((low + high) / 2) = .error e → motive low high)
    (low high : Nat) : motive low high := by
  induction low, high using lowerBound.induct with
  | case1 low high h middle ihRight ihLeft =>
    rcases ht : test ((low + high) / 2) with e | _ | _
    · exact failed low high e h ht
    · exact left low high h ht ihLeft
    · exact right low high h ht ihRight
  | case2 low high h => exact done low high (by omega)

theorem mem_range_of_mem_probes {low high m : Nat} (hm : m ∈ probes test low high) :
    low ≤ m ∧ m < high := by
  induction low, high using halving_induction test with
  | done low high h =>
    rw [probes_of_le h] at hm
    cases hm
  | right low high h ht ih =>
    simp only [probes_of_lt h, ht, List.mem_cons] at hm
    rcases hm with rfl | hm
    · omega
    · have := ih hm
      omega
  | left low high h ht ih =>
    simp only [probes_of_lt h, ht, List.mem_cons] at hm
    rcases hm with rfl | hm
    · omega
    · have := ih hm
      omega
  | failed low high e h ht =>
    simp only [probes_of_lt h, ht, List.mem_singleton] at hm
    omega

/-- A halving search that ends has looked at the places on both sides of its end, and every test
that it made says on which side of the end its place is. -/
theorem lowerBound_eq_ok {low high boundary : Nat} (hle : low ≤ high)
    (h : lowerBound test low high = .ok boundary) :
    low ≤ boundary ∧ boundary ≤ high ∧
      (boundary = low ∨ boundary - 1 ∈ probes test low high) ∧
      (boundary = high ∨ boundary ∈ probes test low high) ∧
      ∀ m ∈ probes test low high, test m = .ok (decide (m < boundary)) := by
  induction low, high using halving_induction test with
  | done low high hd =>
    rw [lowerBound_of_le hd] at h
    cases h
    rw [probes_of_le hd]
    exact ⟨le_refl _, hle, .inl rfl, .inl (by omega), fun m hm => by cases hm⟩
  | right low high hlt ht ih =>
    simp only [lowerBound_of_lt hlt, ht, Outcome.ok_bind, if_true] at h
    obtain ⟨hlow, hhigh, hbefore, hafter, htests⟩ := ih (by omega) h
    simp only [probes_of_lt hlt, ht, List.mem_cons, forall_eq_or_imp]
    refine ⟨by omega, hhigh, .inr ?_, ?_, ?_, htests⟩
    · rcases hbefore with hb | hb
      · exact .inl (by omega)
      · exact .inr hb
    · rcases hafter with hb | hb
      · exact .inl hb
      · exact .inr (.inr hb)
    · rw [decide_eq_true (by omega)]
  | left low high hlt ht ih =>
    simp only [lowerBound_of_lt hlt, ht, Outcome.ok_bind, Bool.false_eq_true, if_false] at h
    obtain ⟨hlow, hhigh, hbefore, hafter, htests⟩ := ih (by omega) h
    simp only [probes_of_lt hlt, ht, List.mem_cons, forall_eq_or_imp]
    refine ⟨hlow, by omega, ?_, .inr hafter, ?_, htests⟩
    · rcases hbefore with hb | hb
      · exact .inl hb
      · exact .inr (.inr hb)
    · rw [decide_eq_false (by omega)]
  | failed low high e hlt ht =>
    simp only [lowerBound_of_lt hlt, ht, Outcome.error_bind] at h
    cases h

/-- A halving search that fails does so at its last place, and every other test that it made says on
which side its place is of that one. -/
theorem lowerBound_eq_error {low high : Nat} {e : Fault}
    (h : lowerBound test low high = .error e) :
    ∃ p ∈ probes test low high, test p = .error e ∧
      ∀ m ∈ probes test low high, m = p ∨ test m = .ok (decide (m < p)) := by
  induction low, high using halving_induction test with
  | done low high hd =>
    rw [lowerBound_of_le hd] at h
    cases h
  | right low high hlt ht ih =>
    simp only [lowerBound_of_lt hlt, ht, Outcome.ok_bind, if_true] at h
    obtain ⟨p, hp, hpe, htests⟩ := ih h
    have hrange := mem_range_of_mem_probes hp
    simp only [probes_of_lt hlt, ht, List.mem_cons, forall_eq_or_imp]
    refine ⟨p, .inr hp, hpe, .inr ?_, htests⟩
    rw [decide_eq_true (by omega)]
  | left low high hlt ht ih =>
    simp only [lowerBound_of_lt hlt, ht, Outcome.ok_bind, Bool.false_eq_true, if_false] at h
    obtain ⟨p, hp, hpe, htests⟩ := ih h
    have hrange := mem_range_of_mem_probes hp
    simp only [probes_of_lt hlt, ht, List.mem_cons, forall_eq_or_imp]
    refine ⟨p, .inr hp, hpe, .inr ?_, htests⟩
    rw [decide_eq_false (by omega)]
  | failed low high e' hlt ht =>
    simp only [lowerBound_of_lt hlt, ht, Outcome.error_bind] at h
    cases h
    simp only [probes_of_lt hlt, ht]
    exact ⟨_, List.mem_singleton_self _, ht, fun m hm => .inl (List.mem_singleton.mp hm)⟩

end SheetFormulas.Lookup
