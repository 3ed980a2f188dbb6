import SheetFormulas.Lookup.Exact

/-!
The places that a search is to report: the first or the last of those whose value has a property.
-/

namespace SheetFormulas.Lookup

variable {property : Value → Prop} {passes : Value → Bool} {values : List Value} {found : Option Nat}
  {i : Nat}

/-- The first of the places whose value has a property. -/
structure IsFirst (property : Value → Prop) (values : List Value) (i : Nat) : Prop where
  holds : ∃ v, values[i]? = some v ∧ property v
  first : ∀ j v, values[j]? = some v → property v → i ≤ j

/-- The last of the places whose value has a property. -/
structure IsLast (property : Value → Prop) (values : List Value) (i : Nat) : Prop where
  holds : ∃ v, values[i]? = some v ∧ property v
  last : ∀ j v, values[j]? = some v → property v → j ≤ i

/-- The first of the places in the direction of a search. -/
def IsFirstIn (backward : Bool) (property : Value → Prop) (values : List Value) (i : Nat) : Prop :=
  if backward then IsLast property values i else IsFirst property values i

theorem isFirst_congr {other : Value → Prop} (h : ∀ v ∈ values, property v ↔ other v) :
    IsFirst property values i ↔ IsFirst other values i := by
  have transfer {p q : Value → Prop} (hpq : ∀ v ∈ values, p v ↔ q v) (hp : IsFirst p values i) :
      IsFirst q values i := by
    obtain ⟨⟨v, hv, hpv⟩, hfirst⟩ := hp
    exact ⟨⟨v, hv, (hpq v (List.mem_of_getElem? hv)).mp hpv⟩,
      fun j w hw hqw => hfirst j w hw ((hpq w (List.mem_of_getElem? hw)).mpr hqw)⟩
  exact ⟨transfer h, transfer fun v hv => (h v hv).symm⟩

/-- The library's search for a position reports the first place. -/
theorem isFirst_iff_findIdx? :
    IsFirst (fun v => passes v = true) values i ↔ values.findIdx? passes = some i := by
  rw [List.findIdx?_eq_some_iff_getElem]
  constructor
  · rintro ⟨⟨v, hv, hpv⟩, hfirst⟩
    obtain ⟨hi, rfl⟩ := List.getElem?_eq_some_iff.mp hv
    refine ⟨hi, hpv, fun j hj hpj => ?_⟩
    have := hfirst j _ (List.getElem?_eq_getElem (Nat.lt_trans hj hi)) hpj
    omega
  · rintro ⟨hi, hpv, hfirst⟩
    refine ⟨⟨_, List.getElem?_eq_getElem hi, hpv⟩, fun j w hw hpw => ?_⟩
    obtain ⟨_, rfl⟩ := List.getElem?_eq_some_iff.mp hw
    exact Nat.le_of_not_lt fun hlt => hfirst j hlt hpw

theorem not_isFirst_of_forall (h : ∀ v ∈ values, ¬ property v) : ¬ IsFirst property values i := by
  rintro ⟨⟨v, hv, hpv⟩, -⟩
  exact h v (List.mem_of_getElem? hv) hpv

theorem not_isLast_of_forall (h : ∀ v ∈ values, ¬ property v) : ¬ IsLast property values i := by
  rintro ⟨⟨v, hv, hpv⟩, -⟩
  exact h v (List.mem_of_getElem? hv) hpv

theorem IsFirst.unique {j : Nat} (hi : IsFirst property values i) (hj : IsFirst property values j) :
    i = j := by
  obtain ⟨v, hv, hpv⟩ := hi.holds
  obtain ⟨w, hw, hpw⟩ := hj.holds
  exact Nat.le_antisymm (hi.first j w hw hpw) (hj.first i v hv hpv)

theorem IsLast.unique {j : Nat} (hi : IsLast property values i) (hj : IsLast property values j) :
    i = j := by
  obtain ⟨v, hv, hpv⟩ := hi.holds
  obtain ⟨w, hw, hpw⟩ := hj.holds
  exact Nat.le_antisymm (hj.last i v hv hpv) (hi.last j w hw hpw)

theorem IsLast.cons (h : IsLast property values i) (v : Value) :
    IsLast property (v :: values) (i + 1) := by
  obtain ⟨u, hu, hpu⟩ := h.holds
  refine ⟨⟨u, hu, hpu⟩, fun j w hw hpw => ?_⟩
  cases j with
  | zero => exact Nat.zero_le _
  | succ j => exact Nat.succ_le_succ (h.last j w hw hpw)

theorem isLast_head {v : Value} (hv : property v) (h : ∀ w ∈ values, ¬ property w) :
    IsLast property (v :: values) 0 := by
  refine ⟨⟨v, rfl, hv⟩, fun j w hw hpw => ?_⟩
  cases j with
  | zero => exact Nat.le_refl 0
  | succ j => exact absurd hpw (h w (List.mem_of_getElem? hw))

theorem mirror_mirror {length : Nat} (h : i < length) : mirror length (mirror length i) = i := by
  unfold mirror
  omega

/-- Counted from the other end, the last place is the first one. -/
theorem isLast_iff_isFirst_reverse (hi : i < values.length) :
    IsLast property values i ↔ IsFirst property values.reverse (mirror values.length i) := by
  have place (j : Nat) (hj : j < values.length) :
      values.reverse[mirror values.length j]? = values[j]? := by
    have hm : mirror values.length j < values.length := by unfold mirror; omega
    rw [List.getElem?_reverse hm]
    exact congrArg (values[·]?) (mirror_mirror hj)
  constructor
  · rintro ⟨⟨v, hv, hpv⟩, hlast⟩
    refine ⟨⟨v, by rw [place i hi, hv], hpv⟩, fun j w hw hpw => ?_⟩
    have hj : j < values.length := by
      have := (List.getElem?_eq_some_iff.mp hw).1
      rwa [List.length_reverse] at this
    rw [List.getElem?_reverse hj] at hw
    have := hlast _ w hw hpw
    unfold mirror
    omega
  · rintro ⟨⟨v, hv, hpv⟩, hfirst⟩
    rw [place i hi] at hv
    refine ⟨⟨v, hv, hpv⟩, fun j w hw hpw => ?_⟩
    have hj := (List.getElem?_eq_some_iff.mp hw).1
    have := hfirst (mirror values.length j) w (by rw [place j hj, hw]) hpw
    unfold mirror at this
    omega

end SheetFormulas.Lookup
