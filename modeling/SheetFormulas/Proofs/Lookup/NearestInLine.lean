import SheetFormulas.Proofs.Lookup.SortedScan
import SheetFormulas.Proofs.Value.Relation

/-!
What the search of data in any order answers where a nearest value is asked for. The search for an
equal value comes first and looks at all values that are there; the search for the nearest one keeps
the first of the nearest candidates that it has seen.
-/

namespace SheetFormulas.Lookup

open Value

variable {larger backward : Bool} {values seen rest : List Value} {target v w : Value} {i : Nat}
  {best : Option (Nat × Value)}

/-- The match mode that asks for the next larger value, or the next smaller one. -/
def nearestMode (larger : Bool) : MatchMode := if larger then .nextLarger else .nextSmaller

/-- The search mode of data in any order. -/
def linearMode (backward : Bool) : SearchMode := if backward then .lastToFirst else .firstToLast

/-- A value that ends the search for an equal one: it is equal, or it cannot be compared. -/
structure Stops (target v : Value) : Prop where
  isPresent : isPresent v = true
  compare : Stands target .eq v ∨ v.compare target = fail .overflow

/-- A value of the type of the target on the wanted side of it. -/
structure IsCandidate (larger : Bool) (target v : Value) : Prop where
  isOfType : isOfType target v = true
  stands : Stands target (turned larger .lt) v

/-- A candidate as near to the target as any: the greatest of those below it, or the least of those
above it. -/
structure IsNearest (larger : Bool) (target : Value) (values : List Value) (v : Value) : Prop where
  isCandidate : IsCandidate larger target v
  nearest : ∀ w ∈ values, IsCandidate larger target w →
    (if larger then w.greaterOrEqual v else w.lessOrEqual v) = .ok true

theorem nearestMode_ne_wildcard (larger : Bool) : nearestMode larger ≠ .wildcard := by
  cases larger <;> decide

theorem turned_lt_eq_or (larger : Bool) : turned larger .lt = .lt ∨ turned larger .lt = .gt := by
  cases larger <;> decide

theorem kind?_of_isOrderedOrEmpty (h : v.isOrderedOrEmpty = true) : v.kind? ≠ none := by
  cases v <;> simp_all [isOrderedOrEmpty, Value.isEmpty, isOrdered, kind?]

theorem eq_of_empty_stands {side : Ordering} (h : Stands .empty side .empty) : side = .eq := by
  rw [Stands, compare_eq_orderFilled rfl rfl, orderFilled_self] at h
  split at h
  · cases h
  · cases h
    rfl

theorem isNaN_of_stands {n m : Number} {side : Ordering} (h : Stands (.number m) side (.number n)) :
    n.isNaN = false := by
  rw [← Bool.not_eq_true]
  intro hn
  have hc : (Value.number n).compare (.number m) = compareNumbers n m := rfl
  rw [Stands, hc, compareNumbers_of_isNaN_left hn] at h
  cases h

section Candidate

variable (ht : target.isOrderedOrEmpty = true)

include ht

/-- A value that does not stop the search is compared with the target, and is not equal to it. -/
theorem compare_of_not_stops (hk : v.kind? ≠ none) (hp : isPresent v = true)
    (hns : ¬ Stops target v) :
    v.compare target = .ok (v.relation target) ∧ v.relation target ≠ .order .eq := by
  have hcompare := compare_eq_relation hk (kind?_of_isOrderedOrEmpty ht)
  have hover : v.meetsTooLarge target = false := by
    rw [← Bool.not_eq_true]
    intro hov
    rw [if_pos hov] at hcompare
    exact hns ⟨hp, .inr hcompare⟩
  rw [hover, if_neg Bool.false_ne_true] at hcompare
  refine ⟨hcompare, fun heq => hns ⟨hp, .inl ?_⟩⟩
  rw [Stands, hcompare, heq]

/-- Beside a candidate there is a target of its own type, which is not empty. -/
theorem IsCandidate.isOrdered (h : IsCandidate larger target v) :
    target.isOrdered = true ∧ v.isOrdered = true := by
  obtain ⟨htype, hs⟩ := h
  rw [Lookup.isOfType, beq_iff_eq] at htype
  cases target with
  | empty =>
    cases v <;> cases htype
    rcases turned_lt_eq_or larger with hside | hside <;>
      · rw [hside] at hs
        cases eq_of_empty_stands hs
  | number m =>
    cases v <;> cases htype
    exact ⟨ht, by rw [Value.isOrdered, isNaN_of_stands hs]; rfl⟩
  | text s =>
    cases v <;> cases htype
    exact ⟨rfl, rfl⟩
  | bool b =>
    cases v <;> cases htype
    exact ⟨rfl, rfl⟩
  | _ => cases ht

theorem IsCandidate.rival (h : IsCandidate larger target v) : Rival target v := by
  obtain ⟨hto, hvo⟩ := h.isOrdered ht
  refine ⟨hvo, (kind?_eq_iff hvo hto).mp (beq_iff_eq.mp h.isOfType), ?_⟩
  have hs := h.stands
  rw [Stands, compare_eq hvo hto] at hs
  rw [← Bool.not_eq_true]
  intro hov
  rw [if_pos hov] at hs
  cases hs

/-- Two candidates can be compared with each other. -/
theorem IsCandidate.compare_eq (hv : IsCandidate larger target v)
    (hw : IsCandidate larger target w) : w.compare v = .ok (.order (w.order v)) := by
  obtain ⟨hto, hvo⟩ := hv.isOrdered ht
  have hvr := hv.rival ht
  have hwr := hw.rival ht
  rw [Value.compare_eq hwr.isOrdered hvo,
    overflows_eq_false hvo hto hvr.rank hwr.comparable hvr.comparable]
  rfl

theorem IsCandidate.nearer_iff (hv : IsCandidate larger target v)
    (hw : IsCandidate larger target w) :
    (if larger then w.greaterOrEqual v else w.lessOrEqual v) = .ok true ↔
      (orderIn larger w v).isLE = true := by
  have hvr := hv.rival ht
  have hwr := hw.rival ht
  rw [inOrder_iff hwr.isOrdered hvr.isOrdered,
    overflows_eq_false hvr.isOrdered (hv.isOrdered ht).1 hvr.rank hwr.comparable hvr.comparable]
  exact and_iff_right rfl

theorem isComparable_of_isCandidate (h : IsCandidate larger target v) :
    isComparable target v = .ok true := by
  have hto := (h.isOrdered ht).1
  rw [isComparable_of_kind (kind?_of_isOrderedOrEmpty (by
    rw [isOrderedOrEmpty, (h.isOrdered ht).2, Bool.or_true])) hto, h.isOfType]

theorem improves_none (h : IsCandidate larger target v) :
    improves target (turned larger .lt) none v = .ok true := by
  unfold improves
  rw [isComparable_of_isCandidate ht h, Outcome.ok_bind, h.stands]
  simp [Compared.is]

/-- A candidate replaces another one just if it is nearer. -/
theorem improves_some (hv : IsCandidate larger target v) (hw : IsCandidate larger target w)
    (k : Nat) : improves target (turned larger .lt) (some (k, v)) w =
      .ok !(orderIn larger w v).isLE := by
  have hself : (Compared.order (turned larger .lt)).is (turned larger .lt) = true := beq_self_eq_true _
  have hswap : (Compared.order (w.order v)).is (turned larger .lt).swap =
      !(orderIn larger w v).isLE := by
    cases larger with
    | false =>
      show (Compared.order (w.order v)).is .gt = !(w.order v).isLE
      cases w.order v <;> rfl
    | true =>
      have hs : v.order w = (w.order v).swap := Std.OrientedCmp.eq_swap
      show (Compared.order (w.order v)).is .lt = !(v.order w).isLE
      rw [hs]
      cases w.order v <;> rfl
  unfold improves
  rw [isComparable_of_isCandidate ht hw, Outcome.ok_bind, hw.stands]
  simp only [Outcome.ok_bind, hself, hv.compare_eq ht hw, hswap, Bool.not_true, Bool.false_eq_true,
    if_false, Outcome.pure_eq]

/-- Any other value is stepped over, if it does not stop the search for an equal one. -/
theorem improves_of_not_isCandidate (hk : v.kind? ≠ none) (hns : ¬ Stops target v)
    (h : ¬ IsCandidate larger target v) :
    improves target (turned larger .lt) best v = .ok false := by
  unfold improves
  cases hp : isPresent v with
  | false =>
    rw [isComparable, hp]
    rfl
  | true =>
    obtain ⟨kind, hkind⟩ := Option.ne_none_iff_exists'.mp hk
    obtain ⟨targetKind, htargetKind⟩ :=
      Option.ne_none_iff_exists'.mp (kind?_of_isOrderedOrEmpty ht)
    have hcomparable : isComparable target v = .ok (isOfType target v) := by
      rw [isComparable, hp, Value.kind, Value.kind, hkind, htargetKind, isOfType, hkind, htargetKind]
      rfl
    rw [hcomparable, Outcome.ok_bind]
    cases htype : isOfType target v with
    | false => rfl
    | true =>
      have hcompare := (compare_of_not_stops ht hk hp hns).1
      have hside : (v.relation target).is (turned larger .lt) = false := by
        rw [← Bool.not_eq_true, Compared.is, beq_iff_eq]
        intro hs
        rw [hs] at hcompare
        exact h ⟨htype, hcompare⟩
      rw [hcompare, Outcome.ok_bind, hside]
      rfl

end Candidate

/-- What a search knows of the values that it has seen: the first of their nearest candidates, or that
there is no candidate among them. -/
def KeepsNearest (larger : Bool) (target : Value) (seen : List Value) :
    Option (Nat × Value) → Prop
  | none => ∀ v ∈ seen, ¬ IsCandidate larger target v
  | some (i, v) => seen[i]? = some v ∧ IsFirst (IsNearest larger target seen) seen i

theorem IsNearest.of_append (h : IsNearest larger target (seen ++ rest) v) :
    IsNearest larger target seen v :=
  ⟨h.isCandidate, fun w hw => h.nearest w (List.mem_append_left _ hw)⟩

/-- A value that does not come nearer leaves the first nearest candidate where it is. -/
theorem isFirst_append (hi : seen[i]? = some v)
    (h : IsFirst (IsNearest larger target seen) seen i)
    (hw : IsCandidate larger target w →
      (if larger then w.greaterOrEqual v else w.lessOrEqual v) = .ok true) :
    IsFirst (IsNearest larger target (seen ++ [w])) (seen ++ [w]) i := by
  have hlt := (List.getElem?_eq_some_iff.mp hi).1
  obtain ⟨⟨u, hu, hnearest⟩, hfirst⟩ := h
  obtain rfl : v = u := Option.some.inj (hi.symm.trans hu)
  refine ⟨⟨v, by rw [List.getElem?_append_left hlt, hi], hnearest.isCandidate, fun x hx hc => ?_⟩,
    fun j x hx hn => ?_⟩
  · rcases List.mem_append.mp hx with hx | hx
    · exact hnearest.nearest x hx hc
    · obtain rfl := List.mem_singleton.mp hx
      exact hw hc
  · rcases Nat.lt_or_ge j seen.length with hj | hj
    · rw [List.getElem?_append_left hj] at hx
      exact hfirst j x hx hn.of_append
    · omega

/-- What the search knows is not changed by a value that is no candidate. -/
theorem KeepsNearest.append_of_not_isCandidate (h : KeepsNearest larger target seen best)
    (hw : ¬ IsCandidate larger target w) : KeepsNearest larger target (seen ++ [w]) best := by
  cases best with
  | none =>
    intro x hx
    rcases List.mem_append.mp hx with hx | hx
    · exact h x hx
    · rwa [List.mem_singleton.mp hx]
  | some pair =>
    obtain ⟨i, v⟩ := pair
    obtain ⟨hi, hfirst⟩ := h
    exact ⟨by rw [List.getElem?_append_left (List.getElem?_eq_some_iff.mp hi).1, hi],
      isFirst_append hi hfirst fun hc => absurd hc hw⟩

section

variable (ht : target.isOrderedOrEmpty = true)

include ht

/-- A candidate nearer than the best one before it is the only nearest one. -/
theorem isFirst_length (hw : IsCandidate larger target w)
    (hb : ∀ v ∈ seen, IsCandidate larger target v → (orderIn larger v w).isLE = true)
    (hnew : ∀ v ∈ seen, IsNearest larger target seen v → ¬ (orderIn larger w v).isLE = true) :
    IsFirst (IsNearest larger target (seen ++ [w])) (seen ++ [w]) seen.length := by
  refine ⟨⟨w, by simp, hw, fun x hx hc => ?_⟩, fun j x hx hn => ?_⟩
  · rw [hw.nearer_iff ht hc]
    rcases List.mem_append.mp hx with hx | hx
    · exact hb x hx hc
    · obtain rfl := List.mem_singleton.mp hx
      exact Std.ReflCmp.isLE_rfl
  · by_contra hj
    rw [List.getElem?_append_left (by omega)] at hx
    have hxw := hn.nearest w (by simp) hw
    rw [hn.isCandidate.nearer_iff ht hw] at hxw
    exact hnew x (List.mem_of_getElem? hx) hn.of_append hxw

/-- One step of the search keeps what it knows, of one more value. -/
theorem keepsNearest_step (hk : w.kind? ≠ none) (hns : ¬ Stops target w)
    (h : KeepsNearest larger target seen best) :
    ∃ improved, improves target (turned larger .lt) best w = .ok improved ∧
      KeepsNearest larger target (seen ++ [w])
        (if improved then some (seen.length, w) else best) := by
  by_cases hw : IsCandidate larger target w
  · cases best with
    | none =>
      refine ⟨true, improves_none ht hw, by simp, ?_⟩
      exact isFirst_length ht hw (fun v hv hc => absurd hc (h v hv))
        (fun v hv hn => absurd hn.isCandidate (h v hv))
    | some pair =>
      obtain ⟨i, v⟩ := pair
      obtain ⟨hi, hfirst⟩ := h
      obtain ⟨u, hu, hnearest⟩ := hfirst.holds
      obtain rfl : v = u := Option.some.inj (hi.symm.trans hu)
      have hv := hnearest.isCandidate
      refine ⟨_, improves_some ht hv hw i, ?_⟩
      cases hle : (orderIn larger w v).isLE with
      | true => exact ⟨by rw [List.getElem?_append_left (List.getElem?_eq_some_iff.mp hi).1, hi],
          isFirst_append hi hfirst fun hc => (hv.nearer_iff ht hc).mpr hle⟩
      | false =>
        have hvw : (orderIn larger v w).isLE = true := by
          have hgt : orderIn larger w v = .gt := by
            cases ho : orderIn larger w v <;> rw [ho] at hle <;> first | rfl | cases hle
          rw [Std.OrientedCmp.lt_of_gt hgt]
          rfl
        refine ⟨by simp, isFirst_length ht hw (fun x hx hc => ?_) fun x hx hn hle' => ?_⟩
        · have hxv := (hv.nearer_iff ht hc).mp (hnearest.nearest x hx hc)
          exact Std.TransCmp.isLE_trans hxv hvw
        · have hxv := (hv.nearer_iff ht hn.isCandidate).mp (hnearest.nearest x hx hn.isCandidate)
          rw [Std.TransCmp.isLE_trans hle' hxv] at hle
          cases hle
  · exact ⟨false, improves_of_not_isCandidate ht hk hns hw, h.append_of_not_isCandidate hw⟩

/-- A search that no value stops ends with what it knows of all values. -/
theorem nearestFrom_keepsNearest (hk : ∀ v ∈ rest, v.kind? ≠ none)
    (hns : ∀ v ∈ rest, ¬ Stops target v) (h : KeepsNearest larger target seen best) :
    ∃ last, nearestFrom target (turned larger .lt) best seen.length rest = .ok (last.map (·.1)) ∧
      KeepsNearest larger target (seen ++ rest) last := by
  induction rest generalizing seen best with
  | nil => exact ⟨best, rfl, by rwa [List.append_nil]⟩
  | cons w rest ih =>
    obtain ⟨improved, himproves, hnext⟩ := keepsNearest_step ht (hk w List.mem_cons_self)
      (hns w List.mem_cons_self) h
    obtain ⟨last, hlast, hkeeps⟩ := ih (fun v hv => hk v (List.mem_cons_of_mem _ hv))
      (fun v hv => hns v (List.mem_cons_of_mem _ hv)) hnext
    rw [List.length_append, List.length_singleton] at hlast
    refine ⟨last, ?_, by rwa [List.append_assoc] at hkeeps⟩
    simp only [nearestFrom, himproves, Outcome.ok_bind]
    exact hlast

/-- Where no value is equal to the target or fails the comparison, the first of the nearest
candidates is found. -/
theorem nearestPosition_of_not_stops (hk : ∀ v ∈ values, v.kind? ≠ none)
    (hns : ∀ v ∈ values, ¬ Stops target v) :
    ∃ found, nearestPosition values target (turned larger .lt) false = .ok found ∧
      ∀ i, found = some i ↔ IsFirst (IsNearest larger target values) values i := by
  have hnone : KeepsNearest larger target [] none := by simp [KeepsNearest]
  obtain ⟨last, hlast, hkeeps⟩ := nearestFrom_keepsNearest ht hk hns hnone
  refine ⟨_, hlast, fun i => ?_⟩
  cases last with
  | none =>
    exact iff_of_false (by rintro ⟨⟩) (not_isFirst_of_forall fun v hv hn => hkeeps v hv hn.isCandidate)
  | some pair =>
    obtain ⟨j, v⟩ := pair
    rw [Option.map_some, Option.some.injEq]
    exact ⟨fun h => h ▸ hkeeps.2, fun h => hkeeps.2.unique h⟩

end

section Hit

/-- The search for an equal value goes on at a value that does not stop it. -/
theorem isHit_of_not_stops (hk : v.kind? ≠ none) (ht : target.isOrderedOrEmpty = true)
    (hns : ¬ Stops target v) : isHit false target v = .ok false := by
  unfold isHit
  cases hp : isPresent v with
  | false => rfl
  | true =>
    obtain ⟨hcompare, hrelation⟩ := compare_of_not_stops ht hk hp hns
    have hne : (v.relation target).is .eq = false := beq_eq_false_iff_ne.mpr hrelation
    show v.equal target = _
    rw [equal, hcompare, Outcome.ok_bind, hne]
    rfl

/-- At a value that stops the search, the outcome of the comparison is that of the search. -/
theorem isHit_of_isPresent (hp : isPresent v = true) : isHit false target v = v.equal target := by
  rw [isHit, hp]
  rfl

end Hit

/-- A search for the first hit that passes over the values before a place. -/
theorem firstFrom_of_getElem? {test : Value → Outcome Bool} (start : Nat)
    (hi : values[i]? = some v) (h : ∀ j < i, ∀ w, values[j]? = some w → test w = .ok false) :
    firstFrom test start values =
      test v >>= fun passes =>
        if passes then .ok (some (start + i))
        else firstFrom test (start + i + 1) (values.drop (i + 1)) := by
  induction values generalizing start i with
  | nil => cases hi
  | cons u rest ih =>
    cases i with
    | zero =>
      cases hi
      rfl
    | succ i =>
      have hu := h 0 (Nat.succ_pos i) u rfl
      have hrest := ih (start + 1) hi fun j hj w hw => h (j + 1) (Nat.succ_lt_succ hj) w hw
      rw [firstFrom, hu, Outcome.ok_bind, if_neg Bool.false_ne_true, hrest, List.drop_succ_cons]
      congr 1
      funext passes
      rw [show start + 1 + i = start + (i + 1) by omega]

section Forward

variable (hk : ∀ v ∈ values, v.kind? ≠ none) (ht : target.isOrderedOrEmpty = true)

include hk ht

/-- The first value that stops the search settles it. -/
theorem linearPosition_of_isFirst_stops (h : IsFirst (Stops target) values i)
    (hi : values[i]? = some v) :
    linearPosition values target (nearestMode larger) false =
      (v.equal target >>= fun _ => .ok (some i)) := by
  obtain ⟨⟨u, hu, hstops⟩, hfirst⟩ := h
  obtain rfl : v = u := Option.some.inj (hi.symm.trans hu)
  have hpass (j : Nat) (hj : j < i) (w : Value) (hw : values[j]? = some w) :
      isHit false target w = .ok false := by
    refine isHit_of_not_stops (hk w (List.mem_of_getElem? hw)) ht fun hs => ?_
    exact absurd (hfirst j w hw hs) (by omega)
  rw [linearPosition_eq values target (nearestMode_ne_wildcard larger), firstFrom_of_getElem? 0 hi hpass,
    isHit_of_isPresent hstops.isPresent]
  rcases hstops.compare with heq | hov
  · have he : v.equal target = .ok true := by
      rw [equal, heq]
      rfl
    rw [he, Nat.zero_add]
    rfl
  · have he : v.equal target = fail .overflow := by
      rw [equal, hov]
      rfl
    rw [he]
    rfl

/-- If no value stops the search, the first of the nearest candidates is found. -/
theorem linearPosition_of_not_stops (hns : ∀ v ∈ values, ¬ Stops target v) :
    ∃ found, linearPosition values target (nearestMode larger) false = .ok found ∧
      ∀ i, found = some i ↔ IsFirst (IsNearest larger target values) values i := by
  have hpass : firstFrom (isHit false target) 0 values = .ok none := by
    rw [firstFrom_eq_findIdx? 0 fun v hv => isHit_of_not_stops (hk v hv) ht (hns v hv)]
    simp
  obtain ⟨found, hfound, hiff⟩ := @nearestPosition_of_not_stops larger _ _ ht hk hns
  refine ⟨found, ?_, hiff⟩
  rw [linearPosition_eq values target (nearestMode_ne_wildcard larger), hpass, Outcome.ok_bind]
  cases larger <;> exact hfound

end Forward

section Backward

/-- A search from the last value is one from the first in the line turned round. -/
theorem linearPosition_backward (values : List Value) (target : Value) (mode : MatchMode) :
    linearPosition values target mode true =
      Option.map (mirror values.length) <$> linearPosition values.reverse target mode false := by
  unfold linearPosition exactPosition nearestPosition inDirection
  simp only [if_true, Bool.false_eq_true, if_false, fromLast]
  cases firstFrom (isHit (mode == .wildcard && isText target) target) 0 values.reverse with
  | error e => rfl
  | ok hit =>
    cases hit with
    | some position => rfl
    | none =>
      cases mode with
      | nextSmaller => rfl
      | nextLarger => rfl
      | _ => rfl

/-- What is found first in the line turned round is the last in the line. -/
theorem map_mirror_eq_some_iff {property : Value → Prop} {found : Option Nat}
    (h : ∀ k, found = some k ↔ IsFirst property values.reverse k) :
    found.map (mirror values.length) = some i ↔ IsLast property values i := by
  constructor
  · intro hi
    obtain ⟨k, hk, rfl⟩ := Option.map_eq_some_iff.mp hi
    have hfirst := (h k).mp hk
    have hlt : k < values.length := by
      obtain ⟨v, hv, -⟩ := hfirst.holds
      have := (List.getElem?_eq_some_iff.mp hv).1
      rwa [List.length_reverse] at this
    rwa [isLast_iff_isFirst_reverse (by unfold mirror; omega), mirror_mirror hlt]
  · intro hlast
    have hlt : i < values.length := by
      obtain ⟨v, hv, -⟩ := hlast.holds
      exact (List.getElem?_eq_some_iff.mp hv).1
    rw [(h _).mpr ((isLast_iff_isFirst_reverse hlt).mp hlast), Option.map_some, mirror_mirror hlt]

theorem isNearest_reverse : IsNearest larger target values.reverse = IsNearest larger target values := by
  funext v
  refine propext ⟨fun h => ⟨h.isCandidate, fun w hw => h.nearest w (List.mem_reverse.mpr hw)⟩,
    fun h => ⟨h.isCandidate, fun w hw => h.nearest w (List.mem_reverse.mp hw)⟩⟩

end Backward

section Directions

variable (hk : ∀ v ∈ values, v.kind? ≠ none) (ht : target.isOrderedOrEmpty = true)

include hk ht

theorem findPosition_of_isFirstIn_stops (h : IsFirstIn backward (Stops target) values i)
    (hi : values[i]? = some v) :
    findPosition values target (nearestMode larger) (linearMode backward) =
      (v.equal target >>= fun _ => .ok (some i)) := by
  cases backward with
  | false => exact linearPosition_of_isFirst_stops hk ht h hi
  | true =>
    have hlt := (List.getElem?_eq_some_iff.mp hi).1
    have hfirst := (isLast_iff_isFirst_reverse hlt).mp h
    have hplace : values.reverse[mirror values.length i]? = some v := by
      rw [List.getElem?_reverse (by unfold mirror; omega), ← hi]
      congr 1
      exact mirror_mirror hlt
    show linearPosition values target (nearestMode larger) true = _
    rw [linearPosition_backward, linearPosition_of_isFirst_stops
      (fun v hv => hk v (List.mem_reverse.mp hv)) ht hfirst hplace]
    cases v.equal target with
    | error e => rfl
    | ok isEqual => exact congrArg (fun k => Except.ok (some k)) (mirror_mirror hlt)

theorem findPosition_of_not_stops (hns : ∀ v ∈ values, ¬ Stops target v) :
    ∃ found, findPosition values target (nearestMode larger) (linearMode backward) = .ok found ∧
      ∀ i, found = some i ↔ IsFirstIn backward (IsNearest larger target values) values i := by
  cases backward with
  | false => exact linearPosition_of_not_stops hk ht hns
  | true =>
    obtain ⟨found, hfound, hiff⟩ := @linearPosition_of_not_stops larger values.reverse target
      (fun v hv => hk v (List.mem_reverse.mp hv)) ht fun v hv => hns v (List.mem_reverse.mp hv)
    refine ⟨found.map (mirror values.length), ?_, fun i => ?_⟩
    · show linearPosition values target (nearestMode larger) true = _
      rw [linearPosition_backward, hfound]
      rfl
    · rw [isNearest_reverse] at hiff
      exact map_mirror_eq_some_iff hiff

end Directions

/-- A nearest match in data of any order, from either end: the first value that is equal to the target
is found, unless the search meets one before that cannot be compared with it, on which it overflows.
Without either, the first of the nearest values of the target's type is found. In every mode, a
search from the last value is one from the first in the line turned round. -/
theorem nearest_match_answers_unless_overflow (hk : ∀ v ∈ values, v.kind? ≠ none)
    (ht : target.isOrderedOrEmpty = true) :
    (∀ i v, IsFirstIn backward (Stops target) values i → values[i]? = some v →
      (Stands target .eq v →
        findPosition values target (nearestMode larger) (linearMode backward) = .ok (some i)) ∧
      (v.compare target = fail .overflow →
        findPosition values target (nearestMode larger) (linearMode backward) = fail .overflow)) ∧
    ((∀ v ∈ values, ¬ Stops target v) →
      ∃ found, findPosition values target (nearestMode larger) (linearMode backward) = .ok found ∧
        ∀ i, found = some i ↔ IsFirstIn backward (IsNearest larger target values) values i) ∧
    ∀ mode, findPosition values target mode .lastToFirst =
      Option.map (mirror values.length) <$> findPosition values.reverse target mode .firstToLast := by
  refine ⟨fun i v h hi => ⟨fun heq => ?_, fun hov => ?_⟩, findPosition_of_not_stops hk ht,
    linearPosition_backward values target⟩
  · rw [findPosition_of_isFirstIn_stops hk ht h hi, equal, heq]
    rfl
  · rw [findPosition_of_isFirstIn_stops hk ht h hi, equal, hov]
    rfl

/-- Of the values below four, the first of the two greatest is found, among a text and a blank. -/
theorem nearest_match_answers_below_four :
    let values := [ofInt 5, ofInt 1, .text "a", ofInt 3, .empty, ofInt 3]
    (∀ v ∈ values, v.kind? ≠ none) ∧ (ofInt 4).isOrderedOrEmpty = true ∧
      (∀ v ∈ values, ¬ Stops (ofInt 4) v) ∧
      ∃ found, findPosition values (ofInt 4) .nextSmaller .firstToLast = .ok found ∧
        ∀ i, found = some i ↔ IsFirst (IsNearest false (ofInt 4) values) values i := by
  intro values
  have hcompare (m n : Int) (hm : m.natAbs < 6) (hn : n.natAbs < 6) :
      (ofInt m).compare (ofInt n) = .ok (.order (Ord.compare m n)) :=
    compare_ofInt (Number.lt_two_pow (by omega) (by decide)) (Number.lt_two_pow (by omega) (by decide))
  have hk : ∀ v ∈ values, v.kind? ≠ none := by simp [values, ofInt, kind?]
  have hnumber (m : Int) (hm : m.natAbs < 6) (hne : m ≠ 4) : ¬ Stops (ofInt 4) (ofInt m) := by
    rintro ⟨-, heq | hov⟩
    · rw [Stands, hcompare m 4 hm (by decide)] at heq
      cases Int.compare_eq_eq.mp (Compared.order.inj (Except.ok.inj heq))
      exact hne rfl
    · rw [hcompare m 4 hm (by decide)] at hov
      cases hov
  have hns : ∀ v ∈ values, ¬ Stops (ofInt 4) v := by
    have htext : ¬ Stops (ofInt 4) (.text "a") := by
      rintro ⟨-, heq | hov⟩
      · cases heq
      · cases hov
    have hempty : ¬ Stops (ofInt 4) .empty := fun h => by cases h.isPresent
    simp [values, hnumber, htext, hempty]
  exact ⟨hk, rfl, hns, (@nearest_match_answers_unless_overflow false false _ _ hk rfl).2.1 hns⟩

end SheetFormulas.Lookup
