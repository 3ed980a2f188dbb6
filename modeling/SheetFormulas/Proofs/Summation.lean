import Mathlib.Algebra.BigOperators.Group.List.Basic
import Mathlib.Data.List.Forall2
import SheetFormulas.Summation

/-!
Sums of arrays. Every item is added once, so the order does not matter where sums are exact; sums of
related items are related, since both are added up in the same order.
-/

namespace SheetFormulas.Summation

variable {α β : Type}

theorem sum_of_block {xs : List α} (h : xs.length ≤ blockSize) (add : α → α → α) (zero : α) :
    sum add zero xs = ofBlock add zero xs := by
  rw [sum, if_pos h]

theorem sum_of_cut {xs : List α} (h : ¬ xs.length ≤ blockSize) (add : α → α → α) (zero : α) :
    sum add zero xs = add (sum add zero (xs.take (cut xs.length)))
      (sum add zero (xs.drop (cut xs.length))) := by
  rw [sum, if_neg h]

section Related

variable {R : α → β → Prop} {f : α → α → α} {g : β → β → β} {z : α} {w : β}
  {xs : List α} {ys : List β}

theorem inTurn_related (hadd : ∀ a b c d, R a b → R c d → R (f a c) (g b d))
    (hzero : R z w) (h : List.Forall₂ R xs ys) :
    R (inTurn f z xs) (inTurn g w ys) := by
  cases h with
  | nil => exact hzero
  | @cons a b xs ys hfirst hrest =>
    rw [inTurn, inTurn]
    induction hrest generalizing a b with
    | nil => exact hfirst
    | cons hx _ ih => exact ih (hadd _ _ _ _ hfirst hx)

theorem inPairs_related (hadd : ∀ a b c d, R a b → R c d → R (f a c) (g b d))
    (h : List.Forall₂ R xs ys) : List.Forall₂ R (inPairs f xs) (inPairs g ys) := by
  induction xs using inPairs.induct generalizing ys with
  | case1 =>
    cases h
    exact .nil
  | case2 a =>
    cases h with
    | cons hx hrest =>
      cases hrest
      exact .cons hx .nil
  | case3 a c rest ih =>
    cases h with
    | cons hx hrest =>
      cases hrest with
      | cons hy hrest => exact .cons (hadd _ _ _ _ hx hy) (ih hrest)

theorem zipWith_related (hadd : ∀ a b c d, R a b → R c d → R (f a c) (g b d))
    {lanes : List α} {lanes' : List β} (hl : List.Forall₂ R lanes lanes')
    (h : List.Forall₂ R xs ys) :
    List.Forall₂ R (List.zipWith f lanes xs) (List.zipWith g lanes' ys) := by
  induction hl generalizing xs ys with
  | nil => exact .nil
  | cons hlane _ ih =>
    cases h with
    | nil => exact .nil
    | cons hx hrest => exact .cons (hadd _ _ _ _ hlane hx) (ih hrest)

theorem inLanes_related (hadd : ∀ a b c d, R a b → R c d → R (f a c) (g b d))
    (hzero : R z w) {lanes : List α} {lanes' : List β} (hl : List.Forall₂ R lanes lanes')
    (rounds : Nat) (h : List.Forall₂ R xs ys) :
    R (inLanes f z lanes rounds xs) (inLanes g w lanes' rounds ys) := by
  induction rounds generalizing lanes lanes' xs ys with
  | zero =>
    have hpairs := inPairs_related hadd (inPairs_related hadd (inPairs_related hadd hl))
    exact inTurn_related hadd hzero (List.rel_append hpairs h)
  | succ rounds ih =>
    exact ih (zipWith_related hadd hl (List.forall₂_take 8 h)) (List.forall₂_drop 8 h)

/-- Two sums are related if their items are and all additions keep the relation. -/
theorem sum_related (hadd : ∀ a b c d, R a b → R c d → R (f a c) (g b d))
    (hzero : R z w) (h : List.Forall₂ R xs ys) : R (sum f z xs) (sum g w ys) := by
  induction xs using sum.induct generalizing ys with
  | case1 xs hblock =>
    rw [sum_of_block hblock, sum_of_block (h.length_eq ▸ hblock), ofBlock, ofBlock, ← h.length_eq]
    split_ifs
    · exact inTurn_related hadd hzero h
    · exact inLanes_related hadd hzero (List.forall₂_take 8 h) _ (List.forall₂_drop 8 h)
  | case2 xs hblock ihleft ihright =>
    have hblock' : ¬ ys.length ≤ blockSize := h.length_eq ▸ hblock
    rw [sum_of_cut hblock, sum_of_cut hblock', ← h.length_eq]
    exact hadd _ _ _ _ (ihleft (List.forall₂_take _ h)) (ihright (List.forall₂_drop _ h))

end Related

section Exact

variable {M : Type} [AddCommMonoid M]

theorem inTurn_eq_sum (xs : List M) : inTurn (· + ·) 0 xs = xs.sum := by
  cases xs with
  | nil => rfl
  | cons first rest => rw [inTurn, List.sum_eq_foldl, List.foldl_cons, zero_add]

theorem sum_inPairs (xs : List M) : (inPairs (· + ·) xs).sum = xs.sum := by
  induction xs using inPairs.induct with
  | case1 => rfl
  | case2 => rfl
  | case3 a b rest ih => rw [inPairs, List.sum_cons, List.sum_cons, List.sum_cons, ih, add_assoc]

theorem inLanes_eq_sum {lanes xs : List M} {rounds : Nat} (hl : lanes.length = 8)
    (h : 8 * rounds ≤ xs.length) :
    inLanes (· + ·) 0 lanes rounds xs = lanes.sum + xs.sum := by
  induction rounds generalizing lanes xs with
  | zero => rw [inLanes, inTurn_eq_sum, List.sum_append, sum_inPairs, sum_inPairs, sum_inPairs]
  | succ rounds ih =>
    have htake : lanes.length = (xs.take 8).length := by
      rw [List.length_take]
      omega
    rw [inLanes, ih (by rw [List.length_zipWith, ← htake, hl, Nat.min_self])
        (by rw [List.length_drop]; omega),
      ← List.sum_add_sum_eq_sum_zipWith_of_length_eq _ _ htake, add_assoc, ← List.sum_append,
      List.take_append_drop]

/-- Where sums are exact, their order does not matter. -/
theorem sum_eq_sum (xs : List M) : sum (· + ·) 0 xs = xs.sum := by
  induction xs using sum.induct with
  | case1 xs hblock =>
    rw [sum_of_block hblock, ofBlock]
    split_ifs with hshort
    · exact inTurn_eq_sum xs
    · rw [inLanes_eq_sum (by rw [List.length_take]; omega) (by rw [List.length_drop]; omega),
        ← List.sum_append, List.take_append_drop]
  | case2 xs hblock ihleft ihright =>
    rw [sum_of_cut hblock, ihleft, ihright, ← List.sum_append, List.take_append_drop]

/-- Sums of doubles are rounded, here after the two large items have met. -/
example : sum (· + ·) 0 [1e16, 1, 1, 1, 1, 1, 1, -1e16] = (4 : Float) := by decide +kernel

end Exact

end SheetFormulas.Summation
