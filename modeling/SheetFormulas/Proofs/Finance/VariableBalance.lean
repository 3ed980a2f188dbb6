import SheetFormulas.Finance.VariableBalance
import SheetFormulas.Proofs.Finance.Depreciation
import SheetFormulas.Proofs.Number.ArithmeticFaults
import SheetFormulas.Proofs.Number.Differences

/-!
Declining balances between any two points of a life. The periods that are left divide what is left to
lose in each period of each loop, and they are above zero: the loops stop at the end of the life, and
the differences of the life and whole numbers keep the order of the exact ones. One loop is an
exception. The life that is left at the last period is worked out through the life less one, which is
minus one if the life is at most half the spacing of doubles below one; then nothing is left.
-/

namespace SheetFormulas

open Outcome

attribute [local irreducible] Binary64.unitsPerOne

namespace Finance.VariableBalance

section Periods

variable {cost salvage life left factor : Number} {elapsed p : Nat}

/-- A number that is a double. -/
def IsDouble (a : Number) : Prop := ∃ z, a = .float z

theorem IsDouble.sized {a : Number} (h : IsDouble a) (p : Nat) : a.Sized p := by
  obtain ⟨z, rfl⟩ := h
  trivial

/-- What a declining balance of any amount takes off: a double after the first period. -/
theorem declining_sized {period : Number} (hc : cost.Sized p) (hs : salvage.Sized p) (hp : p ≤ 999)
    (hl : life.IsExact) (hl0 : life.le (.int 0) = false) (hn : period.IsExact)
    (hn0 : period.le (.int 0) = false) (hf : factor.IsExact) (hf0 : factor.le (.int 0) = false) :
    (Depreciation.declining cost salvage life period factor).Answers fun amount =>
      amount.Sized (p + 1) ∧ (period.eq (.int 1) = false → IsDouble amount) := by
  obtain ⟨old, q, heq, hold, -⟩ := Depreciation.decliningEnds_eq (hc.toFloat_eq (by omega)) hl hl0 hn
    hn0 hf hf0
  have holds : old.Sized p ∧ (period.eq (.int 1) = false → IsDouble old) := by
    rcases hold with ⟨rfl, hfirst⟩ | rfl | ⟨z, rfl, -⟩
    · exact ⟨hc, fun h => absurd hfirst (by rw [h]; exact Bool.false_ne_true)⟩
    · exact ⟨trivial, fun _ => ⟨_, rfl⟩⟩
    · exact ⟨trivial, fun _ => ⟨_, rfl⟩⟩
  have hsub {b : Number} (hb : b.Sized p) : (old.sub b).Answers fun d =>
      d.Sized (p + 1) ∧ (period.eq (.int 1) = false → IsDouble d) := by
    refine (Number.sub_answers holds.1 hb (by omega)).self.mono fun d ⟨hd, hsized⟩ => ⟨hsized, ?_⟩
    intro hlater
    obtain ⟨z, rfl⟩ := holds.2 hlater
    rw [Number.float_sub (hb.toFloat_eq (by omega))] at hd
    cases hd
    exact ⟨_, rfl⟩
  unfold Depreciation.declining
  rw [heq, ok_bind]
  refine answers_ite_bind (fun _ => hsub hs) (fun _ => hsub trivial) fun d hd => answers_ok ?_
  unfold Number.max
  split_ifs
  · exact ⟨trivial, fun _ => ⟨_, rfl⟩⟩
  · exact hd

/-- Whether some life is left after some periods. -/
def LeavesLife (left : Number) (elapsed : Nat) : Prop :=
  ∃ d, left.sub (.int elapsed) = .ok d ∧ (Number.int 0).lt d = true

/-- The state of a loop after some periods: only what is left of whole numbers is whole. -/
structure State.Bounded (elapsed : Nat) (state : State) : Prop where
  remaining : state.remaining.Sized (if elapsed = 0 then 54 else 55)
  total : IsDouble state.total
  line : ∀ line, state.line = some line → IsDouble line

variable {state : State}

theorem State.Bounded.sized (h : state.Bounded elapsed) : state.remaining.Sized 55 := by
  refine h.remaining.mono ?_
  split_ifs <;> decide

theorem add_double {a b : Number} (ha : IsDouble a) (hb : b.Sized p) (hp : p ≤ 1000) :
    (a.add b).Answers IsDouble := by
  obtain ⟨z, rfl⟩ := ha
  rw [Number.float_add (hb.toFloat_eq hp)]
  exact answers_ok ⟨_, rfl⟩

theorem sub_double {a b : Number} (ha : a.Sized p) (hb : IsDouble b) (hp : p ≤ 1000) :
    (a.sub b).Answers IsDouble := by
  obtain ⟨z, rfl⟩ := hb
  rw [Number.sub_float (ha.toFloat_eq hp)]
  exact answers_ok ⟨_, rfl⟩

theorem mul_double {a b : Number} (ha : a.Sized p) (hb : IsDouble b) (hp : p ≤ 1000) :
    (a.mul b).Answers IsDouble := by
  obtain ⟨z, rfl⟩ := hb
  rw [Number.mul_float (ha.toFloat_eq hp)]
  exact answers_ok ⟨_, rfl⟩

theorem isExact_succ (h : elapsed < 2 ^ 53) : (Number.int ((elapsed : Int) + 1)).IsExact :=
  Number.IsDatum.isExact (show ((elapsed : Int) + 1).natAbs ≤ 2 ^ 53 by omega)

theorem succ_le_zero (elapsed : Nat) : (Number.int ((elapsed : Int) + 1)).le (.int 0) = false :=
  Number.le_eq_false_of_lt (Number.zero_lt_int (by omega))

theorem succ_eq_one (h : elapsed ≠ 0) (hlt : elapsed < 2 ^ 53) :
    (Number.int ((elapsed : Int) + 1)).eq (.int 1) = false := by
  have hpos := Number.unitsPerOne_pos
  rw [← Bool.not_eq_true, (isExact_succ hlt).eq_iff Number.isExact_one]
  intro heq
  have hone : (elapsed : Int) + 1 = 1 := mul_right_cancel₀ hpos.ne' heq
  omega

/-- What is left after a period to be lost. -/
theorem remaining_sized {amount : Number} (hlt : elapsed < 2 ^ 53) (h : state.Bounded elapsed)
    (hamount : amount.Sized 54 ∧ ((Number.int ((elapsed : Int) + 1)).eq (.int 1) = false →
      IsDouble amount)) :
    (state.remaining.sub amount).Answers (Number.Sized 55) := by
  rcases eq_or_ne elapsed 0 with rfl | hne
  · exact Number.sub_answers h.remaining hamount.1 (by decide)
  · obtain ⟨z, rfl⟩ := hamount.2 (succ_eq_one hne hlt)
    rw [Number.sub_float (h.sized.toFloat_eq (by decide))]
    exact answers_ok trivial

/-- One period of a loop does not fail if some life is left. -/
theorem step_answers (hc : cost.Sized 53) (hs : salvage.Sized 53) (hl : life.IsExact)
    (hl0 : life.le (.int 0) = false) (hf : factor.IsExact) (hf0 : factor.le (.int 0) = false)
    (hleft : left.Sized 56) (hlt : elapsed < 2 ^ 53) (hlife : LeavesLife left elapsed)
    (h : state.Bounded elapsed) :
    (step cost salvage life left factor state elapsed).Answers (State.Bounded (elapsed + 1)) := by
  have hnext {remaining : Number} (hr : remaining.Sized 55) :
      remaining.Sized (if elapsed + 1 = 0 then 54 else 55) := by
    rwa [if_neg (Nat.succ_ne_zero elapsed)]
  unfold step
  cases hline : state.line with
  | some line =>
    dsimp only
    refine (add_double h.total ((h.line line hline).sized 0) (by decide)).bind fun total ht =>
      answers_ok ⟨hnext h.sized, ht, ?_⟩
    exact fun other hother => h.line other (hline.trans hother)
  | none =>
    dsimp only
    refine (declining_sized hc hs (by decide) hl hl0 (isExact_succ hlt) (succ_le_zero elapsed) hf
      hf0).bind fun amount hamount => ?_
    have helapsed : (Number.int elapsed).Sized 56 := by
      show (elapsed : Int).natAbs ≤ 2 ^ 56
      omega
    have hdivisor : (Except.ok left - Except.ok (Number.int elapsed) : Calculation).Answers
        fun d => d.Sized 57 ∧ d.isZero = false := by
      obtain ⟨d, hd, hd0⟩ := hlife
      have hsized := Number.sub_answers hleft helapsed (by decide)
      rw [Calculation.ok_sub]
      rw [hd] at hsized ⊢
      exact answers_ok ⟨hsized, Number.isZero_of_zero_lt hd0⟩
    refine (Calculation.div_answers (Depreciation.sized_ok h.sized) hdivisor (by decide)
      (by decide)).bind ?_
    rintro _ ⟨line, rfl⟩
    refine answers_ite (fun _ => ?_) fun _ => ?_
    · refine (add_double (b := .float line) (p := 0) h.total trivial (by decide)).bind fun total ht =>
        answers_ok ⟨hnext h.sized, ht, ?_⟩
      rintro _ ⟨⟩
      exact ⟨line, rfl⟩
    · refine (remaining_sized hlt h hamount).bind fun remaining hr => ?_
      refine (add_double h.total hamount.1 (by decide)).bind fun total ht =>
        answers_ok ⟨hnext hr, ht, ?_⟩
      exact fun other hother => nomatch hother

/-- Whether the life of an asset is not over in any of the periods of a loop. -/
def Sustained (life left : Number) (periods : Int) : Prop :=
  ∀ elapsed < periods.toNat, (Number.int 0).lt life = true ∧ LeavesLife left elapsed

/-- A loop that stops before the life that is left is over. -/
theorem sustained_of_lt {periods : Int} (hl : 0 < periods → (Number.int 0).lt life = true)
    (hleft : left.IsDatum) (hp : periods ≤ 2 ^ 53)
    (h : (periods - 1) * (Binary64.unitsPerOne : Int) < left.signedUnits) :
    Sustained life left periods := by
  have hpos := Number.unitsPerOne_pos
  intro elapsed helapsed
  refine ⟨hl (by omega), Number.sub_int_pos hleft (by omega) (lt_of_le_of_lt ?_ h)⟩
  exact Int.mul_le_mul_of_nonneg_right (by omega) hpos.le

/-- A loop does not fail if life is left in all of its periods. -/
theorem cumulative_answers {periods : Int} (hc : cost.Sized 53) (hs : salvage.Sized 53)
    (hl : life.IsExact) (hf : factor.IsExact) (hf0 : factor.le (.int 0) = false)
    (hleft : left.Sized 56) (hp : periods ≤ 2 ^ 53) (h : Sustained life left periods) :
    (cumulative cost salvage life left periods factor).Answers IsDouble := by
  refine (Number.sub_answers hc hs (by decide)).bind fun remaining hr => ?_
  have hstart : State.Bounded 0 ⟨remaining, .float 0, none⟩ :=
    { remaining := hr, total := ⟨0, rfl⟩, line := by rintro _ ⟨⟩ }
  refine (answers_foldlM_range (I := fun elapsed state => State.Bounded elapsed state) periods.toNat
    hstart fun elapsed hlt state hstate => ?_).bind fun state hstate => answers_ok hstate.total
  obtain ⟨hlife, hleaves⟩ := h elapsed hlt
  exact step_answers hc hs hl (Number.le_eq_false_of_lt hlife) hf hf0 hleft (by omega) hleaves hstate

/-! What a loop works out is never refused. -/

section Computes

variable (a b : Number)

theorem add_computes : (a.add b).Computes (Number.DoubleIf false) :=
  Number.add_computes (Number.doubleIf_false a) (Number.doubleIf_false b)

theorem sub_computes : (a.sub b).Computes (Number.DoubleIf false) :=
  Number.sub_computes (Number.doubleIf_false a) (Number.doubleIf_false b)

theorem mul_computes : (a.mul b).Computes (Number.DoubleIf false) :=
  Number.mul_computes (Number.doubleIf_false a) (Number.doubleIf_false b)

end Computes

theorem declining_computes (cost salvage life period factor : Number) :
    (Depreciation.declining cost salvage life period factor).Computes fun _ => True := by
  have hends : (Depreciation.decliningEnds cost life period factor).Computes fun _ => True := by
    refine (Calculation.computes_div (Calculation.computes_ok factor)
      (Calculation.computes_ok life)).bind fun rate _ => ?_
    have hrest : Computes (Number.DoubleIf false) (1 - Except.ok rate : Calculation) :=
      Calculation.computes_sub (Calculation.computes_ok _) (Calculation.computes_ok _)
    have hbefore : Computes (Number.DoubleIf false) (Except.ok period - 1 : Calculation) :=
      Calculation.computes_sub (Calculation.computes_ok _) (Calculation.computes_ok _)
    have hshare {base exponent : Calculation} (hb : base.Computes (Number.DoubleIf false))
        (he : exponent.Computes (Number.DoubleIf false)) :
        Computes (Number.DoubleIf false) (Except.ok cost * base ^ exponent : Calculation) :=
      Calculation.computes_mul (Calculation.computes_ok _) (Calculation.computes_pow hb he)
    refine computes_ite (fun _ => ?_) fun _ => ?_
    · exact (hshare (Calculation.computes_ok _) (Calculation.computes_ok _)).bind fun _ _ => trivial
    · exact (hshare hrest hbefore).bind fun _ _ =>
        (hshare hrest (Calculation.computes_ok _)).bind fun _ _ => trivial
  refine hends.bind fun (old, new) _ => ?_
  dsimp only
  split_ifs
  · exact (sub_computes old salvage).bind fun _ _ => trivial
  · exact (sub_computes old new).bind fun _ _ => trivial

theorem step_computes (cost salvage life left factor : Number) (state : State) (elapsed : Nat) :
    (step cost salvage life left factor state elapsed).Computes fun _ => True := by
  unfold step
  split
  · exact (add_computes state.total _).bind fun _ _ => trivial
  · refine (declining_computes cost salvage life _ factor).bind fun amount _ => ?_
    refine (Calculation.computes_div (Calculation.computes_ok state.remaining)
      (Calculation.computes_sub (Calculation.computes_ok left) (Calculation.computes_ok _))).bind
        fun line _ => computes_ite
          (fun _ => (add_computes state.total line).bind fun _ _ => trivial) fun _ => ?_
    exact (sub_computes state.remaining amount).bind fun _ _ =>
      (add_computes state.total amount).bind fun _ _ => trivial

theorem cumulative_computes (cost salvage life left factor : Number) (periods : Int) :
    (cumulative cost salvage life left periods factor).Computes fun _ => True :=
  (sub_computes cost salvage).bind fun _ _ =>
    (computes_foldlM (R := fun _ => True) _ trivial fun state _ elapsed =>
      step_computes cost salvage life left factor state elapsed).bind fun _ _ => trivial

/-- A loop over one period at whose start nothing is left of the life divides by zero. -/
theorem cumulative_fails (hc : IsDouble cost) (hs : salvage.Sized 53) (hl : life.IsExact)
    (hl0 : life.le (.int 0) = false) (hf : factor.IsExact) (hf0 : factor.le (.int 0) = false) :
    cumulative cost salvage life (.float 0) 1 factor = fail .zeroDivision := by
  have hone : (0 : Nat) < 2 ^ 53 := by decide
  obtain ⟨amount, hamount, -⟩ := (declining_computes cost salvage life (.int ((0 : Nat) + 1))
    factor).exists_ok (declining_sized (hc.sized 53) hs (by decide) hl hl0 (isExact_succ hone)
      (succ_le_zero 0) hf hf0)
  obtain ⟨value, rfl⟩ := hc
  have hnothing : (Number.float 0).sub (.int (0 : Nat)) = .ok (.float (0 - Binary64.ofInt 0)) :=
    Number.float_sub Number.isExact_zero.toFloat_eq
  unfold cumulative
  rw [Number.float_sub (hs.toFloat_eq (by decide)), ok_bind]
  show (step _ _ _ _ _ _ 0 >>= _) >>= _ = _
  unfold step
  dsimp only
  rw [hamount, ok_bind, Calculation.ok_sub, hnothing, Calculation.ok_div,
    Number.float_div_of_zero (by decide +kernel)]
  rfl

end Periods

namespace Asset

variable {asset : Asset} {periods : Int} {left : Number}

/-- The numbers that describe an asset. -/
def numbers (asset : Asset) : List Number :=
  [asset.cost, asset.salvage, asset.life, asset.start, asset.finish, asset.factor]

/-- Whether an asset is described by data, and its life is below `2⁵³`. -/
structure IsData (asset : Asset) : Prop where
  datum : ∀ a ∈ asset.numbers, a.IsDatum
  life_lt : asset.life.lt (.int (2 ^ 53)) = true

/-- The assets that are not refused. -/
structure Accepted (asset : Asset) : Prop where
  start_nonneg : asset.start.lt (.int 0) = false
  start_le : asset.finish.lt asset.start = false
  finish_le : asset.life.lt asset.finish = false
  cost_nonneg : asset.cost.lt (.int 0) = false
  salvage_le : asset.cost.lt asset.salvage = false
  factor_pos : asset.factor.le (.int 0) = false

namespace IsData

variable (h : asset.IsData)

include h

theorem cost : asset.cost.IsDatum := h.datum _ (by simp [numbers])

theorem salvage : asset.salvage.IsDatum := h.datum _ (by simp [numbers])

theorem life : asset.life.IsDatum := h.datum _ (by simp [numbers])

theorem start : asset.start.IsDatum := h.datum _ (by simp [numbers])

theorem finish : asset.finish.IsDatum := h.datum _ (by simp [numbers])

theorem factor : asset.factor.IsDatum := h.datum _ (by simp [numbers])

end IsData

/-- The points in a life in order, in units, between the whole periods around them. -/
structure Ordered (asset : Asset) : Prop where
  first_nonneg : 0 ≤ asset.firstPeriod
  first_le : asset.firstPeriod * (Binary64.unitsPerOne : Int) ≤ asset.start.signedUnits
  start_le : asset.start.signedUnits ≤ asset.finish.signedUnits
  last_lt : (asset.lastPeriod - 1) * (Binary64.unitsPerOne : Int) < asset.finish.signedUnits
  le_last : asset.finish.signedUnits ≤ asset.lastPeriod * Binary64.unitsPerOne
  finish_le : asset.finish.signedUnits ≤ asset.life.signedUnits
  life_lt : asset.life.signedUnits < 2 ^ 53 * Binary64.unitsPerOne

theorem IsData.ordered (hd : asset.IsData) (ha : asset.Accepted) : asset.Ordered := by
  have hpos := Number.unitsPerOne_pos
  have hle {a b : Number} (ha : a.IsDatum) (hb : b.IsDatum) (h : b.lt a = false) :
      a.signedUnits ≤ b.signedUnits := by
    rwa [← Bool.not_eq_true, hb.isExact.lt_iff ha.isExact, not_lt] at h
  have hstart := hle Number.isDatum_zero hd.start ha.start_nonneg
  rw [Number.signedUnits_zero] at hstart
  have hlimit : (Number.int (2 ^ 53)).IsExact :=
    Number.IsDatum.isExact (show (2 ^ 53 : Int).natAbs ≤ 2 ^ 53 by decide)
  obtain ⟨hfirst, hfirst'⟩ := Number.floor_spec hd.start.isExact
  obtain ⟨hlast, hlast'⟩ := Number.ceil_spec hd.finish.isExact
  refine ⟨?_, hfirst, hle hd.start hd.finish ha.start_le, hlast, hlast',
    hle hd.finish hd.life ha.finish_le, (hd.life.isExact.lt_iff hlimit).mp hd.life_lt⟩
  have hnext : 0 < asset.firstPeriod + 1 :=
    pos_of_mul_pos_left (hstart.trans_lt hfirst') hpos.le
  omega

namespace Ordered

variable (h : asset.Ordered)

include h

theorem start_nonneg : 0 ≤ asset.start.signedUnits :=
  (Int.mul_nonneg h.first_nonneg (Int.natCast_nonneg _)).trans h.first_le

theorem firstPeriod_lt : asset.firstPeriod < 2 ^ 53 := by
  refine lt_of_mul_lt_mul_right ?_ Number.unitsPerOne_pos.le
  have hlife := h.life_lt
  have hstart := h.start_le
  have hfirst := h.first_le
  have hfinish := h.finish_le
  omega

theorem lastPeriod_le : asset.lastPeriod ≤ 2 ^ 53 := by
  refine Int.le_of_sub_one_lt (lt_of_mul_lt_mul_right ?_ Number.unitsPerOne_pos.le)
  exact (h.last_lt.trans_le h.finish_le).trans h.life_lt

theorem lastPeriod_nonneg : 0 ≤ asset.lastPeriod := by
  refine le_of_mul_le_mul_right ?_ Number.unitsPerOne_pos
  rw [Int.zero_mul]
  exact h.start_nonneg.trans (h.start_le.trans h.le_last)

theorem isDatum_first : (Number.int asset.firstPeriod).IsDatum := by
  have hnonneg := h.first_nonneg
  have hlt := h.firstPeriod_lt
  show asset.firstPeriod.natAbs ≤ 2 ^ 53
  omega

theorem isDatum_last : (Number.int asset.lastPeriod).IsDatum := by
  have hnonneg := h.lastPeriod_nonneg
  have hle := h.lastPeriod_le
  show asset.lastPeriod.natAbs ≤ 2 ^ 53
  omega

/-- A depreciation that ends after the start of the life. -/
theorem finish_pos (hl : 0 < asset.lastPeriod) : 0 < asset.finish.signedUnits :=
  (Int.mul_nonneg (by omega) (Int.natCast_nonneg _)).trans_lt h.last_lt

end Ordered

theorem IsData.zero_lt_life (hd : asset.IsData) (ho : asset.Ordered)
    (h : 0 < asset.finish.signedUnits) : (Number.int 0).lt asset.life = true := by
  rw [Number.isExact_zero.lt_iff hd.life.isExact, Number.signedUnits_zero]
  exact h.trans_le ho.finish_le

/-- Whether the life is so short that it is lost in a difference with one. -/
structure LosesLife (asset : Asset) : Prop where
  finish_pos : (Number.int 0).lt asset.finish = true
  life_le : asset.life.le (.float Binary64.halfSpacing) = true

/-- The loops of a depreciation with a change to the straight line, each with the number of its periods
and the life that is left at its start. -/
inductive Loop (asset : Asset) : Int → Number → Prop where
  /-- The whole periods before the start. -/
  | toFirst : Loop asset asset.firstPeriod asset.life
  /-- The whole periods before the one of the end. -/
  | toLast (h : asset.finish.eq (.int asset.lastPeriod) = false) :
      Loop asset (asset.lastPeriod - 1) asset.life
  /-- The whole periods around the points. -/
  | whole {left : Number} (hl : asset.life.sub (.int asset.firstPeriod) = .ok left) :
      Loop asset (asset.lastPeriod - asset.firstPeriod) left
  /-- The period of the start, which counts in part. -/
  | first {left : Number} (h : asset.start.eq (.int asset.firstPeriod) = false)
      (hl : asset.life.sub (.int asset.firstPeriod) = .ok left) : Loop asset 1 left
  /-- The period of the end, which counts in part. -/
  | last {left : Number} (h : asset.finish.eq (.int asset.lastPeriod) = false)
      (hl : (asset.life - asset.lastPeriod + 1 : Calculation) = .ok left) : Loop asset 1 left

section Loops

variable (hd : asset.IsData) (ho : asset.Ordered)

include hd ho

theorem sustained_toFirst : Sustained asset.life asset.life asset.firstPeriod := by
  have hfirst := ho.first_le
  have hstart := ho.start_le
  have hfinish := ho.finish_le
  have hpos := Number.unitsPerOne_pos
  refine sustained_of_lt (fun hperiods => ?_) hd.life ho.firstPeriod_lt.le ?_
  · exact hd.zero_lt_life ho ((Int.mul_pos hperiods hpos).trans_le (hfirst.trans hstart))
  · rw [Int.sub_mul, Int.one_mul]
    omega

theorem sustained_toLast : Sustained asset.life asset.life (asset.lastPeriod - 1) := by
  have hlast := ho.last_lt
  have hlast' := ho.lastPeriod_le
  have hfinish := ho.finish_le
  have hpos := Number.unitsPerOne_pos
  refine sustained_of_lt (fun hperiods => ?_) hd.life (by omega) ?_
  · exact hd.zero_lt_life ho (ho.finish_pos (by omega))
  · rw [Int.sub_mul (asset.lastPeriod - 1), Int.one_mul]
    omega

/-- The life that is left at the start is exact. -/
theorem life_sub_first (hl : asset.life.sub (.int asset.firstPeriod) = .ok left) :
    left.IsDatum ∧
      left.signedUnits = asset.life.signedUnits - asset.firstPeriod * Binary64.unitsPerOne := by
  have hnonneg := Int.mul_nonneg ho.first_nonneg (Int.natCast_nonneg Binary64.unitsPerOne)
  have hfirst := ho.first_le
  have hstart := ho.start_le
  have hfinish := ho.finish_le
  obtain ⟨d, hd', hdatum, hunits⟩ := Number.sub_int_exact hd.life ho.life_lt (by omega)
    ho.isDatum_first (by omega)
  rw [hl] at hd'
  cases hd'
  exact ⟨hdatum, hunits⟩

theorem sustained_whole (hl : asset.life.sub (.int asset.firstPeriod) = .ok left) :
    Sustained asset.life left (asset.lastPeriod - asset.firstPeriod) := by
  obtain ⟨hdatum, hunits⟩ := life_sub_first hd ho hl
  have hlast := ho.last_lt
  have hlast' := ho.lastPeriod_le
  have hfinish := ho.finish_le
  have hfirst := ho.first_nonneg
  refine sustained_of_lt (fun hperiods => ?_) hdatum (by omega) ?_
  · exact hd.zero_lt_life ho (ho.finish_pos (by omega))
  · rw [hunits, show asset.lastPeriod - asset.firstPeriod - 1 =
      asset.lastPeriod - 1 - asset.firstPeriod by omega, Int.sub_mul (asset.lastPeriod - 1)]
    omega

theorem sustained_first (h : asset.start.eq (.int asset.firstPeriod) = false)
    (hl : asset.life.sub (.int asset.firstPeriod) = .ok left) : Sustained asset.life left 1 := by
  obtain ⟨hdatum, hunits⟩ := life_sub_first hd ho hl
  have hnonneg := Int.mul_nonneg ho.first_nonneg (Int.natCast_nonneg Binary64.unitsPerOne)
  have hfirst := ho.first_le
  have hstart := ho.start_le
  have hfinish := ho.finish_le
  rw [← Bool.not_eq_true, hd.start.isExact.eq_iff ho.isDatum_first.isExact] at h
  have hne : asset.start.signedUnits ≠ asset.firstPeriod * Binary64.unitsPerOne := h
  refine sustained_of_lt (fun _ => hd.zero_lt_life ho (by omega)) hdatum (by decide) ?_
  rw [hunits, Int.sub_self, Int.zero_mul]
  omega

/-- A last period in part ends after the start of the life. -/
theorem lastPeriod_pos (h : asset.finish.eq (.int asset.lastPeriod) = false) :
    0 < asset.lastPeriod ∧
      asset.finish.signedUnits < asset.lastPeriod * Binary64.unitsPerOne := by
  rw [← Bool.not_eq_true, hd.finish.isExact.eq_iff ho.isDatum_last.isExact] at h
  have hlt := lt_of_le_of_ne ho.le_last h
  refine ⟨pos_of_mul_pos_left ((ho.start_nonneg.trans ho.start_le).trans_lt hlt) ?_, hlt⟩
  exact Int.natCast_nonneg _

/-- A life below one is a double, and the last period is the first. -/
theorem life_lt_one (h : asset.finish.eq (.int asset.lastPeriod) = false)
    (hl : asset.life.signedUnits < Binary64.unitsPerOne) :
    asset.lastPeriod = 1 ∧ ∃ x, asset.life = .float x := by
  have hpos := Number.unitsPerOne_pos
  have hfinish := ho.finish_le
  obtain ⟨hlast, -⟩ := lastPeriod_pos hd ho h
  have hfinish0 := ho.finish_pos hlast
  have hlast' : asset.lastPeriod - 1 < 1 := by
    refine lt_of_mul_lt_mul_right ?_ hpos.le
    have hlt := ho.last_lt
    omega
  refine ⟨by omega, ?_⟩
  cases hlife : asset.life with
  | float x => exact ⟨x, rfl⟩
  | int n =>
    rw [hlife] at hl hfinish
    have hn : 0 < n := pos_of_mul_pos_left (hfinish0.trans_le hfinish) hpos.le
    have hn' : n < 1 := lt_of_mul_lt_mul_right (by rwa [Int.one_mul]) hpos.le
    omega

/-- A life below one that is not lost is still above minus one after the last period. -/
theorem short_life_sub_last (h : asset.finish.eq (.int asset.lastPeriod) = false)
    (hkeeps : ¬ asset.LosesLife) (hshort : asset.life.signedUnits < Binary64.unitsPerOne) :
    ∃ d, asset.life.sub (.int asset.lastPeriod) = .ok d ∧ d.IsDatum ∧
      -(Binary64.unitsPerOne : Int) < d.signedUnits ∧
      d.signedUnits < 2 ^ 53 * Binary64.unitsPerOne := by
  have hpos := Number.unitsPerOne_pos
  have hfinish0 := ho.finish_pos (lastPeriod_pos hd ho h).1
  obtain ⟨hone, x, hx⟩ := life_lt_one hd ho h hshort
  have hfinite := hd.life
  have hfinish := ho.finish_le
  rw [hx] at hfinite hshort hfinish
  have hx0 : 0 ≤ Binary64.signedUnits x := hfinish0.le.trans hfinish
  have hx1 : Binary64.signedUnits x < Binary64.unitsPerOne := hshort
  have habs := Binary64.natAbs_signedUnits x
  have hlong : Binary64.signedUnits Binary64.halfSpacing < Binary64.signedUnits x := by
    by_contra hle
    refine hkeeps ⟨?_, ?_⟩
    · rwa [Number.isExact_zero.lt_iff hd.finish.isExact, Number.signedUnits_zero]
    · rw [hx, (Number.isExact_float hfinite).le_iff
        (Number.isExact_float Binary64.isFinite_halfSpacing)]
      exact not_lt.mp hle
  obtain ⟨hlow, hhigh⟩ := (Binary64.sub_one_of_lt_one hfinite hx0 (by omega)).2 hlong
  refine ⟨.float (x - 1), ?_, Binary64.isFinite_sub_one hfinite, hlow, hhigh.trans_lt ?_⟩
  · rw [hx, hone]
    exact Number.float_sub Number.toFloat_one
  · exact Int.mul_pos (by decide) hpos

/-- A life that is not lost is still above minus one after the last period. -/
theorem life_sub_last (h : asset.finish.eq (.int asset.lastPeriod) = false)
    (hkeeps : ¬ asset.LosesLife) :
    ∃ d, asset.life.sub (.int asset.lastPeriod) = .ok d ∧ d.IsDatum ∧
      -(Binary64.unitsPerOne : Int) < d.signedUnits ∧
      d.signedUnits < 2 ^ 53 * Binary64.unitsPerOne := by
  rcases le_or_gt (Binary64.unitsPerOne : Int) asset.life.signedUnits with hlong | hshort
  · obtain ⟨hlast, -⟩ := lastPeriod_pos hd ho h
    have hlt := ho.last_lt
    rw [Int.sub_mul, Int.one_mul] at hlt
    have hfinish := ho.finish_le
    have hlife := ho.life_lt
    have hspan : (Binary64.unitsPerOne : Int) ≤ asset.lastPeriod * Binary64.unitsPerOne :=
      le_mul_of_one_le_left (Int.natCast_nonneg _) (by omega)
    obtain ⟨d, hsub, hdatum, hunits⟩ := Number.sub_int_exact hd.life hlife (by omega)
      ho.isDatum_last (by omega)
    exact ⟨d, hsub, hdatum, by omega, by omega⟩
  · exact short_life_sub_last hd ho h hkeeps hshort

theorem sustained_last (h : asset.finish.eq (.int asset.lastPeriod) = false)
    (hkeeps : ¬ asset.LosesLife)
    (hl : (asset.life - asset.lastPeriod + 1 : Calculation) = .ok left) :
    Sustained asset.life left 1 := by
  have hfinish0 := ho.finish_pos (lastPeriod_pos hd ho h).1
  obtain ⟨d, hsub, hdatum, hlow, hhigh⟩ := life_sub_last hd ho h hkeeps
  rw [Calculation.ok_sub, hsub, Calculation.one_eq, Calculation.ok_add] at hl
  obtain ⟨e, hadd, he, he0⟩ := Number.add_one_pos hdatum hhigh hlow
  rw [hl] at hadd
  cases hadd
  refine sustained_of_lt (fun _ => hd.zero_lt_life ho hfinish0) he (by decide) ?_
  rw [Int.sub_self, Int.zero_mul]
  exact he0

/-- Life is left in all periods of all loops, unless it is lost at the last period. -/
theorem Loop.sustained (hkeeps : ¬ asset.LosesLife) (h : asset.Loop periods left) :
    Sustained asset.life left periods := by
  cases h with
  | toFirst => exact sustained_toFirst hd ho
  | toLast h => exact sustained_toLast hd ho
  | whole hl => exact sustained_whole hd ho hl
  | first h hl => exact sustained_first hd ho h hl
  | last h hl => exact sustained_last hd ho h hkeeps hl

end Loops

end Asset

end Finance.VariableBalance

end SheetFormulas
