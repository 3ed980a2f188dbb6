import SheetFormulas.Proofs.Finance.VariableBalance
import SheetFormulas.Session

/-!
Depreciation between two points of a life, by what its loops come to. Every loop comes to a double while
life is left, and so does the depreciation; nothing in it is refused. A life that is lost in a difference
with one leaves a divisor of zero, and the call fails.
-/

namespace SheetFormulas.Finance.VariableBalance.Asset

open Outcome

attribute [local irreducible] Binary64.unitsPerOne

variable {asset : Asset} {periods : Int} {left : Number}

section Answers

variable (hd : asset.IsData) (ha : asset.Accepted)

include hd ha

theorem upTo_answers (hp : periods ≤ 2 ^ 53) (h : Sustained asset.life asset.life periods) :
    (asset.upTo periods).Answers IsDouble :=
  cumulative_answers hd.cost.sized hd.salvage.sized hd.life.isExact hd.factor.isExact ha.factor_pos
    (hd.life.sized.mono (by decide)) hp h

theorem after_answers {elapsed : Int} (he : elapsed ≤ 2 ^ 53)
    (hbefore : Sustained asset.life asset.life elapsed) (hp : periods ≤ 2 ^ 53)
    (hleft : left.Sized 56) (h : Sustained asset.life left periods) :
    (asset.after elapsed periods left).Answers IsDouble :=
  (upTo_answers hd ha he hbefore).bind fun _ ht =>
    (sub_double hd.cost.sized ht (by decide)).bind fun _ hv =>
      cumulative_answers (hv.sized 53) hd.salvage.sized hd.life.isExact hd.factor.isExact
        ha.factor_pos hleft hp h

theorem beforeStart_answers : asset.beforeStart.Answers IsDouble := by
  have ho := hd.ordered ha
  unfold beforeStart
  refine answers_ite (fun _ => answers_ok ⟨_, rfl⟩) fun hpart => ?_
  have hpart := Bool.eq_false_of_not_eq_true hpart
  refine (Number.sub_answers hd.start.sized ho.isDatum_first.sized (by decide)).bind
    fun skipped hs => ?_
  refine (Number.sub_answers hd.life.sized ho.isDatum_first.sized (by decide)).self.bind
    fun left hl => ?_
  refine (after_answers hd ha ho.firstPeriod_lt.le (sustained_toFirst hd ho) (by decide)
    (hl.2.mono (by decide)) (sustained_first hd ho hpart hl.1)).bind fun amount hamount => ?_
  refine (mul_double hs hamount (by decide)).bind fun part hp => ?_
  exact add_double (p := 0) ⟨_, rfl⟩ (hp.sized 0) (by decide)

theorem outside_answers (hkeeps : ¬ asset.LosesLife) : asset.outside.Answers IsDouble := by
  have ho := hd.ordered ha
  have hone : (Number.int 1).Sized 54 := show (1 : Int).natAbs ≤ 2 ^ 54 by decide
  have hlast := ho.lastPeriod_le
  unfold outside
  refine (beforeStart_answers hd ha).bind fun before hb => ?_
  refine answers_ite (fun _ => answers_ok hb) fun hpart => ?_
  have hpart := Bool.eq_false_of_not_eq_true hpart
  refine (Number.sub_answers ho.isDatum_last.sized hd.finish.sized (by decide)).bind
    fun skipped hs => ?_
  refine (Calculation.add_answers (Calculation.sub_answers (Depreciation.sized_ok hd.life.sized)
    (Depreciation.sized_ok ho.isDatum_last.sized) (by decide)) (Depreciation.sized_ok hone)
    (by decide)).self.bind fun left hl => ?_
  refine (after_answers hd ha (by omega) (sustained_toLast hd ho) (by decide)
    (hl.2.mono (by decide)) (sustained_last hd ho hpart hkeeps hl.1)).bind fun amount hamount => ?_
  refine (mul_double hs hamount (by decide)).bind fun part hp => ?_
  exact add_double hb (hp.sized 0) (by decide)

theorem withSwitch_answers (hkeeps : ¬ asset.LosesLife) : asset.withSwitch.Answers IsDouble := by
  have ho := hd.ordered ha
  have hlast := ho.lastPeriod_le
  have hfirst := ho.first_nonneg
  unfold withSwitch
  refine (outside_answers hd ha hkeeps).bind fun outside houtside => ?_
  refine (Number.sub_answers hd.life.sized ho.isDatum_first.sized (by decide)).self.bind
    fun left hl => ?_
  refine (after_answers hd ha ho.firstPeriod_lt.le (sustained_toFirst hd ho) (by omega)
    (hl.2.mono (by decide)) (sustained_whole hd ho hl.1)).bind fun whole hw => ?_
  exact sub_double (hw.sized 0) houtside (by decide)

/-- The part of a period that counts. -/
theorem share_answers {period : Int} {share : Calculation} (h : asset.share? period = some share) :
    share.Answers (Number.Sized 55) := by
  have hnonneg := (hd.ordered ha).first_nonneg
  have hlt := (hd.ordered ha).firstPeriod_lt
  have hnext : (Number.int (asset.firstPeriod + 1)).Sized 53 := by
    show (asset.firstPeriod + 1).natAbs ≤ 2 ^ 53
    omega
  have hone : (Number.int 1).Sized 53 := show (1 : Int).natAbs ≤ 2 ^ 53 by decide
  unfold share? at h
  split_ifs at h with hfirst hlast
  · cases h
    have hmin : (asset.finish.min (.int (asset.firstPeriod + 1))).Sized 53 := by
      unfold Number.min
      split_ifs
      · exact hnext
      · exact hd.finish.sized
    exact (Number.sub_answers hmin hd.start.sized (by decide)).mono fun _ h => h.mono (by decide)
  · cases h
    exact Calculation.sub_answers (Calculation.add_answers (Depreciation.sized_ok hd.finish.sized)
      (Depreciation.sized_ok hone) (by decide))
      (Depreciation.sized_ok ((hd.ordered ha).isDatum_last.sized.mono (by decide))) (by decide)

theorem sharedAmount_answers {period : Int} (hlow : asset.firstPeriod < period)
    (hhigh : period ≤ asset.lastPeriod) :
    (asset.sharedAmount period).Answers (Number.Sized 109) := by
  have ho := hd.ordered ha
  have hfirst := ho.first_nonneg
  have hlast := ho.lastPeriod_le
  have hperiod : (Number.int period).IsExact :=
    Number.IsDatum.isExact (show period.natAbs ≤ 2 ^ 53 by omega)
  have hlife := hd.zero_lt_life ho (ho.finish_pos (by omega))
  have hamount := declining_sized (p := 53) hd.cost.sized hd.salvage.sized (by decide) hd.life.isExact
    (Number.le_eq_false_of_lt hlife) hperiod
    (Number.le_eq_false_of_lt (Number.zero_lt_int (by omega))) hd.factor.isExact ha.factor_pos
  unfold sharedAmount
  dsimp only
  refine hamount.bind fun amount hamount => ?_
  split
  next share hshare =>
    exact (share_answers hd ha hshare).bind fun share hs =>
      Number.mul_answers hamount.1 hs (by decide) (by decide)
  next => exact answers_ok (hamount.1.mono (by decide))

theorem withoutSwitch_answers : asset.withoutSwitch.Answers IsDouble := by
  refine answers_foldlM ⟨0, rfl⟩ fun total ht i hi => ?_
  have hi := List.mem_range.mp hi
  have hlow : asset.firstPeriod < asset.firstPeriod + 1 + i := by omega
  have hhigh : asset.firstPeriod + 1 + i ≤ asset.lastPeriod := by omega
  exact (sharedAmount_answers hd ha hlow hhigh).bind fun amount hamount =>
    add_double ht hamount (by decide)

end Answers

/-! What a depreciation comes to is never refused. -/

section Computes

variable (asset : Asset)

theorem after_computes (elapsed periods : Int) (left : Number) :
    (asset.after elapsed periods left).Computes fun _ => True :=
  (cumulative_computes asset.cost asset.salvage asset.life asset.life asset.factor elapsed).bind
    fun total _ => (sub_computes asset.cost total).bind fun value _ =>
      cumulative_computes value asset.salvage asset.life left asset.factor periods

theorem beforeStart_computes : asset.beforeStart.Computes fun _ => True := by
  unfold beforeStart
  refine computes_ite (fun _ => trivial) fun _ => ?_
  refine (sub_computes asset.start _).bind fun skipped _ => (sub_computes asset.life _).bind
    fun left _ => (after_computes asset _ 1 left).bind fun amount _ => ?_
  exact (mul_computes skipped amount).bind fun part _ => (add_computes _ part).mono fun _ _ => trivial

theorem outside_computes : asset.outside.Computes fun _ => True := by
  unfold outside
  refine (beforeStart_computes asset).bind fun before _ => computes_ite (fun _ => trivial) fun _ => ?_
  refine (sub_computes _ asset.finish).bind fun skipped _ => ?_
  refine (Calculation.computes_add (Calculation.computes_sub (Calculation.computes_ok asset.life)
    (Calculation.computes_ok _)) (Calculation.computes_ok _)).bind fun left _ => ?_
  refine (after_computes asset _ 1 left).bind fun amount _ => ?_
  exact (mul_computes skipped amount).bind fun part _ => (add_computes _ part).mono fun _ _ => trivial

theorem withSwitch_computes : asset.withSwitch.Computes fun _ => True :=
  (outside_computes asset).bind fun outside _ => (sub_computes asset.life _).bind fun left _ =>
    (after_computes asset _ _ left).bind fun whole _ =>
      (sub_computes whole outside).mono fun _ _ => trivial

theorem sharedAmount_computes (period : Int) :
    (asset.sharedAmount period).Computes fun _ => True := by
  unfold sharedAmount
  dsimp only
  refine (declining_computes _ _ _ _ _).bind fun amount _ => ?_
  split
  next share hshare =>
    have hcomputes : share.Computes (Number.DoubleIf false) := by
      unfold share? at hshare
      split_ifs at hshare
      · cases hshare
        exact sub_computes _ _
      · cases hshare
        exact Calculation.computes_sub (Calculation.computes_add (Calculation.computes_ok _)
          (Calculation.computes_ok _)) (Calculation.computes_ok _)
    exact hcomputes.bind fun share _ => (mul_computes amount share).mono fun _ _ => trivial
  next => trivial

theorem withoutSwitch_computes : asset.withoutSwitch.Computes fun _ => True :=
  computes_foldlM _ trivial fun total _ _ => (sharedAmount_computes asset _).bind fun amount _ =>
    (add_computes total amount).mono fun _ _ => trivial

end Computes

/-! A life that is lost. -/

section LostLife

variable (hd : asset.IsData) (ha : asset.Accepted) (h : asset.LosesLife)

include hd ha h

/-- Nothing is left of such a life at the start of its only period, which counts in part. -/
theorem LosesLife.left_eq_zero : asset.lastPeriod = 1 ∧
    asset.finish.eq (.int asset.lastPeriod) = false ∧
    (asset.life - asset.lastPeriod + 1 : Calculation) = .ok (.float 0) := by
  have ho := hd.ordered ha
  have hpos := Number.unitsPerOne_pos
  have hfinish := ho.finish_le
  have hfinish0 : 0 < asset.finish.signedUnits := by
    have hlt := h.finish_pos
    rwa [Number.isExact_zero.lt_iff hd.finish.isExact, Number.signedUnits_zero] at hlt
  have hshort : asset.life.signedUnits ≤ Binary64.signedUnits Binary64.halfSpacing :=
    (hd.life.isExact.le_iff (Number.isExact_float Binary64.isFinite_halfSpacing)).mp h.life_le
  have hspacing : Binary64.signedUnits Binary64.halfSpacing < Binary64.unitsPerOne := by
    decide +kernel
  have hlast0 : 0 < asset.lastPeriod :=
    pos_of_mul_pos_left (hfinish0.trans_le ho.le_last) hpos.le
  have hpart : asset.finish.eq (.int asset.lastPeriod) = false := by
    have hspan : (Binary64.unitsPerOne : Int) ≤ asset.lastPeriod * Binary64.unitsPerOne :=
      le_mul_of_one_le_left hpos.le (by omega)
    rw [← Bool.not_eq_true, hd.finish.isExact.eq_iff ho.isDatum_last.isExact]
    show ¬ asset.finish.signedUnits = asset.lastPeriod * Binary64.unitsPerOne
    omega
  obtain ⟨hone, x, hx⟩ := life_lt_one hd ho hpart (by omega)
  refine ⟨hone, hpart, ?_⟩
  have hfinite := hd.life
  rw [hx] at hfinish hshort hfinite ⊢
  have hx0 : 0 ≤ Binary64.signedUnits x := hfinish0.le.trans hfinish
  have hx1 : Binary64.signedUnits x ≤ Binary64.signedUnits Binary64.halfSpacing := hshort
  have habs := Binary64.natAbs_signedUnits x
  have hminus := (Binary64.sub_one_of_lt_one hfinite hx0 (by omega)).1 hx1
  have hzero : (-1 + 1 : Float) = 0 := by decide +kernel
  rw [hone, Calculation.ok_sub, Number.float_sub Number.toFloat_one, hminus,
    Calculation.float_add_one, hzero]

theorem LosesLife.withSwitch_fails : asset.withSwitch = fail .zeroDivision := by
  have ho := hd.ordered ha
  obtain ⟨hone, hpart, hleft⟩ := LosesLife.left_eq_zero hd ha h
  have hlife := hd.zero_lt_life ho (ho.finish_pos (by omega))
  obtain ⟨before, hbefore, -⟩ := (beforeStart_computes asset).exists_ok (beforeStart_answers hd ha)
  obtain ⟨skipped, hskipped, -⟩ := (sub_computes (.int asset.lastPeriod) asset.finish).exists_ok
    (Number.sub_answers ho.isDatum_last.sized hd.finish.sized (by decide))
  have hafter : asset.after (asset.lastPeriod - 1) 1 (.float 0) = fail .zeroDivision := by
    obtain ⟨total, htotal, hdouble⟩ := (cumulative_computes asset.cost asset.salvage asset.life
      asset.life asset.factor (asset.lastPeriod - 1)).exists_ok
        (upTo_answers hd ha (by omega) (sustained_toLast hd ho))
    obtain ⟨value, hvalue, hvdouble⟩ := (sub_computes asset.cost total).exists_ok
      (sub_double hd.cost.sized hdouble (by decide))
    rw [after, upTo, htotal, ok_bind, hvalue, ok_bind]
    exact cumulative_fails hvdouble hd.salvage.sized hd.life.isExact
      (Number.le_eq_false_of_lt hlife) hd.factor.isExact ha.factor_pos
  unfold withSwitch outside
  rw [hbefore, ok_bind, hpart, if_neg Bool.false_ne_true, Calculation.ok_sub, hskipped, ok_bind, hleft,
    ok_bind, hafter]
  rfl

end LostLife

/-! Calls. -/

/-- Calls of a depreciation between two points of a life, with the asset and whether there is no change
to the straight line. -/
inductive VariableCall : List Value → Asset → Bool → Prop where
  | double (cost salvage life start finish : Number) : VariableCall
      [.number cost, .number salvage, .number life, .number start, .number finish]
      ⟨cost, salvage, life, start, finish, .int 2⟩ false
  | multiple (asset : Asset) : VariableCall (asset.numbers.map .number) asset false
  | full (asset : Asset) (noSwitch : Bool) :
      VariableCall (asset.numbers.map .number ++ [.bool noSwitch]) asset noSwitch

/-- The depreciation of an asset by its numbers. -/
def depreciated (asset : Asset) (noSwitch : Bool) : Outcome Number :=
  depreciation (.number asset.cost) (.number asset.salvage) (.number asset.life)
    (.number asset.start) (.number asset.finish) (.number asset.factor) (.bool noSwitch)

section Depreciated

variable (hd : asset.IsData) (noSwitch : Bool)

include hd

theorem ofArguments_eq : ofArguments (.number asset.cost) (.number asset.salvage)
      (.number asset.life) (.number asset.start) (.number asset.finish) (.number asset.factor) =
    if asset.start.lt (.int 0) || asset.finish.lt asset.start || asset.life.lt asset.finish then
      refuse .variableBalancePeriods
    else if asset.cost.lt (.int 0) || asset.cost.lt asset.salvage || asset.factor.le (.int 0) then
      refuse .variableBalanceArguments
    else .ok asset := by
  have hfinite : asset.life.isFinite = .ok true := hd.life.isExact.isFinite
  rw [ofArguments, Value.toNumber_datum hd.cost, ok_bind, Value.toNumber_datum hd.salvage, ok_bind,
    Value.toNumber_datum hd.life, ok_bind, Value.toNumber_datum hd.start, ok_bind,
    Value.toNumber_datum hd.finish, ok_bind, Value.toNumber_datum hd.factor, ok_bind, hfinite,
    ok_bind]
  rfl

theorem depreciated_eq (ha : asset.Accepted) : asset.depreciated noSwitch =
    if noSwitch then asset.withoutSwitch else asset.withSwitch := by
  rw [depreciated, depreciation, ofArguments_eq hd, ha.start_nonneg, ha.start_le, ha.finish_le,
    ha.cost_nonneg, ha.salvage_le, ha.factor_pos]
  rfl

theorem depreciated_of_not_accepted (ha : ¬ asset.Accepted) :
    ∃ cause : Refusal, asset.depreciated noSwitch = refuse cause ∧ cause.kind = .badNumber := by
  rw [depreciated, depreciation, ofArguments_eq hd]
  split_ifs with hperiods harguments
  · exact ⟨_, rfl, rfl⟩
  · exact ⟨_, rfl, rfl⟩
  · simp only [Bool.or_eq_true, not_or, Bool.not_eq_true] at hperiods harguments
    obtain ⟨⟨hstart, hfinish⟩, hlife⟩ := hperiods
    obtain ⟨⟨hcost, hsalvage⟩, hfactor⟩ := harguments
    exact absurd ⟨hstart, hfinish, hlife, hcost, hsalvage, hfactor⟩ ha

theorem depreciated_double (ha : asset.Accepted) (h : noSwitch = true ∨ ¬ asset.LosesLife) :
    ∃ x, asset.depreciated noSwitch = .ok (.float x) := by
  rw [depreciated_eq hd noSwitch ha]
  cases noSwitch with
  | true =>
    obtain ⟨_, heq, x, rfl⟩ :=
      (withoutSwitch_computes asset).exists_ok (withoutSwitch_answers hd ha)
    exact ⟨x, heq⟩
  | false =>
    obtain ⟨_, heq, x, rfl⟩ := (withSwitch_computes asset).exists_ok
      (withSwitch_answers hd ha (h.resolve_left Bool.false_ne_true))
    exact ⟨x, heq⟩

end Depreciated

/-- A call does what the depreciation of its asset does. -/
theorem VariableCall.yields {arguments : List Value} {noSwitch : Bool} {outcome : Outcome Value}
    (context : Context) (h : VariableCall arguments asset noSwitch)
    (ho : Value.answer (Answer.toValue <$> asset.depreciated noSwitch) = outcome) :
    (Catalog.standard.call context "VDB" arguments []).Yields outcome [] := by
  subst ho
  cases h with
  | double => exact Catalog.standard_call_yields_answer rfl rfl rfl rfl
  | multiple => exact Catalog.standard_call_yields_answer rfl rfl rfl rfl
  | full => exact Catalog.standard_call_yields_answer rfl rfl rfl rfl

/-- The depreciation between two points of a life is a number, and life is left in all periods of all
its loops, unless the life is lost in a difference with one; then the call divides by zero. Arguments
that are not accepted give an error value. -/
theorem variable_balance_answers_unless_life_lost (context : Context) {arguments : List Value}
    {noSwitch : Bool} (hcall : VariableCall arguments asset noSwitch) (hd : asset.IsData) :
    (¬ asset.Accepted → (Catalog.standard.call context "VDB" arguments []).Yields
      (.ok (.error .badNumber)) []) ∧
    (asset.Accepted → asset.firstPeriod < asset.lastPeriod →
      (Number.int 0).lt asset.life = true) ∧
    (asset.Accepted → ¬ asset.LosesLife → ∀ {periods left}, asset.Loop periods left →
      Sustained asset.life left periods) ∧
    (asset.Accepted → noSwitch = true ∨ ¬ asset.LosesLife →
      ∃ x, (Catalog.standard.call context "VDB" arguments []).Yields (.ok (.ofFloat x)) []) ∧
    (asset.Accepted → noSwitch = false → asset.LosesLife →
      (Catalog.standard.call context "VDB" arguments []).Yields (fail .zeroDivision) []) := by
  refine ⟨fun ha => ?_, fun ha hlt => ?_, fun ha hkeeps _ _ hloop => ?_, fun ha hkeeps => ?_,
    fun ha hswitch hlost => ?_⟩
  · obtain ⟨cause, heq, hkind⟩ := depreciated_of_not_accepted hd noSwitch ha
    refine hcall.yields context ?_
    rw [heq, ← hkind]
    rfl
  · have ho := hd.ordered ha
    have hfirst := ho.first_nonneg
    exact hd.zero_lt_life ho (ho.finish_pos (by omega))
  · exact hloop.sustained hd (hd.ordered ha) hkeeps
  · obtain ⟨x, heq⟩ := depreciated_double hd noSwitch ha hkeeps
    refine ⟨x, hcall.yields context ?_⟩
    rw [heq]
    rfl
  · refine hcall.yields context ?_
    rw [depreciated_eq hd noSwitch ha, hswitch, if_neg Bool.false_ne_true,
      LosesLife.withSwitch_fails hd ha hlost]
    rfl

/-- A life of `10⁻¹⁷` periods is lost: less one, it is minus one. -/
theorem variable_balance_fails_for_lost_life :
    let context := Environment.contextAt ⟨Catalog.standard, [], ⟨⟨2024, 1, 15⟩, .midnight⟩⟩ 1
    let asset : Asset := ⟨.int 100, .int 0, .float 1e-17, .int 0, .float 1e-17, .int 2⟩
    let arguments : List Value := [.ofInt 100, .ofInt 0, .ofFloat 1e-17, .ofInt 0, .ofFloat 1e-17]
    asset.Accepted ∧ asset.LosesLife ∧
      (Catalog.standard.call context "VDB" arguments []).Yields (fail .zeroDivision) [] := by
  intro context asset arguments
  have hd : asset.IsData := by
    refine ⟨?_, by decide +kernel⟩
    simp only [asset, numbers, List.forall_mem_cons, List.not_mem_nil, false_imp_iff, implies_true,
      and_true]
    exact ⟨show (100 : Int).natAbs ≤ 2 ^ 53 by decide, Number.isDatum_zero,
      show (1e-17 : Float).isFinite = true by decide +kernel, Number.isDatum_zero,
      show (1e-17 : Float).isFinite = true by decide +kernel,
      show (2 : Int).natAbs ≤ 2 ^ 53 by decide⟩
  have haccepted : asset.Accepted := by
    constructor <;> decide +kernel
  have hlost : asset.LosesLife := by
    constructor <;> decide +kernel
  obtain ⟨-, -, -, -, hfails⟩ := variable_balance_answers_unless_life_lost context
    (.double (.int 100) (.int 0) (.float 1e-17) (.int 0) (.float 1e-17)) hd
  exact ⟨haccepted, hlost, hfails haccepted rfl hlost⟩

end SheetFormulas.Finance.VariableBalance.Asset
