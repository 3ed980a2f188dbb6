import SheetFormulas.Numeral.Reader
import SheetFormulas.Proofs.Binary64.Decimals
import SheetFormulas.Proofs.Numeral.PlainNumeral
import SheetFormulas.Proofs.Value.Order

/-!
Unsigned numerals with commas between digits. A text is read as one if it is a plain numeral without
its commas, none of them stands behind the point, and the groups are right where they are checked.
The number is exact or the nearest double, divided by one hundred for each percent sign.
-/

namespace SheetFormulas

attribute [local irreducible] Binary64.unitsPerOne

namespace Number

/-- Powers of one hundred have a double up to the 154th. -/
theorem hasDouble_tenTo_iff (n : Nat) : (int (tenTo (2 * n))).hasDouble = true ↔ n ≤ 154 := by
  constructor
  · intro h
    by_contra hn
    have hlarge : 2 ^ 1024 ≤ (tenTo (2 * n) : Int).natAbs := by
      calc 2 ^ 1024 = twoTo 1024 := by rw [Binary64.twoTo_eq]
        _ ≤ tenTo (2 * 155) := by decide +kernel
        _ ≤ tenTo (2 * n) := Binary64.tenTo_le_tenTo (by omega)
    rw [hasDouble, Binary64.isInf_ofInt hlarge] at h
    cases h
  · intro hn
    rcases Nat.lt_or_eq_of_le hn with h | rfl
    · apply hasDouble_int
      calc (tenTo (2 * n) : Int).natAbs ≤ tenTo (2 * 153) := Binary64.tenTo_le_tenTo (by omega)
        _ < twoTo 1023 := by decide +kernel
        _ = 2 ^ 1023 := Binary64.twoTo_eq _
    · decide +kernel

theorem float_div_int (x : Float) (n : Int) :
    (float x).div (int n) =
      (int n).toFloat >>= fun y => if y == 0 then fail .zeroDivision else .ok (x / y) := rfl

theorem div_tenTo (x : Float) (n : Nat) :
    (float x).div (int (tenTo (2 * n))) =
      if n ≤ 154 then .ok (x / Binary64.ofInt (tenTo (2 * n))) else fail .overflow := by
  rw [float_div_int]
  by_cases hn : n ≤ 154
  · have hne : (tenTo (2 * n) : Int) ≠ 0 := Int.natCast_ne_zero.mpr (tenTo_pos _).ne'
    rw [toFloat_int_of_hasDouble ((hasDouble_tenTo_iff n).mpr hn), Outcome.ok_bind,
      Binary64.ofInt_beq_zero hne, if_pos hn]
    rfl
  · have hd : (int (tenTo (2 * n))).hasDouble = false := by
      rwa [← Bool.not_eq_true, hasDouble_tenTo_iff]
    rw [toFloat_of_not_hasDouble hd, if_neg hn]
    rfl

end Number

namespace Numeral

open Text

/-- The point before the fraction and the comma between groups. -/
def Convention.pointed (strict : Bool) : Convention := ⟨['.'], [','], strict⟩

/-- A text without its commas. -/
def withoutCommas (text : List Char) : List Char := text.filter (· != ',')

/-- The text before the point, or all of it if there is none. -/
def beforePoint (text : List Char) : List Char := text.takeWhile (· != '.')

/-- The text from the point on. -/
def fromPoint (text : List Char) : List Char := text.dropWhile (· != '.')

/-- A plain numeral with commas in it, none of them behind the point, and around groups where these
are checked. -/
structure Separated (strict : Bool) (p : Plain) (text : List Char) : Prop where
  plain : PlainNumeral p (withoutCommas text)
  not_mem_fromPoint : ',' ∉ fromPoint text
  grouped : strict = true → ',' ∈ text → isGrouped [','] (beforeExponent (beforePoint text)) = true

namespace Plain

/-- Whether a numeral has neither point nor exponent. -/
def isWhole (p : Plain) : Bool := !p.point && p.exponent.isNone

/-- The double nearest to the exact value of a numeral. -/
def nearest (p : Plain) : Float :=
  Binary64.ofRatio false
    (digitsValue (p.whole ++ p.fraction) * tenTo (p.exponentValue - p.fraction.length).toNat)
    (tenTo (p.fraction.length - p.exponentValue).toNat)

/-- The value of a numeral with percent signs after it. -/
def unsigned (p : Plain) (percents : Nat) : Number :=
  if percents = 0 then if p.isWhole then .int (digitsValue p.whole) else .float p.nearest
  else .float (p.nearest / Binary64.ofInt (tenTo (2 * percents)))

/-- Whether a numeral is an exact whole number with more digits than are read. -/
def isTooLong (p : Plain) (percents : Nat) : Bool :=
  percents == 0 && p.isWhole && Number.digitLimit < p.whole.length

/-- The value of a numeral with percent signs after it, where it can be read. -/
def number (p : Plain) (percents : Nat) : Except Flaw Number :=
  if p.isTooLong percents then .error (.tooManyDigits p.whole.length)
  else if percents ≤ 154 then .ok (p.unsigned percents)
  else .error .tooManyPercents

theorem number_eq_ok_iff {p : Plain} {percents : Nat} {n : Number} :
    p.number percents = .ok n ↔
      p.isTooLong percents = false ∧ percents ≤ 154 ∧ n = p.unsigned percents := by
  unfold number
  split_ifs with hlong hn
  · simp [hlong]
  · simp [hlong, hn, eq_comm]
  · simp [hn]

theorem number_eq_tooManyPercents_iff {p : Plain} {percents : Nat} :
    p.number percents = .error .tooManyPercents ↔ 154 < percents := by
  unfold number
  split_ifs with hlong hn
  · have hzero : percents = 0 := by
      unfold isTooLong at hlong
      simp only [Bool.and_eq_true, beq_iff_eq] at hlong
      exact hlong.1.1
    simp [hzero]
  · simpa using hn
  · simpa using hn

theorem toFloat_eq_nearest (p : Plain) : p.toFloat = p.nearest := by
  rw [toFloat, Binary64.ofDecimal_eq_ofRatio, Int.neg_sub, nearest]

end Plain

theorem beforePoint_append_fromPoint (text : List Char) : beforePoint text ++ fromPoint text = text :=
  List.takeWhile_append_dropWhile

theorem fromPoint_eq_cons {text : List Char} (h : '.' ∈ text) :
    fromPoint text = '.' :: (fromPoint text).tail := by
  have hhead : ∀ c ∈ (fromPoint text).head?, (c != '.') = false := head?_dropWhile (· != '.') text
  cases hfrom : fromPoint text with
  | nil => simpa using List.dropWhile_eq_nil_iff.mp hfrom '.' h
  | cons c rest =>
    rw [hfrom] at hhead
    rw [show c = '.' by simpa using hhead c rfl]
    rfl

theorem fromPoint_eq_nil {text : List Char} (h : '.' ∉ text) : fromPoint text = [] := by
  apply List.dropWhile_eq_nil_iff.mpr
  intro c hc
  simpa using fun he : c = '.' => h (he ▸ hc)

theorem withoutCommas_eq_self {text : List Char} (h : ',' ∉ text) : withoutCommas text = text :=
  List.filter_eq_self.mpr fun c hc => by simpa using fun he : c = ',' => h (he ▸ hc)

theorem withoutCommas_append (s t : List Char) :
    withoutCommas (s ++ t) = withoutCommas s ++ withoutCommas t :=
  List.filter_append ..

theorem withoutGroups_comma (strict : Bool) (whole fraction : List Char) :
    withoutGroups (.pointed strict) whole fraction =
      if ',' ∈ fraction then .error .groupAfterDecimal
      else if (strict && decide (',' ∈ whole) && !isGrouped [','] (beforeExponent whole)) = true then
        .error .misplacedGroup
      else .ok (withoutCommas whole) := by
  have hc : (Convention.pointed strict).group = [','] := rfl
  have hs : (Convention.pointed strict).strict = strict := rfl
  unfold withoutGroups
  dsimp only
  rw [hc, hs, occursIn_singleton, occursIn_singleton, eraseAll_singleton]
  by_cases hmem : ',' ∈ whole
  · cases strict <;> simp [hmem, withoutCommas]
  · simp [hmem, withoutCommas_eq_self hmem]

/-- An unsigned text is cleared of its commas, if they stand where they may, and read. -/
theorem unsignedNumber_pointed (strict : Bool) (percents : Nat) (text : List Char) :
    unsignedNumber (.pointed strict) percents text =
      if ',' ∈ fromPoint text then .error .groupAfterDecimal
      else if (strict && decide (',' ∈ text) &&
          !isGrouped [','] (beforeExponent (beforePoint text))) = true then .error .misplacedGroup
      else plainNumber (decide ('.' ∈ text) || decide (0 < percents)) (withoutCommas text) >>=
        dividePercents percents := by
  have hd : (Convention.pointed strict).decimal = ['.'] := rfl
  unfold unsignedNumber
  rw [hd, splitAtFirst_singleton]
  -- only with a point is the body put together again, and read as a double
  by_cases hp : '.' ∈ text
  · rw [if_pos hp]
    show withoutGroups _ (beforePoint text) (fromPoint text).tail >>= (fun whole =>
      plainNumber true (whole ++ '.' :: (fromPoint text).tail) >>= dividePercents percents) = _
    have hfrom := fromPoint_eq_cons hp
    have hmem : ',' ∈ (fromPoint text).tail ↔ ',' ∈ fromPoint text := by
      rw [hfrom]
      simp
    rw [withoutGroups_comma]
    simp only [hmem]
    by_cases hc : ',' ∈ fromPoint text
    · rw [if_pos hc, if_pos hc]
      rfl
    · have hbefore : ',' ∈ text ↔ ',' ∈ beforePoint text := by
        conv_lhs => rw [← beforePoint_append_fromPoint text]
        rw [List.mem_append, or_iff_left hc]
      have hclear : withoutCommas text = withoutCommas (beforePoint text) ++ fromPoint text := by
        conv_lhs => rw [← beforePoint_append_fromPoint text]
        rw [withoutCommas_append, withoutCommas_eq_self hc]
      rw [if_neg hc, if_neg hc, hclear, hfrom, decide_eq_true hp]
      simp only [hbefore]
      split <;> rfl
  · rw [if_neg hp]
    show withoutGroups _ text [] >>= (fun whole =>
      plainNumber (decide (0 < percents)) whole >>= dividePercents percents) = _
    have hbefore : beforePoint text = text := by
      have h := beforePoint_append_fromPoint text
      rwa [fromPoint_eq_nil hp, List.append_nil] at h
    rw [withoutGroups_comma, fromPoint_eq_nil hp, hbefore, decide_eq_false hp]
    simp only [List.not_mem_nil, if_false]
    split <;> rfl

theorem dividePercents_float (x : Float) (percents : Nat) :
    dividePercents percents (.float x) =
      if percents = 0 then .ok (.float x)
      else if percents ≤ 154 then .ok (.float (x / Binary64.ofInt (tenTo (2 * percents))))
      else .error .tooManyPercents := by
  unfold dividePercents
  rw [Number.div_tenTo]
  by_cases hn : percents ≤ 154 <;> simp [hn, fail]

theorem plainNumber_eq_number {p : Plain} {body : List Char} (h : PlainNumeral p body)
    (percents : Nat) :
    plainNumber (decide ('.' ∈ body) || decide (0 < percents)) body >>= dividePercents percents =
      p.number percents := by
  unfold plainNumber Plain.number Plain.unsigned Plain.isTooLong Plain.isWhole
  rw [readPlain_eq_some_iff.mpr h, ← h.point_eq, ← p.toFloat_eq_nearest]
  dsimp only
  by_cases hn : percents = 0
  · subst hn
    -- without percent signs only a numeral without point and exponent is whole
    cases p.point with
    | true => cases p.exponent <;> rfl
    | false =>
      cases p.exponent with
      | some e => rfl
      | none =>
        by_cases hlimit : Number.digitLimit < p.whole.length
        · simp only [hlimit]
          rfl
        · simp only [hlimit]
          rfl
  · have hpos : decide (0 < percents) = true := by simpa using Nat.pos_of_ne_zero hn
    have hzero : (percents == 0) = false := by simpa using hn
    rw [hpos, Bool.or_true, Bool.true_or, if_pos rfl, hzero, if_neg hn]
    exact (dividePercents_float _ _).trans (if_neg hn)

/-- A plain numeral with commas in it is read as its number. -/
theorem unsignedNumber_of_separated {strict : Bool} {p : Plain} {text : List Char}
    (h : Separated strict p text) (percents : Nat) :
    unsignedNumber (.pointed strict) percents text = p.number percents := by
  have hpoint : '.' ∈ withoutCommas text ↔ '.' ∈ text := by simp [withoutCommas]
  have hgroups : ¬ (strict && decide (',' ∈ text) &&
      !isGrouped [','] (beforeExponent (beforePoint text))) = true := by
    rw [Bool.and_eq_true, Bool.and_eq_true, decide_eq_true_eq, Bool.not_eq_true']
    rintro ⟨⟨hs, hc⟩, hg⟩
    rw [h.grouped hs hc] at hg
    cases hg
  rw [unsignedNumber_pointed, if_neg h.not_mem_fromPoint, if_neg hgroups,
    ← plainNumber_eq_number h.plain]
  simp only [hpoint]

/-- A text that is no plain numeral with commas in it has a flaw, and never one of too many percent
signs. -/
theorem exists_flaw_of_not_separated {strict : Bool} {text : List Char}
    (h : ∀ p, ¬ Separated strict p text) (percents : Nat) :
    ∃ flaw, unsignedNumber (.pointed strict) percents text = .error flaw ∧
      flaw ≠ .tooManyPercents := by
  rw [unsignedNumber_pointed]
  split_ifs with hfrom hgroups
  · exact ⟨_, rfl, by decide⟩
  · exact ⟨_, rfl, by decide⟩
  · have hread : readPlain (withoutCommas text) = none := by
      rw [Option.eq_none_iff_forall_ne_some]
      intro p hp
      apply h p
      refine ⟨readPlain_eq_some_iff.mp hp, hfrom, fun hs hc => ?_⟩
      simpa [hs, hc] using hgroups
    refine ⟨.notNumeral, ?_, by decide⟩
    rw [plainNumber, hread]
    rfl

end Numeral

end SheetFormulas
