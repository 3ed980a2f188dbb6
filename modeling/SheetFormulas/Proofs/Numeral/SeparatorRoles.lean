import SheetFormulas.Proofs.Catalog.Call
import SheetFormulas.Proofs.Numeral.GivenSeparators
import SheetFormulas.Proofs.Value.TextNumber

/-!
Separators are roles. A text is recast by writing a point for its decimal separator, a comma for its
group separator and a number sign for other points and commas. With the point and the comma as
separators the recast text is read as the text is with its own, apart from numerals with a point
that is no separator: with percent signs or an exponent they are read all the same.
-/

namespace SheetFormulas

open Text

namespace Numeral

/-- Whether a character can separate: it is no digit, no blank and no other mark of a numeral. -/
structure IsSeparator (c : Char) : Prop where
  isDigit : isDigit c = false
  isBlank : isBlank c = false
  not_mark : c ∉ ['(', ')', '%', '$', '+', '-', 'e', 'E']

/-- The point for the decimal separator, the comma for the group separator, and no separator for a
point or a comma that is none. -/
def recast (decimal group c : Char) : Char :=
  if c = decimal then '.' else if c = group then ',' else if c = '.' ∨ c = ',' then '#' else c

/-- A plain numeral, apart from group separators, with a point that is no separator but is read as
one, since percent signs or an exponent make the number a double. -/
structure StrayPoint (decimal group : Char) (percents : Nat) (p : Plain) (core : List Char) :
    Prop where
  decimal_ne : decimal ≠ '.'
  plain : PlainNumeral p (without group core)
  point : p.point = true
  double : 0 < percents ∨ p.exponent.isSome = true

section

variable {decimal group : Char}

theorem PlainNumeral.not_mem_of_isSeparator {p : Plain} {text : List Char} {c : Char}
    (h : PlainNumeral p text) (hc : IsSeparator c) (hp : c ≠ '.') : c ∉ text := by
  intro hmem
  rcases h.of_mem c hmem with hdigit | hmark
  · exact ne_of_isDigit hdigit hc.isDigit rfl
  · have hnot := hc.not_mark
    simp only [List.mem_cons, List.not_mem_nil, or_false, not_or] at hmark hnot
    tauto

theorem isSeparator_comma : IsSeparator ',' := ⟨by decide, by decide, by decide⟩

theorem isSeparator_hash : IsSeparator '#' := ⟨by decide, by decide, by decide⟩

/-- The point of a plain numeral stands once. -/
theorem PlainNumeral.not_mem_around {p : Plain} {before after : List Char}
    (h : PlainNumeral p (before ++ '.' :: after)) : '.' ∉ before ∧ '.' ∉ after := by
  have hcount : (before ++ '.' :: after).count '.' ≤ 1 := by
    generalize before ++ '.' :: after = text at h
    cases h with
    | whole hne hd he =>
      have hdigits := hd.not_mem (d := '.') (by decide)
      have hexponent := he.not_mem (d := '.') (by decide) (by decide)
      rw [List.count_eq_zero_of_not_mem (by simp [hdigits, hexponent])]
      exact Nat.zero_le _
    | pointed hd hf hne he =>
      rw [List.count_append, List.count_cons_self, List.count_append,
        List.count_eq_zero_of_not_mem (hd.not_mem (by decide)),
        List.count_eq_zero_of_not_mem (hf.not_mem (by decide)),
        List.count_eq_zero_of_not_mem (he.not_mem (by decide) (by decide))]
  rw [List.count_append, List.count_cons_self] at hcount
  exact ⟨List.count_eq_zero.mp (by omega), List.count_eq_zero.mp (by omega)⟩

/-- Beside its point a plain numeral has no other and no separator. -/
theorem not_plain_of_around {before after : List Char} {c : Char} (hmem : c ∈ before ∨ c ∈ after)
    (hc : c = '.' ∨ IsSeparator c) (p : Plain) : ¬ PlainNumeral p (before ++ '.' :: after) := by
  intro hp
  obtain ⟨hbefore, hafter⟩ := hp.not_mem_around
  by_cases hpoint : c = '.'
  · rw [hpoint] at hmem
    exact hmem.elim hbefore hafter
  · apply hp.not_mem_of_isSeparator (hc.resolve_left hpoint) hpoint
    rw [List.mem_append, List.mem_cons]
    exact hmem.imp_right .inr

theorem recast_decimal : recast decimal group decimal = '.' := if_pos rfl

theorem recast_point_eq {c : Char} : recast decimal group c = '.' ↔ c = decimal := by
  unfold recast
  split_ifs with h h' h'' <;> simp_all

theorem recast_comma_eq (h : decimal ≠ group) {c : Char} :
    recast decimal group c = ',' ↔ c = group := by
  unfold recast
  split_ifs with h h' h'' <;> simp_all

/-- Every point of a recast text stands for the decimal separator. -/
theorem point_not_mem_recast {text : List Char} (h : decimal ∉ text) :
    '.' ∉ text.map (recast decimal group) := by
  rw [List.mem_map]
  rintro ⟨c, hc, hpoint⟩
  exact h (recast_point_eq.mp hpoint ▸ hc)

/-- Only separators, points and commas are exchanged. -/
theorem recast_ne_self {c : Char} (h : recast decimal group c ≠ c) :
    c = decimal ∨ c = group ∨ (c = '.' ∨ c = ',') ∧ recast decimal group c = '#' := by
  unfold recast at h ⊢
  split_ifs at h ⊢ with h₁ h₂ h₃ <;> simp_all

theorem keepsMarks_recast (hd : IsSeparator decimal) (hg : IsSeparator group) :
    KeepsMarks (recast decimal group) where
  isBlank c := by
    have hpoint : isBlank '.' = false := by decide
    have hcomma : isBlank ',' = false := by decide
    have hhash : isBlank '#' = false := by decide
    unfold recast
    split_ifs with h h' h''
    · rw [h, hd.isBlank, hpoint]
    · rw [h', hg.isBlank, hcomma]
    · rcases h'' with rfl | rfl
      · rw [hhash, hpoint]
      · rw [hhash, hcomma]
    · rfl
  eq_iff m hm c := by
    have hpoint : m ≠ '.' := by rintro rfl; revert hm; decide
    have hcomma : m ≠ ',' := by rintro rfl; revert hm; decide
    have hhash : m ≠ '#' := by rintro rfl; revert hm; decide
    have hdecimal : m ≠ decimal := by
      rintro rfl
      exact hd.not_mark (List.mem_append_left ['e', 'E'] hm)
    have hgroup : m ≠ group := by
      rintro rfl
      exact hg.not_mark (List.mem_append_left ['e', 'E'] hm)
    unfold recast
    split_ifs with h h' h'' <;> grind

theorem without_map (hne : decimal ≠ group) (text : List Char) :
    without ',' (text.map (recast decimal group)) =
      (without group text).map (recast decimal group) := by
  have hkept : (fun c => c != ',') ∘ recast decimal group = fun c => c != group :=
    funext fun c => congrArg not (Bool.eq_iff_iff.mpr (by simpa using recast_comma_eq hne))
  rw [without, List.filter_map, hkept, without]

theorem not_mem_without (c : Char) (text : List Char) : c ∉ without c text := by
  simp [without]

theorem exists_recast_ne {text : List Char} (h : text.map (recast decimal group) ≠ text) :
    ∃ c ∈ text, recast decimal group c ≠ c := by
  by_contra hfixed
  push Not at hfixed
  have hid := List.map_congr_left (g := id) hfixed
  rw [List.map_id] at hid
  exact h hid

variable {percents : Nat} {core : List Char}

/-- With the decimal separator in a text, every other point is one too many. -/
theorem agree_of_append (hd : IsSeparator decimal) (hne : decimal ≠ group)
    {before after : List Char} (h : decimal ∉ before) :
    Agree (unsignedNumber (.given decimal group) percents (before ++ decimal :: after))
      (unsignedNumber (.given '.' ',') percents
        ((before ++ decimal :: after).map (recast decimal group))) := by
  have hafter : ',' ∈ after.map (recast decimal group) ↔ group ∈ after := by
    simp [recast_comma_eq hne]
  rw [List.map_append, List.map_cons, recast_decimal, unsignedNumber_given_of_append h,
    unsignedNumber_given_of_append (point_not_mem_recast h), without_map hne]
  simp only [hafter]
  by_cases hgroup : group ∈ after
  · rw [if_pos hgroup, if_pos hgroup]
    exact .same _
  rw [if_neg hgroup, if_neg hgroup]
  have hwhole := not_mem_without group before
  generalize without group before = whole at hwhole ⊢
  by_cases hfixed : (whole ++ after).map (recast decimal group) = whole ++ after
  · rw [List.map_append] at hfixed
    obtain ⟨hw, ha⟩ := List.append_inj hfixed (List.length_map _)
    rw [hw, ha]
    exact .same _
  · obtain ⟨c, hc, hchanged⟩ := exists_recast_ne hfixed
    have haround := List.mem_append.mp hc
    have himage := haround.imp (List.mem_map_of_mem (f := recast decimal group))
      (List.mem_map_of_mem (f := recast decimal group))
    have hgroup' : c ≠ group := by
      rintro rfl
      exact haround.elim hwhole hgroup
    have hcase := (recast_ne_self hchanged).imp_right (Or.resolve_left · hgroup')
    -- neither text is a numeral: the character makes a second point, or belongs to no numeral
    have hleft := not_plain_of_around haround <| by
      rcases hcase with rfl | ⟨rfl | rfl, -⟩
      · exact .inr hd
      · exact .inl rfl
      · exact .inr isSeparator_comma
    have hright := not_plain_of_around himage <| by
      rcases hcase with rfl | ⟨-, hhash⟩
      · exact .inl recast_decimal
      · exact .inr (hhash ▸ isSeparator_hash)
    rw [plainNumber_of_not_plain hleft, plainNumber_of_not_plain hright]
    exact .same _

/-- The recast text of one without decimal separator but with another point has a flaw. -/
theorem unsignedNumber_recast_of_hash (hne : decimal ≠ group) (h : decimal ∉ core)
    (hhash : '#' ∈ (without group core).map (recast decimal group)) :
    unsignedNumber (.given '.' ',') percents (core.map (recast decimal group)) =
      .error .notNumeral := by
  have hplain : ∀ p, ¬ PlainNumeral p ((without group core).map (recast decimal group)) :=
    fun p hp => hp.not_mem_of_isSeparator isSeparator_hash (by decide) hhash
  rw [unsignedNumber_given_of_not_mem (point_not_mem_recast h), without_map hne,
    plainNumber_of_not_plain hplain]
  rfl

/-- Without the decimal separator in a text, a point that is none is a flaw, unless a double is
read. -/
theorem agree_of_not_mem (hne : decimal ≠ group) (h : decimal ∉ core)
    (hstray : ∀ p, ¬ StrayPoint decimal group percents p core) :
    Agree (unsignedNumber (.given decimal group) percents core)
      (unsignedNumber (.given '.' ',') percents (core.map (recast decimal group))) := by
  have hkept : decimal ∉ without group core := fun hmem => h (List.mem_of_mem_filter hmem)
  by_cases hfixed : (without group core).map (recast decimal group) = without group core
  · rw [unsignedNumber_given_of_not_mem h,
      unsignedNumber_given_of_not_mem (point_not_mem_recast h), without_map hne, hfixed]
    exact .same _
  · obtain ⟨c, hc, hchanged⟩ := exists_recast_ne hfixed
    have hdecimal : c ≠ decimal := fun he => hkept (he ▸ hc)
    have hgroup : c ≠ group := fun he => not_mem_without group core (he ▸ hc)
    obtain ⟨hcase, hhash⟩ :=
      ((recast_ne_self hchanged).resolve_left hdecimal).resolve_left hgroup
    rw [unsignedNumber_recast_of_hash hne h (List.mem_map.mpr ⟨c, hc, hhash⟩),
      unsignedNumber_given_of_not_mem h]
    by_cases hplain : ∃ p, PlainNumeral p (without group core)
    · obtain ⟨p, hp⟩ := hplain
      have hpoint : c = '.' := hcase.resolve_right fun hcomma =>
        hp.not_mem_of_isSeparator isSeparator_comma (by decide) (hcomma ▸ hc)
      have hp' : p.point = true := by
        rw [hp.point_eq, decide_eq_true_eq, ← hpoint]
        exact hc
      have hwhole : ¬ (decide (0 < percents) || p.exponent.isSome) = true := by
        intro hdouble
        refine hstray p ⟨fun hd => hdecimal (hpoint.trans hd.symm), hp, hp', ?_⟩
        simpa using hdouble
      rw [plainNumber_of_point hp hp', if_neg hwhole]
      exact .flawed (by simp) (by simp)
    · rw [plainNumber_of_not_plain (not_exists.mp hplain)]
      exact .same _

namespace StrayPoint

variable {p : Plain}

theorem not_mem (h : StrayPoint decimal group percents p core) (hd : IsSeparator decimal)
    (hne : decimal ≠ group) : decimal ∉ core := by
  intro hmem
  refine h.plain.not_mem_of_isSeparator hd h.decimal_ne (List.mem_filter.mpr ⟨hmem, ?_⟩)
  simpa using hne

theorem point_mem (h : StrayPoint decimal group percents p core) : '.' ∈ without group core := by
  have hpoint := h.plain.point_eq
  rwa [h.point, eq_comm, decide_eq_true_eq] at hpoint

/-- A stray point is read as a decimal separator. -/
theorem unsignedNumber_eq (h : StrayPoint decimal group percents p core) (hd : IsSeparator decimal)
    (hne : decimal ≠ group) :
    unsignedNumber (.given decimal group) percents core = p.number percents := by
  have hdouble : (decide (0 < percents) || p.exponent.isSome) = true := by
    simpa using h.double
  rw [unsignedNumber_given_of_not_mem (h.not_mem hd hne), plainNumber_of_point h.plain h.point,
    if_pos hdouble]
  exact Plain.number_of_point h.point percents

theorem unsignedNumber_recast_eq (h : StrayPoint decimal group percents p core)
    (hd : IsSeparator decimal) (hne : decimal ≠ group) :
    unsignedNumber (.given '.' ',') percents (core.map (recast decimal group)) =
      .error .notNumeral := by
  refine unsignedNumber_recast_of_hash hne (h.not_mem hd hne)
    (List.mem_map.mpr ⟨_, h.point_mem, ?_⟩)
  have hgroup : '.' ≠ group := fun he => not_mem_without group core (he ▸ h.point_mem)
  rw [recast, if_neg h.decimal_ne.symm, if_neg hgroup, if_pos (.inl rfl)]

/-- Nothing can be peeled off a numeral with a stray point. -/
theorem solid (h : StrayPoint decimal group percents p core) (hg : IsSeparator group) :
    Solid core := by
  have hmem : ∀ c ∈ core, isDigit c = true ∨ c ∈ ['.', 'e', 'E', '+', '-'] ∨ c = group := by
    intro c hc
    by_cases hgroup : c = group
    · exact .inr (.inr hgroup)
    · exact (h.plain.of_mem c (List.mem_filter.mpr ⟨hc, by simpa using hgroup⟩)).imp_right .inl
  have hgroup := hg.not_mark
  simp only [List.mem_cons, List.not_mem_nil, or_false, not_or] at hgroup
  refine ⟨?_, fun c hc => ?_, fun c hc => ?_⟩
  · rintro rfl
    exact absurd h.point_mem List.not_mem_nil
  · obtain ⟨rest, rfl⟩ := List.head?_eq_some_iff.mp hc
    by_cases hfirst : c = group
    · subst hfirst
      exact ⟨hg.isBlank, hgroup.2.2.2.2.1, hgroup.2.2.2.2.2.1, hgroup.2.2.2.1, hgroup.1⟩
    · obtain ⟨d, hd, hd'⟩ := h.plain.head?_eq
      rw [without, List.filter_cons_of_pos (by simpa using hfirst)] at hd
      cases hd
      rcases hd' with hdigit | rfl
      · exact ⟨isBlank_of_isDigit hdigit, ne_of_isDigit hdigit (by decide),
          ne_of_isDigit hdigit (by decide), ne_of_isDigit hdigit (by decide),
          ne_of_isDigit hdigit (by decide)⟩
      · decide
  · rcases hmem c (List.mem_of_mem_getLast? hc) with hdigit | hmark | rfl
    · rw [isPercentOrBlank, isBlank_of_isDigit hdigit, Bool.or_false, beq_eq_false_iff_ne]
      exact ne_of_isDigit hdigit (by decide)
    · have hmarks : ['.', 'e', 'E', '+', '-'].all (!isPercentOrBlank ·) = true := by decide
      simpa using List.all_eq_true.mp hmarks c hmark
    · rw [isPercentOrBlank, hg.isBlank, Bool.or_false, beq_eq_false_iff_ne]
      exact hgroup.2.2.1

end StrayPoint

/-- A numeral with a stray point in a frame. -/
inductive WithStrayPoint (decimal group : Char) : Bool → Nat → Plain → List Char → Prop
  | intro {negative : Bool} {percents : Nat} {core text : List Char} {p : Plain}
      (hf : Framed negative percents core (visible false text))
      (hs : StrayPoint decimal group percents p core) :
      WithStrayPoint decimal group negative percents p text

variable {text : List Char}

theorem WithStrayPoint.point {negative : Bool} {p : Plain}
    (h : WithStrayPoint decimal group negative percents p text) : p.point = true := by
  cases h with
  | intro _ hs => exact hs.point

theorem read_given (text : List Char) :
    read (.given decimal group) text =
      if trim (visible false text) = [] then .error .empty
      else
        (unsignedNumber (.given decimal group) (peel (trim (visible false text))).2.1
          (peel (trim (visible false text))).2.2).map
            (signed (peel (trim (visible false text))).1) :=
  read_eq_peel (.given decimal group) text

theorem read_recast (hd : IsSeparator decimal) (hg : IsSeparator group) (text : List Char) :
    read (.given '.' ',') (text.map (recast decimal group)) =
      if trim (visible false text) = [] then .error .empty
      else
        (unsignedNumber (.given '.' ',') (peel (trim (visible false text))).2.1
          ((peel (trim (visible false text))).2.2.map (recast decimal group))).map
            (signed (peel (trim (visible false text))).1) := by
  have hf := keepsMarks_recast hd hg
  rw [read_given, hf.visible_map, hf.trim_map, hf.peel_map]
  simp only [List.map_eq_nil_iff]

theorem agree_read (hd : IsSeparator decimal) (hg : IsSeparator group) (hne : decimal ≠ group)
    (hstray : ∀ negative percents p, ¬ WithStrayPoint decimal group negative percents p text) :
    Agree (read (.given decimal group) text)
      (read (.given '.' ',') (text.map (recast decimal group))) := by
  rw [read_given, read_recast hd hg]
  by_cases hempty : trim (visible false text) = []
  · rw [if_pos hempty, if_pos hempty]
    exact .same _
  · rw [if_neg hempty, if_neg hempty]
    apply Agree.map
    have hf := framed_peel (visible false text)
    generalize peel (trim (visible false text)) = peeled at hf ⊢
    by_cases hmem : decimal ∈ peeled.2.2
    · obtain ⟨before, after, hsplit, hbefore⟩ := List.eq_append_cons_of_mem hmem
      rw [hsplit]
      exact agree_of_append hd hne hbefore
    · exact agree_of_not_mem hne hmem fun p hs => hstray _ _ p (.intro hf hs)

theorem read_of_withStrayPoint (hd : IsSeparator decimal) (hg : IsSeparator group)
    (hne : decimal ≠ group) {negative : Bool} {p : Plain}
    (h : WithStrayPoint decimal group negative percents p text) :
    trim (visible false text) ≠ [] ∧
      read (.given decimal group) text = (p.number percents).map (signed negative) ∧
      read (.given '.' ',') (text.map (recast decimal group)) = .error .notNumeral := by
  cases h with
  | intro hf hs =>
    obtain ⟨hempty, hpeel⟩ := (framed_iff (hs.solid hg)).mp hf
    rw [read_given, read_recast hd hg, if_neg hempty, if_neg hempty, hpeel,
      hs.unsignedNumber_eq hd hne, hs.unsignedNumber_recast_eq hd hne]
    exact ⟨hempty, rfl, rfl⟩

end

end Numeral

namespace Aggregate

open Numeral

/-- What a reading of a text answers. -/
def answerOf : Except Flaw Number → Outcome Value
  | .ok n => .ok (.number n)
  | .error .tooManyPercents => fail .overflow
  | .error _ => .ok (.error .badValue)

theorem answer_numberOfText (convention : Convention) (t : String) :
    Value.answer (.number <$> numberOfText convention t) = answerOf (read convention t.toList) := by
  unfold numberOfText
  cases read convention t.toList with
  | ok n => rfl
  | error flaw => cases flaw <;> rfl

theorem answerOf_flaw {flaw : Flaw} (h : flaw ≠ .tooManyPercents) :
    answerOf (.error flaw) = .ok (.error .badValue) := by
  cases flaw <;> first | rfl | exact absurd rfl h

theorem answerOf_number {p : Plain} (hp : p.point = true) (negative : Bool) (percents : Nat) :
    answerOf ((p.number percents).map (signed negative)) =
      if percents ≤ 154 then .ok (.number (signed negative (p.unsigned percents)))
      else fail .overflow := by
  have hlong : p.isTooLong percents = false := by
    rw [Plain.isTooLong, Plain.isWhole, hp, Bool.not_true, Bool.false_and, Bool.and_false,
      Bool.false_and]
  rw [Plain.number, hlong, if_neg Bool.false_ne_true]
  split <;> rfl

theorem answerOf_eq_of_agree {x y : Except Flaw Number} (h : Agree x y) :
    answerOf x = answerOf y := by
  cases h with
  | same => rfl
  | flawed h h' => rw [answerOf_flaw h, answerOf_flaw h']

theorem answer_numberValue_given {decimal group : Char} (hne : decimal ≠ group) (text : List Char) :
    Value.answer (.number <$> numberValue (.text (String.ofList text))
        (.text (String.ofList [decimal])) (.text (String.ofList [group]))) =
      if trim text = [] then .ok (.ofNat 0) else answerOf (read (.given decimal group) text) := by
  have hvalue : numberValue (.text (String.ofList text)) (.text (String.ofList [decimal]))
      (.text (String.ofList [group])) =
        if [decimal].isEmpty = true ∨ [decimal] = [group] then refuseCoercion .equalSeparators
        else if (trim text).isEmpty then .ok (.int 0)
        else numberOfText (.given decimal group) (String.ofList text) := by
    unfold numberValue
    simp only [Value.toText, Outcome.ok_bind, String.toList_ofList, List.take_succ_cons,
      List.take_zero]
    rfl
  rw [hvalue, if_neg (by simpa using hne)]
  by_cases hempty : trim text = []
  · rw [if_pos (List.isEmpty_iff.mpr hempty), if_pos hempty]
    rfl
  · rw [if_neg (fun h => hempty (List.isEmpty_iff.mp h)), if_neg hempty, answer_numberOfText,
      String.toList_ofList]

theorem numberValue_call_yields {context : Context} {decimal group : Char} (hne : decimal ≠ group)
    (text : List Char) :
    (Catalog.standard.call context "NUMBERVALUE" [.text (String.ofList text),
      .text (String.ofList [decimal]), .text (String.ofList [group])] []).Yields
        (if trim text = [] then .ok (.ofNat 0)
          else answerOf (read (.given decimal group) text)) [] := by
  rw [← answer_numberValue_given hne]
  exact Catalog.standard_call_yields_answer rfl rfl rfl rfl

/-- A call with separators answers as the call with the recast text, the point and the comma does,
unless the text is a numeral with a stray point in a frame. Then the recast text is no number, and
the call answers with the number that the stray point makes as a decimal separator, or overflows for
too many percent signs. No recast text with a point that is no separator is a number. -/
theorem separators_are_roles_unless_stray_point (context : Context) {decimal group : Char}
    (hd : IsSeparator decimal) (hg : IsSeparator group) (hne : decimal ≠ group)
    (text : List Char) :
    ∃ outcome recastOutcome,
      (Catalog.standard.call context "NUMBERVALUE" [.text (String.ofList text),
        .text (String.ofList [decimal]), .text (String.ofList [group])] []).Yields outcome [] ∧
      (Catalog.standard.call context "NUMBERVALUE"
        [.text (String.ofList (text.map (recast decimal group))), .text ".", .text ","] []).Yields
          recastOutcome [] ∧
      ((∀ negative percents p, ¬ WithStrayPoint decimal group negative percents p text) →
        outcome = recastOutcome) ∧
      (∀ negative percents p, WithStrayPoint decimal group negative percents p text →
        recastOutcome = .ok (.error .badValue) ∧
        outcome = if percents ≤ 154 then .ok (.number (signed negative (p.unsigned percents)))
          else fail .overflow) ∧
      ('.' ∈ text → decimal ≠ '.' → group ≠ '.' → recastOutcome = .ok (.error .badValue)) := by
  have htrim : trim (text.map (recast decimal group)) = [] ↔ trim text = [] := by
    rw [(keepsMarks_recast hd hg).trim_map, List.map_eq_nil_iff]
  refine ⟨_, _, numberValue_call_yields hne text,
    numberValue_call_yields (by decide) (text.map (recast decimal group)), ?_, ?_, ?_⟩
  · intro hstray
    simp only [htrim, answerOf_eq_of_agree (agree_read hd hg hne hstray)]
  · intro negative percents p h
    obtain ⟨hvisible, hread, hrecast⟩ := read_of_withStrayPoint hd hg hne h
    have hempty : trim text ≠ [] := mt (trim_visible_of_trim false) hvisible
    rw [if_neg (mt htrim.mp hempty), if_neg hempty, hrecast, hread, answerOf_number h.point]
    exact ⟨rfl, rfl⟩
  · intro hmem hdecimal hgroup
    have hrecast : recast decimal group '.' = '#' := by
      rw [recast, if_neg hdecimal.symm, if_neg hgroup.symm, if_pos (.inl rfl)]
    have hhash : '#' ∈ text.map (recast decimal group) := List.mem_map.mpr ⟨_, hmem, hrecast⟩
    have hnot : ∀ negative percents p, ¬ Written false negative percents p
        (text.map (recast decimal group)) :=
      fun _ _ _ => not_written_of_mem hhash (by decide) (by decide) (by decide)
    obtain ⟨flaw, hflaw, hne'⟩ := exists_flaw_of_not_written hnot
    rw [if_neg (trim_ne_nil_of_mem hhash (by decide)), ← answerOf_flaw hne', ← hflaw]
    rfl

/-- Where the comma is the decimal separator, a percent sign makes the point one too. -/
theorem separators_with_stray_point_and_percent :
    let context : Context := ⟨⟨⟨2024, 1, 15⟩, .midnight⟩, fun _ => fail .arguments⟩
    (Catalog.standard.call context "NUMBERVALUE" [.text "1.5%", .text ",", .text ";"] []).Yields
        (.ok (.number (.float (Binary64.ofRatio false 15 10 / Binary64.ofInt 100)))) [] ∧
      (Catalog.standard.call context "NUMBERVALUE" [.text "1#5%", .text ".", .text ","] []).Yields
        (.ok (.error .badValue)) [] := by
  intro context
  have hd : IsSeparator ',' := isSeparator_comma
  have hg : IsSeparator ';' := ⟨by decide, by decide, by decide⟩
  have hplain : PlainNumeral ⟨['1'], true, ['5'], none⟩ ['1', '.', '5'] :=
    readPlain_eq_some_iff.mp rfl
  have hframed : Framed false 1 ['1', '.', '5'] ['1', '.', '5', '%'] :=
    @Framed.plain _ _ _ _ [] [] isBlanks_nil isBlanks_nil
      (.intro .missing .missing (@Percents.more 0 [] [] isBlanks_nil .none))
  have hstray : WithStrayPoint ',' ';' false 1 ⟨['1'], true, ['5'], none⟩ ['1', '.', '5', '%'] :=
    .intro hframed ⟨by decide, hplain, rfl, .inl Nat.one_pos⟩
  obtain ⟨outcome, recastOutcome, hcall, hrecast, -, hboth, -⟩ :=
    separators_are_roles_unless_stray_point context hd hg (by decide) ['1', '.', '5', '%']
  obtain ⟨rfl, rfl⟩ := hboth _ _ _ hstray
  exact ⟨hcall, hrecast⟩

end Aggregate

end SheetFormulas
