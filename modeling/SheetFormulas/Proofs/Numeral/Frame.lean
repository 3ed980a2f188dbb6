import SheetFormulas.Numeral.Reader
import SheetFormulas.Proofs.Text.Pieces

/-!
What stands around an unsigned numeral: blanks, parentheses, signs, a currency mark and percent
signs. Peeling them off a text leaves a core that they frame, and a numeral is found again within
any frame.
-/

namespace SheetFormulas.Numeral

open Text

/-- A sign and the blanks after it, which may be missing; whether it is a minus sign. -/
inductive Sign : Bool → List Char → Prop
  | missing : Sign false []
  | plus {blanks : List Char} (hb : IsBlanks blanks) : Sign false ('+' :: blanks)
  | minus {blanks : List Char} (hb : IsBlanks blanks) : Sign true ('-' :: blanks)

/-- A currency mark with blanks and a sign after it, which may be missing; whether there is a minus
sign. -/
inductive Currency : Bool → List Char → Prop
  | missing : Currency false []
  | given {minus : Bool} {blanks sign : List Char} (hb : IsBlanks blanks) (hs : Sign minus sign) :
      Currency minus ('$' :: (blanks ++ sign))

/-- Percent signs, each with blanks before it. -/
inductive Percents : Nat → List Char → Prop
  | none : Percents 0 []
  | more {count : Nat} {blanks rest : List Char} (hb : IsBlanks blanks) (hr : Percents count rest) :
      Percents (count + 1) (blanks ++ '%' :: rest)

/-- A core with signs, a currency mark and percent signs. The signs say whether it is negated. -/
inductive Body : Bool → Nat → List Char → List Char → Prop
  | intro {minus minus' : Bool} {count : Nat} {sign currency core percents : List Char}
      (hs : Sign minus sign) (hc : Currency minus' currency) (hp : Percents count percents) :
      Body (minus != minus') count core (sign ++ (currency ++ (core ++ percents)))

/-- A body between blanks or, negated, between parentheses. -/
inductive Framed : Bool → Nat → List Char → List Char → Prop
  | plain {negative : Bool} {percents : Nat} {core body before after : List Char}
      (hb : IsBlanks before) (ha : IsBlanks after) (h : Body negative percents core body) :
      Framed negative percents core (before ++ body ++ after)
  | parenthesized {negative : Bool} {percents : Nat}
      {core body before after inner inner' : List Char} (hb : IsBlanks before) (ha : IsBlanks after)
      (hi : IsBlanks inner) (hi' : IsBlanks inner') (h : Body negative percents core body) :
      Framed (!negative) percents core
        (before ++ '(' :: (inner ++ body ++ inner' ++ [')']) ++ after)

/-- What is peeled off a body: whether it is negated, `negated` before its signs, the number of
percent signs, and the core that is left. -/
def peelBody (negated : Bool) (body : List Char) : Bool × Nat × List Char :=
  let (percents, text) := takePercents body
  let (negated, text) := takeSign negated text
  let (negated, core) := takeCurrency negated text
  (negated, percents, core)

/-- What is peeled off a text without blanks around it. -/
def peel (text : List Char) : Bool × Nat × List Char :=
  let (negated, body) := takeParentheses text
  peelBody negated body

/-- The text that is read: blanks count only where they are checked. -/
def visible (strict : Bool) (text : List Char) : List Char :=
  if strict then text else text.filter (!isBlank ·)

theorem trim_eq_self {text : List Char} (h : IsTrimmed text) : trim text = text := by
  by_cases hne : text = []
  · subst hne
    rfl
  · have htrim := trim_append isBlanks_nil isBlanks_nil h hne
    rwa [List.nil_append, List.append_nil] at htrim

theorem isTrimmed_filter_isBlank (text : List Char) : IsTrimmed (text.filter (!isBlank ·)) := by
  have hkept : ∀ c ∈ text.filter (!isBlank ·), isBlank c = false := fun c hc => by
    simpa using (List.mem_filter.mp hc).2
  exact ⟨fun c hc => hkept c (List.mem_of_mem_head? hc),
    fun c hc => hkept c (List.mem_of_mem_getLast? hc)⟩

theorem trim_visible (strict : Bool) (text : List Char) :
    (if strict then trim text else text.filter (!isBlank ·)) = trim (visible strict text) := by
  cases strict
  · exact (trim_eq_self (isTrimmed_filter_isBlank text)).symm
  · rfl

/-- A number, or its negation. -/
def signed (negative : Bool) (n : Number) : Number := if negative then n.neg else n

/-- Reading is peeling, and reading the core. -/
theorem read_eq_peel (convention : Convention) (text : List Char) :
    read convention text =
      if trim (visible convention.strict text) = [] then .error .empty
      else
        (unsignedNumber convention (peel (trim (visible convention.strict text))).2.1
          (peel (trim (visible convention.strict text))).2.2).map
            (signed (peel (trim (visible convention.strict text))).1) := by
  unfold read
  rw [trim_visible]
  generalize trim (visible convention.strict text) = text
  by_cases h : text = []
  · rw [if_pos h, if_pos (List.isEmpty_iff.mpr h)]
    rfl
  · rw [if_neg h, if_neg (fun he => h (List.isEmpty_iff.mp he))]
    unfold peel peelBody
    dsimp only
    generalize unsignedNumber convention _ _ = number
    cases number <;> rfl

/-! Peeling leaves a framed core. -/

theorem takeSign_spec (negative : Bool) (text : List Char) :
    ∃ minus sign, Sign minus sign ∧ text = sign ++ (takeSign negative text).2 ∧
      (takeSign negative text).1 = (negative != minus) := by
  unfold takeSign
  split
  · rename_i rest
    obtain ⟨blanks, hb, hrest⟩ := exists_trimLeft rest
    exact ⟨true, _, .minus hb, congrArg ('-' :: ·) hrest, by cases negative <;> rfl⟩
  · rename_i rest
    obtain ⟨blanks, hb, hrest⟩ := exists_trimLeft rest
    exact ⟨false, _, .plus hb, congrArg ('+' :: ·) hrest, by cases negative <;> rfl⟩
  · exact ⟨false, [], .missing, rfl, by cases negative <;> rfl⟩

theorem takeCurrency_spec (negative : Bool) (text : List Char) :
    ∃ minus currency, Currency minus currency ∧ text = currency ++ (takeCurrency negative text).2 ∧
      (takeCurrency negative text).1 = (negative != minus) := by
  unfold takeCurrency
  split
  · rename_i rest
    obtain ⟨blanks, hb, hrest⟩ := exists_trimLeft rest
    obtain ⟨minus, sign, hs, htext, hn⟩ := takeSign_spec negative (trimLeft rest)
    refine ⟨minus, _, .given hb hs, ?_, hn⟩
    rw [List.cons_append, List.append_assoc, ← htext, ← hrest]
  · exact ⟨false, [], .missing, rfl, by cases negative <;> rfl⟩

/-- A run of percent signs and blanks that ends with no blank. -/
theorem percents_of_run {run : List Char} (h : ∀ c ∈ run, isPercentOrBlank c = true)
    (hlast : ∀ c ∈ run.getLast?, isBlank c = false) : Percents (run.count '%') run := by
  induction run with
  | nil => exact .none
  | cons c rest ih =>
    have hrest := ih (fun d hd => h d (List.mem_cons_of_mem _ hd))
      (fun d hd => hlast d (List.mem_getLast?_cons hd))
    by_cases hc : c = '%'
    · subst hc
      rw [List.count_cons_self]
      exact .more isBlanks_nil hrest
    · -- the blank belongs to the next percent sign, which exists as the run ends with no blank
      have hblank : isBlank c = true := by
        simpa [isPercentOrBlank, hc] using h c List.mem_cons_self
      rw [List.count_cons_of_ne hc]
      generalize rest.count '%' = count at hrest
      cases hrest with
      | none =>
        rw [hlast c rfl] at hblank
        cases hblank
      | @more count blanks rest hb hr =>
        have hblanks : IsBlanks (c :: blanks) := fun d hd =>
          (List.mem_cons.mp hd).elim (fun he => he ▸ hblank) (hb d)
        exact .more hblanks hr

theorem takePercents_spec {text : List Char} (h : IsTrimmed text) :
    ∃ percents, Percents (takePercents text).1 percents ∧
      text = (takePercents text).2 ++ percents := by
  have hsplit : text = (takePercents text).2 ++
      (text.reverse.takeWhile isPercentOrBlank).reverse := by
    rw [takePercents, ← List.reverse_append, List.takeWhile_append_dropWhile, List.reverse_reverse]
  refine ⟨_, ?_, hsplit⟩
  have hcount : (takePercents text).1 =
      (text.reverse.takeWhile isPercentOrBlank).reverse.count '%' := by
    rw [takePercents, List.count_reverse]
  rw [hcount]
  apply percents_of_run
  · intro c hc
    exact List.mem_takeWhile_imp (List.mem_reverse.mp hc)
  · intro c hc
    apply h.2
    rw [hsplit]
    exact List.mem_getLast?_append_of_mem_getLast? hc

theorem exists_body_peelBody {body : List Char} (h : IsTrimmed body) (negated : Bool) :
    ∃ negative, Body negative (peelBody negated body).2.1 (peelBody negated body).2.2 body ∧
      (peelBody negated body).1 = (negated != negative) := by
  obtain ⟨percents, hp, hbody⟩ := takePercents_spec h
  obtain ⟨minus, sign, hs, hsign, hminus⟩ := takeSign_spec negated (takePercents body).2
  obtain ⟨minus', currency, hc, hcurrency, hminus'⟩ := takeCurrency_spec
    (takeSign negated (takePercents body).2).1 (takeSign negated (takePercents body).2).2
  refine ⟨minus != minus', ?_, ?_⟩
  · have hb : Body _ _ (peelBody negated body).2.2 _ := .intro hs hc hp
    rwa [← List.append_assoc currency, peelBody, ← hcurrency, ← List.append_assoc, ← hsign,
      ← hbody] at hb
  · rw [peelBody, hminus', hminus]
    cases negated <;> cases minus <;> cases minus' <;> rfl

theorem takeParentheses_cases (text : List Char) :
    takeParentheses text = (false, text) ∨
      ∃ inner, text = '(' :: (inner ++ [')']) ∧ takeParentheses text = (true, trim inner) := by
  unfold takeParentheses
  split
  · rename_i h
    apply Or.inr
    cases text with
    | nil => cases h.1
    | cons c rest =>
      cases h.1
      have hne : rest ≠ [] := by
        rintro rfl
        cases h.2
      have hlast : rest.getLast hne = ')' := by
        have hl := h.2
        rw [List.getLast?_cons_of_ne_nil hne, List.getLast?_eq_some_getLast hne] at hl
        exact Option.some.inj hl
      refine ⟨rest.dropLast, ?_, rfl⟩
      rw [← hlast, List.dropLast_append_getLast hne]
  · exact .inl rfl

theorem peel_eq {text body : List Char} {negated : Bool}
    (h : takeParentheses text = (negated, body)) : peel text = peelBody negated body := by
  rw [peel, h]

/-- Peeling a text leaves a core that is framed in it. -/
theorem framed_peel (text : List Char) :
    Framed (peel (trim text)).1 (peel (trim text)).2.1 (peel (trim text)).2.2 text := by
  obtain ⟨before, after, hb, ha, htext⟩ := exists_trim text
  rcases takeParentheses_cases (trim text) with hp | ⟨inner, htrim, hp⟩
  · obtain ⟨negative, hbody, hn⟩ := exists_body_peelBody (isTrimmed_trim text) false
    rw [Bool.false_bne] at hn
    have h := Framed.plain hb ha hbody
    rw [← hn, ← htext] at h
    rwa [peel_eq hp]
  · obtain ⟨negative, hbody, hn⟩ := exists_body_peelBody (isTrimmed_trim inner) true
    obtain ⟨blanks, blanks', hi, hi', hinner⟩ := exists_trim inner
    rw [Bool.true_bne] at hn
    have h := Framed.parenthesized hb ha hi hi' hbody
    rw [← hn, ← hinner, ← htrim, ← htext] at h
    rwa [peel_eq hp]

/-! A core with solid ends is found again. -/

/-- Whether nothing can be peeled off a text: it has no blank, mark or percent sign at its ends. -/
structure Solid (core : List Char) : Prop where
  ne_nil : core ≠ []
  head : ∀ c ∈ core.head?, isBlank c = false ∧ c ≠ '+' ∧ c ≠ '-' ∧ c ≠ '$' ∧ c ≠ '('
  last : ∀ c ∈ core.getLast?, isPercentOrBlank c = false

theorem Solid.head_sign {core : List Char} (h : Solid core) :
    ∀ c ∈ core.head?, isBlank c = false ∧ c ≠ '+' ∧ c ≠ '-' := fun c hc =>
  ⟨(h.head c hc).1, (h.head c hc).2.1, (h.head c hc).2.2.1⟩

theorem takeSign_append {minus : Bool} {sign rest : List Char} (hs : Sign minus sign)
    (hr : ∀ c ∈ rest.head?, isBlank c = false ∧ c ≠ '+' ∧ c ≠ '-') (negated : Bool) :
    takeSign negated (sign ++ rest) = (negated != minus, rest) := by
  have hblank : ∀ c ∈ rest.head?, isBlank c = false := fun c hc => (hr c hc).1
  cases hs with
  | missing =>
    cases rest with
    | nil => simp [takeSign]
    | cons c rest =>
      obtain ⟨-, hplus, hminus⟩ := hr c rfl
      simp [takeSign, hplus, hminus]
  | plus hb => rw [List.cons_append, takeSign, trimLeft_append hb hblank, Bool.bne_false]
  | minus hb => rw [List.cons_append, takeSign, trimLeft_append hb hblank, Bool.bne_true]

theorem takeCurrency_append {minus : Bool} {currency core : List Char} (hc : Currency minus currency)
    (hcore : Solid core) (negated : Bool) :
    takeCurrency negated (currency ++ core) = (negated != minus, core) := by
  cases hc with
  | missing =>
    obtain ⟨c, rest, rfl⟩ := List.exists_cons_of_ne_nil hcore.ne_nil
    have hmark := (hcore.head c rfl).2.2.2.1
    simp [takeCurrency, hmark]
  | @given minus blanks sign hb hs =>
    have hsign : ∀ c ∈ (sign ++ core).head?, isBlank c = false := by
      cases hs with
      | missing => exact fun c hc => (hcore.head c hc).1
      | plus | minus =>
        rintro c ⟨⟩
        decide
    rw [List.cons_append, takeCurrency, List.append_assoc, trimLeft_append hb hsign]
    exact takeSign_append hs hcore.head_sign _

theorem Percents.count_eq {count : Nat} {text : List Char} (h : Percents count text) :
    text.count '%' = count := by
  induction h with
  | none => rfl
  | more hb _ ih =>
    have hblanks : '%' ∉ _ := fun hmem => absurd (hb '%' hmem) (by decide)
    rw [List.count_append, List.count_eq_zero_of_not_mem hblanks, List.count_cons_self, ih,
      Nat.zero_add]

theorem Percents.of_mem {count : Nat} {text : List Char} (h : Percents count text) :
    ∀ c ∈ text, isPercentOrBlank c = true := by
  induction h with
  | none => exact fun c hc => by cases hc
  | more hb _ ih =>
    intro c hc
    rcases List.mem_append.mp hc with hc | hc
    · rw [isPercentOrBlank, hb c hc, Bool.or_true]
    · rcases List.mem_cons.mp hc with rfl | hc
      · decide
      · exact ih c hc

theorem Percents.getLast?_eq {count : Nat} {text : List Char} (h : Percents count text) :
    ∀ c ∈ text.getLast?, c = '%' := by
  induction h with
  | none => exact fun c hc => by cases hc
  | @more count blanks rest hb hr ih =>
    intro c hc
    rw [List.getLast?_append_cons] at hc
    cases rest with
    | nil => simpa using hc.symm
    | cons d rest => exact ih c (by rwa [List.getLast?_cons_cons] at hc)

theorem takePercents_append {count : Nat} {text percents : List Char} (hp : Percents count percents)
    (ht : ∀ c ∈ text.getLast?, isPercentOrBlank c = false) :
    takePercents (text ++ percents) = (count, text) := by
  have hrun : ∀ c ∈ percents.reverse, isPercentOrBlank c = true := fun c hc =>
    hp.of_mem c (List.mem_reverse.mp hc)
  have hrest : ∀ c ∈ text.reverse.head?, isPercentOrBlank c = false := by rwa [List.head?_reverse]
  unfold takePercents
  dsimp only
  rw [List.reverse_append, takeWhile_append_of_head hrun hrest, dropWhile_append_of_head hrun hrest,
    List.count_reverse, hp.count_eq, List.reverse_reverse]

section

variable {negative : Bool} {percents : Nat} {core body : List Char}

theorem peelBody_of_body (h : Body negative percents core body) (hcore : Solid core)
    (negated : Bool) : peelBody negated body = (negated != negative, percents, core) := by
  cases h with
  | @intro minus minus' _ sign currency _ percents hs hc hp =>
    have hlast : ∀ c ∈ (sign ++ (currency ++ core)).getLast?, isPercentOrBlank c = false := by
      rw [← List.append_assoc, List.getLast?_append_of_ne_nil _ hcore.ne_nil]
      exact hcore.last
    have hsign : ∀ c ∈ (currency ++ core).head?, isBlank c = false ∧ c ≠ '+' ∧ c ≠ '-' := by
      cases hc with
      | missing => exact hcore.head_sign
      | given =>
        rintro c ⟨⟩
        decide
    have htext : sign ++ (currency ++ (core ++ percents)) =
        sign ++ (currency ++ core) ++ percents := by simp
    rw [peelBody, htext, takePercents_append hp hlast]
    dsimp only
    rw [takeSign_append hs hsign]
    dsimp only
    rw [takeCurrency_append hc hcore]
    cases negated <;> cases minus <;> cases minus' <;> rfl

theorem Body.head (h : Body negative percents core body) (hcore : Solid core) :
    ∀ c ∈ body.head?, isBlank c = false ∧ c ≠ '(' := by
  have hfirst : ∀ rest, ∀ c ∈ (core ++ rest).head?, isBlank c = false ∧ c ≠ '(' := by
    intro rest c hc
    rw [List.head?_append_of_ne_nil _ hcore.ne_nil] at hc
    exact ⟨(hcore.head c hc).1, (hcore.head c hc).2.2.2.2⟩
  cases h with
  | intro hs hc hp =>
    cases hs with
    | missing =>
      cases hc with
      | missing => exact hfirst _
      | given =>
        rintro c ⟨⟩
        decide
    | plus | minus =>
      rintro c ⟨⟩
      decide

theorem Body.isTrimmed (h : Body negative percents core body) (hcore : Solid core) :
    IsTrimmed body := by
  refine ⟨fun c hc => (h.head hcore c hc).1, ?_⟩
  cases h with
  | @intro _ _ _ _ _ _ percents hs hc hp =>
    intro c hlast
    by_cases hnil : percents = []
    · have hkept : isPercentOrBlank c = false := by
        apply hcore.last
        rwa [hnil, List.append_nil, ← List.append_assoc,
          List.getLast?_append_of_ne_nil _ hcore.ne_nil] at hlast
      exact (Bool.or_eq_false_iff.mp hkept).2
    · have hpercent : c = '%' := by
        apply hp.getLast?_eq
        rwa [← List.append_assoc, ← List.append_assoc, List.getLast?_append_of_ne_nil _ hnil] at hlast
      rw [hpercent]
      decide

theorem Body.ne_nil (h : Body negative percents core body) (hcore : Solid core) : body ≠ [] := by
  cases h
  simp [hcore.ne_nil]

end

theorem peel_of_framed {negative : Bool} {percents : Nat} {core text : List Char}
    (h : Framed negative percents core text) (hcore : Solid core) :
    trim text ≠ [] ∧ peel (trim text) = (negative, percents, core) := by
  cases h with
  | @plain _ _ _ body before after hb ha h =>
    have hne := h.ne_nil hcore
    have hp : takeParentheses body = (false, body) := by
      unfold takeParentheses
      rw [if_neg]
      rintro ⟨hfirst, -⟩
      exact (h.head hcore '(' hfirst).2 rfl
    rw [trim_append hb ha (h.isTrimmed hcore) hne, peel_eq hp, peelBody_of_body h hcore,
      Bool.false_bne]
    exact ⟨hne, rfl⟩
  | @parenthesized negative _ _ body before after inner inner' hb ha hi hi' h =>
    have hne : '(' :: (inner ++ body ++ inner' ++ [')']) ≠ [] := List.cons_ne_nil _ _
    have htrimmed : IsTrimmed ('(' :: (inner ++ body ++ inner' ++ [')'])) := by
      constructor
      · rintro c ⟨⟩
        decide
      · rw [← List.cons_append, List.getLast?_concat]
        rintro c ⟨⟩
        decide
    have hp : takeParentheses ('(' :: (inner ++ body ++ inner' ++ [')'])) = (true, body) := by
      unfold takeParentheses
      rw [if_pos ⟨rfl, by rw [← List.cons_append, List.getLast?_concat]⟩, List.tail_cons,
        List.dropLast_concat, trim_append hi hi' (h.isTrimmed hcore) (h.ne_nil hcore)]
    rw [trim_append hb ha htrimmed hne, peel_eq hp, peelBody_of_body h hcore, Bool.true_bne]
    exact ⟨hne, rfl⟩

/-- A text is a solid core in a frame if and only if peeling leaves it. -/
theorem framed_iff {negative : Bool} {percents : Nat} {core text : List Char} (hcore : Solid core) :
    Framed negative percents core text ↔
      trim text ≠ [] ∧ peel (trim text) = (negative, percents, core) := by
  refine ⟨fun h => peel_of_framed h hcore, fun ⟨_, h⟩ => ?_⟩
  have hf := framed_peel text
  rwa [h] at hf

/-- A text has one solid core at most. -/
theorem Framed.unique {negative negative' : Bool} {percents percents' : Nat}
    {core core' text : List Char} (h : Framed negative percents core text)
    (h' : Framed negative' percents' core' text) (hcore : Solid core) (hcore' : Solid core') :
    negative = negative' ∧ percents = percents' ∧ core = core' := by
  have hpeel := ((framed_iff hcore).mp h).2
  rw [((framed_iff hcore').mp h').2] at hpeel
  cases hpeel
  exact ⟨rfl, rfl, rfl⟩

theorem Framed.percents_le {negative : Bool} {percents : Nat} {core text : List Char}
    (h : Framed negative percents core text) : percents ≤ text.count '%' := by
  have hbody : ∀ {negative core body}, Body negative percents core body →
      percents ≤ body.count '%' := by
    rintro _ _ _ ⟨hs, hc, hp⟩
    simp only [List.count_append, hp.count_eq]
    omega
  cases h with
  | plain hb ha h =>
    have hle := hbody h
    simp only [List.count_append]
    omega
  | parenthesized hb ha hi hi' h =>
    have hle := hbody h
    simp only [List.count_append, List.count_cons]
    omega

theorem Sign.of_mem {minus : Bool} {sign : List Char} (h : Sign minus sign) :
    ∀ c ∈ sign, isBlank c = true ∨ c ∈ ['+', '-'] := by
  cases h with
  | missing => exact fun c hc => absurd hc List.not_mem_nil
  | plus hb | minus hb =>
    intro c hc
    rcases List.mem_cons.mp hc with rfl | hc
    · exact .inr (by decide)
    · exact .inl (hb c hc)

theorem Currency.of_mem {minus : Bool} {currency : List Char} (h : Currency minus currency) :
    ∀ c ∈ currency, isBlank c = true ∨ c ∈ ['$', '+', '-'] := by
  cases h with
  | missing => exact fun c hc => absurd hc List.not_mem_nil
  | given hb hs =>
    intro c hc
    rcases List.mem_cons.mp hc with rfl | hc
    · exact .inr (by decide)
    rcases List.mem_append.mp hc with hc | hc
    · exact .inl (hb c hc)
    · exact (hs.of_mem c hc).imp_right (List.mem_cons_of_mem _)

theorem Body.of_mem {negative : Bool} {percents : Nat} {core body : List Char}
    (h : Body negative percents core body) :
    ∀ c ∈ body, c ∈ core ∨ isBlank c = true ∨ c ∈ ['%', '$', '+', '-'] := by
  cases h with
  | intro hs hc hp =>
    intro c hmem
    simp only [List.mem_append] at hmem
    rcases hmem with hmem | hmem | hmem | hmem
    · exact .inr ((hs.of_mem c hmem).imp_right fun hc =>
        List.mem_cons_of_mem _ (List.mem_cons_of_mem _ hc))
    · exact .inr ((hc.of_mem c hmem).imp_right (List.mem_cons_of_mem _))
    · exact .inl hmem
    · have hrun := hp.of_mem c hmem
      rw [isPercentOrBlank, Bool.or_eq_true, beq_iff_eq] at hrun
      rcases hrun with rfl | hblank
      · exact .inr (.inr List.mem_cons_self)
      · exact .inr (.inl hblank)

/-- A frame adds blanks and a few other characters to its core. -/
theorem Framed.of_mem {negative : Bool} {percents : Nat} {core text : List Char}
    (h : Framed negative percents core text) :
    ∀ c ∈ text, c ∈ core ∨ isBlank c = true ∨ c ∈ ['(', ')', '%', '$', '+', '-'] := by
  have hmarks {c : Char} (hc : c ∈ ['%', '$', '+', '-']) : c ∈ ['(', ')', '%', '$', '+', '-'] :=
    List.mem_cons_of_mem _ (List.mem_cons_of_mem _ hc)
  cases h with
  | plain hb ha h =>
    intro c hc
    simp only [List.mem_append] at hc
    rcases hc with (hc | hc) | hc
    · exact .inr (.inl (hb c hc))
    · exact (h.of_mem c hc).imp_right (Or.imp_right hmarks)
    · exact .inr (.inl (ha c hc))
  | parenthesized hb ha hi hi' h =>
    intro c hc
    simp only [List.mem_append, List.mem_cons, List.not_mem_nil, or_false] at hc
    rcases hc with (hc | rfl | ((hc | hc) | hc) | rfl) | hc
    · exact .inr (.inl (hb c hc))
    · exact .inr (.inr (by decide))
    · exact .inr (.inl (hi c hc))
    · exact (h.of_mem c hc).imp_right (Or.imp_right hmarks)
    · exact .inr (.inl (hi' c hc))
    · exact .inr (.inr (by decide))
    · exact .inr (.inl (ha c hc))

theorem count_visible_le (strict : Bool) (text : List Char) (c : Char) :
    (visible strict text).count c ≤ text.count c := by
  cases strict
  · exact List.filter_sublist.count_le c
  · exact le_rfl

end SheetFormulas.Numeral
