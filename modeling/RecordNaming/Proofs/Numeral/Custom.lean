/-
  RecordNaming.Proofs.Numeral.Custom — a decimal in a custom pattern of one section.

  (1) A pattern without a bare semicolon is one section (`sections_eq_singleton`), and the number is shown
  in it with a minus sign if it is negative and something of it is left (`formatCustom_eq`).

  (2) The number is multiplied for the percent and per mille signs and divided for the closing commas, and
  that is exact where decimals can stand for the results (`scaleUp_exact`, `scaleDown_exact`).

  `pattern_shows_rounded_number` puts them together with the layout of the tokens (`Shows`).
-/
import RecordNaming.Numeral.Format
import RecordNaming.Proofs.Decimal.Exact
import RecordNaming.Proofs.Numeral.Layout
import RecordNaming.Proofs.Results

namespace RecordNaming.Numeral

open Decimal (Representable)

/-! ## (1) One section -/

/-- The characters of a pattern that stand neither in a literal nor behind a backslash. The first argument is the
quote that is open. -/
def bare : Option Char → List Char → List Char
  | _, [] => []
  | some quote, c :: rest => bare (if c = quote then none else some quote) rest
  | none, ['\\'] => []
  | none, '\\' :: _ :: rest => bare none rest
  | none, c :: rest => if isQuote c then bare (some c) rest else c :: bare none rest

section

variable {c : Char} {rest : List Char}

theorem ne_backslash (h1 : c = '\\' → rest = [] → False) (h2 : ∀ d ds, c = '\\' → rest = d :: ds → False) :
    c ≠ '\\' := by
  intro hc
  cases rest with
  | nil => exact h1 hc rfl
  | cons d ds => exact h2 d ds hc rfl

theorem sections_cons (hc : c ≠ '\\') (hs : c ≠ ';') :
    sections none (c :: rest) = (sections (if isQuote c then some c else none) rest).map (consFirst c) :=
  by rw [sections] <;> simp [hc, hs]

theorem bare_cons (hc : c ≠ '\\') :
    bare none (c :: rest) = if isQuote c then bare (some c) rest else c :: bare none rest :=
  by rw [bare] <;> simp [hc]

theorem tokenize_cons (hc : c ≠ '\\') : tokenize none (c :: rest) =
    if isQuote c then tokenize (some (c, [])) rest
    else if startsExponent c rest then .error (.unsupportedSpecifier "exponent")
    else (tokenize none rest).map (.ofChar c :: ·) := by
  rw [tokenize] <;> simp [hc]

end

/-- A pattern that has tokens and no bare semicolon is one section. -/
theorem sections_of_tokenize {state : Option (Char × List Char)} {pattern : List Char} {tokens : List Token}
    (ht : tokenize state pattern = .ok tokens) (hs : ';' ∉ bare (state.map Prod.fst) pattern) :
    sections (state.map Prod.fst) pattern = .ok [pattern] := by
  induction state, pattern using tokenize.induct generalizing tokens with
  | case1 => rfl
  | case2 => cases ht
  | case3 literal c rest ih =>
    rw [tokenize, if_pos rfl, map_eq_ok_iff] at ht
    obtain ⟨behind, hb, -⟩ := ht
    rw [Option.map_some, bare, if_pos rfl] at hs
    have hr := ih hb hs
    rw [Option.map_some, sections, if_pos rfl]
    rw [Option.map_none] at hr
    rw [hr]
    rfl
  | case4 quote literal c rest hc ih =>
    rw [tokenize, if_neg hc] at ht
    rw [Option.map_some, bare, if_neg hc] at hs
    have hr := ih ht hs
    rw [Option.map_some] at hr
    rw [Option.map_some, sections, if_neg hc, hr]
    rfl
  | case5 => cases ht
  | case6 c rest ih =>
    rw [tokenize, map_eq_ok_iff] at ht
    obtain ⟨behind, hb, -⟩ := ht
    have hr := ih hb hs
    rw [Option.map_none] at hr ⊢
    rw [sections, hr]
    rfl
  | case7 c rest h1 h2 hq ih =>
    have hc := ne_backslash h1 h2
    have hsemi : c ≠ ';' := by
      rintro rfl
      cases hq
    rw [tokenize_cons hc, if_pos hq] at ht
    rw [Option.map_none, bare_cons hc, if_pos hq] at hs
    have hr := ih ht hs
    rw [Option.map_some] at hr
    rw [Option.map_none, sections_cons hc hsemi, if_pos hq, hr]
    rfl
  | case8 c rest h1 h2 hq he =>
    rw [tokenize_cons (ne_backslash h1 h2), if_neg hq, if_pos he] at ht
    cases ht
  | case9 c rest h1 h2 hq he ih =>
    have hc := ne_backslash h1 h2
    rw [tokenize_cons hc, if_neg hq, if_neg he, map_eq_ok_iff] at ht
    obtain ⟨behind, hb, -⟩ := ht
    rw [Option.map_none, bare_cons hc, if_neg hq, List.mem_cons, not_or] at hs
    have hr := ih hb hs.2
    rw [Option.map_none] at hr
    rw [Option.map_none, sections_cons hc (Ne.symm hs.1), if_neg hq, hr]
    rfl

theorem sections_eq_singleton {pattern : List Char} {tokens : List Token} (ht : tokenize none pattern = .ok tokens)
    (hs : ';' ∉ bare none pattern) : sections none pattern = .ok [pattern] :=
  sections_of_tokenize ht hs

/-- A pattern of one section shows every number in it, a negative one with a minus sign unless nothing of it is
left. -/
theorem formatCustom_eq {pattern : List Char} (hs : sections none pattern = .ok [pattern]) (d : Decimal) :
    formatCustom d pattern = (renderSection d.abs pattern).map fun r =>
      if d.isNegative && !r.isZero then '-' :: r.text else r.text := by
  have h1 : section? [pattern] 1 = none := rfl
  have h2 : section? [pattern] 2 = none := rfl
  have hchosen : (if d.isNegative = true then (pattern, true)
      else if d.isZero = true then (pattern, false) else (pattern, false)) = (pattern, d.isNegative) := by
    cases d.isNegative <;> simp
  rw [formatCustom, hs]
  simp only [bind, Except.bind, h1, h2, List.headD_cons, Option.getD_none, hchosen]
  cases renderSection d.abs pattern <;> rfl

section

variable {pattern : List Char} {tokens : List Token} {d up scaled : Decimal}

theorem tokens_ne_nil (h : (∃ t ∈ tokens, t.isPlaceholder = true) ∨ .point ∈ tokens) : tokens ≠ [] := by
  rintro rfl
  rcases h with ⟨t, ht, -⟩ | h
  · cases ht
  · cases h

/-- A section shows the scaled number rounded to as many places as there are placeholders for. -/
theorem renderSection_eq (ht : tokenize none pattern = .ok tokens) (hne : tokens ≠ [])
    (hu : scaleUp d tokens = .ok up) (hd : scaleDown up (closingCommas (wholeTokens tokens)) = .ok scaled) :
    renderSection d pattern = .ok ⟨layOut tokens (scaled.round (placeSlots tokens)),
      (scaled.round (placeSlots tokens)).isZero⟩ := by
  rw [renderSection, ht]
  simp only [bind, Except.bind, List.isEmpty_iff, if_neg hne, hu, (commas_readFrom _).pending, hd]
  rfl

theorem renderSection_error {e : FormatError} (ht : tokenize none pattern = .ok tokens) (hne : tokens ≠ [])
    (hu : scaleUp d tokens = .error e) : renderSection d pattern = .error e := by
  rw [renderSection, ht]
  simp only [bind, Except.bind, List.isEmpty_iff, if_neg hne, hu]

theorem applyPattern_custom (hspecifier : specifier? pattern = none) (hs : sections none pattern = .ok [pattern]) :
    applyPattern d pattern = (renderSection d.abs pattern).map fun r => withSign d r.text r.isZero := by
  rw [applyPattern, hspecifier]
  exact formatCustom_eq hs d

/-- A decimal in a pattern of one section with a placeholder or a point: the tokens with the scaled number laid out
in them, behind the sign of the decimal. -/
theorem applyPattern_shows (hspecifier : specifier? pattern = none) (hs : sections none pattern = .ok [pattern])
    (ht : tokenize none pattern = .ok tokens) (hshown : (∃ t ∈ tokens, t.isPlaceholder = true) ∨ .point ∈ tokens)
    (hu : scaleUp d.abs tokens = .ok up) (hd : scaleDown up (closingCommas (wholeTokens tokens)) = .ok scaled) :
    ∃ text, Shows tokens (nearestUnits scaled.value (placeSlots tokens)) text ∧
      applyPattern d pattern = .ok (withSign d text (nearestUnits scaled.value (placeSlots tokens) == 0)) := by
  refine ⟨_, shows_layOut hshown scaled, ?_⟩
  rw [applyPattern_custom hspecifier hs, renderSection_eq ht (tokens_ne_nil hshown) hu hd, scaled.isZero_round]
  rfl

end

/-! ## (2) Scaled exactly -/

/-- The places by which the percent and per mille signs move the point. -/
def signPlaces (tokens : List Token) : Nat := 2 * tokens.count .percent + 3 * tokens.count .perMille

/-- The product with a power of ten is exact if decimals can stand for it and for a greater one. -/
theorem mul?_power {d : Decimal} (factor : Int) {k n : Nat} (hf : factor.natAbs ≤ Decimal.maxCoefficient)
    (hk : (factor : ℚ) = 10 ^ k) (h : Representable (d.value * 10 ^ (k + n))) :
    ∃ f p, Decimal.ofParts? factor 0 = some f ∧ d.mul? f = some p ∧ p.value = d.value * 10 ^ k := by
  obtain ⟨f, hof, hv⟩ := Decimal.exists_ofParts? hf (Nat.zero_le _)
  have hf' : f.value = 10 ^ k := by rw [hv, hk, pow_zero, div_one]
  have hr : Representable (d.value * f.value) := by
    rw [hf']
    exact (Decimal.representable_value d).mul_tenPow h (Nat.le_add_right k n)
  obtain ⟨p, hp, hpv⟩ := Decimal.mul?_exact hr
  exact ⟨f, p, hof, hp, by rw [hpv, hf']⟩

/-- A token multiplies the number by the power of ten of its sign, if it is one. -/
theorem scaleUp_step {d : Decimal} {token : Token} {rest : List Token}
    (h : Representable (d.value * 10 ^ signPlaces (token :: rest))) :
    ∃ p, scaleUp d (token :: rest) = scaleUp p rest ∧
      p.value * 10 ^ signPlaces rest = d.value * 10 ^ signPlaces (token :: rest) := by
  cases token with
  | percent =>
    have hs : signPlaces (.percent :: rest) = 2 + signPlaces rest := by simp [signPlaces]; omega
    have hf : ((100 : Int) : ℚ) = 10 ^ 2 := by norm_num
    rw [hs] at h ⊢
    obtain ⟨f, p, hof, hp, hv⟩ := mul?_power 100 (by decide) hf h
    refine ⟨p, ?_, by rw [hv, mul_assoc, ← pow_add]⟩
    rw [scaleUp]
    simp only [hof, hp]
  | perMille =>
    have hs : signPlaces (.perMille :: rest) = 3 + signPlaces rest := by simp [signPlaces]; omega
    have hf : ((1000 : Int) : ℚ) = 10 ^ 3 := by norm_num
    rw [hs] at h ⊢
    obtain ⟨f, p, hof, hp, hv⟩ := mul?_power 1000 (by decide) hf h
    refine ⟨p, ?_, by rw [hv, mul_assoc, ← pow_add]⟩
    rw [scaleUp]
    simp only [hof, hp]
  | _ => exact ⟨d, rfl, by simp [signPlaces]⟩

theorem scaleUp_exact {d : Decimal} {tokens : List Token} (h : Representable (d.value * 10 ^ signPlaces tokens)) :
    ∃ p, scaleUp d tokens = .ok p ∧ p.value = d.value * 10 ^ signPlaces tokens := by
  induction tokens generalizing d with
  | nil => exact ⟨d, rfl, by simp [signPlaces]⟩
  | cons token rest ih =>
    obtain ⟨p, hp, hv⟩ := scaleUp_step h
    rw [← hv] at h ⊢
    rw [hp]
    exact ih h

/-- Decimals that stand for a number and for its last quotient stand for the first one as well. -/
theorem representable_div_thousand {q : ℚ} {n : Nat} (hq : Representable q) (h : Representable (q / 1000 ^ (n + 1))) :
    Representable (q / 10 ^ 3) := by
  have hpow : (1000 : ℚ) ^ n = 10 ^ (3 * n) := by
    rw [pow_mul]
    norm_num
  have hfirst : q / 1000 ^ (n + 1) * 10 ^ (3 * n) = q / 10 ^ 3 := by
    rw [pow_succ, hpow]
    field_simp
    norm_num
  have hall : Representable (q / 1000 ^ (n + 1) * 10 ^ (3 * n + 3)) := by
    rw [pow_add (10 : ℚ), ← mul_assoc, hfirst, div_mul_cancel₀ _ (by norm_num)]
    exact hq
  rw [← hfirst]
  exact h.mul_tenPow hall (Nat.le_add_right _ _)

theorem scaleDown_exact {d : Decimal} {n : Nat} (h : Representable (d.value / 1000 ^ n)) :
    ∃ p, scaleDown d n = .ok p ∧ p.value = d.value / 1000 ^ n := by
  induction n generalizing d with
  | zero => exact ⟨d, rfl, by rw [pow_zero, div_one]⟩
  | succ n ih =>
    obtain ⟨p, hp, hv⟩ := Decimal.div?_exact (by decide) (representable_div_thousand d.representable_value h)
    have hq : p.value / 1000 ^ n = d.value / 1000 ^ (n + 1) := by
      have hk : (10 : ℚ) ^ 3 = 1000 := by norm_num
      rw [hv, hk, div_div, ← pow_succ']
    obtain ⟨q, hq', hqv⟩ := ih (hq ▸ h)
    have hp' : d.div? 1000 = some p := hp
    refine ⟨q, ?_, by rw [hqv, hq]⟩
    rw [scaleDown]
    simp only [hp', hq']

/-! ## The rounded number -/

/-- A number has a minus sign if it is negative and something of it is left. -/
def minusSign (negative : Prop) [Decidable negative] : List Char := if negative then ['-'] else []

theorem minusSign_congr {p q : Prop} [Decidable p] [Decidable q] (h : p ↔ q) : minusSign p = minusSign q := by
  simp only [minusSign, h]

/-- The sign in front of a text that shows `units`. -/
theorem withSign_eq (d : Decimal) (text : List Char) (units : Nat) :
    withSign d text (units == 0) = minusSign (d.value < 0 ∧ units ≠ 0) ++ text := by
  have hminus : (d.isNegative && !(units == 0)) = true ↔ d.value < 0 ∧ units ≠ 0 := by
    rw [Bool.and_eq_true, d.isNegative_iff, Bool.not_eq_true', beq_eq_false_iff_ne]
  simp only [withSign, hminus, minusSign]
  split <;> rfl

/-- A decimal in a pattern of one section with a placeholder or a point: a minus sign, unless the number is not
negative or nothing of it is left, and the tokens with the number laid out in them that is scaled by the percent
and per mille signs and the closing commas and then rounded to as many places as there are placeholders for.
Decimals have to stand for the scaled number and for the one before the division; then they do for all numbers
between. -/
theorem pattern_shows_rounded_number {v : Decimal} {pattern : List Char} {tokens : List Token} {raised x : ℚ}
    (hspecifier : specifier? pattern = none) (hsections : ';' ∉ bare none pattern)
    (htokens : tokenize none pattern = .ok tokens)
    (hshown : (∃ t ∈ tokens, t.isPlaceholder = true) ∨ .point ∈ tokens)
    (hraised : raised = |v.value| * (100 ^ tokens.count .percent * 1000 ^ tokens.count .perMille))
    (hx : x = raised / 1000 ^ closingCommas (wholeTokens tokens))
    (hr : Representable raised) (hr' : Representable x) :
    ∃ text, applyPattern v pattern =
        .ok (minusSign (v.value < 0 ∧ roundAway x (placeSlots tokens) ≠ 0) ++ text) ∧
      Shows tokens (nearestUnits x (placeSlots tokens)) text ∧
      ∀ other, Shows tokens (nearestUnits x (placeSlots tokens)) other → other = text := by
  have hsigns : raised = v.abs.value * 10 ^ signPlaces tokens := by
    have h2 : (100 : ℚ) = 10 ^ 2 := by norm_num
    have h3 : (1000 : ℚ) = 10 ^ 3 := by norm_num
    rw [hraised, v.value_abs, signPlaces, pow_add, pow_mul, pow_mul, ← h2, ← h3]
  obtain ⟨up, hup, hupv⟩ := scaleUp_exact (hsigns ▸ hr)
  rw [← hsigns] at hupv
  have hdown : Representable (up.value / 1000 ^ closingCommas (wholeTokens tokens)) := by
    rw [hupv, ← hx]
    exact hr'
  obtain ⟨scaled, hscaled, hv⟩ := scaleDown_exact hdown
  rw [hupv, ← hx] at hv
  obtain ⟨text, htext, happly⟩ := applyPattern_shows hspecifier (sections_eq_singleton htokens hsections) htokens hshown
    hup hscaled
  rw [hv] at htext happly
  refine ⟨text, ?_, htext, fun other => htext.unique⟩
  have hleft : roundAway x (placeSlots tokens) ≠ 0 ↔ nearestUnits x (placeSlots tokens) ≠ 0 :=
    not_congr (roundAway_eq_zero_iff x _)
  rw [happly, withSign_eq, minusSign_congr (and_congr_right fun _ => hleft.symm)]

/-- A negative percentage in thousands, its whole digits in groups and on the two sides of a hyphen. -/
theorem hyphenated_percentage_is_shown :
    let v : Decimal := ⟨true, 1234567, 2, by decide, by decide⟩
    let pattern := "00-0,0,.0#%".toList
    let tokens : List Token :=
      [.zero, .zero, .literal ['-'], .zero, .comma, .zero, .comma, .point, .zero, .hash, .percent]
    specifier? pattern = none ∧ ';' ∉ bare none pattern ∧ tokenize none pattern = .ok tokens ∧
      Representable 1234567 ∧ Representable (1234567 / 1000) ∧
      applyPattern v pattern = .ok "-1,2-34.57%".toList ∧
      ∃ text, applyPattern v pattern = .ok (minusSign (v.value < 0 ∧ roundAway (1234567 / 1000) 2 ≠ 0) ++ text) ∧
        Shows tokens (nearestUnits (1234567 / 1000) 2) text ∧
        ∀ other, Shows tokens (nearestUnits (1234567 / 1000) 2) other → other = text := by
  intro v pattern tokens
  have hs : specifier? pattern = none := rfl
  have hb : ';' ∉ bare none pattern := by decide
  have ht : tokenize none pattern = .ok tokens := rfl
  have hv : |v.value| = 1234567 / 100 := by
    rw [v.abs_value]
    norm_num
  have hraised : (1234567 : ℚ) = |v.value| * (100 ^ tokens.count .percent * 1000 ^ tokens.count .perMille) := by
    have h1 : tokens.count .percent = 1 := rfl
    have h0 : tokens.count .perMille = 0 := rfl
    rw [hv, h1, h0]
    norm_num
  have hx : (1234567 / 1000 : ℚ) = 1234567 / 1000 ^ closingCommas (wholeTokens tokens) := by
    have h1 : closingCommas (wholeTokens tokens) = 1 := rfl
    rw [h1, pow_one]
  have hr : Representable 1234567 := ⟨⟨false, 1234567, 0, by decide, by decide⟩, by rw [Decimal.value_eq]; norm_num⟩
  have hr' : Representable (1234567 / 1000) :=
    ⟨⟨false, 1234567, 3, by decide, by decide⟩, by rw [Decimal.value_eq]; norm_num⟩
  have hp : placeSlots tokens = 2 := rfl
  have hshow := pattern_shows_rounded_number hs hb ht (.inl ⟨.zero, by decide, rfl⟩) hraised hx hr hr'
  rw [hp] at hshow
  have htext : applyPattern v pattern = .ok "-1,2-34.57%".toList := by decide +kernel
  exact ⟨hs, hb, ht, hr, hr', htext, hshow⟩

end RecordNaming.Numeral
