/-
  RecordNaming.Proofs.Numeral.Magnitude — formats with a magnitude letter.

  (1) The first magnitude letter is taken out of the format (`magnitude?_eq`), and a number with up to 19 places is
  divided exactly (`representable_div`).

  (2) A numeral stands for one number (`Denotes.unique`), and what tokens without text show of a number stands for it
  once the commas are gone (`Shows.denotes`): zeros in front and behind do not change a numeral's value.

  `scaled_numeral_is_faithful` puts them together: the text is the numeral of the divided number, rounded once, and
  the letter as written.
-/
import RecordNaming.Proofs.Numeral.Standard

namespace RecordNaming.Numeral

open Decimal (Representable)
open Text (digitsFrom lastDigits natDigits)

/-! ## (1) The letter -/

/-- The magnitude letters and the powers of ten they divide by. -/
def magnitudeLetters : List (Char × Nat) := [('K', 3), ('k', 3), ('M', 6), ('m', 6), ('B', 9), ('b', 9)]

theorem divisor?_eq (c : Char) : divisor? c = (magnitudeLetters.lookup c).map tenPow := by
  by_cases hc : c.toNat < 128
  · have hall : ∀ n < 128, divisor? (Char.ofNat n) = (magnitudeLetters.lookup (Char.ofNat n)).map tenPow := by
      decide
    rw [← Char.ofNat_toNat c]
    exact hall c.toNat hc
  · have hlower : ¬ ('a'.val ≤ c.val ∧ c.val ≤ 'z'.val) := by
      intro h
      exact hc (Nat.lt_of_le_of_lt (UInt32.le_iff_toNat_le.mp h.2) (by decide))
    have hu : c.toUpper = c := dif_neg hlower
    have hne (d : Char) (hd : d.toNat < 128) : c ≠ d := by
      rintro rfl
      exact hc hd
    have hbeq (d : Char) (hd : d.toNat < 128) : (c == d) = false := beq_false_of_ne (hne d hd)
    simp [divisor?, hu, magnitudeLetters, List.lookup_cons, hne, hbeq]

theorem magnitude?_eq {c : Char} {e : Nat} (hc : magnitudeLetters.lookup c = some e) {before : List Char}
    (hb : ∀ d ∈ before, magnitudeLetters.lookup d = none) (behind : List Char) :
    magnitude? (before ++ c :: behind) = some ⟨tenPow e, c, before ++ behind⟩ := by
  induction before with
  | nil =>
    have hd : divisor? c = some (tenPow e) := by
      rw [divisor?_eq, hc]
      rfl
    rw [List.nil_append, magnitude?, hd]
    rfl
  | cons d before ih =>
    have hd : divisor? d = none := by
      rw [divisor?_eq, hb d List.mem_cons_self]
      rfl
    rw [List.cons_append, magnitude?, hd]
    simp only [ih fun x hx => hb x (List.mem_cons_of_mem d hx), Option.map_some]
    rfl

/-- The power of ten of a letter is not greater than the places that are left of 28 behind 19. -/
theorem letter_le {c : Char} {e : Nat} (hc : magnitudeLetters.lookup c = some e) : e ≤ 9 := by
  have hall : ∀ p ∈ magnitudeLetters, p.2 ≤ 9 := by decide
  obtain ⟨l₁, l₂, hl, -⟩ := List.lookup_eq_some_iff.mp hc
  exact hall (c, e) (by rw [hl]; simp)

/-- A number with up to 19 places, divided by up to a billion, has up to 28. -/
theorem representable_div {v : Decimal} {e : Nat} {k : Int} (he : e ≤ 9) (hv : v.value * 10 ^ 19 = k) :
    Representable (v.value / 10 ^ e) := by
  by_cases hs : v.scale + e ≤ Decimal.maxScale
  · exact Decimal.representable_div_of_scale hs
  · -- the number has zeros at its end
    have hk : k.natAbs ≤ Decimal.maxCoefficient := by
      have hle : (k.natAbs : ℚ) ≤ v.magnitude := by
        rw [Nat.cast_natAbs, Int.cast_abs, ← hv, abs_mul, v.abs_value, abs_of_pos (by positivity : (0 : ℚ) < 10 ^ 19),
          div_mul_eq_mul_div, div_le_iff₀ (by positivity)]
        have hmax : Decimal.maxScale = 28 := rfl
        exact mul_le_mul_of_nonneg_left (pow_le_pow_right₀ (by norm_num) (by omega)) (Nat.cast_nonneg _)
      exact (Nat.cast_le.mp hle).trans v.magnitude_le
    have hscale : 19 + e ≤ Decimal.maxScale := Nat.add_le_add_left he 19
    obtain ⟨q, -, hq⟩ := Decimal.exists_ofParts? hk hscale
    refine ⟨q, ?_⟩
    rw [hq, ← hv, pow_add]
    field_simp

/-! ## (2) What a numeral stands for -/

/-- A numeral stands for a number: a minus sign, whole digits, and places behind a point. Without digits it stands for
zero. -/
def Denotes (text : List Char) (q : ℚ) : Prop :=
  ∃ (negative : Bool) (whole places : List Char), (∀ c ∈ whole ++ places, c.isDigit = true) ∧
    text = (if negative then ['-'] else []) ++ whole ++ (if places = [] then [] else '.' :: places) ∧
    q = (if negative then -1 else 1) * (digitsFrom 0 whole + digitsFrom 0 places / 10 ^ places.length)

/-- The whole digits of a numeral without a sign end at the point, and no sign stands in front of them. -/
theorem whole_of_digits {whole places : List Char} (h : ∀ c ∈ whole ++ places, c.isDigit = true) :
    (whole ++ (if places = [] then [] else '.' :: places)).takeWhile Text.isDigit = whole ∧
      (whole ++ (if places = [] then [] else '.' :: places)).dropWhile Text.isDigit =
        (if places = [] then [] else '.' :: places) ∧
      (whole ++ (if places = [] then [] else '.' :: places)).head? ≠ some '-' := by
  have hw : ∀ c ∈ whole, Text.isDigit c = true :=
    fun c hc => Text.isDigit_of_isDigit (h c (List.mem_append_left _ hc))
  have hb : ∀ c, (if places = [] then [] else '.' :: places).head? = some c → c = '.' := by
    intro c hc
    split at hc
    · cases hc
    · cases hc
      rfl
  obtain ⟨htake, hdrop⟩ := Text.takeWhile_isDigit_append hw fun c hc => by rw [hb c hc]; rfl
  refine ⟨htake, hdrop, ?_⟩
  rw [List.head?_append]
  cases hc : whole.head? with
  | some c =>
    have hd := hw c (List.mem_of_head? hc)
    rintro ⟨⟩
    cases hd
  | none =>
    intro hh
    cases hb _ hh

/-- A numeral stands for one number only. -/
theorem Denotes.unique {text : List Char} {p q : ℚ} (hp : Denotes text p) (hq : Denotes text q) : q = p := by
  obtain ⟨negative, whole, places, hd, ht, rfl⟩ := hp
  obtain ⟨negative', whole', places', hd', ht', rfl⟩ := hq
  obtain ⟨htake, hdrop, hhead⟩ := whole_of_digits hd
  obtain ⟨htake', hdrop', hhead'⟩ := whole_of_digits hd'
  rw [List.append_assoc] at ht ht'
  have hsign : negative' = negative := by
    cases negative with
    | true =>
      cases negative' with
      | true => rfl
      | false => exact absurd (congrArg List.head? (ht'.symm.trans ht)) hhead'
    | false =>
      cases negative' with
      | true => exact absurd (congrArg List.head? (ht.symm.trans ht')) hhead
      | false => rfl
  subst hsign
  have hbody := List.append_cancel_left (ht'.symm.trans ht)
  have hwhole : whole' = whole := by rw [← htake', hbody, htake]
  have hplaces : places' = places := by
    rw [hbody, hdrop] at hdrop'
    by_cases h0 : places = []
    · by_cases h0' : places' = []
      · rw [h0, h0']
      · rw [if_pos h0, if_neg h0'] at hdrop'
        cases hdrop'
    · by_cases h0' : places' = []
      · rw [if_neg h0, if_pos h0'] at hdrop'
        cases hdrop'
      · rw [if_neg h0, if_neg h0'] at hdrop'
        exact (List.cons_inj_right _).mp hdrop'.symm
  rw [hwhole, hplaces]

/-- Zeros in front do not change a number, and no digits are zero. -/
theorem digitsFrom_shownWhole (least n : Nat) : digitsFrom 0 (shownWhole least n) = n := by
  rw [shownWhole, List.leftpad, Text.digitsFrom_append, Text.digitsFrom_replicate_zero, Nat.zero_mul]
  split
  · rename_i hn
    rw [hn]
    rfl
  · exact Text.digitsFrom_natDigits n

/-- Zeros left out at the end do not change the places. -/
theorem Trimmed.digitsFrom_eq {least units m : Nat} {places : List Char}
    (h : Trimmed least (lastDigits m units) places) :
    (digitsFrom 0 places / 10 ^ places.length : ℚ) = (units % tenPow m : ℕ) / 10 ^ m := by
  obtain ⟨k, hk⟩ := h.zeros
  have hlen := congrArg List.length hk
  rw [Text.length_lastDigits, List.length_append, List.length_replicate] at hlen
  have hv := congrArg (digitsFrom 0) hk
  rw [Text.digitsFrom_lastDigits, Nat.zero_mul, Nat.zero_add, Text.digitsFrom_append, Text.digitsFrom_replicate_zero] at hv
  rw [hv, hlen, Nat.cast_mul, tenPow_cast, pow_add]
  field_simp

theorem isDigit_of_mem_shownWhole {least n : Nat} {c : Char} (h : c ∈ shownWhole least n) : c.isDigit = true := by
  rw [shownWhole, List.leftpad, List.mem_append] at h
  rcases h with h | h
  · rw [List.eq_of_mem_replicate h]
    rfl
  · split at h
    · cases h
    · exact Text.charIsDigit_of_mem_natDigits h

theorem Trimmed.isDigit {least units m : Nat} {places : List Char} (h : Trimmed least (lastDigits m units) places) :
    ∀ c ∈ places, c.isDigit = true := by
  intro c hc
  obtain ⟨k, hk⟩ := h.zeros
  have hm : c ∈ lastDigits m units := by
    rw [hk]
    exact List.mem_append_left _ hc
  exact Text.charIsDigit_of_mem_lastDigits hm

/-- A number's units as a whole part and the places behind it. -/
theorem whole_add_places (units m : Nat) :
    ((units / tenPow m : ℕ) + (units % tenPow m : ℕ) / 10 ^ m : ℚ) = units / 10 ^ m := by
  have hp : (10 : ℚ) ^ m ≠ 0 := by positivity
  have hu : (units : ℚ) = (tenPow m * (units / tenPow m) + units % tenPow m : ℕ) := by rw [Nat.div_add_mod]
  rw [hu, Nat.cast_add, Nat.cast_mul, tenPow_cast]
  field_simp

/-- What silent tokens show of a number stands for it once the commas are gone. -/
theorem Shows.denotes {tokens : List Token} {units : Nat} {text : List Char} (h : Shows tokens units text)
    (hs : Silent tokens) (negative : Bool) :
    Denotes (((if negative then ['-'] else []) ++ text).filter (· != ','))
      ((if negative then -1 else 1) * (units / 10 ^ placeSlots tokens)) := by
  have hw : Silent (wholeTokens tokens) := fun t ht => hs t ((List.takeWhile_sublist _).subset ht)
  have hq : Silent (placeTokens tokens) :=
    fun t ht => hs t ((List.dropWhile_sublist _).subset ((List.drop_sublist _ _).subset ht))
  have hwhole : wholeTokens tokens = wholeTokens tokens ++ [] := (List.append_nil _).symm
  have hplace : placeTokens tokens = placeTokens tokens ++ [] := (List.append_nil _).symm
  obtain ⟨places, ht, hx⟩ := h.eq_numeral hwhole hplace hw hq (fun t ht => by cases ht) (fun t ht => by cases ht)
    (.inl rfl)
  have hdigits : ∀ c ∈ shownWhole (leastWhole (wholeTokens tokens)) (units / tenPow (placeSlots tokens)),
      c.isDigit = true := fun c hc => isDigit_of_mem_shownWhole hc
  refine ⟨negative, shownWhole (leastWhole (wholeTokens tokens)) (units / tenPow (placeSlots tokens)), places, ?_, ?_, ?_⟩
  · intro c hc
    rcases List.mem_append.mp hc with hc | hc
    · exact hdigits c hc
    · exact ht.isDigit c hc
  · have hsign : (if negative then ['-'] else []).filter (· != ',') = if negative then ['-'] else [] := by
      cases negative <;> rfl
    rw [hx, List.map_nil, List.flatten_nil, List.append_nil, List.append_nil, List.filter_append, List.filter_append,
      hsign, filter_chunks _ (comma_notMem hdigits), filter_behind ht.isDigit, List.append_assoc]
  · rw [digitsFrom_shownWhole, ht.digitsFrom_eq, whole_add_places]

/-! ## Scaled numbers -/

/-- A pattern of placeholders, commas and points, at least one of them a placeholder, in which no comma divides once
more. -/
structure PlainPattern (pattern : List Char) : Prop where
  chars : ∀ c ∈ pattern, c = '0' ∨ c = '#' ∨ c = ',' ∨ c = '.'
  placeholder : ∃ c ∈ pattern, c = '0' ∨ c = '#'
  commas : closingCommas (wholeTokens (pattern.map Token.ofChar)) = 0

/-- The places a scaled number is rounded to: two if the format has no pattern. -/
def scaledPlaces (rest : List Char) : Nat :=
  if rest.all Text.isBlank then 2 else placeSlots (rest.map Token.ofChar)

section

variable {pattern : List Char} (h : PlainPattern pattern)

include h

theorem PlainPattern.isPlain {c : Char} (hc : c ∈ pattern) : Numeral.isPlain c = true := by
  rcases h.chars c hc with rfl | rfl | rfl | rfl <;> rfl

theorem PlainPattern.specifier : specifier? pattern = none := by
  cases pattern with
  | nil => rfl
  | cons c rest =>
    rcases h.chars c List.mem_cons_self with rfl | rfl | rfl | rfl <;> rfl

theorem PlainPattern.semicolon : ';' ∉ pattern := by
  intro hc
  rcases h.chars _ hc with hc | hc | hc | hc <;> cases hc

theorem PlainPattern.silent : Silent (pattern.map Token.ofChar) := by
  intro t ht
  obtain ⟨c, hc, rfl⟩ := List.mem_map.mp ht
  rcases h.chars c hc with rfl | rfl | rfl | rfl <;> decide

theorem PlainPattern.shown : ∃ t ∈ pattern.map Token.ofChar, t.isPlaceholder = true := by
  obtain ⟨c, hc, hp⟩ := h.placeholder
  refine ⟨Token.ofChar c, List.mem_map_of_mem hc, ?_⟩
  rcases hp with rfl | rfl <;> rfl

/-- A decimal in a plain pattern: a numeral of the decimal rounded to as many places as there are placeholders. -/
theorem PlainPattern.denotes (d : Decimal) :
    ∃ text, applyPattern d pattern = .ok text ∧
      Denotes (text.filter (· != ',')) (roundAway d.value (placeSlots (pattern.map Token.ofChar))) := by
  have hup : scaleUp d.abs (pattern.map Token.ofChar) = .ok d.abs := by
    have ha := scaleUp_append h.silent.not_sign d.abs []
    rwa [List.append_nil] at ha
  have hdown : scaleDown d.abs (closingCommas (wholeTokens (pattern.map Token.ofChar))) = .ok d.abs := by
    rw [h.commas]
    rfl
  obtain ⟨text, hs, happly⟩ := applyPattern_shows h.specifier
    (sections_plain (fun c hc => h.isPlain hc) h.semicolon) (tokenize_plain fun c hc => h.isPlain hc) (.inl h.shown)
    hup hdown
  rw [d.value_abs, nearestUnits_abs] at hs happly
  have hd := hs.denotes h.silent (decide (roundAway d.value (placeSlots (pattern.map Token.ofChar)) < 0))
  rw [← roundAway_eq, ← minusSign_eq] at hd
  refine ⟨_, happly, ?_⟩
  rw [withSign_nearestUnits]
  exact hd

end

theorem defaultScaledPattern_plain : PlainPattern defaultScaledPattern :=
  ⟨by simp [defaultScaledPattern], ⟨'0', by decide, .inl rfl⟩, rfl⟩

/-- A decimal with up to 19 places in a format whose first magnitude letter is `c`: the numeral of the decimal divided
by the letter's power of ten and rounded once, with the letter behind it. -/
theorem scaled_numeral_is_faithful {v : Decimal} {k : Int} {before behind : List Char} {c : Char} {e : Nat}
    (hv : v.value * 10 ^ 19 = k) (hc : magnitudeLetters.lookup c = some e)
    (hfirst : ∀ d ∈ before, magnitudeLetters.lookup d = none)
    (hrest : (before ++ behind).all Text.isBlank = true ∨ PlainPattern (before ++ behind)) :
    ∃ numeral, tryFormat v (before ++ c :: behind) = .ok (numeral ++ [c]) ∧
      Denotes (numeral.filter (· != ',')) (roundAway (v.value / 10 ^ e) (scaledPlaces (before ++ behind))) ∧
      (∀ r, Denotes (numeral.filter (· != ',')) r →
        r = roundAway (v.value / 10 ^ e) (scaledPlaces (before ++ behind))) ∧
      |roundAway (v.value / 10 ^ e) (scaledPlaces (before ++ behind)) * 10 ^ e - v.value| ≤
        10 ^ e / (2 * 10 ^ scaledPlaces (before ++ behind)) := by
  have he := letter_le hc
  obtain ⟨scaled, hdiv, hscaled⟩ := Decimal.div?_exact he (representable_div he hv)
  have hpattern : ∃ text, applyPattern scaled (if (before ++ behind).all Text.isBlank then defaultScaledPattern
        else before ++ behind) = .ok text ∧
      Denotes (text.filter (· != ',')) (roundAway scaled.value (scaledPlaces (before ++ behind))) := by
    by_cases hblank : (before ++ behind).all Text.isBlank = true
    · rw [if_pos hblank, scaledPlaces, if_pos hblank]
      exact defaultScaledPattern_plain.denotes scaled
    · rw [if_neg hblank, scaledPlaces, if_neg hblank]
      exact (hrest.resolve_left hblank).denotes scaled
  obtain ⟨text, htext, hden⟩ := hpattern
  rw [hscaled] at hden
  refine ⟨text, ?_, hden, fun r => hden.unique, abs_roundAway_mul_sub_le v.value e _⟩
  rw [tryFormat, magnitude?_eq hc hfirst]
  simp only [hdiv, htext]
  rfl

/-- A negative number in thousands, grouped and rounded to one place. -/
theorem grouped_thousands_are_faithful :
    let v : Decimal := ⟨true, 12345678905, 1, by decide, by decide⟩
    v.value * 10 ^ 19 = (-12345678905000000000000000000 : Int) ∧ magnitudeLetters.lookup 'k' = some 3 ∧
      (∀ d ∈ "#,##0.0".toList, magnitudeLetters.lookup d = none) ∧ PlainPattern "#,##0.0".toList ∧
      tryFormat v "#,##0.0k".toList = .ok "-1,234,567.9k".toList ∧
      ∃ numeral, tryFormat v "#,##0.0k".toList = .ok (numeral ++ ['k']) ∧
        Denotes (numeral.filter (· != ',')) (roundAway (v.value / 10 ^ 3) 1) ∧
        (∀ r, Denotes (numeral.filter (· != ',')) r → r = roundAway (v.value / 10 ^ 3) 1) ∧
        |roundAway (v.value / 10 ^ 3) 1 * 10 ^ 3 - v.value| ≤ 10 ^ 3 / (2 * 10 ^ 1) := by
  intro v
  have hv : v.value * 10 ^ 19 = (-12345678905000000000000000000 : Int) := by
    rw [v.value_eq]
    norm_num [v]
  have hc : magnitudeLetters.lookup 'k' = some 3 := rfl
  have hfirst : ∀ d ∈ "#,##0.0".toList, magnitudeLetters.lookup d = none := by
    simp [magnitudeLetters, List.lookup_cons]
  have hplain : PlainPattern "#,##0.0".toList := ⟨by simp, ⟨'0', by decide, .inl rfl⟩, by decide⟩
  have htext : tryFormat v "#,##0.0k".toList = .ok "-1,234,567.9k".toList := by decide +kernel
  have hm : scaledPlaces ("#,##0.0".toList ++ []) = 1 := by decide
  have hrest : ("#,##0.0".toList ++ []).all Text.isBlank = true ∨ PlainPattern ("#,##0.0".toList ++ []) := .inr hplain
  have hfaithful := scaled_numeral_is_faithful hv hc hfirst hrest
  rw [hm] at hfaithful
  exact ⟨hv, hc, hfirst, hplain, htext, hfaithful⟩

end RecordNaming.Numeral
