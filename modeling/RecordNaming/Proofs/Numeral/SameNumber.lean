/-
  RecordNaming.Proofs.Numeral.SameNumber — formats show the number, whatever zeros stand at the end of its
  places.

  (1) A number in a custom pattern is shown in one of its sections (`formatCustom_of_sections`), and only the
  empty section has no tokens (`eq_nil_of_tokenize`).

  (2) Numbers that are the same are the same when they are scaled, or scaling fails for both (`scaleUp_congr`,
  `scaleDown_congr`), and what is shown of a rounded number is given by its units (`layOut_round_congr`). So a
  section that is not empty shows them alike (`renderSection_congr`).

  (3) So do the standard specifiers, other than the general one (`formatStandard_congr`).

  (4) A magnitude letter divides by a power of ten, and the quotients are the same number again.

  `formats_show_the_number` puts them together. What it leaves out are the two ways to see a number's own
  numeral: the general specifier and the empty section.
-/
import RecordNaming.Proofs.Decimal.SameNumber
import RecordNaming.Proofs.Numeral.Magnitude

namespace RecordNaming.Numeral

open Decimal (IsPower)

/-! ## (1) Sections -/

theorem sections_ne_nil {quote : Option Char} {pattern : List Char} {all : List (List Char)}
    (h : sections quote pattern = .ok all) : all ≠ [] := by
  have hcons (c : Char) (l : List (List Char)) : consFirst c l ≠ [] := by cases l <;> simp [consFirst]
  cases quote with
  | some quote =>
    cases pattern with
    | nil => cases h
    | cons c rest =>
      rw [sections, map_eq_ok_iff] at h
      obtain ⟨behind, -, rfl⟩ := h
      exact hcons c behind
  | none =>
    unfold sections at h
    split at h <;> simp only [map_eq_ok_iff, Except.ok.injEq, reduceCtorEq] at h
    · rw [← h]
      exact List.cons_ne_nil _ _
    all_goals
      obtain ⟨behind, -, rfl⟩ := h
      simp [hcons]

/-- Only the empty section has no tokens; an open literal has one at least. -/
theorem eq_nil_of_tokenize {literal : Option (Char × List Char)} {pattern : List Char}
    (h : tokenize literal pattern = .ok []) : literal = none ∧ pattern = [] := by
  induction literal, pattern using tokenize.induct with
  | case1 => exact ⟨rfl, rfl⟩
  | case2 => cases h
  | case3 =>
    rw [tokenize, if_pos rfl, map_eq_ok_iff] at h
    obtain ⟨_, -, hb⟩ := h
    cases hb
  | case4 quote literal c rest hc ih =>
    rw [tokenize, if_neg hc] at h
    cases (ih h).1
  | case5 => cases h
  | case6 =>
    rw [tokenize, map_eq_ok_iff] at h
    obtain ⟨_, -, hb⟩ := h
    cases hb
  | case7 c rest h1 h2 hq ih =>
    rw [tokenize_cons (ne_backslash h1 h2), if_pos hq] at h
    cases (ih h).1
  | case8 c rest h1 h2 hq he =>
    rw [tokenize_cons (ne_backslash h1 h2), if_neg hq, if_pos he] at h
    cases h
  | case9 c rest h1 h2 hq he =>
    rw [tokenize_cons (ne_backslash h1 h2), if_neg hq, if_neg he, map_eq_ok_iff] at h
    obtain ⟨_, -, hb⟩ := h
    cases hb

theorem ne_nil_of_section? {all : List (List Char)} {index : Nat} {s : List Char} (h : section? all index = some s) :
    s ∈ all ∧ s ≠ [] := by
  rw [section?, Option.filter_eq_some_iff, Bool.not_eq_true', List.isEmpty_eq_false_iff] at h
  exact ⟨List.mem_of_getElem? h.1, h.2⟩

/-- The section that shows a number: by its sign, and for zero the third one if it is not empty. -/
def chosenSection (d : Decimal) (all : List (List Char)) : List Char :=
  if d.isNegative then (section? all 1).getD (all.headD [])
  else if d.isZero then (section? all 2).getD (all.headD [])
  else all.headD []

/-- The text of a section with the minus sign of a negative number that has no section of its own. -/
def withMinus (d : Decimal) (all : List (List Char)) (r : Rendered) : List Char :=
  if d.isNegative && (section? all 1).isNone && !r.isZero then '-' :: r.text else r.text

/-- What rounds to zero goes to the section of zero, if there is one. -/
theorem formatCustom_of_sections {pattern : List Char} {all : List (List Char)} (hall : sections none pattern = .ok all)
    (d : Decimal) : formatCustom d pattern = (renderSection d.abs (chosenSection d all)).bind fun r =>
      match section? all 2 with
      | some s =>
        if r.isZero && !d.isZero then (renderSection .zero s).bind fun z => .ok z.text else .ok (withMinus d all r)
      | none => .ok (withMinus d all r) := by
  rw [formatCustom, hall]
  simp only [bind, Except.bind, chosenSection, withMinus]
  cases d.isNegative with
  | true => cases section? all 1 <;> cases section? all 2 <;> rfl
  | false => cases d.isZero <;> cases section? all 2 <;> rfl

theorem mem_getD_section? {all : List (List Char)} (hne : all ≠ []) (index : Nat) :
    (section? all index).getD (all.headD []) ∈ all := by
  cases hs : section? all index with
  | some s => exact (ne_nil_of_section? hs).1
  | none =>
    cases all with
    | nil => exact absurd rfl hne
    | cons s rest => exact List.mem_cons_self

theorem chosenSection_mem {all : List (List Char)} (hne : all ≠ []) (d : Decimal) : chosenSection d all ∈ all := by
  unfold chosenSection
  split
  · exact mem_getD_section? hne 1
  · split
    · exact mem_getD_section? hne 2
    · cases all with
      | nil => exact absurd rfl hne
      | cons s rest => exact List.mem_cons_self

/-! ## (2) Custom patterns -/

/-- Products that stand for one number, or are not there. -/
theorem map_value_cases {x y : Option Decimal} (h : x.map Decimal.value = y.map Decimal.value) :
    x = none ∧ y = none ∨ ∃ p q, x = some p ∧ y = some q ∧ p.value = q.value := by
  cases x with
  | none =>
    cases y with
    | none => exact .inl ⟨rfl, rfl⟩
    | some q => cases h
  | some p =>
    cases y with
    | none => cases h
    | some q => exact .inr ⟨p, q, rfl, rfl, Option.some.inj h⟩

/-- What a token multiplies the number by. -/
def signFactor? : Token → Option Decimal
  | .percent => Decimal.ofParts? 100 0
  | .perMille => Decimal.ofParts? 1000 0
  | _ => none

theorem signFactor?_isPower {token : Token} {f : Decimal} (h : signFactor? token = some f) : ∃ e, IsPower f e := by
  cases token with
  | percent =>
    cases h
    exact ⟨2, rfl, rfl⟩
  | perMille =>
    cases h
    exact ⟨3, rfl, rfl⟩
  | _ => cases h

theorem scaleUp_of_none {token : Token} (h : signFactor? token = none) (d : Decimal) (rest : List Token) :
    scaleUp d (token :: rest) = scaleUp d rest := by
  cases token <;> first | rfl | cases h

theorem scaleUp_of_some {token : Token} {f : Decimal} (h : signFactor? token = some f) (d : Decimal)
    (rest : List Token) : scaleUp d (token :: rest) =
      match d.mul? f with
      | some product => scaleUp product rest
      | none => .error .overflow := by
  cases token <;> cases h <;> rfl

section

variable {v w : Decimal} (h : v.value = w.value)

include h

theorem scaleUp_congr (tokens : List Token) :
    (scaleUp v tokens).map Decimal.value = (scaleUp w tokens).map Decimal.value := by
  induction tokens generalizing v w with
  | nil => exact congrArg Except.ok h
  | cons token rest ih =>
    cases hf : signFactor? token with
    | none =>
      rw [scaleUp_of_none hf, scaleUp_of_none hf]
      exact ih h
    | some f =>
      obtain ⟨e, hpower⟩ := signFactor?_isPower hf
      rw [scaleUp_of_some hf, scaleUp_of_some hf]
      rcases map_value_cases (Decimal.mul?_tenPow_congr hpower h) with ⟨hv, hw⟩ | ⟨p, q, hv, hw, hpq⟩
      · rw [hv, hw]
      · rw [hv, hw]
        exact ih hpq

/-- The division by a thousand is always there. -/
theorem scaleDown_congr (count : Nat) :
    ∃ p q, scaleDown v count = .ok p ∧ scaleDown w count = .ok q ∧ p.value = q.value := by
  induction count generalizing v w with
  | zero => exact ⟨v, w, rfl, rfl, h⟩
  | succ count ih =>
    obtain ⟨p, hp, hpv⟩ := Option.map_eq_some_iff.mp (v.value_div?_tenPow (k := 3) (by decide))
    obtain ⟨q, hq, hqv⟩ := Option.map_eq_some_iff.mp (w.value_div?_tenPow (k := 3) (by decide))
    have hstep {d e : Decimal} (hd : d.div? (tenPow 3) = some e) : scaleDown d (count + 1) = scaleDown e count := by
      have hd' : d.div? 1000 = some e := hd
      rw [scaleDown]
      simp only [hd']
    rw [hstep hp, hstep hq]
    exact ih (by rw [hpv, hqv, h])

omit h in
/-- What is laid out of a rounded number are its units. -/
theorem layOut_round_congr {tokens : List Token}
    (hu : nearestUnits v.value (placeSlots tokens) = nearestUnits w.value (placeSlots tokens)) :
    layOut tokens (v.round (placeSlots tokens)) = layOut tokens (w.round (placeSlots tokens)) := by
  simp only [layOut, wholeDigits_round, placeDigits, Decimal.fractionDigits_round, hu]

theorem renderSection_congr {pattern : List Char} (hne : pattern ≠ []) :
    renderSection v pattern = renderSection w pattern := by
  cases ht : tokenize none pattern with
  | error e => rw [renderSection, renderSection, ht]; rfl
  | ok tokens =>
    have htokens : tokens ≠ [] := by
      rintro rfl
      exact hne (eq_nil_of_tokenize ht).2
    rcases map_eq_map_iff.mp (scaleUp_congr h tokens) with ⟨e, hv, hw⟩ | ⟨p, q, hv, hw, hpq⟩
    · rw [renderSection_error ht htokens hv, renderSection_error ht htokens hw]
    · obtain ⟨p', q', hv', hw', hpq'⟩ := scaleDown_congr hpq (closingCommas (wholeTokens tokens))
      have hu : nearestUnits p'.value (placeSlots tokens) = nearestUnits q'.value (placeSlots tokens) := by rw [hpq']
      rw [renderSection_eq ht htokens hv hv', renderSection_eq ht htokens hw hw', layOut_round_congr hu,
        p'.isZero_round, q'.isZero_round, hpq']

/-- A pattern that cannot be read fails for every number alike. -/
theorem formatCustom_congr {pattern : List Char} (hs : ∀ all, sections none pattern = .ok all → [] ∉ all) :
    formatCustom v pattern = formatCustom w pattern := by
  cases hall : sections none pattern with
  | error e => rw [formatCustom, formatCustom, hall]; rfl
  | ok all =>
    have habs : v.abs.value = w.abs.value := by rw [v.value_abs, w.value_abs, h]
    have hchosen : chosenSection v all = chosenSection w all := by
      rw [chosenSection, chosenSection, Decimal.isNegative_congr h, Decimal.isZero_congr h]
    have hne : chosenSection w all ≠ [] := by
      intro he
      have hm := chosenSection_mem (sections_ne_nil hall) w
      rw [he] at hm
      exact hs all hall hm
    have hminus : withMinus v all = withMinus w all := by
      funext r
      rw [withMinus, withMinus, Decimal.isNegative_congr h]
    rw [formatCustom_of_sections hall, formatCustom_of_sections hall, hchosen, renderSection_congr habs hne, hminus,
      Decimal.isZero_congr h]

/-! ## (3) Standard specifiers -/

/-- The general specifier alone shows the number's own numeral. -/
theorem formatStandard_congr {letter : Char} (hl : letter.toUpper ≠ 'G') (precision : Option Nat) :
    formatStandard v letter precision = formatStandard w letter precision := by
  have hsign : v.isNegative = w.isNegative := Decimal.isNegative_congr h
  have hfixed {p q : Decimal} (hpq : p.value = q.value) (places : Nat) (grouping : Bool) :
      fixed p places grouping = fixed q places grouping := by
    rw [fixed_eq, fixed_eq, hpq]
  have hpercent : ((Decimal.ofParts? 100 0).bind v.mul?).map Decimal.value =
      ((Decimal.ofParts? 100 0).bind w.mul?).map Decimal.value := by
    obtain ⟨hundred, hof, hpower⟩ : ∃ f, Decimal.ofParts? 100 0 = some f ∧ IsPower f 2 := ⟨_, rfl, rfl, rfl⟩
    rw [hof]
    exact Decimal.mul?_tenPow_congr hpower h
  unfold formatStandard
  split
  · simp only [hfixed h, withSign, hsign]
  · simp only [hfixed h, withSign, hsign]
  · simp only [Decimal.isIntegral_congr h, Decimal.integerDigits_congr h, Decimal.isZero_congr h, withSign, hsign]
  · rcases map_value_cases hpercent with ⟨hv, hw⟩ | ⟨p, q, hv, hw, hpq⟩
    · rw [hv, hw]
    · rw [hv, hw]
      simp only [hfixed hpq, withSign, hsign]
  · exact absurd ‹letter.toUpper = 'G'› hl
  · rfl

end

/-- A pattern that shows the number and not its own numeral: neither the general specifier nor one with an empty
section. -/
structure ShowsNumber (pattern : List Char) : Prop where
  notGeneral : ∀ letter precision, specifier? pattern = some (letter, precision) → letter.toUpper ≠ 'G'
  noEmptySection : ∀ all, sections none pattern = .ok all → [] ∉ all

theorem ShowsNumber.applyPattern_congr {pattern : List Char} (hp : ShowsNumber pattern) {v w : Decimal}
    (h : v.value = w.value) : applyPattern v pattern = applyPattern w pattern := by
  unfold applyPattern
  cases hs : specifier? pattern with
  | none => exact formatCustom_congr h hp.noEmptySection
  | some spec => exact formatStandard_congr h (hp.notGeneral spec.1 spec.2 hs) spec.2

/-! ## (4) Formats -/

/-- The pattern of a format: the format without its magnitude letter, and if only blanks are left of it the pattern
for scaled numbers. -/
def shownPattern (format : List Char) : List Char :=
  match magnitude? format with
  | some m => if m.pattern.all Text.isBlank then defaultScaledPattern else m.pattern
  | none => format

/-- A magnitude letter stands for a power of ten, up to a milliard. -/
theorem divisor_of_magnitude? {format : List Char} {m : Magnitude} (h : magnitude? format = some m) :
    ∃ e ≤ 9, m.divisor = tenPow e := by
  induction format generalizing m with
  | nil => cases h
  | cons c rest ih =>
    rw [magnitude?, divisor?_eq] at h
    cases hc : magnitudeLetters.lookup c with
    | some e =>
      rw [hc] at h
      cases h
      exact ⟨e, letter_le hc, rfl⟩
    | none =>
      rw [hc] at h
      obtain ⟨behind, hbehind, rfl⟩ := Option.map_eq_some_iff.mp h
      obtain ⟨e, he, hdivisor⟩ := ih hbehind
      exact ⟨e, he, hdivisor⟩

/-- Formatting depends on the number and not on the zeros at the end of its places: decimals that stand for one number
have the same text in a format, or fail alike. -/
theorem formats_show_the_number {v w : Decimal} (h : v.value = w.value) {format : List Char}
    (hf : ShowsNumber (shownPattern format)) : tryFormat v format = tryFormat w format := by
  unfold shownPattern at hf
  unfold tryFormat
  cases hm : magnitude? format with
  | none =>
    rw [hm] at hf
    exact hf.applyPattern_congr h
  | some m =>
    rw [hm] at hf
    obtain ⟨e, he, hdivisor⟩ := divisor_of_magnitude? hm
    obtain ⟨p, hp, hpv⟩ := Option.map_eq_some_iff.mp (v.value_div?_tenPow he)
    obtain ⟨q, hq, hqv⟩ := Option.map_eq_some_iff.mp (w.value_div?_tenPow he)
    have hpq : p.value = q.value := by rw [hpv, hqv, h]
    simp only [hdivisor, hp, hq, hf.applyPattern_congr hpq]

/-- A negative number in thousands, in the section for negative numbers, with and without zeros at the end. -/
theorem thousands_with_zeros_behind_are_shown_alike :
    let v : Decimal := ⟨true, 12345, 1, by decide, by decide⟩
    let w : Decimal := ⟨true, 12345000, 4, by decide, by decide⟩
    let format := "#,##0.00;(#,##0.00)k".toList
    v.value = w.value ∧ v.digits ≠ w.digits ∧ ShowsNumber (shownPattern format) ∧
      tryFormat v format = .ok "(1.23)k".toList ∧ tryFormat v format = tryFormat w format := by
  intro v w format
  have h : v.value = w.value := by
    rw [v.value_eq, w.value_eq]
    norm_num [v, w]
  have hpattern : shownPattern format = "#,##0.00;(#,##0.00)".toList := by decide
  have hs : sections none "#,##0.00;(#,##0.00)".toList = .ok ["#,##0.00".toList, "(#,##0.00)".toList] := by decide
  have hf : ShowsNumber (shownPattern format) := by
    rw [hpattern]
    refine ⟨fun letter precision hl => ?_, fun all hall => ?_⟩
    · cases hl
    · cases hs.symm.trans hall
      decide
  have htext : tryFormat v format = .ok "(1.23)k".toList := by decide +kernel
  exact ⟨h, by decide, hf, htext, formats_show_the_number h hf⟩

end RecordNaming.Numeral
