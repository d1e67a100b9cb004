/-
  RecordNaming.Proofs.Numeral.Vanishing — numbers of which nothing is left in a custom pattern.

  (1) Zero is shown in every section that can be read (`renderSection_zero`), and a number that a section scales
  and rounds to zero is shown in it as zero is (`Vanishes.renderSection_eq`).

  (2) The section is chosen by the sign of the number before it is rounded. Behind the rounding, a number that
  vanished goes to the section of zero if the pattern has one, and has no minus sign. With two sections there is
  no way back: a small negative number stays in the section for negative numbers.

  `vanishing_number_shows_zero` says which zero is shown; `small_loss_keeps_its_parentheses` is the case in which
  it is not the text of zero.
-/
import RecordNaming.Proofs.Numeral.SameNumber

namespace RecordNaming.Numeral

/-! ## (1) Zero in a section -/

/-- A section rounds a number to zero. The empty section does not round. -/
structure Vanishes (d : Decimal) (pattern : List Char) (tokens : List Token) : Prop where
  read : tokenize none pattern = .ok tokens
  rounds : tokens ≠ []
  nothingLeft : ∃ up scaled, scaleUp d tokens = .ok up ∧
    scaleDown up (closingCommas (wholeTokens tokens)) = .ok scaled ∧ roundAway scaled.value (placeSlots tokens) = 0

theorem Vanishes.of_isZero_round {d up scaled : Decimal} {pattern : List Char} {tokens : List Token}
    (read : tokenize none pattern = .ok tokens) (rounds : tokens ≠ []) (hup : scaleUp d tokens = .ok up)
    (hscaled : scaleDown up (closingCommas (wholeTokens tokens)) = .ok scaled)
    (hz : (scaled.round (placeSlots tokens)).isZero = true) : Vanishes d pattern tokens := by
  rw [scaled.isZero_round, beq_iff_eq, ← roundAway_eq_zero_iff] at hz
  exact ⟨read, rounds, up, scaled, hup, hscaled, hz⟩

/-- Zero is scaled to zero. -/
theorem scale_zero (tokens : List Token) : ∃ up scaled, scaleUp .zero tokens = .ok up ∧
    scaleDown up (closingCommas (wholeTokens tokens)) = .ok scaled ∧ scaled.value = 0 := by
  have h0 : Decimal.zero.value = 0 := Decimal.zero.isZero_iff.mp rfl
  have hr : Decimal.Representable 0 := ⟨.zero, h0⟩
  have hzero : Decimal.zero.value * 10 ^ signPlaces tokens = 0 := by rw [h0, zero_mul]
  obtain ⟨up, hup, hupv⟩ := scaleUp_exact (hzero ▸ hr)
  rw [hzero] at hupv
  have hdown : up.value / 1000 ^ closingCommas (wholeTokens tokens) = 0 := by rw [hupv, zero_div]
  obtain ⟨scaled, hscaled, hv⟩ := scaleDown_exact (hdown ▸ hr)
  exact ⟨up, scaled, hup, hscaled, by rw [hv, hdown]⟩

theorem renderSection_zero {pattern : List Char} {tokens : List Token} (ht : tokenize none pattern = .ok tokens) :
    ∃ text, renderSection .zero pattern = .ok ⟨text, true⟩ := by
  by_cases hne : tokens = []
  · subst hne
    exact ⟨Decimal.zero.digits, by rw [renderSection, ht]; rfl⟩
  · obtain ⟨up, scaled, hup, hscaled, hv⟩ := scale_zero tokens
    have hz : (scaled.round (placeSlots tokens)).isZero = true := by
      rw [scaled.isZero_round, hv, nearestUnits_zero, beq_self_eq_true]
    exact ⟨_, by rw [renderSection_eq ht hne hup hscaled, hz]⟩

theorem Vanishes.renderSection_eq {d : Decimal} {pattern : List Char} {tokens : List Token}
    (h : Vanishes d pattern tokens) : renderSection d pattern = renderSection .zero pattern := by
  obtain ⟨up, scaled, hup, hscaled, hround⟩ := h.nothingLeft
  obtain ⟨zup, zscaled, hzup, hzscaled, hzv⟩ := scale_zero tokens
  have hunits : nearestUnits scaled.value (placeSlots tokens) = nearestUnits zscaled.value (placeSlots tokens) := by
    rw [hzv, nearestUnits_zero, ← roundAway_eq_zero_iff]
    exact hround
  rw [Numeral.renderSection_eq h.read h.rounds hup hscaled, Numeral.renderSection_eq h.read h.rounds hzup hzscaled,
    layOut_round_congr hunits, scaled.isZero_round, zscaled.isZero_round, hunits]

/-! ## (2) The section of zero -/

section

variable {pattern : List Char} {all : List (List Char)} (hall : sections none pattern = .ok all)
  (hread : ∀ s ∈ all, ∃ tokens, tokenize none s = .ok tokens)

include hall hread

/-- Zero is shown in its own section, or in the first one. -/
theorem formatCustom_zero : ∃ text, formatCustom .zero pattern = .ok text ∧
    renderSection .zero ((section? all 2).getD (all.headD [])) = .ok ⟨text, true⟩ := by
  obtain ⟨tokens, ht⟩ := hread _ (mem_getD_section? (sections_ne_nil hall) 2)
  obtain ⟨text, hz⟩ := renderSection_zero ht
  have hchosen : chosenSection .zero all = (section? all 2).getD (all.headD []) := rfl
  have habs : Decimal.zero.abs = .zero := rfl
  refine ⟨text, ?_, hz⟩
  rw [formatCustom_of_sections hall, hchosen, habs, hz]
  cases section? all 2 <;> rfl

/-- A number that vanishes is shown as zero in the section of zero, or without one in the section it was given for
its sign. -/
theorem formatCustom_of_vanishes {v : Decimal} {tokens : List Token} (hv : v.isZero = false)
    (h : Vanishes v.abs (chosenSection v all) tokens) : ∃ text, formatCustom v pattern = .ok text ∧
      renderSection .zero ((section? all 2).getD (chosenSection v all)) = .ok ⟨text, true⟩ := by
  obtain ⟨text, hz⟩ := renderSection_zero h.read
  have hminus : withMinus v all ⟨text, true⟩ = text := by simp [withMinus]
  rw [formatCustom_of_sections hall, h.renderSection_eq, hz]
  cases hs : section? all 2 with
  | none => exact ⟨text, by simp only [Except.bind, hminus], hz⟩
  | some s =>
    obtain ⟨zeroTokens, hzt⟩ := hread s (ne_nil_of_section? hs).1
    obtain ⟨zeroText, hzz⟩ := renderSection_zero hzt
    refine ⟨zeroText, ?_, hzz⟩
    simp only [Except.bind, hv, Bool.not_false, Bool.and_true, if_true, hzz]

end

/-- A number other than zero that is scaled and rounded to zero in the section for its sign is shown as zero is, without
a sign. In a pattern that has a section for negative numbers and none for zero, a negative one is shown as zero would
be in the section for negative numbers. -/
theorem vanishing_number_shows_zero {v : Decimal} {pattern : List Char} {all : List (List Char)} {tokens : List Token}
    (hspecifier : specifier? pattern = none) (hall : sections none pattern = .ok all)
    (hread : ∀ s ∈ all, ∃ tokens, tokenize none s = .ok tokens) (hv : v.value ≠ 0)
    (h : Vanishes v.abs (chosenSection v all) tokens) :
    ∃ text, applyPattern v pattern = .ok text ∧
      (v.value < 0 → section? all 2 = none → ∀ s, section? all 1 = some s →
        renderSection .zero s = .ok ⟨text, true⟩) ∧
      (¬ (v.value < 0 ∧ (section? all 1).isSome ∧ section? all 2 = none) → applyPattern .zero pattern = .ok text) := by
  have hz : v.isZero = false := by
    rw [Bool.eq_false_iff]
    exact fun h0 => hv (v.isZero_iff.mp h0)
  obtain ⟨text, htext, hshown⟩ := formatCustom_of_vanishes hall hread hz h
  obtain ⟨zero, hzero, hzeroShown⟩ := formatCustom_zero hall hread
  have hcustom (d : Decimal) : applyPattern d pattern = formatCustom d pattern := by rw [applyPattern, hspecifier]
  rw [hcustom, hcustom]
  refine ⟨text, htext, fun hneg hnone s hs => ?_, fun hsame => ?_⟩
  · have hchosen : chosenSection v all = s := by
      rw [chosenSection, if_pos (v.isNegative_iff.mpr hneg), hs, Option.getD_some]
    rwa [hnone, Option.getD_none, hchosen] at hshown
  · -- without a section of its own, for zero or for its sign, the number is in the first section
    have hsection : (section? all 2).getD (chosenSection v all) = (section? all 2).getD (all.headD []) := by
      cases h2 : section? all 2 with
      | some s => rfl
      | none =>
        rw [Option.getD_none, Option.getD_none, chosenSection, hz]
        split
        · rename_i hneg
          have h1 : section? all 1 = none := by
            by_contra hne
            exact hsame ⟨v.isNegative_iff.mp hneg, Option.isSome_iff_ne_none.mpr hne, h2⟩
          rw [h1, Option.getD_none]
        · rfl
    rw [hsection, hzeroShown] at hshown
    cases hshown
    exact hzero

/-- A loss of a tenth of a cent in a pattern with a section for zero. -/
theorem small_loss_is_nil :
    let v : Decimal := ⟨true, 1, 3, by decide, by decide⟩
    let pattern := "#,##0.00;(#,##0.00);'nil'".toList
    let all := ["#,##0.00".toList, "(#,##0.00)".toList, "'nil'".toList]
    let tokens : List Token :=
      [.literal ['('], .hash, .comma, .hash, .hash, .zero, .point, .zero, .zero, .literal [')']]
    specifier? pattern = none ∧ sections none pattern = .ok all ∧ (∀ s ∈ all, ∃ tokens, tokenize none s = .ok tokens) ∧
      v.value ≠ 0 ∧ Vanishes v.abs (chosenSection v all) tokens ∧
      applyPattern v pattern = .ok "nil".toList ∧ applyPattern .zero pattern = .ok "nil".toList := by
  intro v pattern all tokens
  have hspecifier : specifier? pattern = none := rfl
  have hall : sections none pattern = .ok all := by decide
  have hread : ∀ s ∈ all, ∃ tokens, tokenize none s = .ok tokens := by
    intro s hs
    simp only [all, List.mem_cons, List.not_mem_nil, or_false] at hs
    rcases hs with rfl | rfl | rfl <;> exact ⟨_, rfl⟩
  have hv : v.value ≠ 0 := by
    rw [v.value_eq]
    norm_num [v]
  have hvanish : Vanishes v.abs (chosenSection v all) tokens := .of_isZero_round rfl (by decide) rfl rfl (by decide)
  obtain ⟨text, htext, -, hzero⟩ := vanishing_number_shows_zero hspecifier hall hread hv hvanish
  have hnil : applyPattern v pattern = .ok "nil".toList := by decide +kernel
  have hsame := hzero fun h => by cases h.2.2
  cases hnil.symm.trans htext
  exact ⟨hspecifier, hall, hread, hv, hvanish, hnil, hsame⟩

/-- Without a section for zero the loss stands in parentheses, and zero does not. -/
theorem small_loss_keeps_its_parentheses :
    let v : Decimal := ⟨true, 1, 3, by decide, by decide⟩
    let pattern := "0.00;(0.00)".toList
    let all := ["0.00".toList, "(0.00)".toList]
    let tokens : List Token := [.literal ['('], .zero, .point, .zero, .zero, .literal [')']]
    specifier? pattern = none ∧ sections none pattern = .ok all ∧ (∀ s ∈ all, ∃ tokens, tokenize none s = .ok tokens) ∧
      v.value ≠ 0 ∧ Vanishes v.abs (chosenSection v all) tokens ∧
      applyPattern v pattern = .ok "(0.00)".toList ∧ applyPattern .zero pattern = .ok "0.00".toList ∧
      applyPattern v pattern ≠ applyPattern .zero pattern := by
  intro v pattern all tokens
  have hread : ∀ s ∈ all, ∃ tokens, tokenize none s = .ok tokens := by
    intro s hs
    simp only [all, List.mem_cons, List.not_mem_nil, or_false] at hs
    rcases hs with rfl | rfl <;> exact ⟨_, rfl⟩
  have hv : v.value ≠ 0 := by
    rw [v.value_eq]
    norm_num [v]
  have hvanish : Vanishes v.abs (chosenSection v all) tokens := .of_isZero_round rfl (by decide) rfl rfl (by decide)
  have hloss : applyPattern v pattern = .ok "(0.00)".toList := by decide +kernel
  have hzero : applyPattern .zero pattern = .ok "0.00".toList := by decide +kernel
  refine ⟨rfl, by decide, hread, hv, hvanish, hloss, hzero, ?_⟩
  rw [hloss, hzero]
  decide

end RecordNaming.Numeral
