/-
  RecordNaming.Proofs.Literals — texts that stand in a pattern as they are.

  A text can be put into a pattern with a backslash before each of its characters, or between double quotes if it has
  none itself (`Embeds`). The readers of patterns agree on both: in a date pattern nothing but literals comes of it
  (`Instant.tokenize_embeds`), and in a number pattern as well (`Numeral.tokenize_embeds`), in one section since
  nothing of it stands bare (`Numeral.bare_embeds`).

  Literals take no digits and no point, and they do not scale. So a number is rounded to a whole one where they stand
  alone, and shows by its sign only (`Numeral.renderSection_literals`).
-/
import RecordNaming.Proofs.Instant.Texts
import RecordNaming.Proofs.Instant.Tokens
import RecordNaming.Proofs.Numeral.Specifiers

namespace RecordNaming

/-- The patterns that hold a text literally. -/
inductive Embeds (s : List Char) : List Char → Prop
  | escaped : Embeds s (s.flatMap fun c => ['\\', c])
  | quoted : '\x22' ∉ s → Embeds s ('\x22' :: (s ++ ['\x22']))

theorem Embeds.length_ge {s pattern : List Char} (h : Embeds s pattern) (hs : s ≠ []) : 2 ≤ pattern.length := by
  obtain ⟨c, rest, rfl⟩ := List.exists_cons_of_ne_nil hs
  cases h with
  | escaped =>
    rw [List.flatMap_cons, List.length_append]
    exact Nat.le_add_right 2 _
  | quoted _ => simp

/-! ## Date patterns -/

namespace Instant

variable {s pattern : List Char}

theorem tokenize_embeds (h : Embeds s pattern) :
    ∃ texts : List (List Char), tokenize .nothing pattern = .ok (texts.map .literal) ∧ texts.flatten = s := by
  cases h with
  | escaped =>
    refine ⟨s.map fun c => [c], ?_, List.flatMap_singleton' s⟩
    induction s with
    | nil => rfl
    | cons c s ih =>
      have hstep : tokenize .nothing ('\\' :: c :: s.flatMap fun c => ['\\', c]) =
          (tokenize .nothing (s.flatMap fun c => ['\\', c])).map (.literal [c] :: ·) := by
        have hopen : Open.ofChar '\\' = (.escape, []) := rfl
        rw [tokenize, hopen]
        dsimp only
        rw [tokenize]
        cases tokenize .nothing (s.flatMap fun c => ['\\', c]) <;> rfl
      rw [List.flatMap_cons, List.cons_append, List.cons_append, List.nil_append, hstep, ih]
      rfl
  | quoted hq =>
    refine ⟨[s], ?_, by simp⟩
    have hopen : Open.ofChar '\x22' = (.literal '\x22' [], []) := rfl
    have hin : ∀ c ∈ s, decide (c ≠ '\x22') = true := fun c hc => decide_eq_true fun e => hq (e ▸ hc)
    rw [tokenize, hopen]
    dsimp only
    rw [tokenize_literal, List.dropWhile_append_of_pos hin, List.takeWhile_append_of_pos hin]
    simp [tokenize, Except.map]

theorem render_embeds (h : Embeds s pattern) (hs : s ≠ []) (t : Instant) (offset : Int) :
    render t pattern offset = .ok s := by
  obtain ⟨texts, htokens, hflat⟩ := tokenize_embeds h
  have hpattern : patternTokens pattern = tokenize .nothing pattern := patternTokens_of_length (h.length_ge hs)
  have hshort : ∀ run, Token.field .shortFraction run ∉ texts.map Token.literal := by simp
  have hlay : layOut t offset (texts.map .literal) = s := by
    rw [layOut_eq_flatMap hshort, List.flatMap_map, ← hflat]
    exact List.flatMap_id'
  rw [render, hpattern, htokens]
  exact congrArg Except.ok hlay

end Instant

/-! ## Number patterns -/

namespace Numeral

variable {s pattern : List Char}

theorem tokenize_embeds (h : Embeds s pattern) (hs : s ≠ []) : ∃ texts : List (List Char),
    tokenize none pattern = .ok (texts.map .literal) ∧ texts ≠ [] ∧ texts.flatten = s := by
  cases h with
  | escaped =>
    refine ⟨s.map fun c => [c], ?_, by simpa using hs, List.flatMap_singleton' s⟩
    clear hs
    induction s with
    | nil => rfl
    | cons c s ih =>
      rw [List.flatMap_cons, List.cons_append, List.cons_append, List.nil_append, tokenize, ih]
      rfl
  | quoted hq =>
    refine ⟨[s], ?_, List.cons_ne_nil _ _, by simp⟩
    have hread (read : List Char) :
        tokenize (some ('\x22', read)) (s ++ ['\x22']) = .ok [.literal (read.reverse ++ s)] := by
      clear hs
      induction s generalizing read with
      | nil => simp [tokenize, Except.map]
      | cons c s ih =>
        rw [List.mem_cons, not_or] at hq
        rw [List.cons_append, tokenize, if_neg (Ne.symm hq.1), ih hq.2, List.reverse_cons, List.append_assoc]
        rfl
    exact hread []

theorem bare_embeds (h : Embeds s pattern) : bare none pattern = [] := by
  cases h with
  | escaped =>
    induction s with
    | nil => rfl
    | cons c s ih => exact ih
  | quoted hq =>
    have hread : bare (some '\x22') (s ++ ['\x22']) = [] := by
      induction s with
      | nil => rfl
      | cons c s ih =>
        rw [List.mem_cons, not_or] at hq
        rw [List.cons_append, bare, if_neg (Ne.symm hq.1), ih hq.2]
    exact hread

theorem specifier?_embeds (h : Embeds s pattern) : specifier? pattern = none := by
  cases h with
  | escaped => cases s <;> rfl
  | quoted _ => rfl

/-- Literals take no digits of a number without places. -/
theorem layOut_literals (texts : List (List Char)) (d : Decimal) :
    layOut (texts.map .literal) (d.round 0) = texts.flatten := by
  have hpoint : Token.point ∉ texts.map Token.literal := by simp
  have hplaceholder : ∀ t ∈ texts.map Token.literal, t.isPlaceholder = false := by simp [Token.isPlaceholder]
  have hslots : (texts.map Token.literal).countP Token.isPlaceholder = 0 :=
    List.countP_eq_zero.mpr fun t ht => by simp [hplaceholder t ht]
  have hown : (texts.map Token.literal).map Token.ownText = texts := by
    rw [List.map_map]
    exact List.map_id' texts
  have hplaces : placeDigits 0 0 (d.round 0) = [] := (placeDigits_round 0 0 d (Nat.le_refl 0)).eq_nil
  obtain ⟨hw, hp⟩ := wholeTokens_of_notMem hpoint
  unfold layOut
  rw [hw, hp]
  have hout (digits : List (List Char)) : (layWhole (texts.map .literal) 0 digits).1 = texts.flatten := by
    have hfilled := ((filled_layWhole (texts.map Token.literal) digits).1.eq_ownText hplaceholder).2
    rwa [hown, hslots] at hfilled
  have hleast : leastPlaces [] = 0 := rfl
  simp only [hslots, hleast, List.countP_nil, hplaces, hout, layPlaces]
  simp [hpoint]

/-- Literals alone show themselves, whatever the number; it counts as zero if it rounds to zero without places. -/
theorem renderSection_literals {texts : List (List Char)} (ht : tokenize none pattern = .ok (texts.map .literal))
    (hne : texts ≠ []) (d : Decimal) : renderSection d pattern = .ok ⟨texts.flatten, (d.round 0).isZero⟩ := by
  have hpoint : Token.point ∉ texts.map Token.literal := by simp
  have hsign : ∀ t ∈ texts.map Token.literal, t ≠ .percent ∧ t ≠ .perMille := by simp
  obtain ⟨hwhole, hplaces⟩ := wholeTokens_of_notMem hpoint
  have hany : (texts.map Token.literal).any Token.isPlaceholder = false := by simp [Token.isPlaceholder]
  have hslots : placeSlots (texts.map Token.literal) = 0 := by rw [placeSlots, hplaces, List.countP_nil]
  have hcommas : closingCommas (wholeTokens (texts.map Token.literal)) = 0 := by
    rw [hwhole, closingCommas, hany]
    rfl
  have hup : scaleUp d (texts.map Token.literal) = .ok d := by
    rw [← List.append_nil (texts.map Token.literal), scaleUp_append hsign]
    rfl
  have hdown : scaleDown d (closingCommas (wholeTokens (texts.map Token.literal))) = .ok d := by
    rw [hcommas]
    rfl
  rw [renderSection_eq ht (by simpa using hne) hup hdown, hslots, layOut_literals]

/-- A number in a pattern that holds a text literally is the text, behind a minus sign if the number is negative and
something of it is left without its places. -/
theorem applyPattern_embeds (h : Embeds s pattern) (hs : s ≠ []) (v : Decimal) :
    applyPattern v pattern = .ok (minusSign (v.value < 0 ∧ roundAway v.value 0 ≠ 0) ++ s) := by
  obtain ⟨texts, ht, hne, hflat⟩ := tokenize_embeds h hs
  have hsections : sections none pattern = .ok [pattern] :=
    sections_eq_singleton ht (by rw [bare_embeds h]; exact List.not_mem_nil)
  have hunits : nearestUnits v.abs.value 0 = nearestUnits v.value 0 := by rw [v.value_abs, nearestUnits_abs]
  rw [applyPattern_custom (specifier?_embeds h) hsections, renderSection_literals ht hne, v.abs.isZero_round, hunits,
    hflat]
  have hleft : roundAway v.value 0 ≠ 0 ↔ nearestUnits v.value 0 ≠ 0 := not_congr (roundAway_eq_zero_iff _ _)
  rw [minusSign_congr (and_congr_right fun _ => hleft)]
  exact congrArg Except.ok (withSign_eq v s (nearestUnits v.value 0))

end Numeral

/-- Every text that is not empty can stand in a pattern, whatever characters it has: each of them behind a backslash,
or all between double quotes if none is one. An instant in that pattern is the text, and so is a number that is not
negative; a negative number has a minus sign in front, unless it rounds to zero. -/
theorem literals_stand_for_themselves {s pattern : List Char} (hs : s ≠ []) (h : Embeds s pattern) :
    (∀ (t : Instant) (offset : Int), t.render pattern offset = .ok s) ∧
      ∀ v : Decimal, (0 ≤ v.value → Numeral.applyPattern v pattern = .ok s) ∧
        (v.value < 0 →
          Numeral.applyPattern v pattern = .ok (if roundAway v.value 0 = 0 then s else '-' :: s)) := by
  refine ⟨Instant.render_embeds h hs, fun v => ?_⟩
  rw [Numeral.applyPattern_embeds h hs]
  constructor
  · intro hv
    rw [Numeral.minusSign, if_neg fun hn => absurd hn.1 (not_lt.mpr hv)]
    rfl
  · intro hv
    by_cases hz : roundAway v.value 0 = 0
    · rw [Numeral.minusSign, if_neg fun hn => hn.2 hz, if_pos hz]
      rfl
    · rw [Numeral.minusSign, if_pos ⟨hv, hz⟩, if_neg hz]
      rfl

/-- A text of characters that mean something in patterns, in both ways, for a loss of a half and of a little less. -/
theorem pattern_characters_are_embedded :
    let s := "0.0;#%\\z'K".toList
    let escaped := "\\0\\.\\0\\;\\#\\%\\\\\\z\\'\\K".toList
    let quoted := '\x22' :: (s ++ ['\x22'])
    let half : Decimal := ⟨true, 5, 1, by decide, by decide⟩
    let less : Decimal := ⟨true, 49, 2, by decide, by decide⟩
    s ≠ [] ∧ Embeds s escaped ∧ Embeds s quoted ∧ half.value < 0 ∧ less.value < 0 ∧
      (∀ (t : Instant) (offset : Int), t.render escaped offset = .ok s) ∧
      Numeral.applyPattern half quoted = .ok ('-' :: s) ∧ Numeral.applyPattern less escaped = .ok s := by
  intro s escaped quoted half less
  have hs : s ≠ [] := by decide
  have he : Embeds s escaped := .escaped
  have hq : Embeds s quoted := .quoted (by decide)
  have hhalf : half.value < 0 := half.isNegative_iff.mp rfl
  have hless : less.value < 0 := less.isNegative_iff.mp rfl
  have hone : roundAway half.value 0 ≠ 0 := by
    rw [ne_eq, roundAway_eq_zero_iff, ← beq_iff_eq, ← half.isZero_round]
    decide
  have hzero : roundAway less.value 0 = 0 := by
    rw [roundAway_eq_zero_iff, ← beq_iff_eq, ← less.isZero_round]
    decide
  obtain ⟨hinstant, hnumber⟩ := literals_stand_for_themselves hs he
  have hshown := ((literals_stand_for_themselves hs hq).2 half).2 hhalf
  have hplain := (hnumber less).2 hless
  rw [if_neg hone] at hshown
  rw [if_pos hzero] at hplain
  exact ⟨hs, he, hq, hhalf, hless, hinstant, hshown, hplain⟩

end RecordNaming
