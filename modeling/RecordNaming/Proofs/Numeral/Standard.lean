/-
  RecordNaming.Proofs.Numeral.Standard — fixed and grouped numerals, and what is read back from them.

  (1) Whole digits in groups: commas at every fourth character from the right and nowhere else
  (`groupsOfThree_grouped`).

  (2) The numeral of a decimal is that of the number it stands for (`applyPattern_standardNumeral`), and that of
  the rounded number (`standardNumeral_roundAway`): zeros and scales leave no trace in it.

  (3) Without its commas a grouped numeral is the fixed one (`filter_standardNumeral`), so both are read as the
  rounded number.
-/
import RecordNaming.Proofs.Decimal.Reading
import RecordNaming.Proofs.Numeral.Specifiers

namespace RecordNaming.Numeral

open Decimal (plainDigits)

/-! ## (1) Groups -/

/-- Digits in groups of three from the right, a comma between two groups. -/
structure GroupsOfThree (digits text : List Char) : Prop where
  digits : text.filter (· != ',') = digits
  commas : ∀ i, text.reverse[i]? = some ',' ↔ i < text.length ∧ i % 4 = 3
  head : text.head? ≠ some ','

/-- A digit has a comma behind it where full groups follow. -/
theorem grouped_cons (d : Char) (rest : List Char) : grouped (d :: rest) =
    (if rest.length ≠ 0 ∧ rest.length % 3 = 0 then [d, ','] else [d]) ++ grouped rest := by
  simp [grouped, chunks]

theorem length_grouped (digits : List Char) : (grouped digits).length = digits.length + (digits.length - 1) / 3 := by
  induction digits with
  | nil => rfl
  | cons d rest ih =>
    rw [grouped_cons, List.length_append, ih, List.length_cons]
    by_cases h : rest.length ≠ 0 ∧ rest.length % 3 = 0
    · rw [if_pos h, List.length_cons, List.length_singleton]
      omega
    · rw [if_neg h, List.length_singleton]
      omega

theorem filter_chunks {digits : List Char} (grouping : Bool) (h : ',' ∉ digits) :
    (chunks grouping digits).flatten.filter (· != ',') = digits := by
  induction digits with
  | nil => rfl
  | cons d rest ih =>
    rw [List.mem_cons, not_or] at h
    have hd : (d != ',') = true := bne_iff_ne.mpr (Ne.symm h.1)
    rw [chunks, List.flatten_cons, List.filter_append, ih h.2]
    split <;> simp [hd]

theorem getElem?_concat_eq_some {l : List Char} {x y : Char} {i : Nat} :
    (l ++ [x])[i]? = some y ↔ l[i]? = some y ∨ (i = l.length ∧ x = y) := by
  rw [List.getElem?_append]
  by_cases hi : i < l.length
  · rw [if_pos hi]
    exact (or_iff_left fun h => Nat.ne_of_lt hi h.1).symm
  · rw [if_neg hi, List.getElem?_eq_none (Nat.le_of_not_lt hi), List.getElem?_singleton]
    have hz : i - l.length = 0 ↔ i = l.length := by omega
    simp [hz]

/-- The commas behind a digit keep their places from the right; the next one stands in front of three more digits. -/
theorem comma_grouped {digits : List Char} (h : ',' ∉ digits) (i : Nat) :
    (grouped digits).reverse[i]? = some ',' ↔ i < (grouped digits).length ∧ i % 4 = 3 := by
  induction digits with
  | nil => simp [grouped, chunks]
  | cons d rest ih =>
    rw [List.mem_cons, not_or] at h
    have hi := ih h.2
    have hd : ¬ d = ',' := Ne.symm h.1
    have hlen := length_grouped rest
    rw [grouped_cons]
    by_cases hc : rest.length ≠ 0 ∧ rest.length % 3 = 0
    · have hr : ([d, ','] ++ grouped rest).reverse = ((grouped rest).reverse ++ [',']) ++ [d] := by simp
      have hl : [d, ','].length = 2 := rfl
      rw [if_pos hc, hr, getElem?_concat_eq_some, getElem?_concat_eq_some, hi, List.length_append, List.length_append,
        List.length_reverse, hl]
      simp only [hd, and_false, or_false, and_true]
      omega
    · have hr : ([d] ++ grouped rest).reverse = (grouped rest).reverse ++ [d] := by simp
      rw [if_neg hc, hr, getElem?_concat_eq_some, hi, List.length_append, List.length_singleton]
      simp only [hd, and_false, or_false]
      omega

theorem groupsOfThree_grouped {digits : List Char} (h : ',' ∉ digits) : GroupsOfThree digits (grouped digits) := by
  refine ⟨filter_chunks true h, comma_grouped h, ?_⟩
  cases digits with
  | nil => exact nofun
  | cons d rest =>
    rw [List.mem_cons, not_or] at h
    rw [grouped_cons]
    split
    · simpa using Ne.symm h.1
    · simpa using Ne.symm h.1

/-! ## (2) The numeral of a number -/

/-- The standard numeral of a number with `n` places. -/
def standardNumeral (q : ℚ) (n : Nat) (grouping : Bool) : List Char :=
  minusSign (roundAway q n < 0) ++ (chunks grouping (Text.natDigits (nearestUnits q n / tenPow n))).flatten ++
    (if n = 0 then [] else '.' :: Text.lastDigits n (nearestUnits q n))

/-- The numeral of a rounded number is that of the number. -/
theorem standardNumeral_roundAway (q : ℚ) (n : Nat) (grouping : Bool) :
    standardNumeral (roundAway q n) n grouping = standardNumeral q n grouping := by
  simp only [standardNumeral, roundAway_roundAway, nearestUnits_roundAway]

theorem withSign_nearestUnits (v : Decimal) (text : List Char) (n : Nat) :
    withSign v text (nearestUnits v.value n == 0) = minusSign (roundAway v.value n < 0) ++ text := by
  rw [withSign_eq, minusSign_congr (roundAway_neg_iff v.value n)]

theorem minusSign_eq (negative : Prop) [Decidable negative] :
    minusSign negative = if decide negative then ['-'] else [] := by
  simp [minusSign]

/-- The two specifiers for numerals, by whether they group. -/
def numeralLetter (grouping : Bool) : Char := if grouping then 'N' else 'F'

theorem applyPattern_standardNumeral (v : Decimal) {n : Nat} (hn : n ≤ 99) (grouping : Bool) :
    applyPattern v (numeralLetter grouping :: Text.natDigits n) = .ok (standardNumeral v.value n grouping) := by
  have hstd : formatStandard v (numeralLetter grouping) (some n) =
      .ok (withSign v (fixed v n grouping).text (fixed v n grouping).isZero) := by
    cases grouping <;> rfl
  have hl : isLetter (numeralLetter grouping) = true := by cases grouping <;> rfl
  rw [applyPattern_letter v hn hl, hstd, fixed_eq, withSign_nearestUnits, standardNumeral, List.append_assoc]

theorem standardNumeral_false (q : ℚ) (n : Nat) :
    standardNumeral q n false = minusSign (roundAway q n < 0) ++ plainDigits (nearestUnits q n) n := by
  rw [standardNumeral, flatten_chunks_false, plainDigits, List.append_assoc]

/-! ## (3) Read back -/

theorem comma_notMem {digits : List Char} (h : ∀ c ∈ digits, c.isDigit = true) : ',' ∉ digits :=
  fun hc => absurd (h _ hc) (by decide)

theorem filter_digits {digits : List Char} (h : ∀ c ∈ digits, c.isDigit = true) : digits.filter (· != ',') = digits := by
  refine List.filter_eq_self.mpr fun c hc => bne_iff_ne.mpr ?_
  rintro rfl
  exact comma_notMem h hc

theorem filter_minusSign (negative : Prop) [Decidable negative] :
    (minusSign negative).filter (· != ',') = minusSign negative := by
  unfold minusSign
  split <;> rfl

/-- Places have no commas among them, nor has the point. -/
theorem filter_behind {none : Prop} [Decidable none] {places : List Char} (h : ∀ c ∈ places, c.isDigit = true) :
    (if none then [] else '.' :: places).filter (· != ',') = if none then [] else '.' :: places := by
  split
  · rfl
  · rw [List.filter_cons_of_pos (by decide), filter_digits h]

/-- Commas stand only between whole digits. -/
theorem filter_standardNumeral (q : ℚ) (n : Nat) (grouping : Bool) :
    (standardNumeral q n grouping).filter (· != ',') = standardNumeral q n false := by
  have hw : ',' ∉ Text.natDigits (nearestUnits q n / tenPow n) :=
    comma_notMem fun c hc => Text.charIsDigit_of_mem_natDigits hc
  have hp : ∀ c ∈ Text.lastDigits n (nearestUnits q n), c.isDigit = true :=
    fun c hc => Text.charIsDigit_of_mem_lastDigits hc
  rw [standardNumeral_false, plainDigits, standardNumeral, List.filter_append, List.filter_append, filter_minusSign,
    filter_chunks grouping hw, filter_behind hp, List.append_assoc]

theorem mem_standardNumeral {q : ℚ} {n : Nat} {grouping : Bool} {c : Char} (h : c ∈ standardNumeral q n grouping) :
    c.isDigit = true ∨ c = ',' ∨ c = '-' ∨ c = '.' := by
  by_cases hc : c = ','
  · exact .inr (.inl hc)
  · have hm : c ∈ (standardNumeral q n grouping).filter (· != ',') := List.mem_filter.mpr ⟨h, bne_iff_ne.mpr hc⟩
    rw [filter_standardNumeral, standardNumeral_false, List.mem_append] at hm
    rcases hm with hm | hm
    · unfold minusSign at hm
      split at hm
      · exact .inr (.inr (.inl (List.mem_singleton.mp hm)))
      · cases hm
    · rcases Decimal.mem_plainDigits hm with hd | hd
      · exact .inl hd
      · exact .inr (.inr (.inr hd))

/-- Behind the minus sign of a numeral stands no other. -/
theorem exists_behind_sign (q : ℚ) (n : Nat) (grouping : Bool) : ∃ behind,
    standardNumeral q n grouping = minusSign (roundAway q n < 0) ++ behind ∧ '-' ∉ behind := by
  refine ⟨_, List.append_assoc .., fun h => ?_⟩
  have hf := filter_standardNumeral q n grouping
  rw [standardNumeral_false, standardNumeral, List.append_assoc, List.filter_append, filter_minusSign,
    List.append_cancel_left_eq] at hf
  have hm : '-' ∈ plainDigits (nearestUnits q n) n := hf ▸ List.mem_filter.mpr ⟨h, rfl⟩
  rcases Decimal.mem_plainDigits hm with hd | hd
  · exact absurd hd (by decide)
  · cases hd

/-- A numeral starts with a minus sign if the rounded number is negative. -/
theorem head?_standardNumeral (q : ℚ) (n : Nat) (grouping : Bool) :
    (standardNumeral q n grouping).head? = some '-' ↔ roundAway q n < 0 := by
  obtain ⟨behind, h, hb⟩ := exists_behind_sign q n grouping
  rw [h, minusSign]
  split
  · rename_i hneg
    exact iff_of_true rfl hneg
  · rename_i hneg
    exact iff_of_false (fun hh => hb (List.mem_of_head? hh)) hneg

theorem isBlank_of_mem_standardNumeral {q : ℚ} {n : Nat} {grouping : Bool} {c : Char}
    (h : c ∈ standardNumeral q n grouping) : Text.isBlank c = false := by
  rcases mem_standardNumeral h with hd | rfl | rfl | rfl
  · exact Text.isBlank_of_isDigit hd
  · rfl
  · rfl
  · rfl

/-- A decimal's numeral is read as the rounded number. -/
theorem parse?_standardNumeral (v : Decimal) (n : Nat) (grouping : Bool) :
    ∃ d, Decimal.parse? (String.ofList (standardNumeral v.value n grouping)) = some d ∧
      d.value = roundAway v.value n := by
  have hplus : (standardNumeral v.value n false).head? ≠ some '+' := by
    intro hh
    rcases mem_standardNumeral (List.mem_of_head? hh) with hd | hd | hd | hd
    · exact absurd hd (by decide)
    · cases hd
    · cases hd
    · cases hd
  obtain ⟨d, hd, hv⟩ := Decimal.readPlain?_plainDigits (v.scale_round_le n) (v.magnitude_round n)
    (decide (roundAway v.value n < 0))
  refine ⟨d, ?_, ?_⟩
  · rw [Decimal.parse?_of_filter (fun c hc => isBlank_of_mem_standardNumeral hc) (filter_standardNumeral _ _ _) hplus,
      standardNumeral_false, minusSign_eq, Decimal.readNumeral?, hd]
    rfl
  · rw [hv, v.value_round]
    by_cases hneg : roundAway v.value n < 0
    · rw [if_pos (decide_eq_true hneg), abs_of_neg hneg, neg_neg]
    · rw [if_neg (by simpa using hneg), abs_of_nonneg (not_lt.mp hneg)]

/-- A numeral with `n` places: whole digits without a superfluous zero in front, and the places behind a point; without
places no point. A minus sign stands in front of a negative number only. -/
structure NumeralParts (negative : Prop) [Decidable negative] (n : Nat) (whole places text : List Char) : Prop where
  text_eq : text = minusSign negative ++ whole ++ (if n = 0 then [] else '.' :: places)
  isDigit : ∀ c ∈ whole ++ places, Text.isDigit c = true
  length_places : places.length = n
  whole_ne_nil : whole ≠ []
  leading : 1 < whole.length → whole.head? ≠ some '0'
  sign : text.head? = some '-' ↔ negative

theorem standardNumeral_parts (q : ℚ) (n : Nat) :
    NumeralParts (roundAway q n < 0) n (Text.natDigits (nearestUnits q n / tenPow n))
      (Text.lastDigits n (nearestUnits q n)) (standardNumeral q n false) := by
  refine ⟨?_, ?_, Text.length_lastDigits _ _, Text.natDigits_ne_nil _, ?_, head?_standardNumeral q n false⟩
  · rw [standardNumeral, flatten_chunks_false]
  · intro c hc
    rcases List.mem_append.mp hc with hc | hc
    · exact Text.isDigit_of_mem_natDigits hc
    · exact Text.isDigit_of_isDigit (Text.charIsDigit_of_mem_lastDigits hc)
  · intro hl hh
    have hlead := Text.natDigits_no_leading_zero (nearestUnits q n / tenPow n)
    rw [hh] at hlead
    simp [hl] at hlead

/-- A fixed and a grouped numeral with `n` places stand for the decimal rounded to them, and are read as that number.
They have exactly the places, and differ in the commas between groups of three whole digits alone. Whatever decimal
stands for the rounded number has the same two numerals. -/
theorem numerals_are_read_back (v : Decimal) {n : Nat} (hn : n ≤ 99) :
    (v.round n).value = roundAway v.value n ∧
    ∃ fixedText groupedText whole places groups,
      applyPattern v ('F' :: Text.natDigits n) = .ok fixedText ∧
      applyPattern v ('N' :: Text.natDigits n) = .ok groupedText ∧
      NumeralParts (roundAway v.value n < 0) n whole places fixedText ∧
      groupedText = minusSign (roundAway v.value n < 0) ++ groups ++ (if n = 0 then [] else '.' :: places) ∧
      GroupsOfThree whole groups ∧ groupedText.filter (· != ',') = fixedText ∧
      (∃ d, Decimal.parse? (String.ofList fixedText) = some d ∧ d.value = roundAway v.value n) ∧
      (∃ d, Decimal.parse? (String.ofList groupedText) = some d ∧ d.value = roundAway v.value n) ∧
      ∀ w : Decimal, w.value = roundAway v.value n →
        applyPattern w ('F' :: Text.natDigits n) = .ok fixedText ∧
        applyPattern w ('N' :: Text.natDigits n) = .ok groupedText := by
  refine ⟨v.value_round n, standardNumeral v.value n false, standardNumeral v.value n true, _, _, _,
    applyPattern_standardNumeral v hn false, applyPattern_standardNumeral v hn true, standardNumeral_parts v.value n,
    rfl, groupsOfThree_grouped (comma_notMem fun c hc => Text.charIsDigit_of_mem_natDigits hc),
    filter_standardNumeral v.value n true, parse?_standardNumeral v n false, parse?_standardNumeral v n true,
    fun w hw => ?_⟩
  have hF := applyPattern_standardNumeral w hn false
  have hN := applyPattern_standardNumeral w hn true
  rw [hw, standardNumeral_roundAway] at hF hN
  exact ⟨hF, hN⟩

/-- A negative number of seven whole digits, rounded up into its first place. -/
theorem negative_numerals_are_read_back :
    let v : Decimal := ⟨true, 1234567895, 3, by decide, by decide⟩
    2 ≤ 99 ∧ applyPattern v "F2".toList = .ok "-1234567.90".toList ∧
      applyPattern v "N2".toList = .ok "-1,234,567.90".toList ∧
      ∃ d e, Decimal.parse? (String.ofList "-1234567.90".toList) = some d ∧
        Decimal.parse? (String.ofList "-1,234,567.90".toList) = some e ∧
        d.value = roundAway v.value 2 ∧ e.value = roundAway v.value 2 := by
  intro v
  have hF : applyPattern v "F2".toList = .ok "-1234567.90".toList := by decide +kernel
  have hN : applyPattern v "N2".toList = .ok "-1,234,567.90".toList := by decide +kernel
  obtain ⟨-, fixedText, groupedText, -, -, -, hfixed, hgrouped, -, -, -, -, ⟨d, hd, hdv⟩, ⟨e, he, hev⟩, -⟩ :=
    numerals_are_read_back v (n := 2) (by decide)
  cases hF.symm.trans hfixed
  cases hN.symm.trans hgrouped
  exact ⟨by decide, hF, hN, d, e, hd, he, hdv, hev⟩

end RecordNaming.Numeral
