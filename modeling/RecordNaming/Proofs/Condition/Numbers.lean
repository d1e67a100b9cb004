/-
  RecordNaming.Proofs.Condition.Numbers — conditions order numbers exactly.

  (1) Decimals are ordered as the numbers they stand for, whatever their scales and the signs of their zeros
  (`cmp_eq_lt_iff`).

  (2) A decimal is read back from its default text and from a grouped numeral that has all its places, with blanks
  around them (`SpelledBy.parse?`): the groups, the zeros behind its places and the sign of a zero do not matter.

  (3) A field offers the number to conditions whatever kind of value holds it (`Holds.number`). So both sides are
  numbers, and neither instants nor letters are looked at: `numbers_are_ordered_exactly`.
-/
import RecordNaming.Condition.Evaluation
import RecordNaming.Proofs.Numeral.Standard
import RecordNaming.Proofs.Text.Blank

namespace RecordNaming

/-! ## (1) The order of decimals -/

namespace Decimal

theorem value_lt_iff (a b : Decimal) :
    a.value < b.value ↔ a.coefficient * tenPow b.scale < b.coefficient * tenPow a.scale := by
  have ha : (0 : ℚ) < 10 ^ a.scale := by positivity
  have hb : (0 : ℚ) < 10 ^ b.scale := by positivity
  rw [value, value, div_lt_div_iff₀ ha hb, ← tenPow_cast, ← tenPow_cast]
  exact_mod_cast Iff.rfl

theorem cmp_eq_lt_iff {a b : Decimal} : a.cmp b = .lt ↔ a.value < b.value := by
  rw [cmp, compare_lt_iff_lt, value_lt_iff]

theorem cmp_eq_gt_iff {a b : Decimal} : a.cmp b = .gt ↔ b.value < a.value := by
  rw [cmp, compare_gt_iff_gt, value_lt_iff]

theorem value_ofInt64 (n : Int64) : (ofInt64 n).value = n.toInt := by
  have h : ofParts? n.toInt 0 = some (ofInt64 n) := dif_pos ⟨(ofInt64 n).magnitude_le, (ofInt64 n).scale_le⟩
  rw [value_ofParts? h, pow_zero, div_one]

theorem value_ofInt32 (n : Int32) : (ofInt32 n).value = n.toInt := by
  have h : ofParts? n.toInt 0 = some (ofInt32 n) := dif_pos ⟨(ofInt32 n).magnitude_le, (ofInt32 n).scale_le⟩
  rw [value_ofParts? h, pow_zero, div_one]

/-! ## (2) Texts of a decimal -/

theorem digits_eq_plainDigits (v : Decimal) :
    v.digits = (if v.negative then ['-'] else []) ++ plainDigits v.magnitude v.scale := by
  rw [digits, plainDigits, fractionDigits_eq_lastDigits, integerDigits, List.append_assoc]

theorem value_eq_abs (v : Decimal) : v.value = if v.negative then -|v.value| else |v.value| := by
  rw [abs_value, value_eq]

theorem mem_digits {v : Decimal} {c : Char} (h : c ∈ v.digits) : c.isDigit = true ∨ c = '-' ∨ c = '.' := by
  rw [digits_eq_plainDigits, List.mem_append] at h
  rcases h with h | h
  · split at h
    · exact .inr (.inl (List.mem_singleton.mp h))
    · cases h
  · rcases mem_plainDigits h with hd | hd
    · exact .inl hd
    · exact .inr (.inr hd)

/-- The default text is read back, a zero with a minus sign as zero. -/
theorem parse?_digits (v : Decimal) : ∃ d, parse? (String.ofList v.digits) = some d ∧ d.value = v.value := by
  have hblank : ∀ c ∈ v.digits, Text.isBlank c = false := by
    intro c hc
    rcases mem_digits hc with hd | rfl | rfl
    · exact Text.isBlank_of_isDigit hd
    · rfl
    · rfl
  have hcomma : v.digits.filter (· != ',') = v.digits := by
    refine List.filter_eq_self.mpr fun c hc => bne_iff_ne.mpr ?_
    rintro rfl
    exact absurd (mem_digits hc) (by decide)
  have hplus : v.digits.head? ≠ some '+' := by
    intro hh
    exact absurd (mem_digits (List.mem_of_head? hh)) (by decide)
  have hunits : v.magnitude * tenPow (v.scale - v.scale) = v.magnitude := by
    rw [Nat.sub_self, tenPow_zero, Nat.mul_one]
  obtain ⟨d, hd, hv⟩ := readPlain?_plainDigits (Nat.le_refl v.scale) hunits v.negative
  refine ⟨d, ?_, ?_⟩
  · rw [parse?_of_filter hblank hcomma hplus, readNumeral?, digits_eq_plainDigits, hd]
    rfl
  · rw [hv, ← value_eq_abs]

/-- A text of a decimal: its default text, or a grouped numeral that has all its places. -/
inductive Spells (v : Decimal) : List Char → Prop
  | plain : Spells v v.digits
  | grouped {n : Nat} {text : List Char} (hs : v.scale ≤ n) (hn : n ≤ maxScale)
      (h : Numeral.applyPattern v ('N' :: Text.natDigits n) = .ok text) : Spells v text

/-- A string that spells a decimal, with blanks around it. -/
def SpelledBy (v : Decimal) (s : String) : Prop :=
  ∃ before text behind, before.all Text.isBlank = true ∧ v.Spells text ∧ behind.all Text.isBlank = true ∧
    s = String.ofList (before ++ text ++ behind)

/-- Nothing is rounded to the places there are. -/
theorem roundAway_value {v : Decimal} {n : Nat} (h : v.scale ≤ n) : roundAway v.value n = v.value := by
  have hround : v.round n = v := by
    rw [round, dif_neg (Nat.not_lt.mpr h)]
  rw [← value_round, hround]

variable {v : Decimal}

theorem Spells.parse? {text : List Char} (h : v.Spells text) :
    ∃ d, parse? (String.ofList text) = some d ∧ d.value = v.value := by
  cases h with
  | plain => exact v.parse?_digits
  | grouped hs hn happly =>
    rename_i n
    have hnumeral := Numeral.applyPattern_standardNumeral v (Nat.le_trans hn (by decide)) true
    cases hnumeral.symm.trans happly
    obtain ⟨d, hd, hv⟩ := Numeral.parse?_standardNumeral v n true
    exact ⟨d, hd, hv.trans (roundAway_value hs)⟩

theorem SpelledBy.parse? {s : String} (h : v.SpelledBy s) : ∃ d, parse? s = some d ∧ d.value = v.value := by
  obtain ⟨before, text, behind, hbefore, htext, hbehind, rfl⟩ := h
  obtain ⟨d, hd, hv⟩ := htext.parse?
  refine ⟨d, ?_, hv⟩
  rw [← hd, Decimal.parse?, Decimal.parse?, String.toList_ofList, String.toList_ofList,
    Text.trim_blanks hbefore hbehind]

end Decimal

/-! ## (3) Numbers in conditions -/

/-- A value that holds a decimal, as an amount or a number, as an integer equal to it, or as a text of it. -/
inductive FieldValue.Holds (v : Decimal) : FieldValue → Prop
  | money : Holds v (.money v)
  | decimal : Holds v (.decimal v)
  | whole (n : Int64) (h : v.value = n.toInt) : Holds v (.whole n)
  | optionSet (code : Int32) (h : v.value = code.toInt) : Holds v (.optionSet code)
  | text (s : String) (h : v.SpelledBy s) : Holds v (.text s)

/-- Whatever kind of value holds a decimal, the field is compared by the number it stands for. -/
theorem FieldValue.Holds.number {v : Decimal} {value : FieldValue} (h : value.Holds v) (label : Option String) :
    ∃ d, (Comparand.ofValue label value).number = some d ∧ d.value = v.value := by
  cases h with
  | money => exact ⟨v, rfl, rfl⟩
  | decimal => exact ⟨v, rfl, rfl⟩
  | whole n hn => exact ⟨.ofInt64 n, rfl, (Decimal.value_ofInt64 n).trans hn.symm⟩
  | optionSet code hc => exact ⟨.ofInt32 code, rfl, (Decimal.value_ofInt32 code).trans hc.symm⟩
  | text s hs => exact hs.parse?

/-- Where both sides are numbers, nothing else is looked at. -/
theorem Comparand.order_of_numbers {c : Comparand} {a b : Decimal} {operand : String} (hc : c.number = some a)
    (ho : Decimal.parse? operand = some b) : c.order operand = a.cmp b := by
  rw [order, hc, ho]

/-- A field that holds a decimal is greater or less than a text of another one as the one number is greater or less
than the other: whatever kind of value holds it, with or without groups, zeros behind the places and blanks, and with a
label or without. -/
theorem numbers_are_ordered_exactly {v w : Decimal} {r : Record} {field operand : String} {value : FieldValue}
    (hfield : r.get? field = some value) (hv : value.Holds v) (hw : w.SpelledBy operand) :
    ((Condition.compare field .greaterThan operand).holds r = true ↔ w.value < v.value) ∧
      ((Condition.compare field .lessThan operand).holds r = true ↔ v.value < w.value) := by
  obtain ⟨a, ha, hav⟩ := hv.number (r.shownLabel? field)
  obtain ⟨b, hb, hbv⟩ := hw.parse?
  have horder : (Comparand.ofField r field).order operand = a.cmp b := by
    rw [Comparand.ofField, hfield]
    exact Comparand.order_of_numbers ha hb
  constructor
  · rw [Condition.holds, Comparand.satisfies, horder, beq_iff_eq, Decimal.cmp_eq_gt_iff, hav, hbv]
  · rw [Condition.holds, Comparand.satisfies, horder, beq_iff_eq, Decimal.cmp_eq_lt_iff, hav, hbv]

/-- An integer and a text of the same number with groups and more places, against the next number at a tenth. -/
theorem spellings_are_ordered_as_numbers :
    let v : Decimal := ⟨false, 1234, 0, by decide, by decide⟩
    let w : Decimal := ⟨false, 12341, 1, by decide, by decide⟩
    let r : Record := (({} : Record).insert "count" (.whole 1234)).insert "net" (.text " 1,234.00")
    r.get? "count" = some (.whole 1234) ∧ r.get? "net" = some (.text " 1,234.00") ∧
      (FieldValue.whole 1234).Holds v ∧ (FieldValue.text " 1,234.00").Holds v ∧ w.SpelledBy "1234.1" ∧
      v.value < w.value ∧ (Condition.compare "count" .lessThan "1234.1").holds r = true ∧
      (Condition.compare "net" .lessThan "1234.1").holds r = true := by
  intro v w r
  have hcount : r.get? "count" = some (.whole 1234) := by decide +kernel
  have hnet : r.get? "net" = some (.text " 1,234.00") := by decide +kernel
  have hgrouped : Numeral.applyPattern v "N2".toList = .ok "1,234.00".toList := by decide +kernel
  have hint : (1234 : Int64).toInt = 1234 := by decide
  have hvalue : v.value = 1234 := by norm_num [Decimal.value, Decimal.coefficient, v]
  have hwhole : (FieldValue.whole 1234).Holds v := .whole 1234 (by rw [hvalue, hint, Int.cast_ofNat])
  have htext : (FieldValue.text " 1,234.00").Holds v :=
    .text _ ⟨[' '], _, [], rfl, .grouped (n := 2) (by decide) (by decide) hgrouped, rfl, rfl⟩
  have hoperand : w.SpelledBy "1234.1" := ⟨[], w.digits, [], rfl, .plain, rfl, by decide +kernel⟩
  have hlt : v.value < w.value := by
    rw [hvalue]
    norm_num [Decimal.value, Decimal.coefficient, w]
  exact ⟨hcount, hnet, hwhole, htext, hoperand, hlt, (numbers_are_ordered_exactly hcount hwhole hoperand).2.mpr hlt,
    (numbers_are_ordered_exactly hnet htext hoperand).2.mpr hlt⟩

end RecordNaming
