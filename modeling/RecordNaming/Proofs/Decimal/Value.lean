/-
  RecordNaming.Proofs.Decimal.Value — the number a decimal stands for, and what rounding to a number
  of places makes of it.

  (1) A decimal stands for a rational number (`value`); its sign and whether it is zero are those of
  the number (`isNegative_iff`, `isZero_iff`).

  (2) A number rounded to places is a count of units of the last place, a half counted as a whole one
  (`nearestUnits`). It is off by half a unit at most (`abs_roundAway_sub_le`).

  (3) A decimal is rounded so (`value_round`), and what it prints then are the digits of the count
  (`integerDigits_round`, `fractionDigits_round`), whatever its scale was.
-/
import Mathlib.Algebra.Order.Floor.Semifield
import Mathlib.Data.Rat.Floor
import Mathlib.Tactic.FieldSimp
import Mathlib.Tactic.Linarith
import Mathlib.Tactic.Ring
import RecordNaming.Decimal.Arithmetic
import RecordNaming.Proofs.Text.Digits

namespace RecordNaming

theorem tenPow_cast (n : Nat) : (tenPow n : ℚ) = 10 ^ n := Nat.cast_pow 10 n

theorem tenPow_add (m n : Nat) : tenPow (m + n) = tenPow m * tenPow n := Nat.pow_add 10 m n

theorem tenPow_dvd {m n : Nat} (h : m ≤ n) : tenPow m ∣ tenPow n := Nat.pow_dvd_pow 10 h

theorem tenPow_mono {m n : Nat} (h : m ≤ n) : tenPow m ≤ tenPow n := Nat.pow_le_pow_right (by decide) h

/-! ## (2) Rounded numbers -/

/-- How many units of a place make the magnitude of a number when it is rounded to that place, a half
away from zero. -/
def nearestUnits (q : ℚ) (places : Nat) : Nat := ⌊|q| * 10 ^ places + 1 / 2⌋₊

/-- A number rounded to places, a half away from zero. -/
def roundAway (q : ℚ) (places : Nat) : ℚ :=
  if q < 0 then -(nearestUnits q places / 10 ^ places) else nearestUnits q places / 10 ^ places

/-- A whole number is rounded to itself. -/
theorem floor_natCast_add_half (n : Nat) : ⌊(n + 1 / 2 : ℚ)⌋₊ = n := by
  have hh : ⌊(1 / 2 : ℚ)⌋₊ = 0 := Nat.floor_eq_zero.mpr (by norm_num)
  rw [add_comm, Nat.floor_add_natCast (by norm_num), hh, Nat.zero_add]

theorem nearestUnits_abs (q : ℚ) (places : Nat) : nearestUnits |q| places = nearestUnits q places := by
  rw [nearestUnits, abs_abs, nearestUnits]

theorem nearestUnits_zero (places : Nat) : nearestUnits 0 places = 0 := by
  have h := floor_natCast_add_half 0
  rw [Nat.cast_zero] at h
  rw [nearestUnits, abs_zero, zero_mul, h]

theorem roundAway_eq_zero_iff (q : ℚ) (places : Nat) : roundAway q places = 0 ↔ nearestUnits q places = 0 := by
  have hp : (10 : ℚ) ^ places ≠ 0 := by positivity
  unfold roundAway
  split <;> simp [hp]

/-- A rounded number is negative if the number is, unless nothing is left of it. -/
theorem roundAway_neg_iff (q : ℚ) (places : Nat) :
    roundAway q places < 0 ↔ q < 0 ∧ nearestUnits q places ≠ 0 := by
  have hp : (0 : ℚ) < 10 ^ places := by positivity
  have hn : (0 : ℚ) ≤ nearestUnits q places := Nat.cast_nonneg _
  unfold roundAway
  by_cases hq : q < 0
  · rw [if_pos hq, neg_lt_zero, div_pos_iff_of_pos_right hp, Nat.cast_pos, Nat.pos_iff_ne_zero]
    exact (and_iff_right hq).symm
  · rw [if_neg hq]
    have hle : ¬ (nearestUnits q places : ℚ) / 10 ^ places < 0 := not_lt.mpr (div_nonneg hn hp.le)
    exact iff_of_false hle fun h => hq h.1

/-- The magnitude in units of the place is off by a half at most. -/
theorem nearestUnits_bounds (q : ℚ) (places : Nat) :
    (nearestUnits q places : ℚ) ≤ |q| * 10 ^ places + 1 / 2 ∧ |q| * 10 ^ places - 1 / 2 < nearestUnits q places := by
  have h0 : 0 ≤ |q| * 10 ^ places + 1 / 2 := by positivity
  have hf := (Nat.floor_eq_iff h0).mp (rfl : nearestUnits q places = nearestUnits q places)
  constructor
  · exact hf.1
  · linarith [hf.2]

theorem abs_roundAway_sub_le (q : ℚ) (places : Nat) : |roundAway q places - q| ≤ 1 / (2 * 10 ^ places) := by
  have hp : (0 : ℚ) < 10 ^ places := by positivity
  obtain ⟨hu, hl⟩ := nearestUnits_bounds q places
  have hm : |(nearestUnits q places : ℚ) / 10 ^ places - (|q|)| ≤ 1 / (2 * 10 ^ places) := by
    have he : (nearestUnits q places : ℚ) / 10 ^ places - |q| =
        (nearestUnits q places - |q| * 10 ^ places) / 10 ^ places := by field_simp
    rw [he, abs_div, abs_of_pos hp, ← div_div]
    refine div_le_div_of_nonneg_right (abs_le.mpr ⟨?_, ?_⟩) hp.le
    · linarith
    · linarith
  unfold roundAway
  by_cases hq : q < 0
  · rw [abs_of_neg hq] at hm
    rw [if_pos hq, ← abs_neg]
    have he : -(-(nearestUnits q places / 10 ^ places : ℚ) - q) = nearestUnits q places / 10 ^ places - -q := by ring
    rw [he]
    exact hm
  · rw [abs_of_nonneg (not_lt.mp hq)] at hm
    rw [if_neg hq]
    exact hm

theorem abs_roundAway (q : ℚ) (places : Nat) : |roundAway q places| = nearestUnits q places / 10 ^ places := by
  have hn : (0 : ℚ) ≤ nearestUnits q places / 10 ^ places := by positivity
  unfold roundAway
  split
  · rw [abs_neg, abs_of_nonneg hn]
  · rw [abs_of_nonneg hn]

/-- A rounded number is its sign and its units. -/
theorem roundAway_eq (q : ℚ) (places : Nat) : roundAway q places =
    (if decide (roundAway q places < 0) then -1 else 1) * (nearestUnits q places / 10 ^ places) := by
  rw [← abs_roundAway]
  by_cases hneg : roundAway q places < 0
  · rw [if_pos (decide_eq_true hneg), abs_of_neg hneg, neg_one_mul, neg_neg]
  · rw [if_neg (by simpa using hneg), abs_of_nonneg (not_lt.mp hneg), one_mul]

/-- A number divided by a power of ten and rounded is off by half a unit of the power. -/
theorem abs_roundAway_mul_sub_le (q : ℚ) (e places : Nat) :
    |roundAway (q / 10 ^ e) places * 10 ^ e - q| ≤ 10 ^ e / (2 * 10 ^ places) := by
  have hp : (0 : ℚ) < 10 ^ e := by positivity
  have hx : roundAway (q / 10 ^ e) places * 10 ^ e - q = (roundAway (q / 10 ^ e) places - q / 10 ^ e) * 10 ^ e := by
    rw [sub_mul, div_mul_cancel₀ _ hp.ne']
  have hbound : (10 ^ e / (2 * 10 ^ places) : ℚ) = 1 / (2 * 10 ^ places) * 10 ^ e := by rw [one_div_mul_eq_div]
  rw [hx, abs_mul, abs_of_pos hp, hbound]
  exact mul_le_mul_of_nonneg_right (abs_roundAway_sub_le _ places) hp.le

/-- A rounded number has a whole count of units. -/
theorem nearestUnits_roundAway (q : ℚ) (places : Nat) :
    nearestUnits (roundAway q places) places = nearestUnits q places := by
  have hp : (10 : ℚ) ^ places ≠ 0 := by positivity
  rw [nearestUnits, abs_roundAway, div_mul_cancel₀ _ hp, floor_natCast_add_half]

theorem roundAway_roundAway (q : ℚ) (places : Nat) : roundAway (roundAway q places) places = roundAway q places := by
  have hneg : roundAway q places < 0 ↔ q < 0 ∧ nearestUnits q places ≠ 0 := roundAway_neg_iff q places
  rw [roundAway, nearestUnits_roundAway]
  by_cases h0 : nearestUnits q places = 0
  · have hz := (roundAway_eq_zero_iff q places).mpr h0
    simp [hz, h0]
  · simp only [hneg, h0, ne_eq, not_false_eq_true, and_true]
    rfl

namespace Decimal

/-! ## (1) The number -/

/-- The number a decimal stands for. -/
def value (d : Decimal) : ℚ := d.coefficient / 10 ^ d.scale

theorem value_eq (d : Decimal) :
    d.value = if d.negative then -(d.magnitude / 10 ^ d.scale : ℚ) else d.magnitude / 10 ^ d.scale := by
  unfold value coefficient
  split
  · rw [Int.cast_neg, Int.cast_natCast, neg_div]
  · rw [Int.cast_natCast]

theorem abs_value (d : Decimal) : |d.value| = d.magnitude / 10 ^ d.scale := by
  have hn : (0 : ℚ) ≤ d.magnitude / 10 ^ d.scale := by positivity
  rw [value_eq]
  split
  · rw [abs_neg, abs_of_nonneg hn]
  · rw [abs_of_nonneg hn]

theorem value_abs (d : Decimal) : d.abs.value = |d.value| := by
  rw [abs_value]
  simp [value, abs, coefficient]

theorem isZero_iff (d : Decimal) : d.isZero = true ↔ d.value = 0 := by
  rw [← abs_eq_zero, abs_value, isZero, beq_iff_eq]
  simp

theorem isNegative_iff (d : Decimal) : d.isNegative = true ↔ d.value < 0 := by
  have hp : (0 : ℚ) < 10 ^ d.scale := by positivity
  have hn : (0 : ℚ) ≤ d.magnitude / 10 ^ d.scale := by positivity
  rw [isNegative, Bool.and_eq_true, Bool.not_eq_true', isZero, beq_eq_false_iff_ne, value_eq]
  cases d.negative with
  | true =>
    rw [if_pos rfl, neg_lt_zero, div_pos_iff_of_pos_right hp, Nat.cast_pos, Nat.pos_iff_ne_zero]
    exact and_iff_right rfl
  | false =>
    rw [if_neg Bool.false_ne_true]
    exact iff_of_false (fun h => Bool.false_ne_true h.1) (not_lt.mpr hn)

/-! ## (3) Rounded decimals -/

/-- By an even number the half of the divisor is exact. -/
theorem halfUp_eq_floor (n : Nat) {half : Nat} (h : 0 < half) :
    halfUp n (2 * half) = ⌊(n / (2 * half : ℕ) + 1 / 2 : ℚ)⌋₊ := by
  have hx : (n / (2 * half : ℕ) + 1 / 2 : ℚ) = (n + half : ℕ) / (2 * half : ℕ) := by
    push_cast
    field_simp
  rw [hx, Nat.floor_div_eq_div, halfUp, Nat.mul_div_cancel_left half (by decide)]

/-- The count of units of a decimal: zeros at its end for places it has not, or its magnitude rounded
on the places that go. -/
theorem nearestUnits_value (d : Decimal) (places : Nat) :
    nearestUnits d.value places =
      if places < d.scale then halfUp d.magnitude (tenPow (d.scale - places))
      else d.magnitude * tenPow (places - d.scale) := by
  rw [nearestUnits, abs_value]
  split
  · rename_i hs
    obtain ⟨k, hk⟩ : ∃ k, d.scale = places + (k + 1) := ⟨d.scale - places - 1, by omega⟩
    have hsub : d.scale - places = k + 1 := by omega
    have heven : tenPow (k + 1) = 2 * (tenPow k * 5) := by
      rw [tenPow_succ]
      omega
    have hx : (d.magnitude / 10 ^ d.scale * 10 ^ places : ℚ) = d.magnitude / tenPow (k + 1) := by
      rw [tenPow_cast, hk, pow_add]
      field_simp
    rw [hx, hsub, heven, halfUp_eq_floor _ (Nat.mul_pos (tenPow_pos k) (by decide))]
  · rename_i hs
    obtain ⟨k, hk⟩ : ∃ k, places = d.scale + k := ⟨places - d.scale, by omega⟩
    have hsub : places - d.scale = k := by omega
    have hx : (d.magnitude / 10 ^ d.scale * 10 ^ places : ℚ) = (d.magnitude * tenPow k : ℕ) := by
      rw [Nat.cast_mul, tenPow_cast, hk, pow_add]
      field_simp
    rw [hx, hsub, floor_natCast_add_half]

theorem scale_round_le (d : Decimal) (places : Nat) : (d.round places).scale ≤ places := by
  unfold round
  split
  · exact Nat.le_refl places
  · omega

theorem magnitude_round (d : Decimal) (places : Nat) :
    (d.round places).magnitude * tenPow (places - (d.round places).scale) = nearestUnits d.value places := by
  rw [nearestUnits_value]
  unfold round
  split
  · simp [tenPow_zero]
  · rfl

theorem isZero_round (d : Decimal) (places : Nat) :
    (d.round places).isZero = (nearestUnits d.value places == 0) := by
  have hp := tenPow_pos (places - (d.round places).scale)
  have hm : (d.round places).magnitude = 0 ↔ nearestUnits d.value places = 0 := by
    rw [← magnitude_round, Nat.mul_eq_zero, or_iff_left (Nat.pos_iff_ne_zero.mp hp)]
  rw [isZero, Bool.eq_iff_iff, beq_iff_eq, beq_iff_eq, hm]

theorem negative_round (d : Decimal) (places : Nat) : (d.round places).negative = d.negative := by
  unfold round
  split <;> rfl

theorem value_round (d : Decimal) (places : Nat) : (d.round places).value = roundAway d.value places := by
  have hs := d.scale_round_le places
  have hm : ((d.round places).magnitude : ℚ) / 10 ^ (d.round places).scale =
      nearestUnits d.value places / 10 ^ places := by
    have hp : (10 : ℚ) ^ places = 10 ^ (d.round places).scale * 10 ^ (places - (d.round places).scale) := by
      rw [← pow_add, Nat.add_sub_cancel' hs]
    rw [← magnitude_round, hp, Nat.cast_mul, tenPow_cast]
    field_simp
  rw [value_eq, negative_round, hm, roundAway]
  by_cases hn : d.value < 0
  · have hd := (d.isNegative_iff.mpr hn)
    rw [isNegative, Bool.and_eq_true] at hd
    rw [if_pos hn, if_pos hd.1]
  · rw [if_neg hn]
    cases hd : d.negative with
    | false => rw [if_neg Bool.false_ne_true]
    | true =>
      -- a minus sign of a zero
      have hz : d.isZero = true := by
        by_contra hz
        have hneg : d.isNegative = true := by rw [isNegative, hd, Bool.not_eq_true _ |>.mp hz]; rfl
        exact hn (d.isNegative_iff.mp hneg)
      have h0 : nearestUnits d.value places = 0 := by
        rw [d.isZero_iff.mp hz, nearestUnits]
        norm_num
      rw [if_pos rfl, h0, Nat.cast_zero, zero_div, neg_zero]

/-- The whole part of a decimal in units of a place it has. -/
theorem whole_eq {d : Decimal} {places units : Nat} (hs : d.scale ≤ places)
    (hu : d.magnitude * tenPow (places - d.scale) = units) :
    d.magnitude / tenPow d.scale = units / tenPow places := by
  have hp : tenPow places = tenPow d.scale * tenPow (places - d.scale) := by
    rw [← tenPow_add, Nat.add_sub_cancel' hs]
  rw [← hu, hp, Nat.mul_div_mul_right _ _ (tenPow_pos _)]

theorem fractionDigits_eq_lastDigits (d : Decimal) : d.fractionDigits = Text.lastDigits d.scale d.magnitude := by
  unfold fractionDigits
  split
  · rename_i hs
    rw [hs]
    rfl
  · rw [Text.padded_eq_lastDigits (by omega) (Nat.mod_lt _ (tenPow_pos _)), Text.lastDigits_mod]

theorem fractionDigits_eq {d : Decimal} {places units : Nat} (hs : d.scale ≤ places)
    (hu : d.magnitude * tenPow (places - d.scale) = units) :
    d.fractionDigits.rightpad places '0' = Text.lastDigits places units := by
  rw [fractionDigits_eq_lastDigits, List.rightpad, Text.length_lastDigits, ← hu, ← Text.lastDigits_mul_tenPow,
    Nat.add_sub_cancel' hs]

theorem whole_round (d : Decimal) (places : Nat) :
    (d.round places).magnitude / tenPow (d.round places).scale = nearestUnits d.value places / tenPow places :=
  whole_eq (d.scale_round_le places) (d.magnitude_round places)

theorem integerDigits_round (d : Decimal) (places : Nat) :
    (d.round places).integerDigits = Text.natDigits (nearestUnits d.value places / tenPow places) := by
  rw [integerDigits, whole_round]

theorem fractionDigits_round (d : Decimal) (places : Nat) :
    (d.round places).fractionDigits.rightpad places '0' = Text.lastDigits places (nearestUnits d.value places) :=
  fractionDigits_eq (d.scale_round_le places) (d.magnitude_round places)

end Decimal

end RecordNaming
