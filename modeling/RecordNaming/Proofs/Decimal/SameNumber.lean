/-
  RecordNaming.Proofs.Decimal.SameNumber — what decimals have in common that stand for one number, such as
  1.5 and 1.500.

  (1) The sign, whether there are places other than zeros, and the whole digits are those of the number
  (`isNegative_congr`, `isIntegral_congr`, `integerDigits_congr`).

  (2) A product with a power of ten is exact, or there is none (`value_mul?_tenPow`): the places it may give
  up are the zeros of the power.

  (3) A quotient by a power of ten is always there, and it is the exact one rounded to as many places as a
  decimal can have, a half to the even neighbour (`value_div?_tenPow`).

  So the products and the quotients stand for one number again, whatever the scales were.
-/
import RecordNaming.Proofs.Decimal.Exact

namespace RecordNaming.Decimal

/-! ## (1) Signs and whole parts -/

section

variable {v w : Decimal} (h : v.value = w.value)

include h

theorem isNegative_congr : v.isNegative = w.isNegative := by
  rw [Bool.eq_iff_iff, isNegative_iff, isNegative_iff, h]

theorem isZero_congr : v.isZero = w.isZero := by rw [Bool.eq_iff_iff, isZero_iff, isZero_iff, h]

theorem magnitude_mul_tenPow : v.magnitude * tenPow w.scale = w.magnitude * tenPow v.scale := by
  have ha : |v.value| = |w.value| := by rw [h]
  rw [abs_value, abs_value, div_eq_div_iff (by positivity) (by positivity), ← tenPow_cast, ← tenPow_cast] at ha
  exact_mod_cast ha

theorem integerDigits_congr : v.integerDigits = w.integerDigits := by
  have hm := magnitude_mul_tenPow h
  rw [integerDigits, integerDigits, ← Nat.mul_div_mul_right _ _ (tenPow_pos w.scale), hm, Nat.mul_comm (tenPow v.scale),
    Nat.mul_div_mul_right _ _ (tenPow_pos v.scale)]

theorem isIntegral_of_same (hv : v.isIntegral = true) : w.isIntegral = true := by
  have hm := magnitude_mul_tenPow h
  rw [isIntegral, beq_iff_eq] at hv ⊢
  obtain ⟨c, hc⟩ := Nat.dvd_of_mod_eq_zero hv
  refine Nat.mod_eq_zero_of_dvd ⟨c, Nat.eq_of_mul_eq_mul_right (tenPow_pos v.scale) ?_⟩
  rw [← hm, hc]
  ring

theorem isIntegral_congr : v.isIntegral = w.isIntegral :=
  Bool.eq_iff_iff.mpr ⟨isIntegral_of_same h, isIntegral_of_same h.symm⟩

end

/-! ## (2) Products with a power of ten -/

theorem fit?_tenPow {like : Int} {m e scale : Nat} {p : Decimal} (hm : m ≤ maxCoefficient) (hs : scale ≤ maxScale)
    (h : fit? like (m * tenPow e) scale = some p) : p.value = signed like (m * tenPow e) / 10 ^ scale := by
  -- no more places are given up than the power has zeros, for then the coefficient would fit
  have hplaces : ∃ k ≤ e, k ≤ scale ∧
      ofParts? (signed like (halfEven (m * tenPow e) (tenPow k))) (scale - k) = some p := by
    by_cases he : e ≤ scale
    · have hc : (signed like (halfEven (m * tenPow e) (tenPow e))).natAbs ≤ maxCoefficient := by
        rw [natAbs_signed, halfEven_of_dvd (tenPow_pos e) (Nat.dvd_mul_left _ _), Nat.mul_div_cancel _ (tenPow_pos e)]
        exact hm
      obtain ⟨d, hd, -⟩ := exists_ofParts? hc (Nat.le_trans (Nat.sub_le scale e) hs)
      obtain ⟨k, hk, b, hb, hkb⟩ := exists_findSome?_range
        (f := fun k => ofParts? (signed like (halfEven (m * tenPow e) (tenPow k))) (scale - k))
        (Nat.lt_succ_of_le he) (by simp only [hd, Option.isSome_some])
      cases h.symm.trans hb
      exact ⟨k, hk, Nat.le_trans hk he, hkb⟩
    · obtain ⟨k, hk, hkb⟩ := List.exists_of_findSome?_eq_some h
      have hks := List.mem_range.mp hk
      exact ⟨k, by omega, by omega, hkb⟩
  obtain ⟨k, hk, hks, hp⟩ := hplaces
  exact value_of_dropped hks (Nat.dvd_trans (tenPow_dvd hk) (Nat.dvd_mul_left _ _)) hp

/-- A decimal without places that is a power of ten. -/
structure IsPower (f : Decimal) (e : Nat) : Prop where
  magnitude : f.magnitude = tenPow e
  scale : f.scale = 0

section

variable {a b f : Decimal} {e : Nat} (hf : IsPower f e)

include hf

theorem mul?_tenPow_exact {p : Decimal} (h : a.mul? f = some p) : p.value = a.value * f.value := by
  unfold mul? at h
  by_cases hz : (a.isZero || f.isZero) = true
  · rw [if_pos hz] at h
    cases h
    exact mul_eq_zero_of_isZero hz
  · rw [if_neg hz, hf.magnitude] at h
    have hs : a.scale + f.scale ≤ maxScale := by
      rw [hf.scale]
      exact a.scale_le
    rw [fit?_tenPow a.magnitude_le hs h, ← hf.magnitude, signed_mul]

open Classical in
theorem value_mul?_tenPow : (a.mul? f).map value =
    if Representable (a.value * f.value) then some (a.value * f.value) else none := by
  by_cases hr : Representable (a.value * f.value)
  · obtain ⟨p, hp, hv⟩ := mul?_exact hr
    rw [if_pos hr, hp, Option.map_some, hv]
  · rw [if_neg hr, Option.map_eq_none_iff]
    cases hp : a.mul? f with
    | none => rfl
    | some p => exact absurd ⟨p, mul?_tenPow_exact hf hp⟩ hr

theorem mul?_tenPow_congr (h : a.value = b.value) : (a.mul? f).map value = (b.mul? f).map value := by
  rw [value_mul?_tenPow hf, value_mul?_tenPow hf, h]

end

/-! ## (3) Quotients by a power of ten -/

/-- A number divided by a power of ten and rounded to as many places as a decimal can have, a half to the even
neighbour. -/
def quotientBy (q : ℚ) (k : Nat) : ℚ :=
  (if q < 0 then -1 else 1) * (halfEven (nearestUnits q maxScale) (tenPow k) / 10 ^ maxScale)

theorem coefficient_neg_iff (d : Decimal) : d.coefficient < 0 ↔ d.value < 0 := by
  have hp : (0 : ℚ) < 10 ^ d.scale := by positivity
  rw [value, div_lt_iff₀ hp, zero_mul, Int.cast_lt_zero]

theorem quotientBy_value (d : Decimal) (k : Nat) : quotientBy d.value k =
    signed d.coefficient (halfEven (nearestUnits d.value maxScale) (tenPow k)) / 10 ^ maxScale := by
  rw [quotientBy, signed_cast]
  simp only [d.coefficient_neg_iff]
  split
  · rw [neg_one_mul, neg_div]
  · rw [one_mul]

/-- In units of the last place a decimal can have it is a whole number. -/
theorem nearestUnits_maxScale (d : Decimal) :
    nearestUnits d.value maxScale = d.magnitude * tenPow (maxScale - d.scale) := by
  rw [nearestUnits_value, if_neg (Nat.not_lt.mpr d.scale_le)]

theorem nearestUnits_maxScale_cast (d : Decimal) : (nearestUnits d.value maxScale : ℚ) = |d.value| * 10 ^ maxScale := by
  have hp : (10 : ℚ) ^ maxScale = 10 ^ d.scale * 10 ^ (maxScale - d.scale) := by
    rw [← pow_add, Nat.add_sub_cancel' d.scale_le]
  rw [nearestUnits_maxScale, abs_value, hp, Nat.cast_mul, tenPow_cast]
  field_simp

/-- A quotient that is representable is not rounded. -/
theorem quotientBy_eq {q : ℚ} {k : Nat} (hq : Representable q) (h : Representable (q / 10 ^ k)) :
    quotientBy q k = q / 10 ^ k := by
  obtain ⟨d, rfl⟩ := hq
  obtain ⟨e, he⟩ := h
  have hp : (0 : ℚ) < 10 ^ k := by positivity
  have hunits : nearestUnits d.value maxScale = nearestUnits e.value maxScale * tenPow k := by
    have hcast : (nearestUnits d.value maxScale : ℚ) = nearestUnits e.value maxScale * 10 ^ k := by
      rw [nearestUnits_maxScale_cast, nearestUnits_maxScale_cast, he, abs_div, abs_of_pos hp]
      field_simp
    rw [← tenPow_cast] at hcast
    exact_mod_cast hcast
  have hsign : (if d.value < 0 then -1 else 1) * |d.value| = d.value := by
    split
    · rename_i hn
      rw [abs_of_neg hn, neg_mul_neg, one_mul]
    · rename_i hn
      rw [abs_of_nonneg (not_lt.mp hn), one_mul]
  rw [quotientBy, hunits, halfEven_of_dvd (tenPow_pos k) (Nat.dvd_mul_left _ _), Nat.mul_div_cancel _ (tenPow_pos k),
    nearestUnits_maxScale_cast, he, abs_div, abs_of_pos hp, mul_div_cancel_right₀ _ (by positivity), ← mul_div_assoc,
    hsign]

theorem halfEven_le (n d : Nat) : halfEven n d ≤ n / d + 1 := by
  unfold halfEven
  simp only
  split <;> omega

/-- By a power of ten that is greater a coefficient becomes smaller by a digit at least. -/
theorem quotient_lt {m places k : Nat} (hm : m ≤ maxCoefficient) (hk : places < k) :
    m * tenPow places / tenPow k < maxCoefficient := by
  obtain ⟨j, rfl⟩ : ∃ j, k = places + (j + 1) := ⟨k - places - 1, by omega⟩
  have hten : 10 ≤ tenPow (j + 1) := by
    have := tenPow_pos j
    rw [tenPow_succ]
    omega
  have hle : m / tenPow (j + 1) ≤ m / 10 := Nat.div_le_div_left hten (by decide)
  rw [tenPow_add, Nat.mul_comm m, Nat.mul_div_mul_left _ _ (tenPow_pos _)]
  unfold maxCoefficient at hm ⊢
  omega

/-- At the greatest scale a quotient is rounded. -/
theorem carryOn_maxScale {n divisor : Nat} (hd : 0 < divisor) (hn : n / divisor < maxCoefficient) :
    carryOn divisor (n / divisor) (n % divisor) maxScale = some (halfEven n divisor, maxScale) := by
  rw [carryOn]
  by_cases h0 : n % divisor = 0
  · rw [if_pos h0, halfEven_of_dvd hd (Nat.dvd_of_mod_eq_zero h0)]
  · have hroom : room (n / divisor) (min 9 (maxScale - maxScale)) = 0 := by
      have := room_le (n / divisor) (min 9 (maxScale - maxScale))
      omega
    have hle : halfEven n divisor ≤ maxCoefficient := Nat.le_trans (halfEven_le n divisor) hn
    rw [if_neg h0]
    simp only [dif_pos hroom, Nat.div_add_mod', if_pos hle]

/-- Where there are too few places for the exact quotient, the division is carried on to the greatest scale. -/
theorem carryOn_rounded {m k scale : Nat} (hm : m ≤ maxCoefficient) (hs : scale ≤ maxScale)
    (hk : maxScale - scale < k) (hk9 : k ≤ 9) (hr : m % tenPow k ≠ 0) :
    carryOn (tenPow k) (m / tenPow k) (m % tenPow k) scale =
      some (halfEven (m * tenPow (maxScale - scale)) (tenPow k), maxScale) := by
  have hlt := quotient_lt hm hk
  by_cases h0 : maxScale - scale = 0
  · have hlast : scale = maxScale := by omega
    rw [h0, tenPow_zero, Nat.mul_one] at hlt ⊢
    rw [hlast, carryOn_maxScale (tenPow_pos k) hlt]
  · -- there is room for all places that are left
    have hroom : room (m / tenPow k) (min 9 (maxScale - scale)) = maxScale - scale := by
      have hfits : m / tenPow k * tenPow (maxScale - scale) ≤ maxCoefficient :=
        calc m / tenPow k * tenPow (maxScale - scale)
          _ ≤ m / tenPow k * tenPow k := Nat.mul_le_mul_left _ (tenPow_mono (Nat.le_of_lt hk))
          _ ≤ m := Nat.div_mul_le_self m _
          _ ≤ maxCoefficient := hm
      have hmin : min 9 (maxScale - scale) = maxScale - scale := by omega
      rw [hmin]
      exact Nat.le_antisymm (room_le _ _) (le_room (Nat.le_refl _) hfits)
    rw [carryOn, if_neg hr]
    simp only [hroom, dif_neg h0, Nat.div_add_mod', if_pos (Nat.le_of_lt hlt)]
    rw [Nat.add_sub_cancel' hs, carryOn_maxScale (tenPow_pos k) hlt]

theorem div?_rounded {d : Decimal} {k : Nat} (hk : k ≤ 9) (h : ¬ Representable (d.value / 10 ^ k)) :
    ∃ p, d.div? (tenPow k) = some p ∧ p.value = quotientBy d.value k := by
  have hpos := tenPow_pos k
  have hz : ¬ d.isZero = true := by
    intro hz
    refine h ⟨zero, ?_⟩
    rw [d.isZero_iff.mp hz, zero_div]
    exact zero.isZero_iff.mp rfl
  have hr : d.magnitude % tenPow k ≠ 0 := by
    intro hr
    obtain ⟨p, -, hp⟩ := exists_quotient_of_dvd (Nat.dvd_of_mod_eq_zero hr)
    exact h ⟨p, hp⟩
  have hscale : maxScale - d.scale < k := by
    by_contra hle
    have hs := d.scale_le
    exact h (representable_div_of_scale (by omega))
  have hcarry := carryOn_rounded d.magnitude_le d.scale_le hscale hk hr
  rw [← nearestUnits_maxScale] at hcarry
  have hbound : halfEven (nearestUnits d.value maxScale) (tenPow k) ≤ maxCoefficient := by
    rw [nearestUnits_maxScale]
    exact Nat.le_trans (halfEven_le _ _) (quotient_lt d.magnitude_le hscale)
  have hsame : SameNumber (halfEven (nearestUnits d.value maxScale) (tenPow k)) maxScale 1
      (halfEven (nearestUnits d.value maxScale) (tenPow k), maxScale) :=
    ⟨hbound, Nat.le_refl _, by rw [Nat.mul_one]⟩
  obtain ⟨hc, hs, he⟩ := hsame.dropZeros
  obtain ⟨p, hp, hv⟩ := exists_ofParts? ((natAbs_signed d.coefficient _).trans_le hc) hs
  refine ⟨p, ?_, ?_⟩
  · rw [div?, if_neg hpos.ne', if_neg hz, if_neg hr, hcarry]
    exact hp
  · have hcast := congrArg (Nat.cast : ℕ → ℚ) he
    push_cast [tenPow_cast] at hcast
    rw [hv, quotientBy_value, signed_cast, signed_cast]
    rw [mul_one] at hcast
    split
    · rw [neg_div, neg_div, neg_inj, div_eq_div_iff (by positivity) (by positivity), hcast]
    · rw [div_eq_div_iff (by positivity) (by positivity), hcast]

/-- The quotient by a thousand, a million or a milliard (any power up to the ninth). -/
theorem value_div?_tenPow (d : Decimal) {k : Nat} (hk : k ≤ 9) :
    (d.div? (tenPow k)).map value = some (quotientBy d.value k) := by
  by_cases h : Representable (d.value / 10 ^ k)
  · obtain ⟨p, hp, hv⟩ := div?_exact hk h
    rw [hp, Option.map_some, hv, quotientBy_eq d.representable_value h]
  · obtain ⟨p, hp, hv⟩ := div?_rounded hk h
    rw [hp, Option.map_some, hv]

end RecordNaming.Decimal
