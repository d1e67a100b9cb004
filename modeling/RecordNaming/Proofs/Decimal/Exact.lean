/-
  RecordNaming.Proofs.Decimal.Exact — products and quotients that are exact whenever a decimal can
  stand for them.

  (1) A number is representable if some decimal stands for it. Between two representable numbers that
  differ by a power of ten, the smaller powers are representable too (`Representable.mul_tenPow`).

  (2) A product that is representable is the exact one (`mul?_exact`): the places it gives up are
  zeros. A product has the magnitude of the product of the magnitudes (`mul?_abs`).

  (3) A quotient by a power of ten that is representable is the exact one (`div?_exact`): the division
  is carried on as far as it has to be, and gives back zeros only.
-/
import RecordNaming.Proofs.Decimal.Value

namespace RecordNaming.Decimal

/-! ## (1) Representable numbers -/

/-- Some decimal stands for the number. -/
def Representable (q : ℚ) : Prop := ∃ d : Decimal, d.value = q

theorem representable_value (d : Decimal) : Representable d.value := ⟨d, rfl⟩

theorem abs_value_le (d : Decimal) : |d.value| ≤ maxCoefficient := by
  have hp : (1 : ℚ) ≤ 10 ^ d.scale := one_le_pow₀ (by norm_num)
  rw [abs_value]
  calc (d.magnitude / 10 ^ d.scale : ℚ) ≤ d.magnitude := div_le_self (Nat.cast_nonneg _) hp
    _ ≤ maxCoefficient := Nat.cast_le.mpr d.magnitude_le

theorem Representable.mul_tenPow {q : ℚ} {j k : Nat} (h : Representable q) (hk : Representable (q * 10 ^ k))
    (hj : j ≤ k) : Representable (q * 10 ^ j) := by
  obtain ⟨d, rfl⟩ := h
  obtain ⟨e, he⟩ := hk
  by_cases hs : j ≤ d.scale
  · -- the point moves to the right
    refine ⟨⟨d.negative, d.magnitude, d.scale - j, d.magnitude_le, Nat.le_trans (Nat.sub_le _ _) d.scale_le⟩, ?_⟩
    have hp : (10 : ℚ) ^ d.scale = 10 ^ (d.scale - j) * 10 ^ j := by rw [← pow_add, Nat.sub_add_cancel hs]
    simp only [value, coefficient, hp]
    field_simp
  · -- zeros are added, fewer than the greater product has
    have hle : d.magnitude * tenPow (j - d.scale) ≤ maxCoefficient := by
      have hb := e.abs_value_le
      rw [he, abs_mul, abs_value, abs_of_pos (by positivity)] at hb
      have hp : (d.magnitude / 10 ^ d.scale * 10 ^ k : ℚ) = (d.magnitude * tenPow (k - d.scale) : ℕ) := by
        have hk' : (10 : ℚ) ^ k = 10 ^ (k - d.scale) * 10 ^ d.scale := by
          rw [← pow_add, Nat.sub_add_cancel (by omega)]
        rw [Nat.cast_mul, tenPow_cast, hk']
        field_simp
      rw [hp, Nat.cast_le] at hb
      exact Nat.le_trans (Nat.mul_le_mul_left _ (tenPow_mono (by omega))) hb
    refine ⟨⟨d.negative, d.magnitude * tenPow (j - d.scale), 0, hle, Nat.zero_le _⟩, ?_⟩
    have hp : (10 : ℚ) ^ j = 10 ^ (j - d.scale) * 10 ^ d.scale := by rw [← pow_add, Nat.sub_add_cancel (by omega)]
    rw [value_eq, value_eq, hp, Nat.cast_mul, tenPow_cast]
    cases d.negative <;> simp <;> field_simp

/-- A magnitude over a divisor that is representable is a coefficient over a power of ten. -/
theorem Representable.exists_magnitude {q : ℚ} {n divisor : Nat} (h : Representable q) (hd : 0 < divisor)
    (hq : |q| = n / divisor) : ∃ N t, N ≤ maxCoefficient ∧ t ≤ maxScale ∧ n * tenPow t = N * divisor := by
  obtain ⟨e, rfl⟩ := h
  refine ⟨e.magnitude, e.scale, e.magnitude_le, e.scale_le, ?_⟩
  have hd' : (0 : ℚ) < divisor := Nat.cast_pos.mpr hd
  rw [abs_value, div_eq_div_iff (by positivity) hd'.ne', ← tenPow_cast] at hq
  exact_mod_cast hq.symm

/-! ## (2) Products -/

theorem signed_natAbs (c : Int) : signed c c.natAbs = c := by
  unfold signed
  split <;> omega

theorem natAbs_signed (like : Int) (n : Nat) : (signed like n).natAbs = n := by
  unfold signed
  split <;> omega

theorem signed_cast (like : Int) (n : Nat) : (signed like n : ℚ) = if like < 0 then -(n : ℚ) else n := by
  unfold signed
  split
  · rw [Int.cast_neg, Int.cast_natCast]
  · rw [Int.cast_natCast]

theorem natAbs_coefficient (d : Decimal) : d.coefficient.natAbs = d.magnitude := by
  unfold coefficient
  split <;> omega

theorem value_eq_signed (d : Decimal) : d.value = signed d.coefficient d.magnitude / 10 ^ d.scale := by
  rw [← natAbs_coefficient, signed_natAbs, value]

theorem exists_ofParts? {coefficient : Int} {scale : Nat} (hc : coefficient.natAbs ≤ maxCoefficient)
    (hs : scale ≤ maxScale) : ∃ d, ofParts? coefficient scale = some d ∧ d.value = coefficient / 10 ^ scale := by
  refine ⟨_, dif_pos ⟨hc, hs⟩, ?_⟩
  have hcoe : (if decide (coefficient < 0) = true then -(coefficient.natAbs : Int) else coefficient.natAbs) =
      coefficient := by
    by_cases hn : coefficient < 0
    · rw [if_pos (decide_eq_true hn)]
      omega
    · rw [if_neg (by simpa using hn)]
      omega
  simp only [value, Decimal.coefficient, hcoe]

theorem value_ofParts? {c : Int} {scale : Nat} {d : Decimal} (h : ofParts? c scale = some d) :
    d.value = c / 10 ^ scale := by
  by_cases hb : c.natAbs ≤ maxCoefficient ∧ scale ≤ maxScale
  · obtain ⟨e, he, hv⟩ := exists_ofParts? hb.1 hb.2
    cases h.symm.trans he
    exact hv
  · rw [ofParts?, dif_neg hb] at h
    cases h

/-- An exact quotient is not rounded. -/
theorem halfEven_of_dvd {n d : Nat} (hd : 0 < d) (h : d ∣ n) : halfEven n d = n / d := by
  have hr : n % d = 0 := Nat.mod_eq_zero_of_dvd h
  simp [halfEven, hr]
  omega

theorem exists_findSome?_range {α : Type} {f : Nat → Option α} {k n : Nat} (hk : k < n) (hs : (f k).isSome) :
    ∃ a ≤ k, ∃ b, (List.range n).findSome? f = some b ∧ f a = some b := by
  obtain ⟨m, rfl⟩ : ∃ m, n = k + 1 + m := ⟨n - (k + 1), by omega⟩
  cases hf : (List.range (k + 1)).findSome? f with
  | none =>
    rw [List.findSome?_eq_none_iff] at hf
    rw [hf k (List.mem_range.mpr (by omega))] at hs
    cases hs
  | some b =>
    obtain ⟨a, ha, hb⟩ := List.exists_of_findSome?_eq_some hf
    have hak := List.mem_range.mp ha
    exact ⟨a, by omega, b, by rw [List.range_add, List.findSome?_append, hf]; rfl, hb⟩

/-- Places given up that are zeros do not change the number. -/
theorem value_of_dropped {like : Int} {n scale k : Nat} {p : Decimal} (hk : k ≤ scale) (hd : tenPow k ∣ n)
    (hp : ofParts? (signed like (halfEven n (tenPow k))) (scale - k) = some p) :
    p.value = signed like n / 10 ^ scale := by
  obtain ⟨m, rfl⟩ := hd
  rw [halfEven_of_dvd (tenPow_pos k) ⟨m, rfl⟩, Nat.mul_div_cancel_left _ (tenPow_pos k)] at hp
  have hs : (10 : ℚ) ^ scale = 10 ^ k * 10 ^ (scale - k) := by rw [← pow_add, Nat.add_sub_cancel' hk]
  rw [value_ofParts? hp, signed_cast, signed_cast, Nat.cast_mul, tenPow_cast, hs]
  split <;> field_simp

theorem fit?_exact (like : Int) {n scale N t : Nat} (hN : N ≤ maxCoefficient) (ht : t ≤ maxScale)
    (he : n * tenPow t = N * tenPow scale) :
    ∃ p, fit? like n scale = some p ∧ p.value = signed like n / 10 ^ scale := by
  obtain ⟨k, hk, hdvd, hfits, hscale⟩ :
      ∃ k ≤ scale, tenPow k ∣ n ∧ n / tenPow k ≤ maxCoefficient ∧ scale - k ≤ maxScale := by
    by_cases hs : t ≤ scale
    · have hn : n = tenPow (scale - t) * N := by
        have hp : tenPow scale = tenPow (scale - t) * tenPow t := by rw [← tenPow_add, Nat.sub_add_cancel hs]
        rw [hp, ← Nat.mul_assoc, Nat.mul_comm N] at he
        exact Nat.eq_of_mul_eq_mul_right (tenPow_pos t) he
      refine ⟨scale - t, Nat.sub_le _ _, ⟨N, hn⟩, ?_, by omega⟩
      rw [hn, Nat.mul_div_cancel_left _ (tenPow_pos _)]
      exact hN
    · have hn : n * tenPow (t - scale) = N := by
        have hp : tenPow t = tenPow (t - scale) * tenPow scale := by rw [← tenPow_add, Nat.sub_add_cancel (by omega)]
        rw [hp, ← Nat.mul_assoc] at he
        exact Nat.eq_of_mul_eq_mul_right (tenPow_pos scale) he
      refine ⟨0, Nat.zero_le _, ⟨n, by rw [tenPow_zero, Nat.one_mul]⟩, ?_, by omega⟩
      rw [tenPow_zero, Nat.div_one]
      exact Nat.le_trans (Nat.le_mul_of_pos_right n (tenPow_pos _)) (hn ▸ hN)
  have hsome : (ofParts? (signed like (halfEven n (tenPow k))) (scale - k)).isSome := by
    rw [halfEven_of_dvd (tenPow_pos k) hdvd]
    have hc : (signed like (n / tenPow k)).natAbs ≤ maxCoefficient := by rw [natAbs_signed]; exact hfits
    obtain ⟨d, hd, -⟩ := exists_ofParts? hc hscale
    rw [hd]
    rfl
  obtain ⟨a, hak, p, hp, ha⟩ := exists_findSome?_range
    (f := fun k => ofParts? (signed like (halfEven n (tenPow k))) (scale - k)) (Nat.lt_succ_of_le hk) hsome
  exact ⟨p, hp, value_of_dropped (by omega) (Nat.dvd_trans (tenPow_dvd hak) hdvd) ha⟩

theorem signed_mul (a b : Decimal) :
    (signed (a.coefficient * b.coefficient) (a.magnitude * b.magnitude) / 10 ^ (a.scale + b.scale) : ℚ) =
      a.value * b.value := by
  rw [← natAbs_coefficient, ← natAbs_coefficient, ← Int.natAbs_mul, signed_natAbs, value, value, div_mul_div_comm,
    ← pow_add, Int.cast_mul]

theorem mul_eq_zero_of_isZero {a b : Decimal} (h : (a.isZero || b.isZero) = true) : zero.value = a.value * b.value := by
  rw [Bool.or_eq_true, isZero_iff, isZero_iff] at h
  rw [mul_eq_zero.mpr h]
  exact zero.isZero_iff.mp rfl

/-- A product that is representable is found, and it is exact. -/
theorem mul?_exact {a b : Decimal} (h : Representable (a.value * b.value)) :
    ∃ p, a.mul? b = some p ∧ p.value = a.value * b.value := by
  unfold mul?
  by_cases hz : (a.isZero || b.isZero) = true
  · exact ⟨zero, if_pos hz, mul_eq_zero_of_isZero hz⟩
  · have hq : |a.value * b.value| = (a.magnitude * b.magnitude : ℕ) / (tenPow (a.scale + b.scale) : ℕ) := by
      rw [abs_mul, abs_value, abs_value, Nat.cast_mul, tenPow_cast, pow_add, div_mul_div_comm]
    obtain ⟨N, t, hN, ht, he⟩ := h.exists_magnitude (tenPow_pos _) hq
    obtain ⟨p, hp, hv⟩ := fit?_exact (a.coefficient * b.coefficient) hN ht he
    exact ⟨p, by rw [if_neg hz]; exact hp, by rw [hv, signed_mul]⟩

theorem ofParts?_abs {c c' : Int} (hc : 0 ≤ c') (h : c.natAbs = c'.natAbs) (scale : Nat) :
    (ofParts? c scale).map abs = ofParts? c' scale := by
  unfold ofParts?
  by_cases hb : c.natAbs ≤ maxCoefficient ∧ scale ≤ maxScale
  · have hn : decide (c' < 0) = false := decide_eq_false (by omega)
    rw [dif_pos hb, dif_pos (h ▸ hb)]
    simp only [Option.map_some, abs, h, hn]
  · rw [dif_neg hb, dif_neg (h ▸ hb)]
    rfl

/-- A product has the magnitude of the product of the magnitudes. -/
theorem mul?_abs (a : Decimal) {b : Decimal} (hb : b.negative = false) : a.abs.mul? b = (a.mul? b).map abs := by
  have hc : ¬ a.abs.coefficient * b.coefficient < 0 := by
    simp only [coefficient, abs, hb]
    exact not_lt.mpr (Int.mul_nonneg (Int.natCast_nonneg _) (Int.natCast_nonneg _))
  have hk (like : Int) (k : Nat) (hl : ¬ like < 0) :
      ofParts? (signed like (halfEven (a.magnitude * b.magnitude) (tenPow k))) (a.scale + b.scale - k) =
        (ofParts? (signed (a.coefficient * b.coefficient) (halfEven (a.magnitude * b.magnitude) (tenPow k)))
          (a.scale + b.scale - k)).map abs := by
    refine (ofParts?_abs ?_ (by rw [natAbs_signed, natAbs_signed]) _).symm
    rw [signed, if_neg hl]
    exact Int.natCast_nonneg _
  have hz : a.abs.isZero = a.isZero := rfl
  unfold mul?
  rw [hz]
  split
  · rfl
  · rw [fit?, fit?, List.map_findSome?]
    congr 1
    funext k
    exact hk _ k hc

/-! ## (3) Quotients -/

theorem le_room {q most j : Nat} (hj : j ≤ most) (hq : q * tenPow j ≤ maxCoefficient) : j ≤ room q most := by
  induction most with
  | zero => omega
  | succ k ih =>
    unfold room
    split
    · exact hj
    · rename_i hn
      have hne : j ≠ k + 1 := fun he => hn (he ▸ hq)
      exact ih (by omega)

theorem room_fits {q most : Nat} (h : room q most ≠ 0) : q * tenPow (room q most) ≤ maxCoefficient := by
  induction most with
  | zero => exact absurd rfl h
  | succ k ih =>
    unfold room at h ⊢
    split
    · assumption
    · rename_i hn
      rw [if_neg hn] at h
      exact ih h

/-- What is carried on is a coefficient of the same number at some scale. -/
structure SameNumber (c scale divisor : Nat) (p : Nat × Nat) : Prop where
  coefficient_le : p.1 ≤ maxCoefficient
  scale_le : p.2 ≤ maxScale
  same : p.1 * divisor * tenPow scale = c * tenPow p.2

variable {c scale divisor : Nat}

theorem SameNumber.of_mul {a s count : Nat} (h : SameNumber c scale divisor (a * tenPow count, s + count)) :
    SameNumber c scale divisor (a, s) := by
  obtain ⟨hc, hs, he⟩ := h
  refine ⟨Nat.le_trans (Nat.le_mul_of_pos_right a (tenPow_pos count)) hc, Nat.le_trans (Nat.le_add_right s count) hs,
    Nat.eq_of_mul_eq_mul_right (tenPow_pos count) ?_⟩
  rw [tenPow_add] at he
  linarith

theorem SameNumber.dropPlaces {p : Nat × Nat} (h : SameNumber c scale divisor p) (count : Nat) :
    SameNumber c scale divisor (dropPlaces count p) := by
  unfold Decimal.dropPlaces
  split
  · rename_i hd
    rw [Bool.and_eq_true, decide_eq_true_eq, beq_iff_eq] at hd
    have hp : p = (p.1 / tenPow count * tenPow count, p.2 - count + count) := by
      rw [Nat.div_mul_cancel (Nat.dvd_of_mod_eq_zero hd.2), Nat.sub_add_cancel hd.1]
    exact (hp ▸ h : SameNumber c scale divisor (_, _)).of_mul
  · exact h

theorem SameNumber.dropEights {a s : Nat} (h : SameNumber c scale divisor (a, s)) :
    SameNumber c scale divisor (dropEights a s) := by
  induction a, s using Decimal.dropEights.induct with
  | case1 a s hd ih =>
    rw [Decimal.dropEights, if_pos hd]
    have hp : (a, s) = (a / 100000000 * tenPow 8, s - 8 + 8) := by
      rw [Nat.sub_add_cancel hd.1]
      exact congrArg (·, s) (Nat.div_mul_cancel (Nat.dvd_of_mod_eq_zero hd.2.2)).symm
    exact ih (hp ▸ h : SameNumber c scale divisor (_, _)).of_mul
  | case2 a s hd =>
    rw [Decimal.dropEights, if_neg hd]
    exact h

/-- Only zeros are given back. -/
theorem SameNumber.dropZeros {p : Nat × Nat} (h : SameNumber c scale divisor p) :
    SameNumber c scale divisor (dropZeros p) :=
  (((h.dropEights).dropPlaces 4).dropPlaces 2).dropPlaces 1

theorem carryOn_exact {q r N t : Nat} (hd : 0 < divisor) (hr : r < divisor) (hN : N ≤ maxCoefficient)
    (hst : scale ≤ t) (ht : t ≤ maxScale) (hj : t ≤ scale + 9)
    (he : (q * divisor + r) * tenPow (t - scale) = N * divisor) :
    ∃ p, carryOn divisor q r scale = some p ∧ SameNumber (q * divisor + r) scale divisor p := by
  obtain ⟨j, rfl⟩ : ∃ j, t = scale + j := ⟨t - scale, by omega⟩
  rw [Nat.add_sub_cancel_left] at he
  have hqN : q * tenPow j ≤ N := by
    refine Nat.le_of_mul_le_mul_right ?_ hd
    rw [← he, Nat.mul_right_comm]
    exact Nat.mul_le_mul_right _ (Nat.le_add_right _ _)
  rw [carryOn]
  by_cases h0 : r = 0
  · subst h0
    have hq : q ≤ N := Nat.le_trans (Nat.le_mul_of_pos_right q (tenPow_pos j)) hqN
    exact ⟨_, if_pos rfl, Nat.le_trans hq hN, by omega, rfl⟩
  · -- there is room for the places that are missing, and maybe for more
    have hle : j ≤ room q (min 9 (maxScale - scale)) := le_room (by omega) (Nat.le_trans hqN hN)
    have hmost := room_le q (min 9 (maxScale - scale))
    have hfits : room q (min 9 (maxScale - scale)) ≠ 0 →
        q * tenPow (room q (min 9 (maxScale - scale))) ≤ maxCoefficient := room_fits
    generalize room q (min 9 (maxScale - scale)) = k at hle hmost hfits
    have hj0 : j ≠ 0 := by
      rintro rfl
      have hm : (q * divisor + r) % divisor = 0 := by rw [tenPow_zero, Nat.mul_one] at he; rw [he, Nat.mul_mod_left]
      rw [Nat.mul_add_mod_self_right, Nat.mod_eq_of_lt hr] at hm
      exact h0 hm
    obtain ⟨i, rfl⟩ : ∃ i, k = j + i := ⟨k - j, by omega⟩
    have hn : (q * divisor + r) * tenPow (j + i) = N * tenPow i * divisor := by
      rw [tenPow_add, ← Nat.mul_assoc, he, Nat.mul_right_comm]
    simp only [if_neg h0, dif_neg (show j + i ≠ 0 by omega), hn, Nat.mul_div_cancel _ hd, Nat.mul_mod_left]
    by_cases hM : N * tenPow i ≤ maxCoefficient
    · rw [if_pos hM, carryOn, if_pos rfl]
      refine ⟨_, rfl, hM, by omega, ?_⟩
      rw [tenPow_add, ← Nat.mul_assoc, Nat.mul_right_comm _ _ (tenPow (j + i)), hn]
    · -- the coefficient with all the places is too large by the last one, which is a zero
      obtain ⟨i, rfl⟩ : ∃ k, i = k + 1 := by
        cases i with
        | zero => exact absurd (by rwa [tenPow_zero, Nat.mul_one]) hM
        | succ k => exact ⟨k, rfl⟩
      have hM' : N * tenPow (i + 1) * divisor = N * tenPow i * (10 * divisor) := by
        rw [tenPow_succ]
        ring
      have hs : scale + (j + (i + 1)) - 1 = scale + (j + i) := by omega
      rw [if_neg hM, hM', halfEven_of_dvd (by omega) ⟨_, Nat.mul_comm _ _⟩, Nat.mul_div_cancel _ (by omega), hs]
      refine ⟨_, rfl, ?_, by omega, ?_⟩
      · have hq : N * tenPow i * 10 ≤ (q + 1) * tenPow (j + (i + 1)) := by
          refine Nat.le_of_mul_le_mul_right ?_ hd
          rw [Nat.mul_assoc, ← hM', ← hn, Nat.mul_right_comm]
          exact Nat.mul_le_mul_right _ (by rw [Nat.add_mul, Nat.one_mul]; omega)
        have hb : tenPow (j + (i + 1)) ≤ 1000000000 := tenPow_mono (show _ ≤ 9 by omega)
        have hf := hfits (by omega)
        rw [Nat.add_mul, Nat.one_mul] at hq
        unfold maxCoefficient at hf ⊢
        omega
      · have hn' : (q * divisor + r) * tenPow (j + i) * 10 = N * tenPow i * divisor * 10 := by
          rw [Nat.mul_assoc, ← tenPow_succ, Nat.add_assoc, hn, hM']
          ring
        have hn'' := Nat.eq_of_mul_eq_mul_right (by decide) hn'
        rw [tenPow_add, ← Nat.mul_assoc, Nat.mul_right_comm _ _ (tenPow (j + i)), hn'']

/-- The places a quotient by a power of ten needs, if it can be represented: more than the dividend has, and
as many more as the power at most. -/
theorem exists_quotient_places {m k N t : Nat} (hm : m ≤ maxCoefficient) (hd : m % tenPow k ≠ 0)
    (hN : N ≤ maxCoefficient) (ht : t ≤ maxScale) (he : m * tenPow t = N * tenPow (scale + k)) :
    ∃ N t, N ≤ maxCoefficient ∧ t ≤ maxScale ∧ scale ≤ t ∧ t ≤ scale + k ∧ m * tenPow (t - scale) = N * tenPow k := by
  by_cases hts : t < scale
  · -- then the dividend would be divisible
    have hp : tenPow (scale + k) = tenPow (scale - t) * tenPow k * tenPow t := by
      rw [← tenPow_add, ← tenPow_add]
      congr 1
      omega
    rw [hp, ← Nat.mul_assoc, ← Nat.mul_assoc] at he
    have hm := Nat.eq_of_mul_eq_mul_right (tenPow_pos t) he
    exact absurd (by rw [hm, Nat.mul_mod_left]) hd
  by_cases htk : t ≤ scale + k
  · have hp : tenPow t = tenPow (t - scale) * tenPow scale := by rw [← tenPow_add, Nat.sub_add_cancel (by omega)]
    rw [hp, tenPow_add, Nat.mul_comm (tenPow scale), ← Nat.mul_assoc, ← Nat.mul_assoc] at he
    exact ⟨N, t, hN, ht, by omega, htk, Nat.eq_of_mul_eq_mul_right (tenPow_pos scale) he⟩
  · exact ⟨m, scale + k, hm, by omega, by omega, Nat.le_refl _, by rw [Nat.add_sub_cancel_left]⟩

/-- A quotient that needs no more places than a decimal can have. -/
theorem representable_div_of_scale {d : Decimal} {k : Nat} (h : d.scale + k ≤ maxScale) :
    Representable (d.value / 10 ^ k) := by
  obtain ⟨p, -, hp⟩ := exists_ofParts? (d.natAbs_coefficient.trans_le d.magnitude_le) h
  exact ⟨p, by rw [hp, value, pow_add, div_div]⟩

/-- A quotient that needs no more places than its dividend has. -/
theorem exists_quotient_of_dvd {d : Decimal} {k : Nat} (h : tenPow k ∣ d.magnitude) :
    ∃ p, ofParts? (signed d.coefficient (d.magnitude / tenPow k)) d.scale = some p ∧ p.value = d.value / 10 ^ k := by
  have hc : (signed d.coefficient (d.magnitude / tenPow k)).natAbs ≤ maxCoefficient := by
    rw [natAbs_signed]
    exact Nat.le_trans (Nat.div_le_self _ _) d.magnitude_le
  obtain ⟨p, hp, hv⟩ := exists_ofParts? hc d.scale_le
  refine ⟨p, hp, ?_⟩
  obtain ⟨m, hm⟩ := h
  rw [hv, value_eq_signed, hm, Nat.mul_div_cancel_left _ (tenPow_pos k), signed_cast, signed_cast, Nat.cast_mul,
    tenPow_cast]
  split <;> field_simp

/-- A quotient by a thousand, a million or a milliard (any power up to the ninth) that is representable is
found, and it is exact. -/
theorem div?_exact {d : Decimal} {k : Nat} (hk : k ≤ 9) (h : Representable (d.value / 10 ^ k)) :
    ∃ p, d.div? (tenPow k) = some p ∧ p.value = d.value / 10 ^ k := by
  have hpos := tenPow_pos k
  unfold div?
  rw [if_neg hpos.ne']
  by_cases hz : d.isZero = true
  · have hv : d.value / 10 ^ k = 0 := by rw [d.isZero_iff.mp hz, zero_div]
    exact ⟨zero, if_pos hz, by rw [hv]; exact zero.isZero_iff.mp rfl⟩
  rw [if_neg hz]
  by_cases hm : d.magnitude % tenPow k = 0
  · rw [if_pos hm]
    exact exists_quotient_of_dvd (Nat.dvd_of_mod_eq_zero hm)
  · rw [if_neg hm]
    have hq : |d.value / 10 ^ k| = d.magnitude / (tenPow (d.scale + k) : ℕ) := by
      rw [abs_div, abs_value, tenPow_cast, pow_add, div_div, abs_of_pos (by positivity)]
    obtain ⟨N, t, hN, ht, he⟩ := h.exists_magnitude (tenPow_pos _) hq
    obtain ⟨N', t', hN', ht', hst, htk, he'⟩ := exists_quotient_places d.magnitude_le hm hN ht he
    have hdiv : d.magnitude / tenPow k * tenPow k + d.magnitude % tenPow k = d.magnitude := Nat.div_add_mod' _ _
    obtain ⟨p, hp, hsame⟩ := carryOn_exact hpos (Nat.mod_lt d.magnitude hpos) hN' hst ht' (by omega)
      (by rw [hdiv]; exact he')
    obtain ⟨hc, hs, hsame⟩ := hsame.dropZeros
    rw [← natAbs_signed d.coefficient (dropZeros p).1] at hc
    obtain ⟨e, he, hv⟩ := exists_ofParts? hc hs
    refine ⟨e, by rw [hp]; exact he, ?_⟩
    have hv' : ((dropZeros p).1 / 10 ^ (dropZeros p).2 : ℚ) = d.magnitude / 10 ^ d.scale / 10 ^ k := by
      rw [hdiv] at hsame
      rw [div_div, div_eq_div_iff (by positivity) (by positivity)]
      have hc := congrArg (Nat.cast : ℕ → ℚ) hsame
      push_cast [tenPow_cast] at hc
      linarith
    rw [hv, value_eq_signed, signed_cast, signed_cast]
    split
    · rw [neg_div, neg_div, neg_div, hv']
    · exact hv'

end RecordNaming.Decimal
