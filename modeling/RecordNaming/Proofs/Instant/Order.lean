/-
  RecordNaming.Proofs.Instant.Order — the order of instants is the order of time.

  (1) Months lie behind each other on the line of days, and so do years (`monthStart_succ`, `monthStart_year_mono`).
  So dates, which are compared by their parts, are ordered as the numbers of their days are (`Date.cmp_eq`).

  (2) The same holds of instants and the nanoseconds that have elapsed, leap seconds aside (`cmp_eq`): a leap second
  is compared as more than a second behind the start of second 59.
-/
import Mathlib.Order.Compare
import Mathlib.Tactic.IntervalCases
import RecordNaming.Instant.Basic

namespace RecordNaming

/-- The order by a key: a part that decides goes with the key, and the others decide among equal ones. -/
theorem then_eq_compare {α : Type} [LinearOrder α] {a b : α} {x y : Int} {others : Ordering} (hlt : a < b → x < y)
    (hgt : b < a → y < x) (heq : a = b → others = compare x y) : (compare a b).then others = compare x y := by
  rcases lt_trichotomy a b with h | h | h
  · rw [compare_lt_iff_lt.mpr h, compare_lt_iff_lt.mpr (hlt h)]
    rfl
  · rw [compare_eq_iff_eq.mpr h, heq h]
    rfl
  · rw [compare_gt_iff_gt.mpr h, compare_gt_iff_gt.mpr (hgt h)]
    rfl

/-! ## (1) Days -/

namespace Date

/-- The number of the first day of a month. -/
def monthStart (year : Int) (month : Nat) : Int :=
  let y := if month ≤ 2 then year - 1 else year
  let m := if month ≤ 2 then month + 9 else month - 3
  365 * y + y / 4 - y / 100 + y / 400 + ((153 * m + 2) / 5 : Nat)

theorem dayNumber_eq (d : Date) : d.dayNumber = monthStart d.year d.month + (d.day - 1) := by
  simp only [dayNumber, monthStart]
  omega

theorem month_bounds (d : Date) : 1 ≤ d.month ∧ d.month ≤ 12 := by
  obtain ⟨-, -, hday, hdays⟩ := d.valid
  have hpos : 0 < daysInMonth d.year d.month := Nat.lt_of_lt_of_le hday hdays
  unfold daysInMonth at hpos
  split at hpos <;> omega

theorem isLeapYear_iff (year : Int) :
    isLeapYear year = true ↔ year % 4 = 0 ∧ (year % 100 ≠ 0 ∨ year % 400 = 0) := by
  simp [isLeapYear]

theorem monthStart_succ (year : Int) {month : Nat} (h1 : 1 ≤ month) (h : month < 12) :
    monthStart year (month + 1) = monthStart year month + daysInMonth year month := by
  by_cases h2 : month = 2
  · -- the year changes behind February, which has the leap day
    subst h2
    have hiff := isLeapYear_iff year
    by_cases hleap : isLeapYear year = true
    · have hyear := hiff.mp hleap
      simp only [monthStart, daysInMonth, hleap, Nat.reduceAdd, Nat.reduceLeDiff, Std.le_refl, ↓reduceIte]
      omega
    · have hyear := mt hiff.mpr hleap
      simp only [monthStart, daysInMonth, hleap, Nat.reduceAdd, Nat.reduceLeDiff, Std.le_refl, Bool.false_eq_true,
        ↓reduceIte]
      omega
  · interval_cases month <;> simp [monthStart, daysInMonth] at h2 ⊢ <;> omega

theorem daysInMonth_le (year : Int) (month : Nat) : daysInMonth year month ≤ 31 := by
  unfold daysInMonth
  split <;> (try split) <;> omega

theorem day_le (d : Date) : d.day ≤ 31 := d.valid.2.2.2.trans (daysInMonth_le d.year d.month)

/-- A month ends before every later one of its year begins. -/
theorem monthStart_mono (year : Int) {m n : Nat} (h1 : 1 ≤ m) (hmn : m < n) (hn : n ≤ 12) :
    monthStart year m + daysInMonth year m ≤ monthStart year n := by
  induction n, hmn using Nat.le_induction with
  | base => rw [monthStart_succ year h1 hn]
  | succ n hmn ih =>
    have hstep : monthStart year (n + 1) = monthStart year n + daysInMonth year n :=
      monthStart_succ year (by omega) (by omega)
    have hbefore := ih (by omega)
    omega

/-- A year ends before every later one begins. -/
theorem monthStart_year_mono {y z : Int} (h : y < z) : monthStart y 12 + daysInMonth y 12 ≤ monthStart z 1 := by
  simp only [monthStart, daysInMonth, Nat.reduceLeDiff, Nat.one_le_ofNat, ↓reduceIte]
  omega

theorem monthStart_le (d : Date) : monthStart d.year d.month ≤ d.dayNumber := by
  have hday := d.valid.2.2.1
  rw [dayNumber_eq]
  omega

theorem dayNumber_lt (d : Date) : d.dayNumber < monthStart d.year d.month + daysInMonth d.year d.month := by
  have hday := d.valid.2.2.2
  rw [dayNumber_eq]
  omega

/-- A day lies in its year. -/
theorem year_bounds (d : Date) : monthStart d.year 1 ≤ d.dayNumber ∧
    d.dayNumber < monthStart d.year 12 + daysInMonth d.year 12 := by
  obtain ⟨h1, h12⟩ := d.month_bounds
  have hle := d.monthStart_le
  have hlt := d.dayNumber_lt
  constructor
  · rcases Nat.eq_or_lt_of_le h1 with h | h
    · rwa [← h] at hle
    · have hmono := monthStart_mono d.year (Nat.le_refl 1) h h12
      omega
  · rcases Nat.eq_or_lt_of_le h12 with h | h
    · rwa [h] at hlt
    · have hmono := monthStart_mono d.year h1 h (Nat.le_refl 12)
      omega

theorem dayNumber_lt_of_year {a b : Date} (h : a.year < b.year) : a.dayNumber < b.dayNumber :=
  (a.year_bounds.2.trans_le (monthStart_year_mono h)).trans_le b.year_bounds.1

theorem dayNumber_lt_of_month {a b : Date} (hy : a.year = b.year) (h : a.month < b.month) :
    a.dayNumber < b.dayNumber := by
  have hlt := a.dayNumber_lt
  have hmono := monthStart_mono a.year a.month_bounds.1 h b.month_bounds.2
  have hle := b.monthStart_le
  rw [← hy] at hle
  omega

theorem dayNumber_lt_of_day {a b : Date} (hy : a.year = b.year) (hm : a.month = b.month) (h : a.day < b.day) :
    a.dayNumber < b.dayNumber := by
  rw [dayNumber_eq, dayNumber_eq, hy, hm]
  omega

/-- Dates are ordered as their days are. -/
theorem cmp_eq (a b : Date) : a.cmp b = compare a.dayNumber b.dayNumber := by
  refine then_eq_compare dayNumber_lt_of_year dayNumber_lt_of_year fun hy => ?_
  refine then_eq_compare (dayNumber_lt_of_month hy) (dayNumber_lt_of_month hy.symm) fun hm => ?_
  rw [← (Ordering.then_eq : (compare a.day b.day).then .eq = _)]
  refine then_eq_compare (dayNumber_lt_of_day hy hm) (dayNumber_lt_of_day hy.symm hm.symm) fun hd => ?_
  refine (compare_eq_iff_eq.mpr ?_).symm
  rw [dayNumber_eq, dayNumber_eq, hy, hm, hd]

theorem eq_of_cmp {a b : Date} (h : a.cmp b = .eq) : a = b := by
  rw [cmp, Ordering.then_eq_eq, Ordering.then_eq_eq] at h
  obtain ⟨hy, hm, hd⟩ := h
  cases a
  cases b
  simp_all

end Date

/-! ## (2) Instants -/

namespace Instant

/-- The nanoseconds from the start of 1 March of year 0 to an instant, for instants other than leap seconds. -/
def elapsed (t : Instant) : Int := (t.date.dayNumber * 86400 + t.secondOfDay) * 1000000000 + t.nanosecond

theorem secondOfDay_lt (t : Instant) : t.secondOfDay < 86400 := by
  obtain ⟨hh, hm, hs, -⟩ := t.valid
  unfold secondOfDay
  omega

section

variable {t u : Instant}

theorem elapsed_lt_of_day (ht : t.nanosecond < 1000000000) (h : t.date.dayNumber < u.date.dayNumber) :
    t.elapsed < u.elapsed := by
  have hs := t.secondOfDay_lt
  unfold elapsed
  omega

theorem elapsed_lt_of_second (ht : t.nanosecond < 1000000000) (hd : t.date.dayNumber = u.date.dayNumber)
    (h : t.secondOfDay < u.secondOfDay) : t.elapsed < u.elapsed := by
  unfold elapsed
  omega

theorem elapsed_lt_of_nanosecond (hd : t.date.dayNumber = u.date.dayNumber) (hs : t.secondOfDay = u.secondOfDay)
    (h : t.nanosecond < u.nanosecond) : t.elapsed < u.elapsed := by
  rw [elapsed, elapsed, hd, hs]
  omega

/-- Instants are ordered as the time is that has elapsed. -/
theorem cmp_eq (ht : t.nanosecond < 1000000000) (hu : u.nanosecond < 1000000000) :
    t.cmp u = compare t.elapsed u.elapsed := by
  rw [cmp, Date.cmp_eq]
  refine then_eq_compare (elapsed_lt_of_day ht) (elapsed_lt_of_day hu) fun hd => ?_
  refine then_eq_compare (elapsed_lt_of_second ht hd) (elapsed_lt_of_second hu hd.symm) fun hs => ?_
  rw [← (Ordering.then_eq : (compare t.nanosecond u.nanosecond).then .eq = _)]
  refine then_eq_compare (elapsed_lt_of_nanosecond hd hs) (elapsed_lt_of_nanosecond hd.symm hs.symm) fun hn => ?_
  refine (compare_eq_iff_eq.mpr ?_).symm
  rw [elapsed, elapsed, hd, hs, hn]

/-- Only an instant itself is at its time. -/
theorem cmp_eq_eq_iff : t.cmp u = .eq ↔ t = u := by
  constructor
  · intro h
    rw [cmp, Ordering.then_eq_eq, Ordering.then_eq_eq, compare_eq_iff_eq, compare_eq_iff_eq] at h
    obtain ⟨hd, hs, hn⟩ := h
    have hdate := Date.eq_of_cmp hd
    obtain ⟨-, htm, hts, -⟩ := t.valid
    obtain ⟨-, hum, hus, -⟩ := u.valid
    unfold secondOfDay at hs
    have hsecond : t.second = u.second := by omega
    have hminute : t.minute = u.minute := by omega
    have hhour : t.hour = u.hour := by omega
    cases t
    cases u
    simp_all
  · rintro rfl
    simp [cmp, Date.cmp]

end

end Instant

end RecordNaming
