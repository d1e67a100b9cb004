/-
  RecordNaming.Proofs.Text.Casing — the upper case of a lower case.

  (1) Sets of code points. A set is compared with others as the bits of one number (`mem_of_bits`).

  (2) Runs. A run of capitals is shifted onto a run of small letters that is shifted back (`Shift.mirrors`), and
  almost no capital is a small letter too: the letters in title case are, a capital and a small one in one.

  (3) Characters. A character has the upper case that its lower case has (`upperChar_lowerChar_iff`), but for six
  capitals without a small letter of their own (`loneCapitals`): their small letter belongs to other capitals.

  (4) Texts. So a text without such capitals has the upper case that its lower case has (`upper_lower`), also where a
  sigma ends a word, and texts that are equal regardless of case have one upper case (`upper_eq_of_eqIgnoringCase`).
-/
import Mathlib.Data.List.Basic
import RecordNaming.Text.Casing

namespace RecordNaming.Text

namespace Casing

/-! ## (1) Sets of code points -/

/-- A set of numbers as the bits of one number. -/
def bits (points : List Nat) : Nat := points.foldr (fun n m => 1 <<< n ||| m) 0

theorem testBit_bits (points : List Nat) (n : Nat) : (bits points).testBit n = decide (n ∈ points) := by
  induction points with
  | nil => simp [bits]
  | cons p rest ih =>
    have hp : (1 <<< p).testBit n = decide (n = p) := by
      rw [Nat.one_shiftLeft, Nat.testBit_two_pow]
      simp [eq_comm]
    have hcons : bits (p :: rest) = 1 <<< p ||| bits rest := rfl
    rw [hcons, Nat.testBit_or, hp, ih]
    simp

/-- What two sets have in common is in a third one. -/
theorem mem_of_bits {ps qs rs : List Nat} (h : bits ps &&& bits qs ||| bits rs = bits rs) {n : Nat} (hp : n ∈ ps)
    (hq : n ∈ qs) : n ∈ rs := by
  have hbit := congrArg (·.testBit n) h
  simpa [testBit_bits, hp, hq] using hbit

/-! ## (2) Runs -/

namespace Shift

/-- The code points of a run. -/
def points (s : Shift) : List Nat := List.range' s.first ((s.last - s.first) / s.step + 1) s.step

theorem covers_iff {s : Shift} {n : Nat} :
    s.covers n = true ↔ s.first ≤ n ∧ n ≤ s.last ∧ (n - s.first) % s.step = 0 := by
  simp [covers, and_assoc]

theorem mem_points {s : Shift} {n : Nat} (h : s.covers n = true) : n ∈ s.points := by
  obtain ⟨hl, hu, hm⟩ := covers_iff.mp h
  refine List.mem_range'.mpr ⟨(n - s.first) / s.step, ?_, ?_⟩
  · exact Nat.lt_succ_of_le (Nat.div_le_div_right (by omega))
  · rw [Nat.mul_div_cancel' (Nat.dvd_of_mod_eq_zero hm)]
    omega

/-- Where a code point is shifted to. -/
def target (s : Shift) (n : Nat) : Nat := (n + s.delta).toNat

/-- The run lies in part between two code points. -/
def meets (s : Shift) (first last : Nat) : Bool := Nat.ble s.first last && Nat.ble first s.last

theorem meets_of_covers {s : Shift} {n first last : Nat} (h : s.covers n = true) (hl : first ≤ n) (hu : n ≤ last) :
    s.meets first last = true := by
  obtain ⟨hn, hn', -⟩ := covers_iff.mp h
  rw [meets, Bool.and_eq_true, Nat.ble_eq, Nat.ble_eq]
  omega

/-- The run `u` shifts back what `s` shifts. It lies outside of ASCII, and below the surrogates or above them. -/
def mirrors (u s : Shift) : Bool :=
  Nat.ble 128 u.first && (Nat.ble u.last 0xD7FF || Nat.ble 0xE000 u.first && Nat.ble u.last 0x10FFFF) &&
    Nat.ble u.first (s.target s.first) && Nat.ble (s.target s.last) u.last && u.delta == -s.delta &&
    s.step % u.step == 0 && (s.target s.first - u.first) % u.step == 0

/-- A code point that a mirrored run shifts, and its target in the run that mirrors it. -/
structure Mirrored (s u : Shift) (n : Nat) : Prop where
  covers : u.covers (s.target n) = true
  back : u.target (s.target n) = n
  nonAscii : 128 ≤ s.target n
  valid : (s.target n).isValidChar
  first_le : s.target s.first ≤ s.target n
  le_last : s.target n ≤ s.target s.last

theorem mirrored_of_covers {s u : Shift} {n : Nat} (h : u.mirrors s = true) (hn : s.covers n = true) :
    Mirrored s u n := by
  obtain ⟨hl, hu, hm⟩ := covers_iff.mp hn
  simp only [mirrors, Bool.and_eq_true, Bool.or_eq_true, Nat.ble_eq, beq_iff_eq] at h
  obtain ⟨⟨⟨⟨⟨⟨hascii, hvalid⟩, hfirst⟩, hlast⟩, hdelta⟩, hstep⟩, hoffset⟩ := h
  -- nothing is cut off at zero
  have htargetFirst : (s.target s.first : Int) = s.first + s.delta := by
    unfold target at hfirst ⊢
    omega
  have htarget : (s.target n : Int) = n + s.delta := by
    unfold target at htargetFirst ⊢
    omega
  have htargetLast : (s.target s.last : Int) = s.last + s.delta := by
    unfold target at htargetFirst ⊢
    omega
  have hdvd : u.step ∣ n - s.first := Nat.dvd_trans (Nat.dvd_of_mod_eq_zero hstep) (Nat.dvd_of_mod_eq_zero hm)
  have hdist : s.target n - u.first = (s.target s.first - u.first) + (n - s.first) := by omega
  have hmod : (s.target n - u.first) % u.step = 0 := by
    rw [hdist]
    exact Nat.mod_eq_zero_of_dvd (Nat.dvd_add (Nat.dvd_of_mod_eq_zero hoffset) hdvd)
  exact {
    covers := covers_iff.mpr ⟨by omega, by omega, hmod⟩
    back := by
      unfold target at htarget ⊢
      omega
    nonAscii := by omega
    valid := by
      unfold Nat.isValidChar
      omega
    first_le := by omega
    le_last := by omega }

end Shift

theorem mem_of_find?_covers {table : List Shift} {n : Nat} {s : Shift} (h : table.find? (·.covers n) = some s) :
    s ∈ table ∧ s.covers n = true := by
  have hcovers := List.find?_some h
  exact ⟨List.mem_of_find?_eq_some h, hcovers⟩

/-- The run of small letters that mirrors a run of capitals, if one does: the first one about there. -/
def mirror? (s : Shift) : Option Shift :=
  (upperShifts.find? (·.meets (s.target s.first) (s.target s.last))).filter (·.mirrors s)

/-- The first run that covers a shifted capital is the one that mirrors its run. -/
theorem find?_mirror {s u : Shift} (h : mirror? s = some u) {n : Nat} (hn : s.covers n = true) :
    upperShifts.find? (·.covers (s.target n)) = some u := by
  obtain ⟨hfind, hu⟩ := Option.filter_eq_some_iff.mp h
  obtain ⟨-, before, behind, hsplit, hbefore⟩ := List.find?_eq_some_iff_append.mp hfind
  have hmirrored := Shift.mirrored_of_covers hu hn
  refine List.find?_eq_some_iff_append.mpr ⟨hmirrored.covers, before, behind, hsplit, ?_⟩
  intro v hv
  have hnot := hbefore v hv
  rw [Bool.not_eq_true'] at hnot ⊢
  cases hc : v.covers (s.target n) with
  | false => rfl
  | true => rw [Shift.meets_of_covers hc hmirrored.first_le hmirrored.le_last] at hnot; cases hnot

/-- The code points that have a lower case of one character. -/
def capitals : List Nat := lowerShifts.flatMap Shift.points

/-- The code points that have an upper case of their own. -/
def smallLetters : List Nat := upperShifts.flatMap Shift.points ++ upperExpansions.map (·.1)

end Casing

open Casing

/-! ## (3) Characters -/

/-- The capitals without a small letter of their own: the i with a dot, the theta symbol, the sharp s, and the signs
of the ohm, of the kelvin and of the angstrom. -/
def loneCapitals : List Char := ['\u0130', '\u03F4', '\u1E9E', '\u2126', '\u212A', '\u212B']

/-- The letters in title case, and the capitals that are in one run with such a letter. -/
def besideTitlecase : List Nat :=
  [0x1C5, 0x1C8] ++ List.range' 0x1CB 9 2 ++ [0x1F2, 0x1F4] ++ List.range' 0x1F88 8 ++ List.range' 0x1F98 8 ++
    List.range' 0x1FA8 8 ++ [0x1FBC, 0x1FCC, 0x1FFC]

/-- The code points of the characters that are looked at one by one: ASCII, the letters beside title case, and the
lone capitals. -/
def singled : List Nat := List.range 128 ++ besideTitlecase ++ loneCapitals.map Char.toNat

/-- The tables, looked through from end to end. Only letters in title case are capitals and small letters, no code
point is in both tables of upper cases, a run of capitals is mirrored or its letters are looked at one by one, and
these have the upper case that their lower case has, but for the lone capitals. -/
theorem tables_checked :
    bits capitals &&& bits smallLetters ||| bits besideTitlecase = bits besideTitlecase ∧
      bits (upperShifts.flatMap Shift.points) &&& bits (upperExpansions.map (·.1)) ||| bits [] = bits [] ∧
      (∀ s ∈ lowerShifts, (mirror? s).isSome = true ∨ ∀ n ∈ s.points, n ∈ singled) ∧
      ∀ n ∈ singled, (lowerChar (Char.ofNat n)).flatMap upperChar = upperChar (Char.ofNat n) ↔
        Char.ofNat n ∉ loneCapitals := by
  decide +kernel

theorem mem_besideTitlecase {n : Nat} (hc : n ∈ capitals) (hs : n ∈ smallLetters) : n ∈ besideTitlecase :=
  mem_of_bits tables_checked.1 hc hs

theorem find?_upperExpansions {n : Nat} {u : Shift} (h : upperShifts.find? (·.covers n) = some u) :
    upperExpansions.find? (·.1 == n) = none := by
  obtain ⟨-, hdisjoint, -⟩ := tables_checked
  obtain ⟨hu, hcovers⟩ := mem_of_find?_covers h
  have hn : n ∈ upperShifts.flatMap Shift.points := List.mem_flatMap.mpr ⟨u, hu, Shift.mem_points hcovers⟩
  rw [List.find?_eq_none]
  intro e he hen
  have hmem : n ∈ upperExpansions.map (·.1) := List.mem_map.mpr ⟨e, he, beq_iff_eq.mp hen⟩
  exact List.not_mem_nil (mem_of_bits hdisjoint hn hmem)

theorem exists_mirror {s : Shift} (h : s ∈ lowerShifts) :
    (mirror? s).isSome = true ∨ ∀ n ∈ s.points, n ∈ singled := tables_checked.2.2.1 s h

section

variable {c : Char} (hn : 128 ≤ c.toNat)

include hn

/-- A character without an upper case of its own is its upper case. -/
theorem upperChar_of_notMem (h : c.toNat ∉ smallLetters) : upperChar c = [c] := by
  rw [smallLetters, List.mem_append, not_or] at h
  have hshift : upperShifts.find? (·.covers c.toNat) = none := by
    rw [List.find?_eq_none]
    intro u hu hcovers
    exact h.1 (List.mem_flatMap.mpr ⟨u, hu, Shift.mem_points hcovers⟩)
  have hexpansion : upperExpansions.find? (·.1 == c.toNat) = none := by
    rw [List.find?_eq_none]
    intro e he hen
    exact h.2 (List.mem_map.mpr ⟨e, he, beq_iff_eq.mp hen⟩)
  simp only [upperChar, if_neg (Nat.not_lt.mpr hn), mapChar, hexpansion, shifted, hshift, Char.ofNat_toNat]

theorem lowerChar_of_find? (hi : c ≠ '\u0130') : lowerChar c =
    match lowerShifts.find? (·.covers c.toNat) with
    | some s => [Char.ofNat (s.target c.toNat)]
    | none => [c] := by
  have hexpansion : lowerExpansions.find? (·.1 == c.toNat) = none := by
    rw [lowerExpansions, List.find?_singleton, if_neg]
    intro he
    exact hi (Char.toNat_inj.mp (beq_iff_eq.mp he).symm)
  simp only [lowerChar, if_neg (Nat.not_lt.mpr hn), mapChar, hexpansion, shifted]
  cases lowerShifts.find? (·.covers c.toNat) with
  | some s => rfl
  | none => simp only [Char.ofNat_toNat]

/-- A character without a lower case of its own is its lower case. -/
theorem lowerChar_of_notMem (hi : c ≠ '\u0130') (h : c.toNat ∉ capitals) : lowerChar c = [c] := by
  have hshift : lowerShifts.find? (·.covers c.toNat) = none := by
    rw [List.find?_eq_none]
    intro s hs hcovers
    exact h (List.mem_flatMap.mpr ⟨s, hs, Shift.mem_points hcovers⟩)
  rw [lowerChar_of_find? hn hi, hshift]

omit hn in
/-- The small letter of a mirrored run has the capital as its upper case. -/
theorem upperChar_target {s u : Shift} (hu : mirror? s = some u) (hc : s.covers c.toNat = true) :
    upperChar (Char.ofNat (s.target c.toNat)) = [c] := by
  have hmirrored := Shift.mirrored_of_covers (Option.filter_eq_some_iff.mp hu).2 hc
  have hfind := find?_mirror hu hc
  have htoNat : (Char.ofNat (s.target c.toNat)).toNat = s.target c.toNat := by
    rw [Char.ofNat, dif_pos hmirrored.valid]
    rfl
  have hback : ((s.target c.toNat : Int) + u.delta).toNat = c.toNat := hmirrored.back
  simp only [upperChar, htoNat, if_neg (Nat.not_lt.mpr hmirrored.nonAscii), mapChar, find?_upperExpansions hfind,
    shifted, hfind, hback, Char.ofNat_toNat]

end

theorem upperChar_lowerChar_singled {c : Char} (h : c.toNat ∈ singled) :
    (lowerChar c).flatMap upperChar = upperChar c ↔ c ∉ loneCapitals := by
  have hc := tables_checked.2.2.2 c.toNat h
  rwa [Char.ofNat_toNat] at hc

/-- The lower case of a character has the upper case of the character, but for the lone capitals. -/
theorem upperChar_lowerChar_iff (c : Char) :
    (lowerChar c).flatMap upperChar = upperChar c ↔ c ∉ loneCapitals := by
  by_cases hsingled : c.toNat ∈ singled
  · exact upperChar_lowerChar_singled hsingled
  have hc := hsingled
  simp only [singled, List.mem_append, List.mem_range, not_or, Nat.not_lt] at hc
  obtain ⟨⟨hn, ht⟩, hmap⟩ := hc
  have hlone : c ∉ loneCapitals := fun h => hmap (List.mem_map_of_mem h)
  have hi : c ≠ '\u0130' := by
    rintro rfl
    exact hlone List.mem_cons_self
  rw [iff_true_right hlone, lowerChar_of_find? hn hi]
  cases hs : lowerShifts.find? (·.covers c.toNat) with
  | none => simp
  | some s =>
    obtain ⟨hmem, hcovers⟩ := mem_of_find?_covers hs
    have hpoint := Shift.mem_points hcovers
    rcases exists_mirror hmem with hmirror | hall
    · obtain ⟨u, hu⟩ := Option.isSome_iff_exists.mp hmirror
      have hsmall : c.toNat ∉ smallLetters := fun h =>
        ht (mem_besideTitlecase (List.mem_flatMap.mpr ⟨s, hmem, hpoint⟩) h)
      rw [upperChar_of_notMem hn hsmall]
      simpa using upperChar_target hu hcovers
    · exact absurd (hall _ hpoint) hsingled

/-! ## (4) Texts -/

/-- Whichever sigma stands for a capital one, it is the upper case of both. -/
theorem flatMap_upperChar_lowerFrom {cs : List Char} (h : ∀ c ∈ cs, c ∉ loneCapitals) (before : List Char) :
    (lowerFrom before cs).flatMap upperChar = cs.flatMap upperChar := by
  induction cs generalizing before with
  | nil => rfl
  | cons c rest ih =>
    have hrest := ih (fun d hd => h d (List.mem_cons_of_mem c hd)) (c :: before)
    simp only [lowerFrom, List.flatMap_append, List.flatMap_cons, hrest]
    congr 1
    split
    · rename_i hsigma
      have hfinal : upperChar 'ς' = upperChar 'Σ' := rfl
      have hsmall : upperChar 'σ' = upperChar 'Σ' := rfl
      rw [beq_iff_eq.mp hsigma]
      split
      · rw [List.flatMap_singleton, hfinal]
      · rw [List.flatMap_singleton, hsmall]
    · exact (upperChar_lowerChar_iff c).mpr (h c List.mem_cons_self)

theorem upper_lower {s : String} (h : ∀ c ∈ s.toList, c ∉ loneCapitals) : upper (lower s) = upper s := by
  rw [upper, lower, String.toList_ofList, flatMap_upperChar_lowerFrom h, upper]

theorem upper_eq_of_eqIgnoringCase {a b : String} (h : eqIgnoringCase a b = true)
    (ha : ∀ c ∈ a.toList, c ∉ loneCapitals) (hb : ∀ c ∈ b.toList, c ∉ loneCapitals) : upper a = upper b := by
  rw [← upper_lower ha, ← upper_lower hb, beq_iff_eq.mp h]

end RecordNaming.Text
