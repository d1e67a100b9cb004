/-
  RecordNaming.Proofs.Text.AsciiCase — texts whose only letters are ASCII ones.

  (1) ASCII letters, blanks and the minus sign have the lower case of ASCII, whatever stands beside them
  (`lower_eq_asciiLower`).

  (2) Whether a function regards the case of characters is seen from the ASCII ones (`toLower_congr`). So blanks are
  taken off the same ends in lower case (`trim_toLower`), and digits make the same number (`natUpTo?_toLower`).

  (3) Texts without small letters are told apart by their lower case (`map_toLower_inj`).
-/
import RecordNaming.Proofs.Text.Blank
import RecordNaming.Proofs.Text.Casing

namespace RecordNaming.Text

open Casing

/-! ## (1) Simple characters -/

/-- The characters of ASCII, the blanks and the minus sign: only ASCII letters among them have a case. -/
def isSimple (c : Char) : Bool := c.toNat < 128 || isBlank c || c == '\u2212'

/-- The simple characters outside of ASCII. -/
def otherSimple : List Nat :=
  [0x85, 0xA0, 0x1680] ++ List.range' 0x2000 11 ++ [0x2028, 0x2029, 0x202F, 0x205F, 0x2212, 0x3000]

theorem mem_otherSimple {c : Char} (h : isSimple c = true) (hn : 128 ≤ c.toNat) : c.toNat ∈ otherSimple := by
  have hminus : c = '\u2212' ↔ c.toNat = 0x2212 := Char.toNat_inj.symm
  simp only [isSimple, isBlank, Bool.or_eq_true, Bool.and_eq_true, decide_eq_true_eq, beq_iff_eq, hminus] at h
  simp only [otherSimple, List.mem_append, List.mem_cons, List.not_mem_nil, or_false, List.mem_range'_1]
  omega

theorem otherSimple_notMem {n : Nat} (h : n ∈ otherSimple) : n ∉ capitals ∧ n ∉ smallLetters := by
  have hcapitals : bits otherSimple &&& bits capitals ||| bits [] = bits [] := by decide +kernel
  have hsmall : bits otherSimple &&& bits smallLetters ||| bits [] = bits [] := by decide +kernel
  constructor
  · intro hc
    exact List.not_mem_nil (mem_of_bits hcapitals h hc)
  · intro hs
    exact List.not_mem_nil (mem_of_bits hsmall h hs)

theorem notMem_loneCapitals {c : Char} (h : isSimple c = true) : c ∉ loneCapitals := by
  have hall : loneCapitals.all (!isSimple ·) = true := by decide
  intro hc
  have hnot := List.all_eq_true.mp hall c hc
  rw [h] at hnot
  cases hnot

theorem toLower_of_nonAscii {c : Char} (h : 128 ≤ c.toNat) : c.toLower = c := by
  have hletter : ¬ (c.val ≥ 'A'.val ∧ c.val ≤ 'Z'.val) := by
    rintro ⟨-, hz⟩
    have hle : c.toNat ≤ 90 := UInt32.le_iff_toNat_le.mp hz
    omega
  exact dif_neg hletter

theorem lowerChar_of_isSimple {c : Char} (h : isSimple c = true) : lowerChar c = [c.toLower] := by
  by_cases hn : c.toNat < 128
  · rw [lowerChar, if_pos hn]
  · have hn := Nat.not_lt.mp hn
    have hi : c ≠ '\u0130' := by
      rintro rfl
      exact notMem_loneCapitals h List.mem_cons_self
    rw [lowerChar_of_notMem hn hi (otherSimple_notMem (mem_otherSimple h hn)).1, toLower_of_nonAscii hn]

/-- No context matters to simple characters. -/
theorem lowerFrom_of_isSimple {cs : List Char} (h : ∀ c ∈ cs, isSimple c = true) (before : List Char) :
    lowerFrom before cs = cs.map Char.toLower := by
  induction cs generalizing before with
  | nil => rfl
  | cons c rest ih =>
    have hc := h c List.mem_cons_self
    have hsigma : ¬ (c == 'Σ') = true := by
      rw [beq_iff_eq]
      rintro rfl
      cases hc
    rw [lowerFrom, if_neg hsigma, lowerChar_of_isSimple hc, ih fun d hd => h d (List.mem_cons_of_mem c hd)]
    rfl

theorem lower_eq_asciiLower {s : String} (h : ∀ c ∈ s.toList, isSimple c = true) : lower s = asciiLower s := by
  rw [lower, asciiLower, lowerFrom_of_isSimple h]

theorem isSimple_of_isDigit {c : Char} (h : isDigit c = true) : isSimple c = true := by
  unfold isDigit digit? at h
  split at h
  · rename_i hrange
    rw [Bool.and_eq_true, decide_eq_true_eq, decide_eq_true_eq] at hrange
    have hn : c.toNat < 128 := by omega
    rw [isSimple, decide_eq_true hn]
    rfl
  · cases h

theorem isSimple_of_isBlank {c : Char} (h : isBlank c = true) : isSimple c = true := by
  rw [isSimple, h, Bool.or_true, Bool.true_or]

/-- The blanks at its ends are simple in any text. -/
theorem isSimple_of_trim {s : String} (h : (trim s.toList).all isSimple = true) :
    ∀ c ∈ s.toList, isSimple c = true := by
  obtain ⟨before, behind, hs, hbefore, hbehind⟩ := exists_trim s.toList
  intro c hc
  rw [hs, List.mem_append, List.mem_append] at hc
  rcases hc with (hc | hc) | hc
  · exact isSimple_of_isBlank (List.all_eq_true.mp hbefore c hc)
  · exact List.all_eq_true.mp h c hc
  · exact isSimple_of_isBlank (List.all_eq_true.mp hbehind c hc)

theorem all_cons_of {p : Char → Bool} {c : Char} {rest : List Char} (h : p c = true) :
    (c :: rest).all p = rest.all p := by
  rw [List.all_cons, h, Bool.true_and]

/-- What is taken off the front of a text need not be looked at again. -/
theorem all_dropWhile {p q : Char → Bool} (h : ∀ c, q c = true → p c = true) (cs : List Char) :
    (cs.dropWhile q).all p = cs.all p := by
  have hword : (cs.takeWhile q).all p = true := by
    rw [List.all_eq_true]
    intro c hc
    exact h c (List.all_eq_true.mp List.all_takeWhile c hc)
  conv_rhs => rw [← List.takeWhile_append_dropWhile (p := q) (l := cs)]
  rw [List.all_append, hword, Bool.true_and]

/-! ## (2) Functions that do not regard case -/

/-- A function does not regard the case of characters if it does not regard that of the ASCII ones. -/
theorem toLower_congr {α : Type} (f : Char → α) (h : ∀ n < 128, f (Char.ofNat n).toLower = f (Char.ofNat n))
    (c : Char) : f c.toLower = f c := by
  by_cases hn : c.toNat < 128
  · have hc := h c.toNat hn
    rwa [Char.ofNat_toNat] at hc
  · rw [toLower_of_nonAscii (Nat.not_lt.mp hn)]

/-- A character that is no letter is the lower case of itself alone. -/
theorem toLower_eq_iff {d : Char} (h : ∀ n < 128, ((Char.ofNat n).toLower == d) = (Char.ofNat n == d)) {c : Char} :
    c.toLower = d ↔ c = d := by
  rw [← beq_iff_eq, toLower_congr (· == d) h, beq_iff_eq]

theorem digit?_toLower (c : Char) : digit? c.toLower = digit? c := toLower_congr digit? (by decide) c

theorem isDigit_toLower (c : Char) : isDigit c.toLower = isDigit c := toLower_congr isDigit (by decide) c

theorem isBlank_toLower (c : Char) : isBlank c.toLower = isBlank c := toLower_congr isBlank (by decide) c

theorem takeWhile_toLower {p : Char → Bool} (h : ∀ c, p c.toLower = p c) (cs : List Char) :
    (cs.map Char.toLower).takeWhile p = (cs.takeWhile p).map Char.toLower := by
  rw [List.takeWhile_map]
  congr 2
  exact funext h

theorem dropWhile_toLower {p : Char → Bool} (h : ∀ c, p c.toLower = p c) (cs : List Char) :
    (cs.map Char.toLower).dropWhile p = (cs.dropWhile p).map Char.toLower := by
  rw [List.dropWhile_map]
  congr 2
  exact funext h

theorem all_toLower {p : Char → Bool} (h : ∀ c, p c.toLower = p c) (cs : List Char) :
    (cs.map Char.toLower).all p = cs.all p := by
  rw [List.all_map]
  congr 1
  exact funext h

theorem trim_toLower (cs : List Char) : trim (cs.map Char.toLower) = (trim cs).map Char.toLower := by
  rw [trim, dropWhile_toLower isBlank_toLower, ← List.map_reverse, dropWhile_toLower isBlank_toLower,
    ← List.map_reverse, trim]

theorem digitsValue_toLower (cs : List Char) : digitsValue (cs.map Char.toLower) = digitsValue cs := by
  rw [digitsValue, List.foldl_map]
  simp only [digit?_toLower, digitsValue]

theorem nat?_toLower (cs : List Char) : nat? (cs.map Char.toLower) = nat? cs := by
  rw [nat?, all_toLower isDigit_toLower, digitsValue_toLower, List.isEmpty_map, nat?]

theorem natUpTo?_toLower (limit : Nat) (cs : List Char) :
    natUpTo? limit (cs.map Char.toLower) = natUpTo? limit cs := by
  cases cs with
  | nil => rfl
  | cons c rest =>
    by_cases hc : c = '+'
    · subst hc
      have hplus : natUpTo? limit (('+' :: rest).map Char.toLower) =
          (nat? (rest.map Char.toLower)).filter (· ≤ limit) := rfl
      rw [hplus, nat?_toLower]
      rfl
    · have hl : c.toLower ≠ '+' := mt (toLower_eq_iff (by decide)).mp hc
      have hlower := nat?_toLower (c :: rest)
      rw [List.map_cons] at hlower ⊢
      simp [natUpTo?, hc, hl, hlower]

/-! ## (3) Texts without small letters -/

/-- The simple characters that are no small letters. -/
def isSimpleNotSmall (c : Char) : Bool := isSimple c && !(97 ≤ c.toNat && c.toNat ≤ 122)

theorem isSimpleNotSmall_iff {c : Char} :
    isSimpleNotSmall c = true ↔ isSimple c = true ∧ ¬ (97 ≤ c.toNat ∧ c.toNat ≤ 122) := by
  rw [isSimpleNotSmall, Bool.and_eq_true, Bool.not_eq_true', Bool.and_eq_false_iff, decide_eq_false_iff_not,
    decide_eq_false_iff_not, Decidable.not_and_iff_or_not]

theorem isSimpleNotSmall_of_isBlank {c : Char} (h : isBlank c = true) : isSimpleNotSmall c = true := by
  refine isSimpleNotSmall_iff.mpr ⟨isSimple_of_isBlank h, ?_⟩
  simp only [isBlank, Bool.or_eq_true, Bool.and_eq_true, decide_eq_true_eq, beq_iff_eq] at h
  omega

theorem isSimpleNotSmall_of_isDigit {c : Char} (h : isDigit c = true) : isSimpleNotSmall c = true := by
  refine isSimpleNotSmall_iff.mpr ⟨isSimple_of_isDigit h, ?_⟩
  unfold isDigit digit? at h
  split at h
  · rename_i hrange
    rw [Bool.and_eq_true, decide_eq_true_eq, decide_eq_true_eq] at hrange
    omega
  · cases h

/-- A character that is no small letter can be had back from its lower case. -/
theorem toUpper_toLower_of_notSmall {c : Char} (h : ¬ (97 ≤ c.toNat ∧ c.toNat ≤ 122)) : c.toLower.toUpper = c := by
  by_cases hn : c.toNat < 128
  · have hall : ∀ n < 128, ¬ (97 ≤ (Char.ofNat n).toNat ∧ (Char.ofNat n).toNat ≤ 122) →
        (Char.ofNat n).toLower.toUpper = Char.ofNat n := by
      decide
    have hc := hall c.toNat hn
    rw [Char.ofNat_toNat] at hc
    exact hc h
  · have hletter : ¬ (c.val ≥ 'a'.val ∧ c.val ≤ 'z'.val) := by
      rintro ⟨ha, hz⟩
      exact h ⟨UInt32.le_iff_toNat_le.mp ha, UInt32.le_iff_toNat_le.mp hz⟩
    rw [toLower_of_nonAscii (Nat.not_lt.mp hn)]
    exact dif_neg hletter

theorem map_toUpper_toLower {cs : List Char} (h : cs.all isSimpleNotSmall = true) :
    (cs.map Char.toLower).map Char.toUpper = cs := by
  have hback : ∀ c ∈ cs, (Char.toUpper ∘ Char.toLower) c = c := by
    intro c hc
    exact toUpper_toLower_of_notSmall (isSimpleNotSmall_iff.mp (List.all_eq_true.mp h c hc)).2
  rw [List.map_map]
  exact (List.map_congr_left hback).trans (List.map_id cs)

/-- The lower case of texts without small letters tells them apart. -/
theorem map_toLower_inj {cs ds : List Char} (hc : cs.all isSimpleNotSmall = true) (hd : ds.all isSimpleNotSmall = true)
    (h : cs.map Char.toLower = ds.map Char.toLower) : cs = ds := by
  rw [← map_toUpper_toLower hc, h, map_toUpper_toLower hd]

end RecordNaming.Text
