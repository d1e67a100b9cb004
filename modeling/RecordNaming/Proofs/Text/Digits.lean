/-
  RecordNaming.Proofs.Text.Digits — the numeral of a natural number: digits only, none of
  them a superfluous zero in front (`head?_natDigits`), and read back as the number
  (`digitsFrom_natDigits`). The last digits of a number are those of its remainder
  (`lastDigits_mod`), and read behind other digits they are put under them (`digitsFrom_lastDigits`).
  Digits are not blank (`isBlank_of_isDigit`).
-/
import RecordNaming.Power
import RecordNaming.Text.Blank
import RecordNaming.Text.Digits

namespace RecordNaming.Text

theorem toNat_of_isDigit {c : Char} (h : c.isDigit = true) : 48 ≤ c.toNat ∧ c.toNat ≤ 57 := by
  simp only [Char.isDigit, Bool.and_eq_true, decide_eq_true_eq, ge_iff_le] at h
  exact ⟨UInt32.le_iff_toNat_le.mp h.1, UInt32.le_iff_toNat_le.mp h.2⟩

theorem digit?_eq {c : Char} (h : c.isDigit = true) : digit? c = some (c.toNat - 48) := by
  obtain ⟨hl, hu⟩ := toNat_of_isDigit h
  simp [digit?, hl, hu]

theorem isDigit_of_isDigit {c : Char} (h : c.isDigit = true) : isDigit c = true := by
  rw [isDigit, digit?_eq h, Option.isSome_some]

theorem charIsDigit_of_mem_natDigits {n : Nat} {c : Char} (h : c ∈ natDigits n) : c.isDigit = true :=
  Nat.isDigit_of_mem_toDigits (by decide) (by decide) h

theorem isDigit_of_mem_natDigits {n : Nat} {c : Char} (h : c ∈ natDigits n) : isDigit c = true :=
  isDigit_of_isDigit (charIsDigit_of_mem_natDigits h)

theorem natDigits_ne_nil (n : Nat) : natDigits n ≠ [] := Nat.toDigits_ne_nil

/-- The digits of a number that is not zero start with another digit than zero. -/
theorem head?_natDigits {n : Nat} (h : 0 < n) : (natDigits n).head? ≠ some '0' := by
  unfold natDigits
  induction n using Nat.base_induction 10 (by decide) with
  | single m hm =>
    rw [Nat.toDigits_of_lt_base hm, List.head?_cons]
    intro e
    have h0 : m = 0 := by simpa using e
    omega
  | digit m k hk hm ih =>
    rw [← Nat.toDigits_append_toDigits (by decide) hm hk, List.head?_append]
    cases hd : (Nat.toDigits 10 m).head? with
    | none => exact absurd (List.head?_eq_none_iff.mp hd) Nat.toDigits_ne_nil
    | some c => rw [Option.some_or, ← hd]; exact ih hm

/-- No zero stands in front of other digits. -/
theorem natDigits_no_leading_zero (n : Nat) :
    ((natDigits n).length > 1 && (natDigits n).head? == some '0') = false := by
  cases n with
  | zero => rfl
  | succ n =>
    have hh := head?_natDigits (Nat.succ_pos n)
    simp [hh]

/-- The number a word of digits makes behind a number. -/
def digitsFrom (n : Nat) (cs : List Char) : Nat := cs.foldl (fun n c => n * 10 + (digit? c).getD 0) n

theorem digitsFrom_cons (n : Nat) (c : Char) (cs : List Char) :
    digitsFrom n (c :: cs) = digitsFrom (n * 10 + (digit? c).getD 0) cs := rfl

theorem le_digitsFrom (n : Nat) (cs : List Char) : n ≤ digitsFrom n cs := by
  induction cs generalizing n with
  | nil => exact Nat.le_refl n
  | cons c cs ih =>
    have := ih (n * 10 + (digit? c).getD 0)
    rw [digitsFrom_cons]
    omega

theorem digitsFrom_eq_ofDigitChars {cs : List Char} (h : ∀ c ∈ cs, c.isDigit = true) (n : Nat) :
    digitsFrom n cs = Nat.ofDigitChars 10 cs n := by
  induction cs generalizing n with
  | nil => rfl
  | cons c cs ih =>
    have hc : (digit? c).getD 0 = c.toNat - 48 := by rw [digit?_eq (h c (by simp))]; rfl
    rw [digitsFrom_cons, Nat.ofDigitChars_cons, ih fun d hd => h d (List.mem_cons_of_mem c hd), hc,
      Nat.mul_comm n 10]
    rfl

theorem digitsFrom_natDigits (n : Nat) : digitsFrom 0 (natDigits n) = n := by
  rw [digitsFrom_eq_ofDigitChars fun c hc => charIsDigit_of_mem_natDigits hc]
  exact Nat.ofDigitChars_ten_toDigits

/-! ## Digits and blanks -/

theorem isBlank_of_isDigit {c : Char} (h : c.isDigit = true) : isBlank c = false := by
  obtain ⟨hl, hu⟩ := toNat_of_isDigit h
  simp only [isBlank, Bool.or_eq_false_iff, Bool.and_eq_false_iff, decide_eq_false_iff_not, beq_eq_false_iff_ne]
  omega

/-- A text that neither starts nor ends with a blank is trimmed to itself. -/
theorem trim_of_ends {cs : List Char} (hf : ∀ c, cs.head? = some c → isBlank c = false)
    (hl : ∀ c, cs.getLast? = some c → isBlank c = false) : trim cs = cs := by
  have drop (l : List Char) (hl : ∀ c, l.head? = some c → isBlank c = false) : l.dropWhile isBlank = l := by
    cases l with
    | nil => rfl
    | cons c l => exact List.dropWhile_cons_of_neg (by rw [hl c rfl]; exact Bool.false_ne_true)
  rw [trim, drop cs hf, drop _ fun c hc => hl c (List.head?_reverse ▸ hc), List.reverse_reverse]

theorem trim_of_not_blank {cs : List Char} (h : ∀ c ∈ cs, isBlank c = false) : trim cs = cs :=
  trim_of_ends (fun c hc => h c (List.mem_of_head? hc)) fun c hc => h c (List.mem_of_getLast? hc)

/-! ## A numeral in front of other text -/

theorem takeWhile_isDigit_append {ds rest : List Char} (hd : ∀ c ∈ ds, isDigit c = true)
    (hr : ∀ c, rest.head? = some c → isDigit c = false) :
    (ds ++ rest).takeWhile isDigit = ds ∧ (ds ++ rest).dropWhile isDigit = rest := by
  rw [List.takeWhile_append_of_pos hd, List.dropWhile_append_of_pos hd]
  cases rest with
  | nil => simp
  | cons c cs => simp [hr c rfl]

/-! ## The last digits of a number -/

/-- The last `count` digits of a number, with zeros in front where it has fewer. -/
def lastDigits : Nat → Nat → List Char
  | 0, _ => []
  | count + 1, n => lastDigits count (n / 10) ++ [Nat.digitChar (n % 10)]

theorem length_lastDigits (count n : Nat) : (lastDigits count n).length = count := by
  induction count generalizing n with
  | zero => rfl
  | succ count ih => rw [lastDigits, List.length_append, ih, List.length_singleton]

theorem charIsDigit_of_mem_lastDigits {count n : Nat} {c : Char} (h : c ∈ lastDigits count n) :
    c.isDigit = true := by
  induction count generalizing n with
  | zero => cases h
  | succ count ih =>
    rw [lastDigits, List.mem_append, List.mem_singleton] at h
    rcases h with h | rfl
    · exact ih h
    · rw [Nat.isDigit_digitChar, decide_eq_true (Nat.mod_lt n (by decide))]

/-- A factor of ten is a zero at the end. -/
theorem lastDigits_mul_tenPow (count n zeros : Nat) :
    lastDigits (count + zeros) (n * tenPow zeros) = lastDigits count n ++ List.replicate zeros '0' := by
  induction zeros with
  | zero => rw [Nat.add_zero, tenPow_zero, Nat.mul_one, List.replicate_zero, List.append_nil]
  | succ zeros ih =>
    have hn : n * tenPow (zeros + 1) = n * tenPow zeros * 10 := by rw [tenPow_succ, Nat.mul_assoc]
    have hd : n * tenPow zeros * 10 / 10 = n * tenPow zeros := by omega
    have hm : n * tenPow zeros * 10 % 10 = 0 := by omega
    rw [← Nat.add_assoc, hn, lastDigits, hd, hm, ih, List.append_assoc, List.replicate_succ']
    rfl

theorem lastDigits_mod (count n : Nat) : lastDigits count (n % tenPow count) = lastDigits count n := by
  induction count generalizing n with
  | zero => rfl
  | succ count ih =>
    have hd : n % tenPow (count + 1) / 10 = n / 10 % tenPow count := by
      rw [tenPow_succ, Nat.mul_comm, Nat.mod_mul_right_div_self]
    have hm : n % tenPow (count + 1) % 10 = n % 10 := by
      rw [tenPow_succ, Nat.mul_comm, Nat.mod_mul_right_mod]
    rw [lastDigits, lastDigits, hd, hm, ih]

/-- The last digits are those in front of the last few, and the last few. -/
theorem lastDigits_add (a b n : Nat) : lastDigits (a + b) n = lastDigits a (n / tenPow b) ++ lastDigits b n := by
  induction b generalizing n with
  | zero => rw [Nat.add_zero, tenPow_zero, Nat.div_one, lastDigits, List.append_nil]
  | succ b ih =>
    rw [← Nat.add_assoc, lastDigits, lastDigits, ih, Nat.div_div_eq_div_mul, tenPow_succ, Nat.mul_comm 10,
      List.append_assoc]

/-- A number that is padded has no digits but its last ones. -/
theorem padded_eq_lastDigits {count n : Nat} (hc : 0 < count) (hn : n < tenPow count) :
    padded count n = lastDigits count n := by
  obtain ⟨count, rfl⟩ : ∃ k, count = k + 1 := ⟨count - 1, by omega⟩
  unfold padded natDigits
  induction count generalizing n with
  | zero =>
    have hn : n < 10 := hn
    rw [Nat.toDigits_of_lt_base hn, lastDigits, lastDigits, Nat.mod_eq_of_lt hn]
    rfl
  | succ count ih =>
    rw [lastDigits]
    by_cases hs : n < 10
    · have h0 : n / 10 = 0 := by omega
      have hz := ih (n := 0) (by omega) (tenPow_pos _)
      rw [h0, ← hz, Nat.toDigits_of_lt_base hs, Nat.toDigits_of_lt_base (by decide), Nat.mod_eq_of_lt hs]
      simp [List.leftpad, List.replicate_succ']
    · have hd : n / 10 < tenPow (count + 1) := by
        rw [tenPow_succ] at hn
        omega
      rw [← ih (by omega) hd, Nat.toDigits_eq_if (by decide), if_neg hs]
      simp only [List.leftpad, List.length_append, List.length_singleton, Nat.add_sub_add_right, List.append_assoc]

theorem digitsFrom_append (n : Nat) (cs ds : List Char) : digitsFrom n (cs ++ ds) = digitsFrom (digitsFrom n cs) ds :=
  List.foldl_append

theorem digit?_digitChar {n : Nat} (h : n < 10) : digit? n.digitChar = some n := by
  have hd : n.digitChar.isDigit = true := by rw [Nat.isDigit_digitChar, decide_eq_true h]
  rw [digit?_eq hd, Nat.toNat_digitChar_of_lt_ten h, Nat.add_sub_cancel_left]

theorem digitsFrom_replicate_zero (n zeros : Nat) : digitsFrom n (List.replicate zeros '0') = n * tenPow zeros := by
  induction zeros generalizing n with
  | zero => rw [tenPow_zero, Nat.mul_one]; rfl
  | succ zeros ih =>
    have h0 : digit? '0' = some 0 := rfl
    rw [List.replicate_succ, digitsFrom_cons, h0, Option.getD_some, Nat.add_zero, ih, tenPow_succ, Nat.mul_assoc,
      Nat.mul_comm 10]

theorem digitsFrom_lastDigits (a count n : Nat) :
    digitsFrom a (lastDigits count n) = a * tenPow count + n % tenPow count := by
  induction count generalizing n with
  | zero => simp [lastDigits, digitsFrom, tenPow_zero, Nat.mod_one]
  | succ count ih =>
    have hm : n % tenPow (count + 1) = n / 10 % tenPow count * 10 + n % 10 := by
      rw [tenPow_succ, Nat.mul_comm, Nat.mod_mul]
      omega
    rw [lastDigits, digitsFrom_append, ih, digitsFrom_cons, digit?_digitChar (Nat.mod_lt n (by decide)), hm, tenPow_succ]
    simp only [digitsFrom, List.foldl_nil, Option.getD_some]
    rw [Nat.add_mul, Nat.mul_assoc, Nat.add_assoc]

end RecordNaming.Text
