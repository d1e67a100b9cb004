/-
  RecordNaming.Proofs.Decimal.Reading — numerals read back.

  (1) Digits are read as long as the coefficient has room for them (`readDigits_digits`); zeros at the end of the
  places are read where there is room, and otherwise nothing is rounded for them (`readDigits_zeros`).

  (2) So the numeral of a decimal is read as its number, whatever zeros stand behind its own places
  (`readPlain?_plainDigits`), and the digits of a whole number as the decimal without places
  (`readNumeral?_natDigits`).

  (3) Commas and blanks do not matter to the lenient reading (`parse?_of_filter`).
-/
import RecordNaming.Decimal.Numeral
import RecordNaming.Proofs.Decimal.Exact

namespace RecordNaming.Decimal

open Text (digitsFrom lastDigits natDigits)

/-! ## (1) Digits -/

section

variable {c s : Nat} {point any : Bool}

theorem readDigits_digit {d : Char} {x : Nat} (hx : Text.digit? d = some x) (hp : point = true → s < maxScale)
    (hc : c * 10 + x ≤ maxCoefficient) (rest : List Char) : readDigits c s point any (d :: rest) =
      readDigits (c * 10 + x) (if point then s + 1 else s) point true rest := by
  have hroom : ¬ (point && s == maxScale) = true := by
    rw [Bool.and_eq_true, beq_iff_eq]
    rintro ⟨h, rfl⟩
    exact Nat.lt_irrefl _ (hp h)
  rw [readDigits, if_neg hroom]
  simp only [hx, if_pos hc]

/-- Digits are read one by one if the number they make behind the coefficient is one, and the scale has room for
them where they are places. -/
theorem readDigits_digits {ds : List Char} (hd : ∀ d ∈ ds, d.isDigit = true) (rest : List Char)
    (hp : point = true → s + ds.length ≤ maxScale) (hc : digitsFrom c ds ≤ maxCoefficient) :
    readDigits c s point any (ds ++ rest) =
      readDigits (digitsFrom c ds) (if point then s + ds.length else s) point (any || !ds.isEmpty) rest := by
  induction ds generalizing c s any with
  | nil => simp [digitsFrom]
  | cons d ds ih =>
    have hx := Text.digit?_eq (hd d List.mem_cons_self)
    rw [Text.digitsFrom_cons, hx, Option.getD_some] at hc
    have hle : c * 10 + (d.toNat - 48) ≤ maxCoefficient := (Text.le_digitsFrom _ ds).trans hc
    have hlen : (d :: ds).length = ds.length + 1 := rfl
    have hs : point = true → s < maxScale := fun h => by
      have := hp h
      omega
    rw [List.cons_append, readDigits_digit hx hs hle, Text.digitsFrom_cons, hx, Option.getD_some]
    cases point with
    | false =>
      rw [ih (fun e he => hd e (List.mem_cons_of_mem d he)) (fun h => by cases h) hc]
      simp
    | true =>
      have hplaces : s + 1 + ds.length = s + (d :: ds).length := by omega
      rw [if_pos rfl, ih (fun e he => hd e (List.mem_cons_of_mem d he)) (fun h => by rw [hplaces]; exact hp h) hc,
        if_pos rfl, if_pos rfl, hplaces]
      simp

/-- Nothing is rounded for zeros. -/
theorem roundNext_zeros (k : Nat) : roundNext c s (List.replicate (k + 1) '0') = some (c, s) := by
  have hall : (List.replicate k '0').all isTail = true := by
    rw [List.all_eq_true]
    intro d hd
    rw [List.eq_of_mem_replicate hd]
    rfl
  have h0 : Text.digit? '0' = some 0 := rfl
  rw [List.replicate_succ, roundNext, if_pos hall]
  simp only [h0]
  rfl

/-- The number `c / 10 ^ s` read as it is, with some coefficient and scale. -/
structure ReadAs (c s : Nat) (p : Nat × Nat) : Prop where
  coefficient : p.1 ≤ maxCoefficient
  scale : p.2 ≤ maxScale
  same : p.1 * tenPow s = c * tenPow p.2

theorem readDigits_zeros (k : Nat) (hc : c ≤ maxCoefficient) (hs : s ≤ maxScale) :
    ∃ p, readDigits c s true true (List.replicate k '0') = some p ∧ ReadAs c s p := by
  induction k generalizing c s with
  | zero => exact ⟨(c, s), rfl, hc, hs, rfl⟩
  | succ k ih =>
    have h0 : Text.digit? '0' = some 0 := rfl
    by_cases hfull : s = maxScale
    · refine ⟨(c, s), ?_, hc, hs, rfl⟩
      rw [List.replicate_succ, readDigits, if_pos (by rw [hfull]; rfl)]
      exact roundNext_zeros k
    · by_cases hroom : c * 10 ≤ maxCoefficient
      · obtain ⟨p, hp, hc', hs', he⟩ := ih (c := c * 10) (s := s + 1) hroom (by omega)
        refine ⟨p, ?_, hc', hs', ?_⟩
        · rw [List.replicate_succ, readDigits_digit h0 (fun _ => by omega) hroom]
          exact hp
        · rw [tenPow_succ] at he
          refine Nat.eq_of_mul_eq_mul_right (by decide : 0 < 10) ?_
          calc p.1 * tenPow s * 10 = p.1 * (tenPow s * 10) := Nat.mul_assoc ..
            _ = c * 10 * tenPow p.2 := he
            _ = c * tenPow p.2 * 10 := Nat.mul_right_comm ..
      · refine ⟨(c, s), ?_, hc, hs, rfl⟩
        have hplaces : ¬ (true && s == maxScale) = true := by simpa using hfull
        rw [List.replicate_succ, readDigits, if_neg hplaces]
        simp only [h0, Nat.add_zero, if_neg hroom, if_true]
        exact roundNext_zeros k

end

/-! ## (2) Numerals -/

/-- The numeral of `units / 10 ^ places` with all its places. -/
def plainDigits (units places : Nat) : List Char :=
  natDigits (units / tenPow places) ++ (if places = 0 then [] else '.' :: lastDigits places units)

theorem mem_plainDigits {units places : Nat} {c : Char} (h : c ∈ plainDigits units places) :
    c.isDigit = true ∨ c = '.' := by
  rw [plainDigits, List.mem_append] at h
  rcases h with h | h
  · exact .inl (Text.charIsDigit_of_mem_natDigits h)
  · split at h
    · cases h
    · rw [List.mem_cons] at h
      exact h.symm.imp_left Text.charIsDigit_of_mem_lastDigits

section

variable {d : Decimal} {places units : Nat} (hs : d.scale ≤ places)
  (hu : d.magnitude * tenPow (places - d.scale) = units)

include hs hu

/-- A decimal's numeral with zeros behind its own places, digit by digit. -/
theorem readDigits_plainDigits :
    ∃ p, readDigits 0 0 false false (plainDigits units places) = some p ∧ ReadAs d.magnitude d.scale p := by
  have hne : (natDigits (d.magnitude / tenPow d.scale)).isEmpty = false :=
    List.isEmpty_eq_false_iff.mpr (Text.natDigits_ne_nil _)
  have hw : digitsFrom 0 (natDigits (d.magnitude / tenPow d.scale)) = d.magnitude / tenPow d.scale :=
    Text.digitsFrom_natDigits _
  have hwle : d.magnitude / tenPow d.scale ≤ maxCoefficient := (Nat.div_le_self _ _).trans d.magnitude_le
  have hwhole (rest : List Char) :
      readDigits 0 0 false false (natDigits (d.magnitude / tenPow d.scale) ++ rest) =
        readDigits (d.magnitude / tenPow d.scale) 0 false true rest := by
    rw [readDigits_digits (fun c hc => Text.charIsDigit_of_mem_natDigits hc) rest (fun h => by cases h)
      (hw.trans_le hwle), hw, hne]
    rfl
  rw [plainDigits, ← whole_eq hs hu, hwhole]
  by_cases h0 : places = 0
  · have hs0 : d.scale = 0 := by omega
    refine ⟨(d.magnitude, 0), ?_, d.magnitude_le, Nat.zero_le _, by rw [hs0]⟩
    rw [if_pos h0, hs0, tenPow_zero, Nat.div_one]
    rfl
  · -- the decimal's own places, then zeros
    have hplaces : lastDigits places units =
        lastDigits d.scale d.magnitude ++ List.replicate (places - d.scale) '0' := by
      rw [← hu, ← Text.lastDigits_mul_tenPow, Nat.add_sub_cancel' hs]
    have hall : digitsFrom (d.magnitude / tenPow d.scale) (lastDigits d.scale d.magnitude) = d.magnitude := by
      rw [Text.digitsFrom_lastDigits, Nat.div_add_mod']
    have hpoint : readDigits (d.magnitude / tenPow d.scale) 0 false true
        ('.' :: (lastDigits d.scale d.magnitude ++ List.replicate (places - d.scale) '0')) =
        readDigits (d.magnitude / tenPow d.scale) 0 true true
          (lastDigits d.scale d.magnitude ++ List.replicate (places - d.scale) '0') := rfl
    obtain ⟨p, hp, hr⟩ := readDigits_zeros (places - d.scale) d.magnitude_le d.scale_le
    refine ⟨p, ?_, hr⟩
    rw [if_neg h0, hplaces, hpoint,
      readDigits_digits (fun c hc => Text.charIsDigit_of_mem_lastDigits hc) _
        (fun _ => by rw [Text.length_lastDigits, Nat.zero_add]; exact d.scale_le) (hall.trans_le d.magnitude_le),
      hall, Text.length_lastDigits, if_pos rfl, Nat.zero_add, Bool.true_or, hp]

theorem readPlain?_plainDigits (negative : Bool) :
    ∃ e, readPlain? ((if negative then ['-'] else []) ++ plainDigits units places) = some e ∧
      e.value = if negative then -|d.value| else |d.value| := by
  obtain ⟨p, hp, hr⟩ := readDigits_plainDigits hs hu
  have hc : (signed (if negative then -1 else 1) p.1).natAbs ≤ maxCoefficient :=
    (natAbs_signed _ _).trans_le hr.coefficient
  obtain ⟨e, he, hv⟩ := exists_ofParts? hc hr.scale
  have hsame : (p.1 : ℚ) / 10 ^ p.2 = |d.value| := by
    rw [d.abs_value, div_eq_div_iff (by positivity) (by positivity), ← tenPow_cast, ← tenPow_cast]
    exact_mod_cast hr.same
  refine ⟨e, ?_, ?_⟩
  · have hbody : readPlain? ((if negative then ['-'] else []) ++ plainDigits units places) =
        (readDigits 0 0 false false (plainDigits units places)).bind fun p =>
          ofParts? (signed (if negative then -1 else 1) p.1) p.2 := by
      cases negative with
      | true => rfl
      | false =>
        rw [if_neg Bool.false_ne_true, List.nil_append]
        cases hb : plainDigits units places with
        | nil => rfl
        | cons x xs =>
          have hx := mem_plainDigits (c := x) (by rw [hb]; exact List.mem_cons_self)
          have hminus : x ≠ '-' := by
            rintro rfl
            exact absurd hx (by decide)
          have hplus : x ≠ '+' := by
            rintro rfl
            exact absurd hx (by decide)
          simp [readPlain?, hminus, hplus]
    rw [hbody, hp]
    exact he
  · rw [hv, signed_cast, ← hsame]
    cases negative with
    | true => simp [neg_div]
    | false => simp

end

/-- The digits of a whole number are read as it is, without places. -/
theorem readNumeral?_natDigits {n : Nat} (h : n ≤ maxCoefficient) :
    readNumeral? (natDigits n) = some ⟨false, n, 0, h, Nat.zero_le _⟩ := by
  have hdigit : ∀ c ∈ natDigits n, c.isDigit = true := fun c hc => Text.charIsDigit_of_mem_natDigits hc
  have hread : readDigits 0 0 false false (natDigits n) = some (n, 0) := by
    have hne : (natDigits n).isEmpty = false := List.isEmpty_eq_false_iff.mpr (Text.natDigits_ne_nil n)
    rw [← List.append_nil (natDigits n), readDigits_digits hdigit [] (fun h => by cases h)
      ((Text.digitsFrom_natDigits n).trans_le h), Text.digitsFrom_natDigits, hne]
    rfl
  have hparts : ofParts? (signed 1 n) 0 = some ⟨false, n, 0, h, Nat.zero_le _⟩ := by
    have hs : signed 1 n = n := rfl
    have hnn : ¬ (n : Int) < 0 := by omega
    simp only [hs, ofParts?, Int.natAbs_natCast, dif_pos (And.intro h (Nat.zero_le maxScale)), hnn, decide_false]
  have hplain : readPlain? (natDigits n) = some ⟨false, n, 0, h, Nat.zero_le _⟩ := by
    cases hcs : natDigits n with
    | nil => exact absurd hcs (Text.natDigits_ne_nil n)
    | cons c cs =>
      have hc := hdigit c (by rw [hcs]; exact List.mem_cons_self)
      have hminus : c ≠ '-' := by
        rintro rfl
        cases hc
      have hplus : c ≠ '+' := by
        rintro rfl
        cases hc
      rw [hcs] at hread
      simp [readPlain?, hminus, hplus, hread, hparts]
  rw [readNumeral?, hplain, Option.some_or]

/-! ## (3) Lenient reading -/

/-- A text without blanks and plus signs is read without its commas. -/
theorem parse?_of_filter {text body : List Char} (hb : ∀ c ∈ text, Text.isBlank c = false)
    (hf : text.filter (· != ',') = body) (hp : body.head? ≠ some '+') :
    parse? (String.ofList text) = readNumeral? body := by
  rw [parse?, String.toList_ofList, Text.trim_of_not_blank hb, hf]
  cases body with
  | nil => rfl
  | cons c body =>
    have hc : c ≠ '+' := by simpa using hp
    split
    · rename_i heq
      cases heq
      exact absurd rfl hc
    · rfl

end RecordNaming.Decimal
