/-
  RecordNaming.Proofs.Decimal.Casing — numerals regardless of case.

  (1) The mark of an exponent is the only letter in a numeral, and can be either one: a text is read as the same
  number as its lower case (`parse?_asciiLower`).

  (2) What is read as a number has simple characters only, blanks included (`isSimple_of_parse?`). So two numerals
  that are equal regardless of case are read as one number (`parse?_of_lower_eq`).
-/
import RecordNaming.Decimal.Numeral
import RecordNaming.Proofs.Text.AsciiCase

namespace RecordNaming.Decimal

/-! ## (1) The number of a lower case -/

open Text (toLower_congr toLower_eq_iff digit?_toLower)

theorem roundNext_toLower (c s : Nat) (cs : List Char) : roundNext c s (cs.map Char.toLower) = roundNext c s cs := by
  have htail : ∀ d : Char, isTail d.toLower = isTail d := toLower_congr isTail (by decide)
  cases cs with
  | nil => rfl
  | cons d rest =>
    have hmark : (d.toLower == '_') = (d == '_') := toLower_congr (· == '_') (by decide) d
    rw [List.map_cons, roundNext, roundNext, Text.all_toLower htail, digit?_toLower, hmark]

theorem readDigits_toLower (c s : Nat) (point any : Bool) (cs : List Char) :
    readDigits c s point any (cs.map Char.toLower) = readDigits c s point any cs := by
  induction cs generalizing c s point any with
  | nil => rfl
  | cons d rest ih =>
    have hmark : (d.toLower == '_') = (d == '_') := toLower_congr (· == '_') (by decide) d
    have hpoint : (d.toLower == '.') = (d == '.') := toLower_congr (· == '.') (by decide) d
    have hall := roundNext_toLower c s (d :: rest)
    rw [List.map_cons] at hall ⊢
    rw [readDigits, readDigits, digit?_toLower, hmark, hpoint]
    simp only [ih, hall]
    split
    · split
      · exact roundNext_toLower c s rest
      · exact hall
    · rfl

theorem readPlain?_toLower (cs : List Char) : readPlain? (cs.map Char.toLower) = readPlain? cs := by
  cases cs with
  | nil => rfl
  | cons c rest =>
    by_cases hminus : c = '-'
    · subst hminus
      have h : readPlain? (('-' :: rest).map Char.toLower) =
          (readDigits 0 0 false false (rest.map Char.toLower)).bind fun p => ofParts? (signed (-1) p.1) p.2 := rfl
      rw [h, readDigits_toLower]
      rfl
    by_cases hplus : c = '+'
    · subst hplus
      have h : readPlain? (('+' :: rest).map Char.toLower) =
          (readDigits 0 0 false false (rest.map Char.toLower)).bind fun p => ofParts? (signed 1 p.1) p.2 := rfl
      rw [h, readDigits_toLower]
      rfl
    have hm : c.toLower ≠ '-' := mt (toLower_eq_iff (by decide)).mp hminus
    have hp : c.toLower ≠ '+' := mt (toLower_eq_iff (by decide)).mp hplus
    have hlower := readDigits_toLower 0 0 false false (c :: rest)
    rw [List.map_cons] at hlower ⊢
    simp [readPlain?, hminus, hplus, hm, hp, hlower]

theorem readExponent_toLower (base : Decimal) (exponent : List Char) :
    (match exponent.map Char.toLower with
      | '-' :: rest => (Text.natUpTo? 4294967295 rest).bind base.shiftLeft?
      | _ => (Text.natUpTo? 4294967295 (exponent.map Char.toLower)).bind base.shiftRight?) =
    match exponent with
      | '-' :: rest => (Text.natUpTo? 4294967295 rest).bind base.shiftLeft?
      | _ => (Text.natUpTo? 4294967295 exponent).bind base.shiftRight? := by
  cases exponent with
  | nil => rfl
  | cons c rest =>
    have hall := Text.natUpTo?_toLower 4294967295 (c :: rest)
    have hrest := Text.natUpTo?_toLower 4294967295 rest
    by_cases hminus : c = '-'
    · subst hminus
      show (Text.natUpTo? 4294967295 (rest.map Char.toLower)).bind base.shiftLeft? = _
      rw [hrest]
      rfl
    · have hl : c.toLower ≠ '-' := mt (toLower_eq_iff (by decide)).mp hminus
      rw [List.map_cons] at hall ⊢
      simp [hminus, hl, hall]

theorem readScientific?_toLower (cs : List Char) : readScientific? (cs.map Char.toLower) = readScientific? cs := by
  have hmark : ∀ c : Char, (!(c.toLower == 'e' || c.toLower == 'E')) = !(c == 'e' || c == 'E') :=
    toLower_congr (fun c => !(c == 'e' || c == 'E')) (by decide)
  rw [readScientific?, readScientific?, Text.dropWhile_toLower hmark, Text.takeWhile_toLower hmark, readPlain?_toLower]
  cases cs.dropWhile fun c => !(c == 'e' || c == 'E') with
  | nil => rfl
  | cons mark exponent =>
    cases readPlain? (cs.takeWhile fun c => !(c == 'e' || c == 'E')) with
    | none => rfl
    | some base => exact readExponent_toLower base exponent

theorem readNumeral?_toLower (cs : List Char) : readNumeral? (cs.map Char.toLower) = readNumeral? cs := by
  rw [readNumeral?, readPlain?_toLower, readScientific?_toLower, readNumeral?]

theorem parse?_asciiLower (s : String) : parse? (Text.asciiLower s) = parse? s := by
  have hcomma : (fun c => c != ',') ∘ Char.toLower = fun c => c != ',' :=
    funext fun c => toLower_congr (· != ',') (by decide) c
  rw [parse?, parse?, Text.asciiLower, String.toList_ofList, Text.trim_toLower, List.filter_map, hcomma]
  generalize (Text.trim s.toList).filter (· != ',') = kept
  cases kept with
  | nil => rfl
  | cons c rest =>
    by_cases hplus : c = '+'
    · subst hplus
      show readNumeral? (rest.map Char.toLower) = _
      rw [readNumeral?_toLower]
      rfl
    · have hl : c.toLower ≠ '+' := mt (toLower_eq_iff (by decide)).mp hplus
      have hall := readNumeral?_toLower (c :: rest)
      rw [List.map_cons] at hall ⊢
      simp [hplus, hl, hall]

/-! ## (2) The characters of a numeral -/

open Text (isSimple)

theorem isSimple_of_isTail {c : Char} (h : isTail c = true) : isSimple c = true := by
  rcases Bool.or_eq_true_iff.mp h with hdigit | hmark
  · exact Text.isSimple_of_isDigit hdigit
  · rw [beq_iff_eq.mp hmark]
    rfl

theorem isSimple_of_roundNext {c s : Nat} {cs : List Char} {p : Nat × Nat} (h : roundNext c s cs = some p) :
    cs.all isSimple = true := by
  cases cs with
  | nil => rfl
  | cons d rest =>
    rw [roundNext] at h
    split at h
    · rename_i htail
      have hrest : rest.all isSimple = true := by
        rw [List.all_eq_true] at htail ⊢
        exact fun e he => isSimple_of_isTail (htail e he)
      have hd : isTail d = true := by
        rw [isTail, Text.isDigit]
        cases hdigit : Text.digit? d with
        | some x => rfl
        | none =>
          rw [hdigit] at h
          by_cases hmark : (d == '_') = true
          · rw [hmark]
            rfl
          · rw [if_neg hmark] at h
            cases h
      exact (Text.all_cons_of (isSimple_of_isTail hd)).trans hrest
    · cases h

theorem isSimple_of_readDigits {c s : Nat} {point any : Bool} {cs : List Char} {p : Nat × Nat}
    (h : readDigits c s point any cs = some p) : cs.all isSimple = true := by
  induction cs generalizing c s point any with
  | nil => rfl
  | cons d rest ih =>
    rw [readDigits] at h
    by_cases hfull : (point && s == maxScale) = true
    · -- the last places are looked at all at once
      rw [if_pos hfull] at h
      by_cases hskip : (d == '_' && decide (longCoefficient ≤ c / 10)) = true
      · rw [if_pos hskip] at h
        rw [Bool.and_eq_true, beq_iff_eq] at hskip
        exact (Text.all_cons_of (by rw [hskip.1]; rfl)).trans (isSimple_of_roundNext h)
      · rw [if_neg hskip] at h
        exact isSimple_of_roundNext h
    · rw [if_neg hfull] at h
      cases hdigit : Text.digit? d with
      | some x =>
        have hd : isSimple d = true := Text.isSimple_of_isDigit (by rw [Text.isDigit, hdigit]; rfl)
        simp only [hdigit] at h
        split at h
        · exact (Text.all_cons_of hd).trans (ih h)
        · split at h
          · exact isSimple_of_roundNext h
          · cases h
      | none =>
        simp only [hdigit] at h
        split at h
        · rename_i hpoint
          rw [Bool.and_eq_true, beq_iff_eq] at hpoint
          exact (Text.all_cons_of (by rw [hpoint.1]; rfl)).trans (ih h)
        · split at h
          · rename_i hmark
            rw [Bool.and_eq_true, beq_iff_eq] at hmark
            exact (Text.all_cons_of (by rw [hmark.1]; rfl)).trans (ih h)
          · cases h

theorem isSimple_of_readPlain? {cs : List Char} {d : Decimal} (h : readPlain? cs = some d) :
    cs.all isSimple = true := by
  unfold readPlain? at h
  obtain ⟨p, hp, -⟩ := Option.bind_eq_some_iff.mp h
  split at hp
  · exact (Text.all_cons_of rfl).trans (isSimple_of_readDigits hp)
  · exact (Text.all_cons_of rfl).trans (isSimple_of_readDigits hp)
  · exact isSimple_of_readDigits hp

theorem isSimple_of_natUpTo? {limit n : Nat} {cs : List Char} (h : Text.natUpTo? limit cs = some n) :
    cs.all isSimple = true := by
  have hdigits {ds : List Char} (h : (Text.nat? ds).filter (· ≤ limit) = some n) : ds.all isSimple = true := by
    obtain ⟨hnat, -⟩ := Option.filter_eq_some_iff.mp h
    rw [Text.nat?] at hnat
    split at hnat
    · cases hnat
    · rename_i hall
      rw [Bool.or_eq_true, not_or, Bool.not_eq_true, Bool.not_eq_true, Bool.not_eq_false'] at hall
      rw [List.all_eq_true] at hall ⊢
      exact fun c hc => Text.isSimple_of_isDigit (hall.2 c hc)
  unfold Text.natUpTo? at h
  split at h
  · exact (Text.all_cons_of rfl).trans (hdigits h)
  · exact hdigits h

theorem isSimple_of_readScientific? {cs : List Char} {d : Decimal} (h : readScientific? cs = some d) :
    cs.all isSimple = true := by
  unfold readScientific? at h
  simp only at h
  split at h
  · cases h
  · rename_i mark exponent hdrop
    obtain ⟨base, hbase, hexponent⟩ := Option.bind_eq_some_iff.mp h
    have hmark : isSimple mark = true := by
      have hhead := List.head?_dropWhile_not (fun c => !(c == 'e' || c == 'E')) cs
      rw [hdrop] at hhead
      simp only [List.head?_cons, Bool.not_eq_false', Bool.or_eq_true, beq_iff_eq] at hhead
      rcases hhead with rfl | rfl
      · rfl
      · rfl
    have hrest : exponent.all isSimple = true := by
      split at hexponent
      · obtain ⟨n, hn, -⟩ := Option.bind_eq_some_iff.mp hexponent
        exact (Text.all_cons_of rfl).trans (isSimple_of_natUpTo? hn)
      · obtain ⟨n, hn, -⟩ := Option.bind_eq_some_iff.mp hexponent
        exact isSimple_of_natUpTo? hn
    rw [← List.takeWhile_append_dropWhile (p := fun c => !(c == 'e' || c == 'E')) (l := cs), hdrop, List.all_append,
      isSimple_of_readPlain? hbase, List.all_cons, hmark, hrest]
    rfl

theorem isSimple_of_readNumeral? {cs : List Char} {d : Decimal} (h : readNumeral? cs = some d) :
    cs.all isSimple = true := by
  rcases Option.or_eq_some_iff.mp h with hplain | ⟨-, hscientific⟩
  · exact isSimple_of_readPlain? hplain
  · exact isSimple_of_readScientific? hscientific

theorem isSimple_of_parse? {s : String} {d : Decimal} (h : parse? s = some d) : ∀ c ∈ s.toList, isSimple c = true := by
  have hkept : ((Text.trim s.toList).filter (· != ',')).all isSimple = true := by
    simp only [parse?] at h
    split at h
    · rename_i heq
      rw [heq]
      exact (Text.all_cons_of rfl).trans (isSimple_of_readNumeral? h)
    · exact isSimple_of_readNumeral? h
  refine Text.isSimple_of_trim ?_
  rw [List.all_eq_true]
  intro c hc
  by_cases hcomma : c = ','
  · subst hcomma
    rfl
  · exact List.all_eq_true.mp hkept c (List.mem_filter.mpr ⟨hc, bne_iff_ne.mpr hcomma⟩)

theorem parse?_of_lower_eq {a b : String} {d e : Decimal} (hlower : Text.lower a = Text.lower b)
    (ha : parse? a = some d) (hb : parse? b = some e) : d = e := by
  rw [Text.lower_eq_asciiLower (isSimple_of_parse? ha), Text.lower_eq_asciiLower (isSimple_of_parse? hb)] at hlower
  rw [← parse?_asciiLower, hlower, parse?_asciiLower, hb] at ha
  exact (Option.some.inj ha).symm

end RecordNaming.Decimal
