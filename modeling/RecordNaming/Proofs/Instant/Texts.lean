/-
  RecordNaming.Proofs.Instant.Texts — instants are read back from their texts.

  (1) Without a short fraction a pattern's text is the texts of its tokens (`layOut_eq_flatMap`). The date of the
  round-trip text has its year first, that of the default text its month; the clock is the same
  (`roundTripText_eq`, `defaultText_eq`).

  (2) A number that was printed with all digits there can be is read back, whatever follows
  (`digitsUpTo?_lastDigits`), and so are dates and clocks by their layouts (`readLayout?_isoDate`,
  `readLayout?_monthFirstDate`, `readLayout?_wholeSecond`).

  (3) Neither text has an offset, and a layout with the year first stops at the first slash of the default text. So
  the round-trip text gives back the instant to a tenth of a microsecond (`parse?_roundTripText`), and the default
  text to a second (`parse?_defaultText`).
-/
import Mathlib.Data.List.Basic
import RecordNaming.Instant.Pattern
import RecordNaming.Instant.Reading
import RecordNaming.Proofs.Instant.Order
import RecordNaming.Proofs.Results
import RecordNaming.Proofs.Text.Digits

namespace RecordNaming.Instant

open Text (lastDigits)

/-! ## (1) The texts -/

/-- The text of a token other than the short fraction. -/
def tokenText (t : Instant) (offset : Int) : Token → List Char
  | .literal text => text
  | .field f run => fieldText t offset f run

/-- Only the short fraction looks at the text in front of it. -/
theorem layOut_eq_flatMap {tokens : List Token} (h : ∀ run, .field .shortFraction run ∉ tokens) (t : Instant)
    (offset : Int) : layOut t offset tokens = tokens.flatMap (tokenText t offset) := by
  have step (out : List Char) (token : Token) (ht : token ∈ tokens) :
      append t offset out token = out ++ tokenText t offset token := by
    cases token with
    | literal text => rfl
    | field f run =>
      have hf : f ≠ .shortFraction := by
        rintro rfl
        exact h run ht
      simp [append, hf, tokenText]
  have all (l : List Token) (out : List Char) (hl : ∀ token ∈ l, token ∈ tokens) :
      l.foldl (append t offset) out = out ++ l.flatMap (tokenText t offset) := by
    induction l generalizing out with
    | nil => simp
    | cons token l ih =>
      rw [List.foldl_cons, step out token (hl token List.mem_cons_self),
        ih _ fun x hx => hl x (List.mem_cons_of_mem token hx), List.flatMap_cons, List.append_assoc]
  exact all tokens [] fun _ h => h

/-- The tokens of the round-trip pattern. -/
def roundTripTokens : List Token :=
  [.field .year 4, .literal ['-'], .field .month 2, .literal ['-'], .field .day 2, .literal ['T'], .field .hour24 2,
    .literal [':'], .field .minute 2, .literal [':'], .field .second 2, .literal ['.'], .field .fraction 7]

theorem roundTripText_eq_flatMap (t : Instant) :
    t.roundTripText = String.ofList (roundTripTokens.flatMap (tokenText t 0)) := by
  have htokens : patternTokens roundTripPattern.toList = .ok roundTripTokens := rfl
  rw [roundTripText, textBy, render, htokens]
  simp only [Except.map]
  rw [layOut_eq_flatMap (by simp [roundTripTokens])]

/-- An instant that is no leap second, in a year of up to four digits. -/
structure Plain (t : Instant) : Prop where
  nanosecond_lt : t.nanosecond < 1000000000
  year_nonneg : 0 ≤ t.date.year
  year_le : t.date.year ≤ 9999

/-- A date with its year first, and the text behind it. -/
def isoDateText (d : Date) (behind : List Char) : List Char :=
  lastDigits 4 d.year.natAbs ++ '-' :: (lastDigits 2 d.month ++ '-' :: (lastDigits 2 d.day ++ behind))

/-- A date with its month first, and the text behind it. -/
def monthFirstText (d : Date) (behind : List Char) : List Char :=
  lastDigits 2 d.month ++ '/' :: (lastDigits 2 d.day ++ '/' :: (lastDigits 4 d.year.natAbs ++ behind))

/-- Hours, minutes and seconds, and the text behind them. -/
def clockText (t : Instant) (behind : List Char) : List Char :=
  lastDigits 2 t.hour ++ ':' :: (lastDigits 2 t.minute ++ ':' :: (lastDigits 2 t.second ++ behind))

section

variable {t : Instant}

theorem padded_two {n : Nat} (h : n < 100) : Text.padded 2 n = lastDigits 2 n :=
  Text.padded_eq_lastDigits (by decide) h

/-- All numbers of a date and of a time but the year fit in two digits. -/
theorem twoDigits (t : Instant) :
    (t.date.month < 100 ∧ t.date.day < 100) ∧ t.hour < 100 ∧ t.minute < 100 ∧ t.second < 100 := by
  have hm := t.date.month_bounds
  have hd := t.date.day_le
  obtain ⟨hh, hmin, hs, -⟩ := t.valid
  omega

theorem Plain.year_lt (h : t.Plain) : t.date.year.natAbs < 10000 := by
  have h0 := h.year_nonneg
  have h9 := h.year_le
  omega

theorem Plain.ticks_lt (h : t.Plain) : t.nanosecond / 100 < 10000000 := by
  have hn := h.nanosecond_lt
  omega

theorem Plain.yearText (h : t.Plain) : Text.intPadded 4 t.date.year = lastDigits 4 t.date.year.natAbs := by
  rw [Text.intPadded, if_neg (Int.not_lt.mpr h.year_nonneg)]
  exact Text.padded_eq_lastDigits (by decide) h.year_lt

theorem Plain.fractionText (h : t.Plain) : fractionDigits t 7 = lastDigits 7 (t.nanosecond / 100) := by
  have hadd := Text.lastDigits_add 7 2 t.nanosecond
  have h100 : tenPow 2 = 100 := rfl
  rw [h100] at hadd
  rw [fractionDigits, Nat.mod_eq_of_lt h.nanosecond_lt, Text.padded_eq_lastDigits (by decide) h.nanosecond_lt, hadd,
    List.take_left' (Text.length_lastDigits 7 _)]

theorem Plain.roundTripText_eq (h : t.Plain) : t.roundTripText =
    String.ofList (isoDateText t.date ('T' :: clockText t ('.' :: lastDigits 7 (t.nanosecond / 100)))) := by
  obtain ⟨⟨hmonth, hday⟩, hhour, hminute, hsecond⟩ := t.twoDigits
  rw [roundTripText_eq_flatMap]
  simp [roundTripTokens, tokenText, fieldText, numberOrName, oneOrTwo, h.yearText, h.fractionText, padded_two hmonth,
    padded_two hday, padded_two hhour, padded_two hminute, padded_two hsecond, isoDateText, clockText]

theorem Plain.defaultText_eq (h : t.Plain) :
    t.defaultText = String.ofList (monthFirstText t.date (' ' :: clockText t [])) := by
  have htokens : patternTokens defaultPattern.toList = .ok
      [.field .month 2, .literal ['/'], .field .day 2, .literal ['/'], .field .year 4, .literal [' '],
        .field .hour24 2, .literal [':'], .field .minute 2, .literal [':'], .field .second 2] := rfl
  obtain ⟨⟨hmonth, hday⟩, hhour, hminute, hsecond⟩ := t.twoDigits
  rw [defaultText, textBy, render, htokens]
  simp only [Except.map]
  rw [layOut_eq_flatMap (by simp)]
  simp [tokenText, fieldText, numberOrName, oneOrTwo, h.yearText, padded_two hmonth, padded_two hday, padded_two hhour,
    padded_two hminute, padded_two hsecond, monthFirstText, clockText]

end

/-! ## (2) Reading -/

/-- A word of digits is read to its end if it is as long as can be or another character stands behind it. -/
theorem digitsUpTo?_append {ds rest : List Char} {most : Nat} (hd : ∀ c ∈ ds, Text.isDigit c = true) (hne : ds ≠ [])
    (h : ds.length = most ∨ ds.length ≤ most ∧ ∀ c, rest.head? = some c → Text.isDigit c = false) :
    digitsUpTo? most (ds ++ rest) = some (Text.digitsValue ds, rest) := by
  have hword : ((ds ++ rest).takeWhile Text.isDigit).take most = ds := by
    rcases h with rfl | ⟨hle, hr⟩
    · rw [List.takeWhile_append_of_pos hd, List.take_left]
    · rw [(Text.takeWhile_isDigit_append hd hr).1, List.take_of_length_le hle]
  simp only [digitsUpTo?, hword, List.isEmpty_iff, if_neg hne, List.drop_left]

theorem isDigit_of_mem_lastDigits {k n : Nat} {c : Char} (h : c ∈ lastDigits k n) : Text.isDigit c = true :=
  Text.isDigit_of_isDigit (Text.charIsDigit_of_mem_lastDigits h)

theorem lastDigits_ne_nil {k : Nat} (hk : 0 < k) (n : Nat) : lastDigits k n ≠ [] := by
  rw [← List.length_pos_iff, Text.length_lastDigits]
  exact hk

theorem digitsValue_lastDigits {k n : Nat} (hn : n < tenPow k) : Text.digitsValue (lastDigits k n) = n := by
  have h := Text.digitsFrom_lastDigits 0 k n
  rwa [Nat.zero_mul, Nat.zero_add, Nat.mod_eq_of_lt hn] at h

section

variable {k n : Nat} (hk : 0 < k) (hn : n < tenPow k) (rest : List Char)

include hk

theorem head?_lastDigits : ∃ c, (lastDigits k n ++ rest).head? = some c ∧ c.isDigit = true := by
  obtain ⟨c, ds, hds⟩ := List.exists_cons_of_ne_nil (lastDigits_ne_nil hk n)
  have hmem : c ∈ lastDigits k n := by
    rw [hds]
    exact List.mem_cons_self
  exact ⟨c, by rw [hds]; rfl, Text.charIsDigit_of_mem_lastDigits hmem⟩

theorem skipBlanks_lastDigits : skipBlanks (lastDigits k n ++ rest) = lastDigits k n ++ rest := by
  obtain ⟨c, hc, hdigit⟩ := head?_lastDigits (n := n) hk rest
  obtain ⟨ds, hds⟩ := List.head?_eq_some_iff.mp hc
  rw [hds]
  exact List.dropWhile_cons_of_neg (by rw [Text.isBlank_of_isDigit hdigit]; exact Bool.false_ne_true)

include hn

theorem digitsUpTo?_lastDigits : digitsUpTo? k (lastDigits k n ++ rest) = some (n, rest) := by
  rw [digitsUpTo?_append (fun c => isDigit_of_mem_lastDigits) (lastDigits_ne_nil hk n)
    (.inl (Text.length_lastDigits k n)), digitsValue_lastDigits hn]

theorem digitsExactly?_lastDigits : digitsExactly? k (lastDigits k n ++ rest) = some (n, rest) := by
  have htake : (lastDigits k n ++ rest).take k = lastDigits k n := List.take_left' (Text.length_lastDigits k n)
  have hall : (lastDigits k n).all Text.isDigit = true := List.all_eq_true.mpr fun c => isDigit_of_mem_lastDigits
  rw [digitsExactly?, digitsUpTo?_lastDigits hk hn, htake, Text.length_lastDigits, hall]
  simp

end

theorem twoDigits?_lastDigits {n : Nat} (hn : n < 100) (rest : List Char) :
    twoDigits? (lastDigits 2 n ++ rest) = some (n, rest) := by
  rw [twoDigits?, skipBlanks_lastDigits (by decide), digitsUpTo?_lastDigits (by decide) hn]

/-- A year that starts with a digit has no sign. -/
theorem year?_of_digit {cs : List Char} {c : Char} (hc : cs.head? = some c) (hd : c.isDigit = true) :
    year? cs = (digitsUpTo? 4 cs).map fun (n, rest) => ((n : Int), rest) := by
  obtain ⟨ds, rfl⟩ := List.head?_eq_some_iff.mp hc
  unfold year?
  split
  · rename_i h
    cases h
    cases hd
  · rename_i h
    cases h
    cases hd
  · rfl

theorem year?_lastDigits {n : Nat} (hn : n < 10000) (rest : List Char) :
    year? (skipBlanks (lastDigits 4 n ++ rest)) = some ((n : Int), rest) := by
  obtain ⟨c, hc, hd⟩ := head?_lastDigits (k := 4) (n := n) (by decide) rest
  rw [skipBlanks_lastDigits (by decide), year?_of_digit hc hd, digitsUpTo?_lastDigits (by decide) hn]
  rfl

theorem fraction?_lastDigits {n : Nat} (hn : n < 10000000) : fraction? (lastDigits 7 n) = some (n * 100, []) := by
  have hd : ∀ c ∈ lastDigits 7 n, Text.isDigit c = true := fun c => isDigit_of_mem_lastDigits
  have hnil : ∀ c, ([] : List Char).head? = some c → Text.isDigit c = false := by simp
  obtain ⟨hword, hrest⟩ := Text.takeWhile_isDigit_append hd hnil
  rw [List.append_nil] at hword hrest
  have hlength := Text.length_lastDigits 7 n
  have hpadded : ((lastDigits 7 n).take 9).rightpad 9 '0' = lastDigits 9 (n * 100) := by
    have hmul := Text.lastDigits_mul_tenPow 7 n 2
    rw [List.take_of_length_le (by omega), List.rightpad, hlength]
    exact hmul.symm
  have hvalue : Text.digitsValue (lastDigits 9 (n * 100)) = n * 100 :=
    digitsValue_lastDigits (by rw [show tenPow 9 = 1000000000 from rfl]; omega)
  have hne : lastDigits 7 n ≠ [] := lastDigits_ne_nil (by decide) n
  simp only [fraction?, hword, hrest, hpadded, hvalue, List.isEmpty_iff, if_neg hne]

theorem expect?_cons (c : Char) (rest : List Char) : expect? [c] (c :: rest) = some rest := by simp [expect?]

section

variable {t : Instant} (p : Parts) (items : List LayoutItem) (behind : List Char)

theorem Plain.readLayout?_isoDate (h : t.Plain) : readLayout? p (isoDate ++ items) (isoDateText t.date behind) =
    readLayout? { p with year := t.date.year, month := t.date.month, day := t.date.day } items behind := by
  obtain ⟨⟨hmonth, hday⟩, -⟩ := t.twoDigits
  have hcast : (t.date.year.natAbs : Int) = t.date.year := Int.natAbs_of_nonneg h.year_nonneg
  simp only [isoDate, isoDateText, List.cons_append, List.nil_append, readLayout?, LayoutItem.read?,
    year?_lastDigits h.year_lt, twoDigits?_lastDigits hmonth, twoDigits?_lastDigits hday, expect?_cons, Option.map_some,
    Option.bind_some, hcast]

theorem Plain.readLayout?_monthFirstDate (h : t.Plain) :
    readLayout? p (monthFirstDate ++ items) (monthFirstText t.date behind) =
      readLayout? { p with year := t.date.year, month := t.date.month, day := t.date.day } items behind := by
  obtain ⟨⟨hmonth, hday⟩, -⟩ := t.twoDigits
  have hcast : (t.date.year.natAbs : Int) = t.date.year := Int.natAbs_of_nonneg h.year_nonneg
  simp only [monthFirstDate, monthFirstText, List.cons_append, List.nil_append, readLayout?, LayoutItem.read?,
    year?_lastDigits h.year_lt, twoDigits?_lastDigits hmonth, twoDigits?_lastDigits hday, expect?_cons, Option.map_some,
    Option.bind_some, hcast]

theorem readLayout?_wholeSecond : readLayout? p (wholeSecond ++ items) (clockText t behind) =
    readLayout? { p with hour := t.hour, minute := t.minute, second := t.second } items behind := by
  obtain ⟨-, hhour, hminute, hsecond⟩ := t.twoDigits
  simp only [wholeSecond, hourMinute, clockText, List.cons_append, List.nil_append, readLayout?, LayoutItem.read?,
    twoDigits?_lastDigits hhour, twoDigits?_lastDigits hminute, twoDigits?_lastDigits hsecond, expect?_cons,
    Option.map_some, Option.bind_some]

/-- A number of two digits that a slash ends, where there could be more. -/
theorem year?_slash {n : Nat} (hn : n < 100) (rest : List Char) :
    year? (skipBlanks (lastDigits 2 n ++ '/' :: rest)) = some ((n : Int), '/' :: rest) := by
  obtain ⟨c, hc, hd⟩ := head?_lastDigits (k := 2) (n := n) (by decide) ('/' :: rest)
  have hlength := Text.length_lastDigits 2 n
  have hslash : ∀ c, ('/' :: rest).head? = some c → Text.isDigit c = false := by
    rintro c ⟨⟩
    rfl
  rw [skipBlanks_lastDigits (by decide), year?_of_digit hc hd, digitsUpTo?_append (fun c => isDigit_of_mem_lastDigits)
    (lastDigits_ne_nil (by decide) n) (.inr ⟨by omega, hslash⟩), digitsValue_lastDigits hn]
  rfl

/-- A layout with the year first stops at the first slash. -/
theorem readLayout?_isoDate_monthFirst : readLayout? p (isoDate ++ items) (monthFirstText t.date behind) = none := by
  obtain ⟨⟨hmonth, -⟩, -⟩ := t.twoDigits
  have hmark (rest : List Char) : expect? ['-'] ('/' :: rest) = none := by simp [expect?]
  simp only [isoDate, monthFirstText, List.cons_append, readLayout?, LayoutItem.read?, year?_slash hmonth, hmark,
    Option.map_some, Option.map_none, Option.bind_some, Option.bind_none]

end

/-! ## (3) The instants -/

/-- An instant without what is left of its nanoseconds behind whole units. -/
def cutTo (t : Instant) (unit : Nat) : Instant :=
  { t with
    nanosecond := t.nanosecond / unit * unit
    valid := by
      obtain ⟨hh, hm, hs, hn⟩ := t.valid
      have hle := Nat.div_mul_le_self t.nanosecond unit
      exact ⟨hh, hm, hs, by omega⟩ }

theorem instant?_parts (t : Instant) :
    (Parts.mk t.date.year t.date.month t.date.day t.hour t.minute t.second t.nanosecond).instant? = some t := by
  have hdate : Date.ofParts? t.date.year t.date.month t.date.day = some t.date := dif_pos t.date.valid
  have hsecond : ¬ t.second = 60 := by
    have := t.valid.2.2.1
    omega
  simp only [Parts.instant?, hdate, if_neg hsecond, ofParts?, dif_pos t.valid]
  rfl

section

variable {t : Instant}

/-- Behind the nanoseconds there is no offset. -/
theorem Plain.withOffset?_isoDate (h : t.Plain) {n : Nat} (hn : n < 10000000) :
    withOffset? (isoDateText t.date ('T' :: clockText t ('.' :: lastDigits 7 n))) = none := by
  obtain ⟨⟨hmonth, hday⟩, hhour, hminute, hsecond⟩ := t.twoDigits
  have number {k n : Nat} (hk : 0 < k) (hn : n < tenPow k) (rest : List Char) (f : Nat × List Char → Option Instant) :
      (digitsExactly? k (lastDigits k n ++ rest) >>= f) = f (n, rest) := by
    rw [digitsExactly?_lastDigits hk hn]
    rfl
  have mark {cs : List Char} {c : Char} (hc : c ∈ cs) (rest : List Char) (f : List Char → Option Instant) :
      (expect? cs (c :: rest) >>= f) = f rest := by
    simp [expect?, hc]
  have four := number (k := 4) (by decide) h.year_lt
  have two {n : Nat} (hn : n < 100) := number (k := 2) (by decide) hn
  have hyphen := mark (List.mem_singleton_self '-')
  have colon := mark (List.mem_singleton_self ':')
  have letter := mark (by decide : 'T' ∈ ['T', 't', ' '])
  -- each step is taken before the steps behind it are looked at
  simp only [withOffset?, isoDateText, clockText, ↓four, ↓hyphen, ↓two hmonth, ↓two hday, ↓letter, ↓two hhour, ↓colon,
    ↓two hminute, ↓two hsecond]
  rw [fraction?_lastDigits hn]
  rfl

/-- There is a slash among the first four characters. -/
theorem withOffset?_monthFirst (behind : List Char) : withOffset? (monthFirstText t.date behind) = none := by
  have hlength := Text.length_lastDigits 2 t.date.month
  have hslash (rest : List Char) : digitsExactly? 4 (lastDigits 2 t.date.month ++ '/' :: rest) = none := by
    have hmem : '/' ∈ (lastDigits 2 t.date.month ++ '/' :: rest).take 4 := by
      rw [List.take_append, hlength]
      exact List.mem_append_right _ List.mem_cons_self
    have hall : ((lastDigits 2 t.date.month ++ '/' :: rest).take 4).all Text.isDigit = false := by
      rw [List.all_eq_false]
      exact ⟨'/', hmem, by decide⟩
    rw [digitsExactly?, hall]
    simp
  rw [withOffset?, monthFirstText, hslash]
  rfl

theorem trim_lastDigits {a b : Nat} (ha : 0 < a) (hb : 0 < b) (m n : Nat) (middle : List Char) :
    Text.trim (lastDigits a m ++ (middle ++ lastDigits b n)) = lastDigits a m ++ (middle ++ lastDigits b n) := by
  refine Text.trim_of_ends (fun c hc => ?_) fun c hc => ?_
  · obtain ⟨d, hd, hdigit⟩ := head?_lastDigits (n := m) ha (middle ++ lastDigits b n)
    cases hd.symm.trans hc
    exact Text.isBlank_of_isDigit hdigit
  · rw [← List.append_assoc, List.getLast?_append_of_ne_nil _ (lastDigits_ne_nil hb n)] at hc
    exact Text.isBlank_of_isDigit (Text.charIsDigit_of_mem_lastDigits (List.mem_of_getLast? hc))

theorem trim_isoDateText (n : Nat) : Text.trim (isoDateText t.date ('T' :: clockText t ('.' :: lastDigits 7 n))) =
    isoDateText t.date ('T' :: clockText t ('.' :: lastDigits 7 n)) := by
  have hends := trim_lastDigits (a := 4) (b := 7) (by decide) (by decide) t.date.year.natAbs n
    ('-' :: (lastDigits 2 t.date.month ++ '-' :: (lastDigits 2 t.date.day ++ 'T' :: (lastDigits 2 t.hour ++ ':' ::
      (lastDigits 2 t.minute ++ ':' :: (lastDigits 2 t.second ++ ['.']))))))
  simpa [isoDateText, clockText] using hends

theorem trim_monthFirstText : Text.trim (monthFirstText t.date (' ' :: clockText t [])) =
    monthFirstText t.date (' ' :: clockText t []) := by
  have hends := trim_lastDigits (a := 2) (b := 2) (by decide) (by decide) t.date.month t.second
    ('/' :: (lastDigits 2 t.date.day ++ '/' :: (lastDigits 4 t.date.year.natAbs ++ ' ' :: (lastDigits 2 t.hour ++
      ':' :: (lastDigits 2 t.minute ++ [':'])))))
  simpa [monthFirstText, clockText] using hends

theorem Plain.readLayout?_isoInstant (h : t.Plain) :
    readLayout? {} (isoDate ++ [.mark 'T'] ++ wholeSecond ++ [.fraction])
      (isoDateText t.date ('T' :: clockText t ('.' :: lastDigits 7 (t.nanosecond / 100)))) = some (t.cutTo 100) := by
  have hn := h.ticks_lt
  have hmark (p : Parts) (items : List LayoutItem) (rest : List Char) :
      readLayout? p (.mark 'T' :: items) ('T' :: rest) = readLayout? p items rest := by
    simp [readLayout?, LayoutItem.read?, expect?_cons]
  have hfraction (p : Parts) : readLayout? p [.fraction] ('.' :: lastDigits 7 (t.nanosecond / 100)) =
      { p with nanosecond := t.nanosecond / 100 * 100 }.instant? := by
    simp only [readLayout?, LayoutItem.read?, fraction?_lastDigits hn]
    rfl
  rw [List.append_assoc, List.append_assoc, h.readLayout?_isoDate, List.singleton_append, hmark,
    readLayout?_wholeSecond, hfraction]
  exact (t.cutTo 100).instant?_parts

theorem Plain.readLayout?_monthFirstInstant (h : t.Plain) :
    readLayout? {} (monthFirstDate ++ [.space] ++ wholeSecond) (monthFirstText t.date (' ' :: clockText t [])) =
      some (t.cutTo 1000000000) := by
  have hcut : t.nanosecond / 1000000000 * 1000000000 = 0 := by
    rw [Nat.div_eq_of_lt h.nanosecond_lt, Nat.zero_mul]
  have hspace (p : Parts) (items : List LayoutItem) :
      readLayout? p (.space :: items) (' ' :: clockText t []) = readLayout? p items (clockText t []) := by
    have hskip : skipBlanks (' ' :: clockText t []) = clockText t [] := skipBlanks_lastDigits (by decide) _
    simp [readLayout?, LayoutItem.read?, hskip]
  have hend (p : Parts) : readLayout? p [] [] = p.instant? := rfl
  have hlayout : monthFirstDate ++ [.space] ++ wholeSecond = monthFirstDate ++ (.space :: (wholeSecond ++ [])) := by
    simp
  have hinstant := (t.cutTo 1000000000).instant?_parts
  simp only [cutTo, hcut] at hinstant ⊢
  rw [hlayout, h.readLayout?_monthFirstDate, hspace, readLayout?_wholeSecond, hend]
  exact hinstant

/-- The round-trip text keeps an instant to a tenth of a microsecond. -/
theorem Plain.parse?_roundTripText (h : t.Plain) : parse? t.roundTripText = some (t.cutTo 100) := by
  rw [h.roundTripText_eq, parse?, String.toList_ofList, trim_isoDateText, h.withOffset?_isoDate h.ticks_lt, layouts,
    List.findSome?_cons, h.readLayout?_isoInstant]
  rfl

/-- The default text keeps an instant to a second. The layouts with the year first are tried before. -/
theorem Plain.parse?_defaultText (h : t.Plain) : parse? t.defaultText = some (t.cutTo 1000000000) := by
  have hread := h.readLayout?_monthFirstInstant
  simp only [List.append_assoc] at hread
  rw [h.defaultText_eq, parse?, String.toList_ofList, trim_monthFirstText, withOffset?_monthFirst, layouts]
  simp only [List.append_assoc, List.findSome?_cons, readLayout?_isoDate_monthFirst, hread]
  rfl

end

end RecordNaming.Instant
