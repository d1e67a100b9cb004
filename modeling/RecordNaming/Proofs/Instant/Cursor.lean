/-
  RecordNaming.Proofs.Instant.Cursor — instants formatted with a cursor into the pattern have the text that they have
  without, unless the cursor meets a year that is too wide.

  (1) The names of a day and of a month are always there, and what is cut from a name, from the fraction of the
  second and from the meridiem is inside of it, so a field can be shown if it is no year that is too wide
  (`appendFieldAt_eq`, `appendFieldAt_of_wide`).

  (2) A run is as long as its letter goes on (`runFrom_eq`). One step at the cursor reads one element of the pattern,
  appends what it shows and leaves the cursor behind it, or it stops at a year that is too wide (`step_field`,
  `step_quote`, `step_escape`, `step_percent`, `step_other`, put together in `step_reads`).

  (3) So the loop reads the tokens of what is left of the pattern, unless that is too wide (`renderFrom_eq`). A pattern
  of one character is not, and neither is the default one (`not_tooWide_standardPattern`, `defaultTextAt_eq`).

  `formats_stop_at_wide_years_only` says it of numbers and instants, and `year_of_many_letters_stops` is the pattern at
  which the program ends.
-/
import RecordNaming.Instant.Cursor
import RecordNaming.Proofs.Access
import RecordNaming.Proofs.Instant.Texts
import RecordNaming.Proofs.Instant.Width
import RecordNaming.Proofs.Numeral.Cursor

namespace RecordNaming.Instant

open Access

/-! ## (1) Fields -/

/-- Every name has three letters at least, each of one byte. -/
theorem bytesUpTo_name {name : String} (h : name ∈ dayNames ++ monthNames) :
    bytesUpTo name.toList 3 = .ok (name.toList.take 3) := by
  have hall : ∀ n ∈ dayNames ++ monthNames,
      3 ≤ n.toList.length ∧ n.toList.all (fun c => c.utf8Size == 1) = true := by decide
  obtain ⟨hlength, hbytes⟩ := hall name h
  exact bytesUpTo_eq (fun c hc => eq_of_beq (List.all_eq_true.mp hbytes c hc)) hlength

theorem numberOrNameAt_eq (n run : Nat) {name : String} (h : name ∈ dayNames ++ monthNames) :
    numberOrNameAt n (.ok name.toList) run = .ok (numberOrName n name run) := by
  match run with
  | 0 => rfl
  | 1 => rfl
  | 2 => rfl
  | 3 => exact bytesUpTo_name h
  | _ + 4 => rfl

theorem dayText_eq (t : Instant) (run : Nat) : numberOrNameAt t.date.day t.dayName run =
    .ok (numberOrName t.date.day (dayNames.getD t.date.weekday "") run) := by
  have hday : t.date.weekday < dayNames.length := by
    have hlength : dayNames.length = 7 := rfl
    rw [Date.weekday, hlength]
    omega
  obtain ⟨hname, hmem⟩ := item_getD hday ""
  rw [dayName, hname]
  exact numberOrNameAt_eq _ run (List.mem_append_left _ hmem)

theorem monthText_eq (t : Instant) (run : Nat) : numberOrNameAt t.date.month t.monthName run =
    .ok (numberOrName t.date.month (monthNames.getD (t.date.month - 1) "") run) := by
  have hbounds := t.date.month_bounds
  have hindex : (t.date.month + 11) % 12 = t.date.month - 1 := by omega
  have hmonth : t.date.month - 1 < monthNames.length := by
    have hlength : monthNames.length = 12 := rfl
    omega
  obtain ⟨hname, hmem⟩ := item_getD hmonth ""
  rw [monthName, hindex, hname]
  exact numberOrNameAt_eq _ run (List.mem_append_right _ hmem)

theorem yearAt_add_three (year : Int) (n : Nat) :
    yearAt year (n + 3) = (do pure (Text.intPadded (← width (n + 3)) year)) := rfl

theorem yearAt_eq (t : Instant) (offset : Int) {run : Nat} (h : run ≤ widest) :
    yearAt t.date.year run = .ok (fieldText t offset .year run) := by
  match run with
  | 0 => rfl
  | 1 => rfl
  | 2 => rfl
  | n + 3 =>
    rw [yearAt_add_three, width_eq h]
    rfl

theorem fractionAt_eq (t : Instant) {run : Nat} (h : run ≤ 7) : t.fractionAt run = .ok (fractionDigits t run) := by
  have hlt : t.nanosecond % 1000000000 < tenPow 9 := Nat.mod_lt _ (by decide)
  rw [fractionAt, fractionDigits, Text.padded_eq_lastDigits (by decide) hlt]
  refine bytesUpTo_eq (fun c hc => utf8Size_of_isDigit (Text.charIsDigit_of_mem_lastDigits hc)) ?_
  rw [Text.length_lastDigits]
  omega

/-- The meridiem has two letters of one byte each, and a run of one letter shows the first. -/
theorem meridiemAt_eq {meridiem : List Char} (h : meridiem = ['A', 'M'] ∨ meridiem = ['P', 'M']) {run : Nat}
    (hrun : 0 < run) : meridiemAt meridiem run = .ok (meridiem.take run) := by
  rw [meridiemAt]
  by_cases hone : run = 1
  · rw [if_pos hone, hone]
    rcases h with rfl | rfl <;> rfl
  · have hlength : meridiem.length = 2 := by rcases h with rfl | rfl <;> rfl
    rw [if_neg hone, List.take_of_length_le (by omega)]
    rfl

theorem append_shortFraction (t : Instant) (offset : Int) (run : Nat) (out : List Char) :
    append t offset out (.field .shortFraction run) = pushTrimmed out (fieldText t offset .shortFraction run) := by
  rw [append, pushTrimmed]
  cases fieldText t offset .shortFraction run <;> simp

theorem closeRun_fraction {f : Field} (h : f = .fraction ∨ f = .shortFraction) (run : Nat) :
    closeRun f run = if 7 < run then .error (tooLong f run) else .ok (.field f run) := by
  rcases h with rfl | rfl <;> rfl

theorem appendFieldAt_eq (t : Instant) (offset : Int) {f : Field} {run : Nat} (hrun : 0 < run)
    (hwide : f = .year → run ≤ widest) (out : List Char) :
    appendFieldAt t offset f run out = lift ((closeRun f run).map (append t offset out)) := by
  cases f with
  | day =>
    rw [appendFieldAt, dayText_eq]
    rfl
  | month =>
    rw [appendFieldAt, monthText_eq]
    rfl
  | year =>
    rw [appendFieldAt, yearAt_eq t offset (hwide rfl)]
    rfl
  | fraction =>
    rw [appendFieldAt, closeRun_fraction (.inl rfl)]
    split
    · rfl
    · rw [fractionAt_eq t (by omega)]
      rfl
  | shortFraction =>
    rw [appendFieldAt, closeRun_fraction (.inr rfl)]
    split
    · rfl
    · rw [fractionAt_eq t (by omega), Except.map, append_shortFraction]
      rfl
  | meridiem =>
    rw [appendFieldAt, meridiemAt_eq (ite_eq_or_eq _ _ _) hrun]
    rfl
  | _ => rfl

theorem appendFieldAt_of_wide (t : Instant) (offset : Int) {run : Nat} (h : widest < run) (out : List Char) :
    appendFieldAt t offset .year run out = .error .tooWide := by
  have hthree : 3 ≤ run := Nat.le_trans (by decide) h
  obtain ⟨n, rfl⟩ := Nat.exists_eq_add_of_le' hthree
  rw [appendFieldAt, yearAt_add_three, width_of_lt h]
  rfl

/-! ## (2) Steps -/

/-- What a step makes of the pattern from the cursor on: it reads tokens at the front and goes on behind them, it fails
as the pattern does, or it stops at a year that is too wide. -/
inductive Reads (t : Instant) (offset : Int) (chars : List Char) (index : Nat) (out : List Char) :
    Except Stop (List Char × Nat) → Prop
  | tokens (tokens : List Token) {next : Nat} : index < next →
      tokenize .nothing (chars.drop index) = (tokenize .nothing (chars.drop next)).map (tokens ++ ·) →
      (TooWide .nothing (chars.drop index) ↔ TooWide .nothing (chars.drop next)) →
      Reads t offset chars index out (.ok (tokens.foldl (append t offset) out, next))
  | failure {e : FormatError} : tokenize .nothing (chars.drop index) = .error e →
      ¬ TooWide .nothing (chars.drop index) → Reads t offset chars index out (.error (.failure e))
  | tooWide : TooWide .nothing (chars.drop index) → Reads t offset chars index out (.error .tooWide)

section

variable {t : Instant} {offset : Int} {chars : Array Char} {rest out : List Char} {c : Char} {index : Nat}

theorem drop_add_of_drop {chars : List Char} (h : chars.drop index = c :: rest) (n : Nat) :
    chars.drop (index + (n + 1)) = rest.drop n := by
  rw [← List.drop_drop, h, List.drop_succ_cons]

theorem getElem?_of_drop (h : chars.toList.drop index = c :: rest) : chars[index + 1]? = rest.head? := by
  rw [← Array.getElem?_toList, ← List.head?_drop, drop_add_of_drop h 0, List.drop_zero]

theorem runFrom_eq (chars : Array Char) (c : Char) (index run : Nat) : runFrom chars c index run =
    .ok (run + ((chars.toList.drop (index + run)).takeWhile (· = c)).length) := by
  have hsize : chars.toList.length = chars.size := Array.length_toList
  induction hn : chars.size - (index + run) generalizing run with
  | zero =>
    have hend : chars.toList.drop (index + run) = [] := List.drop_eq_nil_of_le (by omega)
    rw [runFrom, if_neg (by omega), hend]
    rfl
  | succ n ih =>
    have hlt : index + run < chars.toList.length := by omega
    rw [runFrom, if_pos (by omega), cell_eq, item_eq hlt, List.drop_eq_getElem_cons hlt]
    dsimp only
    by_cases hc : chars.toList[index + run] = c
    · rw [if_pos hc, ih (run + 1) (by omega), List.takeWhile_cons_of_pos (by simpa using hc), List.length_cons]
      exact congrArg Except.ok (by rw [Nat.add_assoc, Nat.add_assoc, Nat.add_comm 1])
    · rw [if_neg hc, List.takeWhile_cons_of_neg (by simpa using hc)]
      rfl

theorem drop_length_takeWhile (p : Char → Bool) (cs : List Char) :
    cs.drop (cs.takeWhile p).length = cs.dropWhile p := by
  have hdrop := @List.drop_left Char (cs.takeWhile p) (cs.dropWhile p)
  rwa [List.takeWhile_append_dropWhile] at hdrop

/-- A step looks at the character at the cursor, at how far it runs and at the one behind it. -/
theorem step_eq (h : chars.toList.drop index = c :: rest) : step t offset chars index out =
    element t offset chars index out c (1 + (rest.takeWhile (· = c)).length) rest.head? := by
  rw [step, cell_eq, item_of_drop h, ok_bind, runFrom_eq, drop_add_of_drop h 0, List.drop_zero, ok_bind,
    getElem?_of_drop h]

/-- A run that can be shown is closed, or it is too long. -/
theorem step_run {f : Field} (h : chars.toList.drop index = f.letter :: rest)
    (hwide : f = .year → 1 + (rest.takeWhile (· = f.letter)).length ≤ widest)
    (hbehind : TooWide .nothing (chars.toList.drop index) ↔
      (∃ token, closeRun f (1 + (rest.takeWhile (· = f.letter)).length) = .ok token) ∧
        TooWide .nothing (rest.dropWhile (· = f.letter))) :
    Reads t offset chars.toList index out (step t offset chars index out) := by
  have htokens : tokenize .nothing (chars.toList.drop index) =
      (closeRun f (1 + (rest.takeWhile (· = f.letter)).length)).bind fun token =>
        (tokenize .nothing (rest.dropWhile (· = f.letter))).map (token :: ·) := by
    rw [h, tokenize_opened rest (ofChar_letter f), tokenize_run]
  rw [step_eq h]
  unfold element
  rw [ofLetter?_eq_some_iff.mpr rfl]
  dsimp only
  rw [appendFieldAt_eq t offset (by omega) hwide]
  cases hclose : closeRun f (1 + (rest.takeWhile (· = f.letter)).length) with
  | error e =>
    rw [hclose] at htokens hbehind
    refine .failure htokens fun hw => ?_
    obtain ⟨⟨token, htoken⟩, -⟩ := hbehind.mp hw
    cases htoken
  | ok token =>
    have hnext : chars.toList.drop (index + (1 + (rest.takeWhile (· = f.letter)).length)) =
        rest.dropWhile (· = f.letter) := by
      rw [Nat.add_comm 1, drop_add_of_drop h, drop_length_takeWhile]
    rw [hclose, ← hnext] at htokens hbehind
    exact .tokens [token] (by omega) htokens (hbehind.trans (and_iff_right ⟨token, rfl⟩))

theorem step_field {f : Field} (h : chars.toList.drop index = f.letter :: rest) :
    Reads t offset chars.toList index out (step t offset chars index out) := by
  by_cases hf : f = .year
  · subst hf
    have hyears := tooWide_dropYears (Field.year.letter :: rest)
    rw [List.takeWhile_cons_of_pos (by simp), List.dropWhile_cons_of_pos (by simp), List.length_cons, Nat.add_comm,
      ← h] at hyears
    by_cases hwide : widest < 1 + (rest.takeWhile (· = Field.year.letter)).length
    · rw [step_eq h]
      unfold element
      rw [ofLetter?_eq_some_iff.mpr rfl]
      dsimp only
      rw [appendFieldAt_of_wide t offset hwide]
      exact .tooWide (hyears.mpr (.inl hwide))
    · refine step_run h (fun _ => Nat.le_of_not_lt hwide) (hyears.trans ?_)
      exact (or_iff_right hwide).trans (and_iff_right ⟨_, rfl⟩).symm
  · refine step_run h (fun hy => absurd hy hf) ?_
    rw [h, tooWide_opened rest (letter_ne_year hf) (ofChar_letter f), tooWide_run rest hf]

/-- A literal goes to the next quote of its kind, and the cursor behind it. -/
theorem step_quote (hq : Numeral.isQuote c = true) (h : chars.toList.drop index = c :: rest) :
    Reads t offset chars.toList index out (step t offset chars index out) := by
  have hletter : Field.ofLetter? c = none := by
    simp only [Numeral.isQuote, Bool.or_eq_true, beq_iff_eq] at hq
    rcases hq with rfl | rfl <;> rfl
  have hlength : chars.toList.length - index = rest.length + 1 := by rw [← List.length_drop, h, List.length_cons]
  have hrest : chars.toList.drop (index + 1) = rest := by rw [drop_add_of_drop h 0, List.drop_zero]
  have hnot : ∀ x : Char, decide (x ≠ c) = !(x == c) := fun x => by rw [beq_eq_decide, decide_not]
  have htokens := tokenize_opened rest (ofChar_quote hq)
  rw [tokenize_literal, ← h] at htokens
  have hwide := tooWide_opened rest (ne_year_of_none hletter) (ofChar_quote hq)
  rw [tooWide_literal, ← h] at hwide
  rw [step_eq h]
  unfold element
  rw [hletter, hq, dropFrom_eq (by omega), hrest]
  dsimp only [bind, Except.bind]
  rw [if_pos rfl]
  rcases findIdx?_cases hnot rest with ⟨hfind, -, hbehind⟩ | ⟨close, hlt, hfind, htext, hbehind⟩
  · rw [hfind]
    rw [hbehind] at htokens hwide
    exact .failure htokens hwide.mp
  · have hnext : chars.toList.drop (index + close + 2) = rest.drop (close + 1) := by
      rw [Nat.add_assoc]
      exact drop_add_of_drop h (close + 1)
    rw [hfind]
    dsimp only
    rw [slice_eq (by omega), hrest]
    rw [htext, hbehind, List.drop_eq_getElem_cons hlt, ← hnext] at htokens
    rw [hbehind, List.drop_eq_getElem_cons hlt, ← hnext] at hwide
    exact .tokens [.literal (rest.take close)] (by omega) htokens hwide

theorem step_escape (h : chars.toList.drop index = '\\' :: rest) :
    Reads t offset chars.toList index out (step t offset chars index out) := by
  have hopen : Open.ofChar '\\' = (.escape, []) := rfl
  have htokens := tokenize_opened rest hopen
  have hwide := tooWide_opened rest (by decide) hopen
  rw [← h] at htokens hwide
  rw [step_eq h]
  unfold element
  cases rest with
  | nil => exact .failure htokens fun hw => not_tooWide_nil (hwide.mp hw)
  | cons escaped rest =>
    have hnext : chars.toList.drop (index + 2) = rest := by rw [drop_add_of_drop h 1, List.drop_one, List.tail_cons]
    rw [tooWide_escape, ← hnext] at hwide
    refine .tokens [.literal [escaped]] (by omega) ?_ hwide
    rw [htokens, tokenize, hnext]
    rfl

theorem step_percent (h : chars.toList.drop index = '%' :: rest) :
    Reads t offset chars.toList index out (step t offset chars index out) := by
  have hopen : Open.ofChar '%' = (.percent, []) := rfl
  have htokens := tokenize_opened rest hopen
  have hwide := tooWide_opened rest (by decide) hopen
  rw [← h, tokenize_percent] at htokens
  rw [← h, tooWide_percent] at hwide
  have hletter : Field.ofLetter? '%' = none := rfl
  have hquote : Numeral.isQuote '%' = false := rfl
  rw [step_eq h]
  unfold element
  rw [hletter, hquote]
  dsimp only
  rw [if_neg Bool.false_ne_true, if_neg (by decide), if_pos rfl]
  by_cases hnext : rest.head? = some '%'
  · rw [if_pos hnext] at htokens ⊢
    exact .failure htokens fun hw => (hwide.mp hw).1 hnext
  · have hrest : chars.toList.drop (index + 1) = rest := by rw [drop_add_of_drop h 0, List.drop_zero]
    rw [if_neg hnext] at htokens ⊢
    rw [and_iff_right hnext, ← hrest] at hwide
    refine .tokens [] (Nat.lt_succ_self index) ?_ hwide
    rw [htokens, hrest]
    cases tokenize .nothing rest <;> rfl

theorem step_other (hl : Field.ofLetter? c = none) (hq : Numeral.isQuote c = false) (he : c ≠ '\\') (hp : c ≠ '%')
    (h : chars.toList.drop index = c :: rest) :
    Reads t offset chars.toList index out (step t offset chars index out) := by
  have hopen := ofChar_other hl hq he hp
  have hrest : chars.toList.drop (index + 1) = rest := by rw [drop_add_of_drop h 0, List.drop_zero]
  have hwide := tooWide_opened rest (ne_year_of_none hl) hopen
  rw [← h, ← hrest] at hwide
  rw [step_eq h]
  unfold element
  rw [hl, hq]
  dsimp only
  rw [if_neg Bool.false_ne_true, if_neg he, if_neg hp]
  refine .tokens [.literal [c]] (Nat.lt_succ_self index) ?_ hwide
  rw [h, tokenize, hopen, hrest]

/-- Each step reads an element of the pattern, if it is not too wide. -/
theorem step_reads (h : index < chars.size) :
    Reads t offset chars.toList index out (step t offset chars index out) := by
  have hdrop := List.drop_eq_getElem_cons (l := chars.toList) h
  cases hl : Field.ofLetter? chars.toList[index] with
  | some f =>
    rw [ofLetter?_eq_some_iff.mp hl] at hdrop
    exact step_field hdrop
  | none =>
    by_cases hq : Numeral.isQuote chars.toList[index] = true
    · exact step_quote hq hdrop
    · by_cases he : chars.toList[index] = '\\'
      · rw [he] at hdrop
        exact step_escape hdrop
      · by_cases hp : chars.toList[index] = '%'
        · rw [hp] at hdrop
          exact step_percent hdrop
        · exact step_other hl (by simpa using hq) he hp hdrop

end

/-! ## (3) The loop -/

theorem renderFrom_eq (t : Instant) (offset : Int) (chars : Array Char) (index : Nat) (out : List Char) :
    (¬ TooWide .nothing (chars.toList.drop index) → renderFrom t offset chars index out =
        lift ((tokenize .nothing (chars.toList.drop index)).map fun tokens => tokens.foldl (append t offset) out)) ∧
      (TooWide .nothing (chars.toList.drop index) → renderFrom t offset chars index out = .error .tooWide) := by
  induction hn : chars.size - index using Nat.strong_induction_on generalizing index out with
  | _ n ih =>
    rw [renderFrom]
    by_cases h : index < chars.size
    · have hreads := @step_reads t offset chars out index h
      rw [dif_pos h]
      split
      · next stop hstep =>
        rw [hstep] at hreads
        cases hreads with
        | failure htokens hwide =>
          rw [htokens]
          exact ⟨fun _ => rfl, fun hw => absurd hw hwide⟩
        | tooWide hwide => exact ⟨fun hw => absurd hwide hw, fun _ => rfl⟩
      · next behind next hstep =>
        rw [hstep] at hreads
        cases hreads with
        | tokens tokens hlt htokens hwide =>
          rw [htokens, hwide]
          obtain ⟨hok, hstop⟩ := ih (chars.size - next) (by omega) next (tokens.foldl (append t offset) out) rfl
          refine ⟨fun hw => ?_, hstop⟩
          rw [hok hw]
          cases tokenize .nothing (chars.toList.drop next) with
          | error e => rfl
          | ok rest => simp [Except.map]
    · have hsize : chars.toList.length = chars.size := Array.length_toList
      rw [dif_neg h, List.drop_eq_nil_of_le (by omega)]
      exact ⟨fun _ => rfl, fun hw => absurd hw not_tooWide_nil⟩

/-- A standard pattern is shorter than a width can be. -/
theorem not_tooWide_standardPattern {c : Char} {expanded : String} (h : standardPattern? c = some expanded) :
    ¬ TooWide .nothing expanded.toList := by
  have hlength : expanded.toList.length ≤ widest := by
    unfold standardPattern? at h
    split at h
    all_goals cases h
    all_goals decide
  exact fun hw => Nat.not_lt_of_le hlength hw.lt_length

theorem renderAt_eq (t : Instant) (pattern : List Char) (offset : Int) :
    (¬ TooWide .nothing pattern → renderAt t pattern offset = lift (render t pattern offset)) ∧
      (TooWide .nothing pattern → renderAt t pattern offset = .error .tooWide) := by
  have hloop (cs : List Char) :
      (¬ TooWide .nothing cs →
          renderFrom t offset cs.toArray 0 [] = lift ((tokenize .nothing cs).map (layOut t offset))) ∧
        (TooWide .nothing cs → renderFrom t offset cs.toArray 0 [] = .error .tooWide) :=
    renderFrom_eq t offset cs.toArray 0 []
  match pattern with
  | [] => exact hloop []
  | [c] =>
    have hone : ¬ TooWide .nothing [c] := fun hw => Nat.not_lt_of_le (show 1 ≤ widest by decide) hw.lt_length
    refine ⟨fun _ => ?_, fun hw => absurd hw hone⟩
    rw [renderAt, render, patternTokens]
    cases hs : standardPattern? c with
    | none => rfl
    | some expanded => exact (hloop expanded.toList).1 (not_tooWide_standardPattern hs)
  | c :: next :: rest => exact hloop (c :: next :: rest)

/-- The default pattern can be read, and it is not too wide. -/
theorem defaultTextAt_eq (t : Instant) : defaultTextAt t = .ok t.defaultText := by
  obtain ⟨tokens, htokens⟩ : ∃ tokens, patternTokens defaultPattern.toList = .ok tokens := ⟨_, rfl⟩
  have hwide : ¬ TooWide .nothing defaultPattern.toList := not_tooWide_standardPattern (c := 'G') rfl
  rw [defaultTextAt, (renderAt_eq t _ 0).1 hwide, defaultText, textBy, render, htokens]
  rfl

/-- All offsets of 32 bits are spans. -/
theorem span_eq (hours : Int32) : span hours.toInt = .ok hours.toInt := by
  have hlow := hours.le_toInt
  have hhigh := hours.toInt_lt
  exact if_pos (by omega)

theorem shownAt_eq (t : Instant) (format : Option String) (hours : Int) :
    (¬ IsTooWide format → shownAt t format hours =
        .ok (match Text.nonBlank? format with
          | none => t.defaultText
          | some f =>
            match render t f.toList hours with
            | .ok text => String.ofList text
            | .error _ => t.defaultText)) ∧
      (IsTooWide format → shownAt t format hours = .error .tooWide) := by
  rw [shownAt, defaultTextAt_eq, IsTooWide]
  cases Text.nonBlank? format with
  | none => exact ⟨fun _ => rfl, by rintro ⟨_, ⟨⟩, -⟩⟩
  | some f =>
    dsimp only
    rw [ok_bind]
    obtain ⟨hok, hstop⟩ := renderAt_eq t f.toList hours
    constructor
    · intro h
      rw [hok fun hw => h ⟨f, rfl, hw⟩, ← lift_map, orDefault_lift]
      cases render t f.toList hours <;> rfl
    · rintro ⟨_, ⟨⟩, hw⟩
      rw [hstop hw]
      rfl

theorem formatAt_eq (t : Instant) (format : Option String) (offset : Option Int32) :
    (¬ t.MeetsWideYear format offset → t.formatAt format offset = .ok (t.format format offset)) ∧
      (t.MeetsWideYear format offset → t.formatAt format offset = .error .tooWide) := by
  cases offset with
  | none =>
    obtain ⟨hok, hstop⟩ := shownAt_eq t format 0
    exact ⟨fun h => hok fun hw => h ⟨rfl, hw⟩, fun h => hstop h.2⟩
  | some hours =>
    have hhours : ((some hours).map Int32.toInt).getD 0 = hours.toInt := rfl
    rw [MeetsWideYear, formatAt, Instant.format, span_eq, ok_bind, hhours]
    cases t.shift? hours.toInt with
    | none => exact ⟨fun _ => defaultTextAt_eq t, fun h => absurd h.1 Bool.false_ne_true⟩
    | some shifted =>
      obtain ⟨hok, hstop⟩ := shownAt_eq shifted format hours.toInt
      exact ⟨fun h => hok fun hw => h ⟨rfl, hw⟩, fun h => hstop h.2⟩

end RecordNaming.Instant

namespace RecordNaming

/-- Formats show a text, or the program ends at a year that is too wide. With every operation that takes an element or
a part by an index, cuts a text by bytes, subtracts counts or pads to a width defined only where it has a result, none
of those that formatting performs is outside of that, for any number, instant, format and offset, but for one: the
letters of a year are padded to their number, and that may be more than a width is counted to. -/
theorem formats_stop_at_wide_years_only (d : Decimal) (t : Instant) (format : Option String) (offset : Option Int32) :
    Numeral.formatAt d format = .ok (Numeral.format d format) ∧
      (¬ t.MeetsWideYear format offset → t.formatAt format offset = .ok (t.format format offset)) ∧
      (t.MeetsWideYear format offset → t.formatAt format offset = .error .tooWide) :=
  ⟨Numeral.formatAt_eq d format, Instant.formatAt_eq t format offset⟩

/-- An instant in March 2024, as a year of 65536 letters. -/
theorem year_of_many_letters_stops :
    let t : Instant := ⟨⟨2024, 3, 5, by decide⟩, 14, 7, 9, 0, by decide⟩
    let format := String.ofList (List.replicate 65536 'y')
    t.formatAt (some format) none = .error .tooWide ∧
      ¬ ∀ (t : Instant) (format : Option String) (offset : Option Int32), ∃ text, t.formatAt format offset = .ok text := by
  intro t format
  have hletters : format.toList = List.replicate 65536 'y' := String.toList_ofList
  have hblank : Text.allBlank format = false := by
    rw [Text.allBlank, hletters, List.all_replicate, if_neg (by decide)]
    rfl
  have hused : Text.nonBlank? (some format) = some format := by
    rw [Text.nonBlank?, Option.filter, hblank]
    rfl
  have hwide : Instant.TooWide .nothing format.toList := by
    rw [hletters]
    exact ⟨[], ⟨[], rfl⟩, List.prefix_rfl⟩
  have hstop : t.formatAt (some format) none = .error .tooWide :=
    (Instant.formatAt_eq t (some format) none).2 ⟨rfl, format, hused, hwide⟩
  refine ⟨hstop, fun h => ?_⟩
  obtain ⟨text, htext⟩ := h t (some format) none
  rw [hstop] at htext
  cases htext

end RecordNaming
