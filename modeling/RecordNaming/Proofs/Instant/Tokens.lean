/-
  RecordNaming.Proofs.Instant.Tokens — how a date pattern falls into tokens, a token at a time.

  (1) A character is a letter of one field (`ofLetter?_eq_some_iff`), or it opens a literal, an escape or a percent
  sign, or it stands for itself (`ofChar_letter`, `ofChar_quote`, `ofChar_other`).

  (2) What a character opens (`tokenize_opened`) is closed in one step: a run by the first other character
  (`tokenize_run`), a literal by its quote (`tokenize_literal`), a percent sign at once (`tokenize_percent`). Behind it
  the pattern is read from the start.
-/
import RecordNaming.Instant.Pattern
import RecordNaming.Numeral.Token

namespace RecordNaming.Instant

/-! ## (1) Characters -/

section

variable {c : Char} {f : Field}

theorem ofLetter?_eq_some_iff : Field.ofLetter? c = some f ↔ c = f.letter := by
  constructor
  · intro h
    have hletter : (f.letter == c) = true := List.find?_some (p := fun f : Field => f.letter == c) h
    exact (beq_iff_eq.mp hletter).symm
  · rintro rfl
    cases f <;> rfl

theorem ofChar_letter (f : Field) : Open.ofChar f.letter = (.run f 1, []) := by
  rw [Open.ofChar, ofLetter?_eq_some_iff.mpr rfl]

/-- The quotes are those of number patterns. -/
theorem ofChar_quote (h : Numeral.isQuote c = true) : Open.ofChar c = (.literal c [], []) := by
  simp only [Numeral.isQuote, Bool.or_eq_true, beq_iff_eq] at h
  rcases h with rfl | rfl <;> rfl

theorem ofChar_other (hl : Field.ofLetter? c = none) (hq : Numeral.isQuote c = false) (he : c ≠ '\\') (hp : c ≠ '%') :
    Open.ofChar c = (.nothing, [.literal [c]]) := by
  rw [Open.ofChar, hl]
  simp only [Numeral.isQuote] at hq
  simp [hq, he, hp]

end

/-! ## (2) What is open is closed -/

section

variable (cs : List Char)

/-- A character that is no token yet opens what the next ones close. -/
theorem tokenize_opened {c : Char} {opened : Open} (h : Open.ofChar c = (opened, [])) :
    tokenize .nothing (c :: cs) = tokenize opened cs := by
  rw [tokenize, h]
  cases htokens : tokenize opened cs <;> simp [htokens, Except.map]

/-- A percent sign says nothing, unless another one follows. -/
theorem tokenize_percent : tokenize .percent cs =
    if cs.head? = some '%' then .error (.unsupportedSpecifier "%%") else tokenize .nothing cs := by
  cases cs with
  | nil => rfl
  | cons c rest =>
    by_cases h : c = '%'
    · simp [tokenize, h]
    · simp [tokenize, h]

theorem closeRun_eq_ok {f : Field} {run : Nat} {token : Token} (h : closeRun f run = .ok token) :
    token = .field f run := by
  unfold closeRun at h
  repeat' split at h
  all_goals cases h
  all_goals rfl

theorem closeRun_map (f : Field) (run : Nat) :
    (closeRun f run).map ([·]) = (closeRun f run).bind fun token => (tokenize .nothing []).map (token :: ·) := by
  cases closeRun f run <;> rfl

/-- A run goes on as long as its letter does. -/
theorem tokenize_run (f : Field) (run : Nat) : tokenize (.run f run) cs =
    (closeRun f (run + (cs.takeWhile (· = f.letter)).length)).bind fun token =>
      (tokenize .nothing (cs.dropWhile (· = f.letter))).map (token :: ·) := by
  induction cs generalizing run with
  | nil => exact closeRun_map f run
  | cons c rest ih =>
    by_cases h : c = f.letter
    · rw [tokenize, if_pos h, ih, List.takeWhile_cons_of_pos (by simpa using h),
        List.dropWhile_cons_of_pos (by simpa using h), List.length_cons, Nat.add_right_comm, Nat.add_assoc]
    · rw [tokenize, if_neg h, List.takeWhile_cons_of_neg (by simpa using h),
        List.dropWhile_cons_of_neg (by simpa using h)]
      cases closeRun f run with
      | error e => rfl
      | ok token =>
        simp only [Except.bind, tokenize]
        cases tokenize (Open.ofChar c).1 rest <;> rfl

/-- A literal ends at its quote. -/
theorem tokenize_literal (quote : Char) (text : List Char) : tokenize (.literal quote text) cs =
    match cs.dropWhile (· ≠ quote) with
    | [] => .error .unterminatedLiteral
    | _ :: rest => (tokenize .nothing rest).map (.literal (text.reverse ++ cs.takeWhile (· ≠ quote)) :: ·) := by
  induction cs generalizing text with
  | nil => rfl
  | cons c rest ih =>
    by_cases h : c = quote
    · rw [tokenize, if_pos h, List.takeWhile_cons_of_neg (by simpa using h),
        List.dropWhile_cons_of_neg (by simpa using h), List.append_nil]
    · rw [tokenize, if_neg h, ih, List.takeWhile_cons_of_pos (by simpa using h),
        List.dropWhile_cons_of_pos (by simpa using h), List.reverse_cons, List.append_assoc]
      rfl

end

/-- Only a character that stands alone is a standard pattern. -/
theorem patternTokens_of_length {pattern : List Char} (h : 2 ≤ pattern.length) :
    patternTokens pattern = tokenize .nothing pattern := by
  match pattern, h with
  | _ :: _ :: _, _ => rfl

end RecordNaming.Instant
