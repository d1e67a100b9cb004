/-
  RecordNaming.Proofs.Instant.Width — date patterns with a year that is too wide.

  A pattern is too wide if a front part of it can be read and more letters of a year stand behind that than a width is
  counted to (`TooWide`). What is read first of a pattern is read and left behind, or it stands in the way:

  (1) A character that opens or closes something is left behind with it (`tooWide_next`), and a run or a percent sign
  is left behind if it can be closed (`tooWide_gate`).

  (2) So a literal goes to its quote (`tooWide_literal`), an escape to the next character (`tooWide_escape`), and a
  run as long as its letter goes on (`tooWide_run`). The run of a year can always be closed: it is too wide itself, or
  something behind it is (`tooWide_dropYears`).
-/
import RecordNaming.Access
import RecordNaming.Proofs.Instant.Tokens
import RecordNaming.Proofs.Results

namespace RecordNaming.Instant

open Access

/-- What is open can be closed, and the pattern read to its end. -/
def Readable (opened : Open) (cs : List Char) : Prop := ∃ tokens, tokenize opened cs = .ok tokens

/-- More letters of a year than a width is counted to. -/
def tooManyYears : List Char := List.replicate (widest + 1) Field.year.letter

/-- A front part can be read, and too many letters of a year stand behind it. -/
def TooWide (opened : Open) (cs : List Char) : Prop :=
  ∃ front, Readable opened front ∧ front ++ tooManyYears <+: cs

/-- A format that is not blank and whose pattern is too wide. -/
def IsTooWide (format : Option String) : Prop := ∃ f, Text.nonBlank? format = some f ∧ TooWide .nothing f.toList

/-- The shift stays on the calendar, so that the format is used, and its pattern is too wide. -/
def MeetsWideYear (t : Instant) (format : Option String) (offset : Option Int32) : Prop :=
  (t.shift? ((offset.map Int32.toInt).getD 0)).isSome ∧ IsTooWide format

/-! ## (1) What is read first -/

section

variable {opened next : Open} {c : Char} {cs rest : List Char}

theorem TooWide.lt_length (h : TooWide opened cs) : widest < cs.length := by
  obtain ⟨front, -, hfront⟩ := h
  have hle := hfront.length_le
  rw [List.length_append, tooManyYears, List.length_replicate] at hle
  omega

theorem not_tooWide_nil : ¬ TooWide opened [] := fun h => Nat.not_lt_zero _ h.lt_length

theorem tooWide_cons : TooWide opened (c :: rest) ↔
    (Readable opened [] ∧ tooManyYears <+: c :: rest) ∨
      ∃ front, Readable opened (c :: front) ∧ front ++ tooManyYears <+: rest := by
  constructor
  · rintro ⟨front, hread, hfront⟩
    cases front with
    | nil => exact .inl ⟨hread, hfront⟩
    | cons first front =>
      rw [List.cons_append, List.cons_prefix_cons] at hfront
      obtain ⟨rfl, hfront⟩ := hfront
      exact .inr ⟨front, hread, hfront⟩
  · rintro (⟨hread, hfront⟩ | ⟨front, hread, hfront⟩)
    · exact ⟨[], hread, hfront⟩
    · exact ⟨c :: front, hread, by rwa [List.cons_append, List.cons_prefix_cons, and_iff_right rfl]⟩

theorem eq_letter_of_tooManyYears (h : tooManyYears <+: c :: rest) : c = Field.year.letter := by
  rw [tooManyYears, List.replicate_succ, List.cons_prefix_cons] at h
  exact h.1.symm

/-- A character that only changes what is open is left behind. -/
theorem tooWide_next (hempty : c = Field.year.letter → ¬ Readable opened [])
    (hnext : ∀ front, Readable opened (c :: front) ↔ Readable next front) :
    TooWide opened (c :: rest) ↔ TooWide next rest := by
  rw [tooWide_cons]
  constructor
  · rintro (⟨hread, hfront⟩ | ⟨front, hread, hfront⟩)
    · exact absurd hread (hempty (eq_letter_of_tooManyYears hfront))
    · exact ⟨front, (hnext front).mp hread, hfront⟩
  · rintro ⟨front, hread, hfront⟩
    exact .inr ⟨front, (hnext front).mpr hread, hfront⟩

/-- What can be closed on a condition only is left behind on this condition. -/
theorem tooWide_gate {closes : Prop} (hempty : c = Field.year.letter → (Readable opened [] ↔ closes))
    (hnext : ∀ front, Readable opened (c :: front) ↔ closes ∧ Readable .nothing (c :: front)) :
    TooWide opened (c :: rest) ↔ closes ∧ TooWide .nothing (c :: rest) := by
  rw [tooWide_cons, tooWide_cons]
  constructor
  · rintro (⟨hread, hfront⟩ | ⟨front, hread, hfront⟩)
    · exact ⟨(hempty (eq_letter_of_tooManyYears hfront)).mp hread, .inl ⟨⟨[], rfl⟩, hfront⟩⟩
    · exact ⟨((hnext front).mp hread).1, .inr ⟨front, ((hnext front).mp hread).2, hfront⟩⟩
  · rintro ⟨hcloses, ⟨-, hfront⟩ | ⟨front, hread, hfront⟩⟩
    · exact .inl ⟨(hempty (eq_letter_of_tooManyYears hfront)).mpr hcloses, hfront⟩
    · exact .inr ⟨front, (hnext front).mpr ⟨hcloses, hread⟩, hfront⟩

theorem readable_cons : Readable .nothing (c :: cs) ↔ Readable (Open.ofChar c).1 cs := by
  rw [Readable, tokenize]
  exact exists_map_eq_ok_iff

/-- A character that is no letter of a year is left behind with what it opens. -/
theorem tooWide_opened (behind : List Char) (hc : c ≠ Field.year.letter) {tokens : List Token}
    (h : Open.ofChar c = (opened, tokens)) : TooWide .nothing (c :: behind) ↔ TooWide opened behind :=
  tooWide_next (fun hy => absurd hy hc) fun front => by rw [readable_cons, h]

theorem ne_year_of_none (h : Field.ofLetter? c = none) : c ≠ Field.year.letter := by
  rintro rfl
  rw [ofLetter?_eq_some_iff.mpr rfl] at h
  cases h

end

/-! ## (2) What is open -/

section

variable {f : Field} (rest cs : List Char)

theorem tooWide_escape (c : Char) : TooWide .escape (c :: rest) ↔ TooWide .nothing rest := by
  refine tooWide_next (fun _ h => ?_) fun front => ?_
  · obtain ⟨tokens, h⟩ := h
    cases h
  · rw [Readable, tokenize]
    exact exists_map_eq_ok_iff

theorem tooWide_percent : TooWide .percent cs ↔ cs.head? ≠ some '%' ∧ TooWide .nothing cs := by
  cases cs with
  | nil => simp [not_tooWide_nil]
  | cons c rest =>
    refine tooWide_gate (fun hc => ?_) fun front => ?_
    · subst hc
      exact iff_of_true ⟨[], rfl⟩ fun h => absurd (Option.some.inj h) (by decide)
    · rw [Readable, tokenize_percent]
      by_cases h : (c :: front).head? = some '%'
      · rw [if_pos h]
        exact iff_of_false (by rintro ⟨_, ⟨⟩⟩) fun hn => hn.1 h
      · rw [if_neg h]
        exact (and_iff_right h).symm

theorem tooWide_literal (quote : Char) (text : List Char) : TooWide (.literal quote text) cs ↔
    match cs.dropWhile (· ≠ quote) with
    | [] => False
    | _ :: rest => TooWide .nothing rest := by
  have hempty (text : List Char) : ¬ Readable (.literal quote text) [] := by
    rintro ⟨_, ⟨⟩⟩
  induction cs generalizing text with
  | nil => exact iff_of_false not_tooWide_nil id
  | cons c rest ih =>
    by_cases h : c = quote
    · rw [List.dropWhile_cons_of_neg (by simpa using h)]
      refine tooWide_next (fun _ => hempty text) fun front => ?_
      rw [Readable, tokenize, if_pos h]
      exact exists_map_eq_ok_iff
    · rw [List.dropWhile_cons_of_pos (by simpa using h)]
      refine (tooWide_next (fun _ => hempty text) fun front => ?_).trans (ih (c :: text))
      rw [Readable, tokenize, if_neg h]
      rfl

theorem readable_run (run : Nat) : Readable (.run f run) cs ↔
    (∃ token, closeRun f (run + (cs.takeWhile (· = f.letter)).length) = .ok token) ∧
      Readable .nothing (cs.dropWhile (· = f.letter)) := by
  rw [Readable, tokenize_run]
  cases closeRun f (run + (cs.takeWhile (· = f.letter)).length) with
  | error e => exact iff_of_false (by rintro ⟨_, ⟨⟩⟩) (by rintro ⟨⟨_, ⟨⟩⟩, -⟩)
  | ok token => exact exists_map_eq_ok_iff.trans (and_iff_right ⟨token, rfl⟩).symm

theorem letter_ne_year (hf : f ≠ .year) : f.letter ≠ Field.year.letter := by
  cases f <;> first | decide | exact absurd rfl hf

/-- A run of another letter than the year's is left behind if it is not too long. -/
theorem tooWide_run (hf : f ≠ .year) (run : Nat) : TooWide (.run f run) cs ↔
    (∃ token, closeRun f (run + (cs.takeWhile (· = f.letter)).length) = .ok token) ∧
      TooWide .nothing (cs.dropWhile (· = f.letter)) := by
  induction cs generalizing run with
  | nil => exact iff_of_false not_tooWide_nil fun h => not_tooWide_nil h.2
  | cons c rest ih =>
    by_cases h : c = f.letter
    · rw [List.takeWhile_cons_of_pos (by simpa using h), List.dropWhile_cons_of_pos (by simpa using h),
        List.length_cons, ← Nat.add_assoc, Nat.add_right_comm]
      refine (tooWide_next (fun hy => absurd (h.symm.trans hy) (letter_ne_year hf)) fun front => ?_).trans
        (ih (run + 1))
      rw [Readable, tokenize, if_pos h]
      rfl
    · rw [List.takeWhile_cons_of_neg (by simpa using h), List.dropWhile_cons_of_neg (by simpa using h)]
      refine tooWide_gate (fun _ => readable_run [] run |>.trans (and_iff_left ⟨[], rfl⟩)) fun front => ?_
      rw [readable_run, List.takeWhile_cons_of_neg (by simpa using h), List.dropWhile_cons_of_neg (by simpa using h)]

/-- The letters of a year are always readable. -/
theorem readable_dropYears : Readable .nothing cs ↔ Readable .nothing (cs.dropWhile (· = Field.year.letter)) := by
  cases cs with
  | nil => rfl
  | cons c rest =>
    by_cases h : c = Field.year.letter
    · rw [List.dropWhile_cons_of_pos (by simpa using h), h, readable_cons, ofChar_letter, readable_run]
      exact and_iff_right ⟨_, rfl⟩
    · rw [List.dropWhile_cons_of_neg (by simpa using h)]

theorem tooManyYears_prefix_iff :
    tooManyYears <+: cs ↔ widest < (cs.takeWhile (· = Field.year.letter)).length := by
  have hrun (n : Nat) : List.replicate n Field.year.letter <+: cs ↔
      n ≤ (cs.takeWhile (· = Field.year.letter)).length := by
    induction n generalizing cs with
    | zero => exact iff_of_true List.nil_prefix (Nat.zero_le _)
    | succ n ih =>
      cases cs with
      | nil => simp
      | cons c rest =>
        rw [List.replicate_succ, List.cons_prefix_cons]
        by_cases h : c = Field.year.letter
        · rw [List.takeWhile_cons_of_pos (by simpa using h), List.length_cons, Nat.add_le_add_iff_right, ih,
            and_iff_right h.symm]
        · rw [List.takeWhile_cons_of_neg (by simpa using h)]
          exact iff_of_false (fun hp => h hp.1.symm) (Nat.not_succ_le_zero n)
  exact hrun (widest + 1)

/-- The letters of a year are too many, or they are left behind. -/
theorem tooWide_dropYears : TooWide .nothing cs ↔
    widest < (cs.takeWhile (· = Field.year.letter)).length ∨
      TooWide .nothing (cs.dropWhile (· = Field.year.letter)) := by
  induction cs with
  | nil => simp [not_tooWide_nil]
  | cons c rest ih =>
    by_cases h : c = Field.year.letter
    · have hread (front : List Char) : Readable .nothing (c :: front) ↔ Readable .nothing front := by
        rw [readable_dropYears, List.dropWhile_cons_of_pos (by simpa using h), ← readable_dropYears]
      have hbehind : (∃ front, Readable .nothing (c :: front) ∧ front ++ tooManyYears <+: rest) ↔
          TooWide .nothing rest := exists_congr fun front => and_congr_left' (hread front)
      rw [tooWide_cons, hbehind, ih, tooManyYears_prefix_iff, List.takeWhile_cons_of_pos (by simpa using h),
        List.dropWhile_cons_of_pos (by simpa using h), List.length_cons]
      have hnothing : Readable .nothing [] := ⟨[], rfl⟩
      constructor
      · rintro (⟨-, h⟩ | h | h)
        · exact .inl h
        · exact .inl (Nat.lt_succ_of_lt h)
        · exact .inr h
      · rintro (h | h)
        · exact .inl ⟨hnothing, h⟩
        · exact .inr (.inr h)
    · rw [List.takeWhile_cons_of_neg (by simpa using h), List.dropWhile_cons_of_neg (by simpa using h)]
      exact (or_iff_right (Nat.not_lt_zero _)).symm

end

end RecordNaming.Instant
