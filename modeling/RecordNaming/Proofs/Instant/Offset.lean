/-
  RecordNaming.Proofs.Instant.Offset — what an offset does to the text of an instant.

  (1) A token shows the offset only if it is an offset field (`layOut_congr`), and those come of a bare z alone: of one
  that stands neither in a literal nor behind a backslash (`offset_notMem_tokenize`). The standard patterns have none
  (`z_notMem_standardPattern`).

  (2) So two readers of a pattern without a bare z, one with an offset and one without, show the same
  (`render_congr`), and fail alike.

  `offset_only_shifts` says this of formats: the offset moves the instant before anything else sees it.
-/
import RecordNaming.Proofs.Instant.Tokens
import RecordNaming.Proofs.Numeral.Custom
import RecordNaming.Proofs.Results

namespace RecordNaming.Instant

open Numeral (bare)

/-! ## (1) Offset fields -/

/-- The bare characters of a pattern behind what is open. -/
def bareBehind : Open → List Char → List Char
  | .literal quote _, cs => bare (some quote) cs
  | .escape, cs => bare none (cs.drop 1)
  | _, cs => bare none cs

section

variable {c : Char} {rest : List Char}

/-- A character is bare unless it is a quote or a backslash. -/
theorem bare_cons_eq : bare none (c :: rest) =
    (if Numeral.isQuote c || c == '\\' then [] else [c]) ++ bareBehind (Open.ofChar c).1 rest := by
  by_cases he : c = '\\'
  · subst he
    cases rest <;> rfl
  · rw [Numeral.bare_cons he]
    by_cases hq : Numeral.isQuote c = true
    · rw [if_pos hq, ofChar_quote hq, hq]
      rfl
    · have hplain : (Numeral.isQuote c || c == '\\') = false := by simp [hq, he]
      rw [if_neg hq, hplain]
      cases hl : Field.ofLetter? c with
      | some f =>
        rw [ofLetter?_eq_some_iff.mp hl, ofChar_letter]
        rfl
      | none =>
        by_cases hp : c = '%'
        · subst hp
          rfl
        · rw [ofChar_other hl (by simpa using hq) he hp]
          rfl

/-- A character other than a bare z opens no offset field. -/
theorem opens_no_offset {opened : Open} {before : List Token} (hopen : Open.ofChar c = (opened, before))
    (hz : 'z' ∉ bare none (c :: rest)) :
    'z' ∉ bareBehind opened rest ∧ (∀ n, opened ≠ .run .offset n) ∧ ∀ run, .field .offset run ∉ before := by
  rw [bare_cons_eq, hopen, List.mem_append, not_or] at hz
  refine ⟨hz.2, ?_, fun run => ?_⟩
  · rintro n rfl
    have hc : c = 'z' := by
      cases hl : Field.ofLetter? c with
      | some f =>
        rw [ofLetter?_eq_some_iff.mp hl, ofChar_letter] at hopen
        cases hopen
        exact ofLetter?_eq_some_iff.mp hl
      | none =>
        rw [Open.ofChar, hl] at hopen
        dsimp only at hopen
        repeat' split at hopen
        all_goals cases hopen
    rw [hc] at hz
    exact hz.1 List.mem_cons_self
  · unfold Open.ofChar at hopen
    repeat' split at hopen
    all_goals cases hopen
    all_goals simp

end

/-- Tokens of a pattern without a bare z are no offset fields. -/
theorem offset_notMem_tokenize {state : Open} {cs : List Char} {tokens : List Token}
    (h : tokenize state cs = .ok tokens) (hz : 'z' ∉ bareBehind state cs) (hs : ∀ n, state ≠ .run .offset n)
    (run : Nat) : .field .offset run ∉ tokens := by
  induction state, cs using tokenize.induct generalizing tokens with
  | case1 =>
    cases h
    exact List.not_mem_nil
  | case2 f n =>
    obtain ⟨token, ht, rfl⟩ := map_eq_ok_iff.mp h
    rw [closeRun_eq_ok ht, List.mem_singleton]
    rintro he
    cases he
    exact hs run rfl
  | case3 => cases h
  | case4 => cases h
  | case5 =>
    cases h
    exact List.not_mem_nil
  | case6 c rest opened before hopen ih =>
    obtain ⟨hz', hs', hbefore⟩ := opens_no_offset hopen hz
    rw [tokenize, hopen] at h
    obtain ⟨behind, hb, rfl⟩ := map_eq_ok_iff.mp h
    rw [List.mem_append, not_or]
    exact ⟨hbefore run, ih hb hz' hs'⟩
  | case7 f n rest ih =>
    rw [tokenize, if_pos rfl] at h
    have hrest : 'z' ∉ bareBehind (.run f (n + 1)) rest := by
      have hall : 'z' ∉ bare none (f.letter :: rest) := hz
      rw [bare_cons_eq, ofChar_letter, List.mem_append, not_or] at hall
      exact hall.2
    refine ih h hrest fun k hk => ?_
    cases hk
    exact hs n rfl
  | case8 f n c rest hc e he =>
    rw [tokenize, if_neg hc, he] at h
    cases h
  | case9 f n c rest hc _ ht opened before hopen ih =>
    obtain ⟨hz', hs', hbefore⟩ := opens_no_offset hopen hz
    rw [tokenize, if_neg hc, ht, hopen] at h
    obtain ⟨behind, hb, rfl⟩ := map_eq_ok_iff.mp h
    rw [closeRun_eq_ok ht, List.cons_append, List.mem_cons, List.mem_append, not_or, not_or]
    refine ⟨fun hf => ?_, hbefore run, ih hb hz' hs'⟩
    cases hf
    exact hs run rfl
  | case10 text c rest ih =>
    rw [tokenize, if_pos rfl] at h
    obtain ⟨behind, hb, rfl⟩ := map_eq_ok_iff.mp h
    have hrest : 'z' ∉ bareBehind .nothing rest := by
      rw [bareBehind, bare, if_pos rfl] at hz
      exact hz
    rw [List.mem_cons, not_or]
    exact ⟨by simp, ih hb hrest (by simp)⟩
  | case11 quote text c rest hc ih =>
    rw [tokenize, if_neg hc] at h
    have hrest : 'z' ∉ bareBehind (.literal quote (c :: text)) rest := by
      rw [bareBehind, bare, if_neg hc] at hz
      exact hz
    exact ih h hrest (by simp)
  | case12 c rest ih =>
    rw [tokenize] at h
    obtain ⟨behind, hb, rfl⟩ := map_eq_ok_iff.mp h
    rw [List.mem_cons, not_or]
    exact ⟨by simp, ih hb hz (by simp)⟩
  | case13 rest =>
    rw [tokenize, if_pos rfl] at h
    cases h
  | case14 c rest hc opened before hopen ih =>
    obtain ⟨hz', hs', hbefore⟩ := opens_no_offset hopen hz
    rw [tokenize, if_neg hc, hopen] at h
    obtain ⟨behind, hb, rfl⟩ := map_eq_ok_iff.mp h
    rw [List.mem_append, not_or]
    exact ⟨hbefore run, ih hb hz' hs'⟩

/-- The letters that stand alone for a pattern stand for one without a bare z. -/
theorem z_notMem_standardPattern {c : Char} {expanded : String} (h : standardPattern? c = some expanded) :
    'z' ∉ bare none expanded.toList := by
  unfold standardPattern? at h
  split at h
  all_goals cases h
  all_goals decide

theorem offset_notMem_patternTokens {pattern : List Char} {tokens : List Token}
    (h : patternTokens pattern = .ok tokens) (hz : 'z' ∉ bare none pattern) (run : Nat) :
    .field .offset run ∉ tokens := by
  unfold patternTokens at h
  split at h
  · split at h
    · rename_i expanded he
      exact offset_notMem_tokenize h (z_notMem_standardPattern he) (by simp) run
    · cases h
  · exact offset_notMem_tokenize h hz (by simp) run

/-! ## (2) Texts -/

/-- A field other than the offset has the same text under every offset. -/
theorem append_congr (t : Instant) (a b : Int) (out : List Char) {token : Token}
    (h : ∀ run, token ≠ .field .offset run) : append t a out token = append t b out token := by
  cases token with
  | literal text => rfl
  | field f run =>
    have hf : fieldText t a f run = fieldText t b f run := by
      cases f with
      | offset => exact absurd rfl (h run)
      | _ => rfl
    simp only [append, hf]

theorem layOut_congr (t : Instant) (a b : Int) {tokens : List Token} (h : ∀ run, .field .offset run ∉ tokens) :
    layOut t a tokens = layOut t b tokens :=
  List.foldl_ext _ _ _ fun out _ hm => append_congr t a b out fun run he => h run (he ▸ hm)

theorem render_congr (t : Instant) (a b : Int) {pattern : List Char} (hz : 'z' ∉ bare none pattern) :
    render t pattern a = render t pattern b := by
  unfold render
  cases h : patternTokens pattern with
  | error e => rfl
  | ok tokens => exact congrArg Except.ok (layOut_congr t a b (offset_notMem_patternTokens h hz))

/-- An offset moves an instant, and shows nowhere else but in offset fields: a format without a bare z shows the moved
instant as it does without an offset, also where it fails. An instant that would leave the calendar has its default
text under every format. -/
theorem offset_only_shifts (t : Instant) (hours : Int32) (format : Option String) :
    (∀ shifted, t.shift? hours.toInt = some shifted → (∀ f, format = some f → 'z' ∉ bare none f.toList) →
        t.format format (some hours) = shifted.format format none) ∧
      (t.shift? hours.toInt = none → t.format format (some hours) = t.defaultText) := by
  constructor
  · intro shifted hshift hz
    have hstay : shifted.shift? 0 = some shifted := rfl
    simp only [Instant.format, Option.map_some, Option.map_none, Option.getD_some, Option.getD_none, hshift, hstay]
    cases hf : Text.nonBlank? format with
    | none => rfl
    | some f =>
      have hformat : format = some f := (Option.filter_eq_some_iff.mp hf).1
      simp only [render_congr shifted hours.toInt 0 (hz f hformat)]
  · intro hshift
    simp only [Instant.format, Option.map_some, Option.getD_some, hshift]

/-- New Year in Greenwich is the last evening of the year five hours west of it; the z stands in a literal. An hour
behind the last one of the calendar there is nothing. -/
theorem new_year_is_shifted :
    let newYear : Instant := ⟨⟨2024, 1, 1, by decide⟩, 0, 0, 0, 0, by decide⟩
    let evening : Instant := ⟨⟨2023, 12, 31, by decide⟩, 19, 0, 0, 0, by decide⟩
    let last : Instant := ⟨⟨262142, 12, 31, by decide⟩, 23, 30, 0, 0, by decide⟩
    let format := some "yyyy-MM-dd 'z' HH"
    newYear.shift? (-5) = some evening ∧ (∀ f, format = some f → 'z' ∉ bare none f.toList) ∧
      newYear.format format (some (-5)) = evening.format format none ∧
      evening.format format none = "2023-12-31 z 19" ∧
      last.shift? 1 = none ∧ last.format format (some 1) = last.defaultText := by
  intro newYear evening last format
  have hshift : newYear.shift? (Int32.toInt (-5)) = some evening := by decide
  have hz : ∀ f, format = some f → 'z' ∉ bare none f.toList := by
    intro f hf
    rw [← Option.some.inj hf]
    decide
  have hlast : last.shift? (Int32.toInt 1) = none := by decide
  have htext : evening.format format none = "2023-12-31 z 19" := by decide +kernel
  exact ⟨hshift, hz, (offset_only_shifts newYear (-5) format).1 evening hshift hz, htext, hlast,
    (offset_only_shifts last 1 format).2 hlast⟩

end RecordNaming.Instant
