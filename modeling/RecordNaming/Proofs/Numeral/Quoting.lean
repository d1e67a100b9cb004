/-
  RecordNaming.Proofs.Numeral.Quoting — what quotes and backslashes leave open in a number pattern.

  A pattern is read twice, for its sections and each section for its tokens. Both readings are compared with a third
  one that only follows the quotes and backslashes, a character at a time (`Quoting.next`, `Quoting.after`).

  (1) A pattern that leaves something open has no sections and fails for what is open, any other has sections
  (`sections_eq_error_iff`). The cuts are the semicolons where nothing is open, so each section leaves nothing open
  either (`sections_cut`).

  (2) A section has tokens, or fails for what it leaves open, unless an exponent stands before (`tokenize_fault`).

  (3) What else can fail is the size of the number (`renderSection_eq_error`), and a number in a pattern fails as it
  does in one of the sections (`formatCustom_eq_error`).

  `quoting_depends_on_pattern_alone`: what a pattern leaves open is what every number in it fails for, whatever its
  sign and section, and no section fails for it.
-/
import RecordNaming.Proofs.Numeral.SameNumber

namespace RecordNaming.Numeral

/-- What is open behind a character. -/
inductive Quoting where
  | nothing
  | literal (quote : Char)
  /-- The next character stands for itself. -/
  | escape
  deriving DecidableEq, Repr

namespace Quoting

def next : Quoting → Char → Quoting
  | nothing, c => if c = '\\' then escape else if isQuote c then literal c else nothing
  | literal quote, c => if c = quote then nothing else literal quote
  | escape, _ => nothing

def after (q : Quoting) (text : List Char) : Quoting := text.foldl next q

/-- What is wrong with a pattern that ends here. -/
def fault? : Quoting → Option FormatError
  | nothing => none
  | literal _ => some .unterminatedLiteral
  | escape => some .trailingEscape

/-- What is open for a reader that takes a backslash and the character behind it at once. -/
def ofQuote : Option Char → Quoting
  | none => nothing
  | some quote => literal quote

@[simp] theorem ofQuote_none : ofQuote none = nothing := rfl

@[simp] theorem ofQuote_some (quote : Char) : ofQuote (some quote) = literal quote := rfl

@[simp] theorem after_nil (q : Quoting) : q.after [] = q := rfl

@[simp] theorem after_cons (q : Quoting) (c : Char) (text : List Char) : q.after (c :: text) = (q.next c).after text :=
  rfl

theorem after_escaped (c : Char) (text : List Char) : nothing.after ('\\' :: c :: text) = nothing.after text := rfl

theorem next_literal (quote c : Char) : (literal quote).next c = ofQuote (if c = quote then none else some quote) := by
  rw [next]
  split <;> rfl

theorem next_nothing {c : Char} (hc : c ≠ '\\') : nothing.next c = ofQuote (if isQuote c then some c else none) := by
  rw [next, if_neg hc]
  split <;> rfl

end Quoting

open Quoting (ofQuote)

/-- What a pattern fails for if it leaves something open. -/
def quotingFault? (pattern : List Char) : Option FormatError := (Quoting.nothing.after pattern).fault?

/-! ## (1) Sections -/

theorem sections_eq_error_iff {quote : Option Char} {pattern : List Char} {e : FormatError} :
    sections quote pattern = .error e ↔ ((ofQuote quote).after pattern).fault? = some e := by
  induction quote, pattern using sections.induct with
  | case1 => simp [sections, Quoting.fault?]
  | case2 quote => simp [sections, Quoting.fault?]
  | case3 quote c rest ih =>
    rw [sections, map_eq_error_iff, Quoting.ofQuote_some, Quoting.after_cons, Quoting.next_literal]
    exact ih
  | case4 => simp [sections, Quoting.after, Quoting.next, Quoting.fault?]
  | case5 c rest ih =>
    rw [sections, map_eq_error_iff, Quoting.ofQuote_none, Quoting.after_escaped]
    exact ih
  | case6 rest ih =>
    rw [sections, map_eq_error_iff]
    exact ih
  | case7 c rest h1 h2 h3 ih =>
    have hc := ne_backslash h1 h2
    rw [sections_cons hc h3, map_eq_error_iff, Quoting.ofQuote_none, Quoting.after_cons, Quoting.next_nothing hc]
    exact ih

/-- Nothing is open behind a section, and there is nothing in it to cut. The first argument is the quote that is open
before. -/
structure IsSection (quote : Option Char) (s : List Char) : Prop where
  closed : (ofQuote quote).after s = .nothing
  uncut : ';' ∉ bare quote s

namespace IsSection

variable {quote c : Char} {s : List Char}

theorem nil : IsSection none [] := ⟨rfl, List.not_mem_nil⟩

theorem literal (h : IsSection (if c = quote then none else some quote) s) : IsSection (some quote) (c :: s) where
  closed := by
    rw [Quoting.ofQuote_some, Quoting.after_cons, Quoting.next_literal]
    exact h.closed
  uncut := by
    rw [bare]
    exact h.uncut

theorem escaped (c : Char) (h : IsSection none s) : IsSection none ('\\' :: c :: s) := ⟨h.closed, h.uncut⟩

theorem other (hc : c ≠ '\\') (hs : c ≠ ';') (h : IsSection (if isQuote c then some c else none) s) :
    IsSection none (c :: s) where
  closed := by
    rw [Quoting.ofQuote_none, Quoting.after_cons, Quoting.next_nothing hc]
    exact h.closed
  uncut := by
    have hu := h.uncut
    rw [bare_cons hc]
    by_cases hq : isQuote c = true
    · rwa [if_pos hq] at hu ⊢
    · rw [if_neg hq] at hu ⊢
      exact List.not_mem_cons_of_ne_of_not_mem (Ne.symm hs) hu

end IsSection

/-- A pattern in sections, the first of them behind an open quote. -/
structure Cut (quote : Option Char) (pattern first : List Char) (others : List (List Char)) : Prop where
  joined : [';'].intercalate (first :: others) = pattern
  isFirst : IsSection quote first
  areOthers : ∀ s ∈ others, IsSection none s

section

variable {pattern first : List Char} {others : List (List Char)}

/-- A character that is no cut belongs to the first section. -/
theorem Cut.cons {quote quote' : Option Char} {c : Char} (h : Cut quote' pattern first others)
    (hfirst : IsSection quote (c :: first)) : Cut quote (c :: pattern) (c :: first) others where
  joined := by rw [List.intercalate_cons_cons_left, h.joined]
  isFirst := hfirst
  areOthers := h.areOthers

theorem Cut.escaped (c : Char) (h : Cut none pattern first others) :
    Cut none ('\\' :: c :: pattern) ('\\' :: c :: first) others where
  joined := by rw [List.intercalate_cons_cons_left, List.intercalate_cons_cons_left, h.joined]
  isFirst := h.isFirst.escaped c
  areOthers := h.areOthers

theorem Cut.separator (h : Cut none pattern first others) : Cut none (';' :: pattern) [] (first :: others) where
  joined := by rw [List.intercalate_cons_cons, h.joined, List.nil_append, List.singleton_append]
  isFirst := .nil
  areOthers := List.forall_mem_cons.mpr ⟨h.isFirst, h.areOthers⟩

end

/-- The sections are cut at the semicolons where nothing is open, and only there. -/
theorem sections_cut {quote : Option Char} {pattern : List Char} {all : List (List Char)}
    (h : sections quote pattern = .ok all) : ∃ first others, all = first :: others ∧ Cut quote pattern first others := by
  induction quote, pattern using sections.induct generalizing all with
  | case1 =>
    cases h
    exact ⟨[], [], rfl, rfl, .nil, fun s hs => absurd hs List.not_mem_nil⟩
  | case2 => cases h
  | case3 quote c rest ih =>
    rw [sections, map_eq_ok_iff] at h
    obtain ⟨behind, hb, rfl⟩ := h
    obtain ⟨first, others, rfl, hcut⟩ := ih hb
    exact ⟨c :: first, others, rfl, hcut.cons hcut.isFirst.literal⟩
  | case4 => cases h
  | case5 c rest ih =>
    rw [sections, map_eq_ok_iff] at h
    obtain ⟨behind, hb, rfl⟩ := h
    obtain ⟨first, others, rfl, hcut⟩ := ih hb
    exact ⟨'\\' :: c :: first, others, rfl, hcut.escaped c⟩
  | case6 rest ih =>
    rw [sections, map_eq_ok_iff] at h
    obtain ⟨behind, hb, rfl⟩ := h
    obtain ⟨first, others, rfl, hcut⟩ := ih hb
    exact ⟨[], first :: others, rfl, hcut.separator⟩
  | case7 c rest h1 h2 h3 ih =>
    have hc := ne_backslash h1 h2
    rw [sections_cons hc h3, map_eq_ok_iff] at h
    obtain ⟨behind, hb, rfl⟩ := h
    obtain ⟨first, others, rfl, hcut⟩ := ih hb
    exact ⟨c :: first, others, rfl, hcut.cons (hcut.isFirst.other hc h3)⟩

section

variable {pattern : List Char} {all : List (List Char)} (h : sections none pattern = .ok all)

include h

/-- The cuts lose nothing but the semicolons. -/
theorem sections_joined : [';'].intercalate all = pattern := by
  obtain ⟨first, others, rfl, hcut⟩ := sections_cut h
  exact hcut.joined

theorem isSection_of_mem {s : List Char} (hs : s ∈ all) : IsSection none s := by
  obtain ⟨first, others, rfl, hcut⟩ := sections_cut h
  rcases List.mem_cons.mp hs with rfl | hs
  · exact hcut.isFirst
  · exact hcut.areOthers s hs

end

/-! ## (2) Tokens -/

/-- An exponent is the only other thing that a section can fail for. -/
theorem tokenize_fault (state : Option (Char × List Char)) (text : List Char) :
    tokenize state text = .error (.unsupportedSpecifier "exponent") ∨
      ∀ e, tokenize state text = .error e ↔ ((ofQuote (state.map Prod.fst)).after text).fault? = some e := by
  induction state, text using tokenize.induct with
  | case1 => exact .inr fun e => by simp [tokenize, Quoting.fault?]
  | case2 literal => exact .inr fun e => by simp [tokenize, Quoting.fault?]
  | case3 literal c rest ih =>
    simp only [tokenize, if_true, map_eq_error_iff, Option.map_some, Quoting.ofQuote_some, Quoting.after_cons,
      Quoting.next_literal]
    exact ih
  | case4 quote literal c rest hc ih =>
    simp only [tokenize, if_neg hc, Option.map_some, Quoting.ofQuote_some, Quoting.after_cons, Quoting.next_literal]
    exact ih
  | case5 => exact .inr fun e => by simp [tokenize, Quoting.after, Quoting.next, Quoting.fault?]
  | case6 c rest ih =>
    simp only [tokenize, map_eq_error_iff, Option.map_none, Quoting.ofQuote_none, Quoting.after_escaped]
    exact ih
  | case7 c rest h1 h2 hq ih =>
    have hc := ne_backslash h1 h2
    simp only [tokenize_cons hc, if_pos hq, Option.map_none, Quoting.ofQuote_none, Quoting.after_cons,
      Quoting.next_nothing hc]
    exact ih
  | case8 c rest h1 h2 hq he =>
    rw [tokenize_cons (ne_backslash h1 h2), if_neg hq, if_pos he]
    exact .inl rfl
  | case9 c rest h1 h2 hq he ih =>
    have hc := ne_backslash h1 h2
    simp only [tokenize_cons hc, if_neg hq, if_neg he, map_eq_error_iff, Option.map_none, Quoting.ofQuote_none,
      Quoting.after_cons, Quoting.next_nothing hc]
    exact ih

theorem IsSection.tokens_or_exponent {s : List Char} (h : IsSection none s) :
    (∃ tokens, tokenize none s = .ok tokens) ∨ tokenize none s = .error (.unsupportedSpecifier "exponent") := by
  rcases tokenize_fault none s with he | hfault
  · exact .inr he
  · cases ht : tokenize none s with
    | ok tokens => exact .inl ⟨tokens, rfl⟩
    | error e =>
      have hopen := (hfault e).mp ht
      rw [Option.map_none, h.closed] at hopen
      cases hopen

/-! ## (3) Numbers -/

section

variable {d : Decimal} {e : FormatError}

theorem scaleUp_eq_error {tokens : List Token} (h : scaleUp d tokens = .error e) : e = .overflow := by
  induction tokens generalizing d with
  | nil => cases h
  | cons token rest ih =>
    cases hf : signFactor? token with
    | none =>
      rw [scaleUp_of_none hf] at h
      exact ih h
    | some f =>
      rw [scaleUp_of_some hf] at h
      split at h
      · exact ih h
      · cases h
        rfl

theorem renderSection_eq_error {s : List Char} (h : renderSection d s = .error e) :
    tokenize none s = .error e ∨ e = .overflow := by
  cases ht : tokenize none s with
  | error e' =>
    rw [renderSection, ht] at h
    cases h
    exact .inl rfl
  | ok tokens =>
    by_cases hne : tokens = []
    · subst hne
      rw [renderSection, ht] at h
      cases h
    · cases hu : scaleUp d tokens with
      | error e' =>
        rw [renderSection_error ht hne hu] at h
        cases h
        exact .inr (scaleUp_eq_error hu)
      | ok up =>
        obtain ⟨scaled, -, hd, -⟩ := scaleDown_congr (rfl : up.value = up.value) (closingCommas (wholeTokens tokens))
        rw [renderSection_eq ht hne hu hd] at h
        cases h

/-- No number in a section fails for a quote or a backslash. -/
theorem IsSection.no_quoting_error {s : List Char} (hs : IsSection none s) (h : renderSection d s = .error e) :
    ¬ (e = .unterminatedLiteral ∨ e = .trailingEscape) := by
  rcases renderSection_eq_error h with ht | rfl
  · rcases hs.tokens_or_exponent with ⟨tokens, hok⟩ | hexponent
    · rw [hok] at ht
      cases ht
    · rw [hexponent] at ht
      cases ht
      simp
  · simp

theorem formatCustom_eq_error {pattern : List Char} {all : List (List Char)} (hall : sections none pattern = .ok all)
    (h : formatCustom d pattern = .error e) : ∃ s ∈ all, ∃ v, renderSection v s = .error e := by
  rw [formatCustom_of_sections hall] at h
  cases hr : renderSection d.abs (chosenSection d all) with
  | error e' =>
    rw [hr] at h
    cases h
    exact ⟨_, chosenSection_mem (sections_ne_nil hall) d, _, hr⟩
  | ok r =>
    rw [hr] at h
    cases hs : section? all 2 with
    | none => simp [hs, Except.bind] at h
    | some s =>
      -- the number vanished, and zero fails in its own section
      refine ⟨s, (ne_nil_of_section? hs).1, .zero, ?_⟩
      simp only [hs, Except.bind] at h
      split at h
      · cases hz : renderSection .zero s with
        | error e' =>
          rw [hz] at h
          cases h
          rfl
        | ok z =>
          rw [hz] at h
          cases h
      · cases h

end

/-- If a pattern falls into sections, the sections joined by semicolons are the pattern again, none of them has a bare
semicolon, and each has tokens or an exponent. A pattern that does not fall into sections fails for what it leaves
open. And a number in a pattern fails for a quote or a backslash if and only if the pattern leaves that open: which
number it is, and which section it is shown in, makes no difference. -/
theorem quoting_depends_on_pattern_alone (pattern : List Char) :
    (∀ all, sections none pattern = .ok all →
      [';'].intercalate all = pattern ∧
        ∀ s ∈ all, ';' ∉ bare none s ∧
          ((∃ tokens, tokenize none s = .ok tokens) ∨
            tokenize none s = .error (.unsupportedSpecifier "exponent"))) ∧
      (∀ e, sections none pattern = .error e ↔ quotingFault? pattern = some e) ∧
      ∀ (d : Decimal) (e : FormatError), e = .unterminatedLiteral ∨ e = .trailingEscape →
        (formatCustom d pattern = .error e ↔ quotingFault? pattern = some e) := by
  have hsections (e : FormatError) : sections none pattern = .error e ↔ quotingFault? pattern = some e :=
    sections_eq_error_iff
  refine ⟨fun all hall => ?_, hsections, fun d e he => ⟨fun h => ?_, fun h => ?_⟩⟩
  · refine ⟨sections_joined hall, fun s hs => ?_⟩
    have hsection := isSection_of_mem hall hs
    exact ⟨hsection.uncut, hsection.tokens_or_exponent⟩
  · cases hall : sections none pattern with
    | error e' =>
      rw [formatCustom, hall] at h
      cases h
      exact (hsections e).mp hall
    | ok all =>
      obtain ⟨s, hs, v, hv⟩ := formatCustom_eq_error hall h
      exact absurd he ((isSection_of_mem hall hs).no_quoting_error hv)
  · rw [formatCustom, (hsections e).mpr h]
    rfl

/-- Semicolons, backslashes and quotes that stand in a literal of the other quote or behind a backslash are no cuts and
open nothing, and the last section has an exponent. With one more backslash at the end every number fails, also those
that are shown in the first section. -/
theorem quotes_in_quotes_are_read_alike :
    let pattern := "0'\x22;\\'\\;;#\x22;'\x22\\\x22;0e+0".toList
    let all := ["0'\x22;\\'\\;".toList, "#\x22;'\x22\\\x22".toList, "0e+0".toList]
    sections none pattern = .ok all ∧ [';'].intercalate all = pattern ∧
      (∀ s ∈ all, (∃ tokens, tokenize none s = .ok tokens) ∨
        tokenize none s = .error (.unsupportedSpecifier "exponent")) ∧
      (∀ d, formatCustom d pattern ≠ .error .unterminatedLiteral) ∧
      ∀ d, formatCustom d (pattern ++ ['\\']) = .error .trailingEscape := by
  intro pattern all
  have hall : sections none pattern = .ok all := by decide
  obtain ⟨hread, -, hfails⟩ := quoting_depends_on_pattern_alone pattern
  obtain ⟨-, -, hfails'⟩ := quoting_depends_on_pattern_alone (pattern ++ ['\\'])
  have hnothing : quotingFault? pattern ≠ some .unterminatedLiteral := by decide
  have hescape : quotingFault? (pattern ++ ['\\']) = some .trailingEscape := by decide
  obtain ⟨hjoined, htokens⟩ := hread all hall
  refine ⟨hall, hjoined, fun s hs => (htokens s hs).2, fun d h => ?_, fun d => ?_⟩
  · exact hnothing ((hfails d _ (.inl rfl)).mp h)
  · exact (hfails' d _ (.inr rfl)).mpr hescape

end RecordNaming.Numeral
