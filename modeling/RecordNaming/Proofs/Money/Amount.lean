/-
  RecordNaming.Proofs.Money.Amount — an amount of money is always shown.

  (1) A symbol takes no character of an amount away but blanks (`visible_sublist_withSymbolChars`), and
  two grouped places stand in for a format or a label that shows nothing, so the text of an amount is not
  blank, whatever the format, the label and the symbol (`format_not_blank`).

  (2) A rule of an amount has a text, and it is from the rule's own field: its limit leaves at least one
  character of the text (`resolve_amount`).

  (3) Without a format and a label the text is the grouped numeral with the symbol between its minus sign
  and its digits (`showsGrouped_withSymbolChars`). A symbol with characters of a numeral could be in the
  numeral already, and then it would not be put there.
-/
import RecordNaming.Proofs.Money.Symbol
import RecordNaming.Proofs.Numeral.Standard
import RecordNaming.Proofs.Supplier

namespace RecordNaming.Money

open Numeral (groupedTwoPlaces minusSign standardNumeral)
open Text (allBlank isBlank nonBlank? trim visible)

/-! ## (1) Never blank -/

theorem visible_sublist_withSymbolChars (symbol text : List Char) :
    (visible text).Sublist (visible (withSymbolChars symbol text)) := by
  by_cases hs : symbol.all isBlank = true
  · rw [withSymbolChars_blank_symbol hs]
  rw [Bool.not_eq_true] at hs
  by_cases hn : symbol <:+: trim text
  · rw [withSymbolChars_of_isInfix hs hn, Text.visible_trim]
  · obtain ⟨layers, core, h⟩ := exists_peels text
    obtain ⟨before, behind, -, htext, hresult⟩ := (h.markedOnce hs hn).place
    rw [htext, hresult]
    exact (List.sublist_append_left before _).append (List.Sublist.refl behind)

theorem withSymbol_not_blank {text : String} (h : allBlank text = false) (symbol : String) :
    allBlank (withSymbol text symbol) = false := by
  rw [withSymbol, Text.allBlank_ofList, Bool.eq_false_iff, ne_eq, ← Text.visible_eq_nil_iff]
  intro hnil
  have hlost := visible_sublist_withSymbolChars symbol.toList text.toList
  rw [hnil, List.sublist_nil, Text.visible_eq_nil_iff] at hlost
  rw [allBlank, hlost] at h
  cases h

theorem groupedTwoPlaces_eq (amount : Decimal) : groupedTwoPlaces amount = standardNumeral amount.value 2 true := by
  rw [groupedTwoPlaces, Numeral.fixed_eq, Numeral.withSign_nearestUnits, standardNumeral, List.append_assoc]

theorem all_isBlank_groupedTwoPlaces (amount : Decimal) : (groupedTwoPlaces amount).all isBlank = false := by
  have hpoint : '.' ∈ groupedTwoPlaces amount := by
    rw [groupedTwoPlaces_eq, standardNumeral]
    exact List.mem_append_right _ List.mem_cons_self
  exact List.all_eq_false.mpr ⟨'.', hpoint, by decide⟩

/-- The text that a format, or else a label, has for an amount. -/
def givenText (amount : Decimal) (format label : Option String) : String :=
  match nonBlank? format, label with
  | some f, _ => Numeral.format amount (some f)
  | none, some l => l
  | none, none => ""

/-- Two grouped places stand in for a blank text. -/
theorem format_none (amount : Decimal) (format label : Option String) : Money.format amount format label none =
    if allBlank (givenText amount format label) then String.ofList (groupedTwoPlaces amount)
    else givenText amount format label := rfl

theorem format_none_not_blank (amount : Decimal) (format label : Option String) :
    allBlank (Money.format amount format label none) = false := by
  rw [format_none]
  by_cases hb : allBlank (givenText amount format label) = true
  · rw [if_pos hb, Text.allBlank_ofList]
    exact all_isBlank_groupedTwoPlaces amount
  · rw [if_neg hb]
    exact Bool.eq_false_iff.mpr hb

theorem format_not_blank (amount : Decimal) (format label symbol : Option String) :
    allBlank (Money.format amount format label symbol) = false := by
  cases symbol with
  | none => exact format_none_not_blank amount format label
  | some s => exact withSymbol_not_blank (format_none_not_blank amount format label) s

/-! ## (2) The rule of an amount -/

section

variable {chain : RuleChain} {r : Record} {value : FieldValue} {amount : Decimal}

theorem formatValue_amount {rule : FieldRule} (ht : FieldType.effective rule.type value = .currency)
    (hv : value.decimal? = some amount) (source : SymbolSource) : rule.formatValue value r source =
      Money.format amount rule.format (r.shownLabel? rule.field) (r.symbol? source) := by
  simp only [FieldRule.formatValue, ht, hv]

theorem resolve_amount (ho : r.Offers chain.first.field value)
    (ht : FieldType.effective chain.first.type value = .currency) (hv : value.decimal? = some amount)
    (hm : ∀ n, chain.first.maxLength = some n → 1 ≤ n) (source : SymbolSource) : ∃ text, text ≠ "" ∧
      text = chain.first.finish (Money.format amount chain.first.format (r.shownLabel? chain.first.field)
        (r.symbol? source)) ∧
      chain.resolve r source = (text, .primary) := by
  have hshown := format_not_blank amount chain.first.format (r.shownLabel? chain.first.field) (r.symbol? source)
  have hne := FieldRule.finish_ne_empty (Text.ne_empty_of_not_blank hshown) hm
  refine ⟨_, hne, rfl, ?_⟩
  rw [RuleChain.resolve_of_offers ho, formatValue_amount ht hv, withSource, if_neg (by simpa using hne)]

end

/-! ## (3) Without format and label -/

/-- The characters that a symbol puts into an amount; blank symbols are none. -/
def inserted (symbol : Option String) : List Char := ((nonBlank? symbol).getD "").toList

/-- A character that no numeral has. -/
def NotOfNumerals (c : Char) : Prop := c.isDigit = false ∧ c ≠ ',' ∧ c ≠ '.' ∧ c ≠ '-'

instance (c : Char) : Decidable (NotOfNumerals c) := inferInstanceAs (Decidable (_ ∧ _))

/-- The grouped numeral of an amount with a symbol in it, which stands behind the minus sign of an amount that is
negative in two places, and in front of all digits. -/
structure ShowsGrouped (amount : Decimal) (symbol text : List Char) : Prop where
  deleted : text.filter (!symbol.contains ·) = groupedTwoPlaces amount
  place : ∃ behind, text = minusSign ((amount.round 2).value < 0) ++ symbol ++ behind ∧ '-' ∉ behind

theorem NotOfNumerals.notMem {c : Char} (h : NotOfNumerals c) (amount : Decimal) : c ∉ groupedTwoPlaces amount := by
  intro hc
  rw [groupedTwoPlaces_eq] at hc
  obtain ⟨hdigit, hcomma, hpoint, hminus⟩ := h
  rcases Numeral.mem_standardNumeral hc with hc | hc | hc | hc
  · rw [hdigit] at hc
    cases hc
  · exact hcomma hc
  · exact hminus hc
  · exact hpoint hc

/-- A grouped numeral has no parentheses to go into. -/
theorem peels_groupedTwoPlaces (amount : Decimal) : Peels (groupedTwoPlaces amount) 0 (groupedTwoPlaces amount) := by
  have ht : trim (groupedTwoPlaces amount) = groupedTwoPlaces amount := by
    rw [groupedTwoPlaces_eq]
    exact Text.trim_of_not_blank fun c hc => Numeral.isBlank_of_mem_standardNumeral hc
  have hopen : '(' ∉ groupedTwoPlaces amount := NotOfNumerals.notMem (by decide) amount
  have hc : IsCore (trim (groupedTwoPlaces amount)) := by
    refine .inr fun inner he => hopen ?_
    rw [← ht, he]
    exact List.mem_cons_self
  have h := Peels.core (all_isBlank_groupedTwoPlaces amount) hc
  rwa [ht] at h

theorem exists_behind_sign (amount : Decimal) : ∃ behind,
    groupedTwoPlaces amount = minusSign ((amount.round 2).value < 0) ++ behind ∧ '-' ∉ behind := by
  rw [groupedTwoPlaces_eq, amount.value_round]
  exact Numeral.exists_behind_sign amount.value 2 true

theorem signOf_groupedTwoPlaces (amount : Decimal) :
    signOf (groupedTwoPlaces amount) = minusSign ((amount.round 2).value < 0) := by
  rw [groupedTwoPlaces_eq, amount.value_round]
  simp only [signOf, minusSign, Numeral.head?_standardNumeral]

theorem withSymbolChars_groupedTwoPlaces (amount : Decimal) {symbol behind : List Char}
    (hs : symbol.all isBlank = false) (hd : ∀ c ∈ symbol, NotOfNumerals c)
    (hnumeral : groupedTwoPlaces amount = minusSign ((amount.round 2).value < 0) ++ behind) :
    withSymbolChars symbol (groupedTwoPlaces amount) =
      minusSign ((amount.round 2).value < 0) ++ symbol ++ behind := by
  have hn : ¬symbol <:+: trim (groupedTwoPlaces amount) := by
    intro h
    obtain ⟨c, hc, -⟩ := List.all_eq_false.mp hs
    exact (hd c hc).notMem amount ((h.trans (Text.trim_isInfix _)).subset hc)
  obtain ⟨rest, hcore, hmarked⟩ := exists_markCore symbol (groupedTwoPlaces amount)
  have hrest : rest = behind := by
    rw [signOf_groupedTwoPlaces, hnumeral] at hcore
    exact (List.append_cancel_left hcore).symm
  rw [(peels_groupedTwoPlaces amount).withSymbolChars_eq hs hn, inLayers_zero, hmarked, signOf_groupedTwoPlaces,
    hrest, all_isBlank_groupedTwoPlaces, if_neg Bool.false_ne_true]

theorem filter_inserted {symbol before behind : List Char} (h : ∀ c ∈ before ++ behind, c ∉ symbol) :
    (before ++ symbol ++ behind).filter (!symbol.contains ·) = before ++ behind := by
  have hsymbol : symbol.filter (!symbol.contains ·) = [] := by
    simp
  have hkept : (before ++ behind).filter (!symbol.contains ·) = before ++ behind := by
    refine List.filter_eq_self.mpr fun c hc => ?_
    simp [h c hc]
  rw [List.filter_append, List.filter_append, hsymbol, List.append_nil, ← List.filter_append, hkept]

theorem showsGrouped_withSymbolChars (amount : Decimal) {symbol : List Char}
    (hs : symbol = [] ∨ symbol.all isBlank = false) (hd : ∀ c ∈ symbol, NotOfNumerals c) :
    ShowsGrouped amount symbol (withSymbolChars symbol (groupedTwoPlaces amount)) := by
  obtain ⟨behind, hnumeral, hminus⟩ := exists_behind_sign amount
  have hplace : withSymbolChars symbol (groupedTwoPlaces amount) =
      minusSign ((amount.round 2).value < 0) ++ symbol ++ behind := by
    rcases hs with rfl | hs
    · rw [withSymbolChars_blank_symbol rfl, List.append_nil, hnumeral]
    · exact withSymbolChars_groupedTwoPlaces amount hs hd hnumeral
  refine ⟨?_, behind, hplace, hminus⟩
  rw [hplace, filter_inserted ?_, hnumeral]
  intro c hc hm
  exact (hd c hm).notMem amount (hnumeral ▸ hc)

/-- A blank symbol is none. -/
theorem format_eq_withSymbolChars (amount : Decimal) (format label symbol : Option String) :
    (Money.format amount format label symbol).toList =
      withSymbolChars (inserted symbol) (Money.format amount format label none).toList := by
  cases symbol with
  | none => exact (withSymbolChars_blank_symbol rfl).symm
  | some s =>
    have hf : Money.format amount format label (some s) = withSymbol (Money.format amount format label none) s := rfl
    rw [hf, withSymbol, String.toList_ofList, inserted, nonBlank?]
    by_cases hb : allBlank s = true
    · rw [withSymbolChars_blank_symbol hb, Option.filter_some_neg (by simp [hb])]
      exact (withSymbolChars_blank_symbol rfl).symm
    · rw [Option.filter_some_pos (by simp [hb]), Option.getD_some]

theorem inserted_cases (symbol : Option String) :
    inserted symbol = [] ∨ (inserted symbol).all isBlank = false := by
  rw [inserted]
  cases h : nonBlank? symbol with
  | none => exact .inl rfl
  | some s =>
    have hs : (!allBlank s) = true := (Option.filter_eq_some_iff.mp h).2
    exact .inr ((Bool.not_eq_true' _).mp hs)

theorem format_eq_groupedTwoPlaces (amount : Decimal) {format label : Option String} (hf : nonBlank? format = none)
    (hl : nonBlank? label = none) :
    Money.format amount format label none = String.ofList (groupedTwoPlaces amount) := by
  have hgiven : givenText amount format label = label.getD "" := by
    unfold givenText
    rw [hf]
    cases label <;> rfl
  have hb : allBlank (label.getD "") = true := by
    cases label with
    | none => rfl
    | some l => simpa [nonBlank?] using hl
  rw [format_none, hgiven, if_pos hb]

/-- A present amount of money is shown. Its text is not blank, whatever the format, the label and the symbol are.
Without a format and a label it is the grouped numeral with the symbol in it. Every rule that shows the amount as
money, and has room for a character, has a text, and it is from the rule's own field. -/
theorem amount_is_always_shown (amount : Decimal) :
    (∀ format label symbol, allBlank (Money.format amount format label symbol) = false) ∧
    (∀ format label symbol, nonBlank? format = none → nonBlank? label = none →
      (∀ c ∈ inserted symbol, NotOfNumerals c) →
      ShowsGrouped amount (inserted symbol) (Money.format amount format label symbol).toList) ∧
    ∀ (chain : RuleChain) (r : Record) (value : FieldValue) (source : SymbolSource),
      r.Offers chain.first.field value → FieldType.effective chain.first.type value = .currency →
      value.decimal? = some amount → (∀ n, chain.first.maxLength = some n → 1 ≤ n) →
      ∃ text, text ≠ "" ∧
        text = chain.first.finish (Money.format amount chain.first.format (r.shownLabel? chain.first.field)
          (r.symbol? source)) ∧
        chain.resolve r source = (text, .primary) := by
  refine ⟨format_not_blank amount, ?_, ?_⟩
  · intro format label symbol hf hl hd
    rw [format_eq_withSymbolChars, format_eq_groupedTwoPlaces amount hf hl, String.toList_ofList]
    exact showsGrouped_withSymbolChars amount (inserted_cases symbol) hd
  · intro chain r value source ho ht hv hm
    exact resolve_amount ho ht hv hm source

/-- A format that shows nothing of zero, under a limit of one character; and a loss without a format. -/
theorem zero_and_loss_are_shown :
    let zero : Decimal := ⟨false, 0, 0, by decide, by decide⟩
    let loss : Decimal := ⟨true, 12345, 1, by decide, by decide⟩
    let chain : RuleChain := ⟨{ field := "price", format := some "#", maxLength := some 1 }, []⟩
    let r := ({} : Record).insert "price" (.money zero)
    Numeral.format zero (some "#") = "" ∧
      r.Offers "price" (.money zero) ∧ FieldType.effective none (.money zero) = .currency ∧
      (∀ n, chain.first.maxLength = some n → 1 ≤ n) ∧ chain.resolve r .none = (".", .primary) ∧ "." ≠ "" ∧
      (∀ c ∈ inserted (some "€"), NotOfNumerals c) ∧ String.ofList (groupedTwoPlaces loss) = "-1,234.50" ∧
      ShowsGrouped loss ['€'] (Money.format loss none none (some "€")).toList := by
  intro zero loss chain r
  have hshown : Numeral.format zero (some "#") = "" := by decide +kernel
  have ho : r.Offers "price" (.money zero) := ⟨by decide, by decide⟩
  have hm : ∀ n, chain.first.maxLength = some n → 1 ≤ n := by
    intro n hn
    cases hn
    decide
  have hr : chain.resolve r .none = (".", .primary) := by decide +kernel
  have hd : ∀ c ∈ inserted (some "€"), NotOfNumerals c := by
    intro c hc
    obtain rfl : c = '€' := List.mem_singleton.mp hc
    decide
  have hgrouped : String.ofList (groupedTwoPlaces loss) = "-1,234.50" := by decide +kernel
  obtain ⟨text, hne, -, htext⟩ := (amount_is_always_shown zero).2.2 chain r (.money zero) .none ho rfl rfl hm
  obtain rfl : "." = text := congrArg Prod.fst (hr.symm.trans htext)
  have hloss := (amount_is_always_shown loss).2.1 none none (some "€") rfl rfl hd
  exact ⟨hshown, ho, rfl, hm, hr, hne, hd, hgrouped, hloss⟩

end RecordNaming.Money
