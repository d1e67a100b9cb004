/-
  RecordNaming.Proofs.Money.Symbol — where the currency symbol goes in a formatted amount.

  (1) One level of an amount: it is blank, has the symbol, ends the search for a place
  (`withSymbolChars_core`), or has parentheses around it, inside of which the search goes on
  (`withSymbolChars_layer`).

  (2) All levels. Every text has a core within its parentheses (`exists_peels`). The text of an
  amount without the symbol is the core with the symbol after its sign, in as many parentheses
  (`Peels.withSymbolChars_eq`); blanks around the levels are lost and no other character is
  (`Peels.visible_eq`). A blank core has no place for a symbol.

  (3) A text with the symbol in it is only trimmed, so a second time changes nothing
  (`withSymbolChars_withSymbolChars`). Where the core is blank the second time finds no place
  either; but the blanks that the first time took away may have brought the symbol about, when it
  has parentheses in it.

  `symbol_is_inserted_once` says both of every text and symbol.
-/
import RecordNaming.Money
import RecordNaming.Proofs.Text.Blank

namespace RecordNaming

theorem Text.occursIn_eq_true_iff (part cs : List Char) : occursIn part cs = true ↔ part <:+: cs := by
  induction cs with
  | nil => rw [occursIn, List.isEmpty_iff, List.infix_nil]
  | cons c rest ih => rw [occursIn, Bool.or_eq_true, ih, List.isPrefixOf_iff_prefix, List.infix_cons_iff]

theorem Text.occursIn_eq_false {part cs : List Char} (h : ¬part <:+: cs) : occursIn part cs = false :=
  Bool.eq_false_iff.mpr fun ho => h ((occursIn_eq_true_iff _ _).mp ho)

namespace Money

open Text (isBlank trim visible)

theorem inside?_eq_some_iff {cs inner : List Char} : inside? cs = some inner ↔ cs = '(' :: inner ++ [')'] := by
  unfold inside?
  split
  · rename_i rest
    by_cases h : rest.getLast? = some ')'
    · obtain ⟨front, rfl⟩ := List.getLast?_eq_some_iff.mp h
      simp
    · rw [if_neg h]
      constructor
      · exact nofun
      · intro he
        have hr : rest = inner ++ [')'] := List.cons.inj he |>.2
        exact absurd (by rw [hr, List.getLast?_concat]) h
  · rename_i h
    constructor
    · exact nofun
    · intro he
      exact absurd he (h _)

/-! ## (1) One level -/

/-- The core of an amount with the symbol after its minus sign. A blank core stays as it is. -/
def markCore (symbol core : List Char) : List Char :=
  if core.all isBlank then core
  else if core.head? = some '-' then '-' :: symbol ++ core.drop 1
  else symbol ++ core

/-- Trimmed text that is searched no further: it has a minus sign in front or no parentheses around it. -/
def IsCore (cs : List Char) : Prop := cs.head? = some '-' ∨ ∀ inner, cs ≠ '(' :: inner ++ [')']

section

variable {symbol text inner : List Char}

theorem withSymbolChars_blank (h : text.all isBlank = true) : withSymbolChars symbol text = text := by
  have ht := Text.trim_eq_nil_iff.mpr h
  rw [withSymbolChars]
  simp [ht]

theorem withSymbolChars_blank_symbol (h : symbol.all isBlank = true) : withSymbolChars symbol text = text := by
  rw [withSymbolChars]
  simp [h]

variable (hs : symbol.all isBlank = false)
include hs

theorem ne_nil_of_isInfix {cs : List Char} (h : symbol <:+: cs) : cs ≠ [] := by
  rintro rfl
  rw [List.infix_nil.mp h] at hs
  cases hs

theorem withSymbolChars_of_isInfix (h : symbol <:+: trim text) : withSymbolChars symbol text = trim text := by
  have hne := ne_nil_of_isInfix hs h
  have ho := (Text.occursIn_eq_true_iff _ _).mpr h
  rw [withSymbolChars]
  simp [hne, hs, ho]

variable (hn : ¬symbol <:+: trim text)
include hn

theorem withSymbolChars_core (hb : text.all isBlank = false) (hc : IsCore (trim text)) :
    withSymbolChars symbol text = markCore symbol (trim text) := by
  have hb' : (trim text).all isBlank = false := by rwa [Text.all_isBlank_trim]
  have hne : trim text ≠ [] := fun h => by simp [h] at hb'
  have ho := Text.occursIn_eq_false hn
  rw [withSymbolChars, markCore]
  by_cases hm : (trim text).head? = some '-'
  · simp [hne, hs, hb', ho, hm]
  · have hi : inside? (trim text) = none := by
      refine Option.eq_none_iff_forall_ne_some.mpr fun inner h => ?_
      exact (hc.resolve_left hm) inner (inside?_eq_some_iff.mp h)
    simp only [hne, hs, hb', ho, hm, List.isEmpty_iff, Bool.or_false, if_false, Bool.false_eq_true]
    split
    · rename_i inner h
      rw [hi] at h
      cases h
    · rfl

theorem withSymbolChars_layer (ht : trim text = '(' :: inner ++ [')']) :
    withSymbolChars symbol text = '(' :: withSymbolChars symbol inner ++ [')'] := by
  have hi : inside? (trim text) = some inner := inside?_eq_some_iff.mpr ht
  have ho := Text.occursIn_eq_false hn
  have hne : trim text ≠ [] := by simp [ht]
  have hm : (trim text).head? ≠ some '-' := by simp [ht]
  rw [withSymbolChars]
  simp only [hne, hs, ho, hm, List.isEmpty_iff, Bool.or_false, if_false, Bool.false_eq_true]
  split
  · rename_i inner' h
    rw [hi] at h
    cases h
    rfl
  · rename_i h
    rw [hi] at h
    cases h

end

/-! ## (2) All levels -/

/-- A text in some layers of parentheses. -/
def inLayers (layers : Nat) (cs : List Char) : List Char :=
  List.replicate layers '(' ++ cs ++ List.replicate layers ')'

theorem inLayers_zero (cs : List Char) : inLayers 0 cs = cs := by
  simp [inLayers]

theorem inLayers_succ (layers : Nat) (cs : List Char) :
    inLayers (layers + 1) cs = '(' :: inLayers layers cs ++ [')'] := by
  rw [inLayers, List.replicate_succ, List.replicate_succ', inLayers]
  simp

theorem visible_parentheses (cs : List Char) : visible ('(' :: cs ++ [')']) = '(' :: visible cs ++ [')'] := by
  have hopen : visible ('(' :: cs) = '(' :: visible cs := List.filter_cons_of_pos rfl
  have hclose : visible [')'] = [')'] := rfl
  rw [Text.visible_append, hopen, hclose]

theorem visible_inLayers (layers : Nat) (cs : List Char) :
    visible (inLayers layers cs) = inLayers layers (visible cs) := by
  induction layers with
  | zero => rw [inLayers_zero, inLayers_zero]
  | succ layers ih => rw [inLayers_succ, inLayers_succ, visible_parentheses, ih]

/-- A text is peeled of its layers of parentheses, and of the blanks around each, down to its core. -/
inductive Peels : List Char → Nat → List Char → Prop
  /-- Blank text is peeled no further and keeps its blanks. -/
  | blank {text : List Char} : text.all isBlank = true → Peels text 0 text
  | core {text : List Char} : text.all isBlank = false → IsCore (trim text) → Peels text 0 (trim text)
  | layer {text inner core : List Char} {layers : Nat} : trim text = '(' :: inner ++ [')'] →
      Peels inner layers core → Peels text (layers + 1) core

theorem exists_peels (text : List Char) : ∃ layers core, Peels text layers core := by
  by_cases hb : text.all isBlank = true
  · exact ⟨0, text, .blank hb⟩
  rw [Bool.not_eq_true] at hb
  cases hi : inside? (trim text) with
  | none =>
    have hc : IsCore (trim text) := .inr fun inner h => by
      rw [inside?_eq_some_iff.mpr h] at hi
      cases hi
    exact ⟨0, trim text, .core hb hc⟩
  | some inner =>
    obtain ⟨layers, core, h⟩ := exists_peels inner
    exact ⟨layers + 1, core, .layer (inside?_eq_some_iff.mp hi) h⟩
  termination_by text.length
  decreasing_by
    exact Nat.lt_of_lt_of_le (length_inside?_lt hi) (length_trim_le text)

section

variable {symbol text core : List Char} {layers : Nat}

theorem Peels.visible_eq (h : Peels text layers core) : visible text = inLayers layers (visible core) := by
  induction h with
  | blank _ => rw [inLayers_zero]
  | core _ _ => rw [inLayers_zero, Text.visible_trim]
  | layer ht _ ih =>
    rw [← Text.visible_trim, ht, inLayers_succ, ← ih, visible_parentheses]

/-- What has no symbol in it has none inside of its parentheses. -/
theorem not_isInfix_inner {inner : List Char} (ht : trim text = '(' :: inner ++ [')']) (hn : ¬symbol <:+: trim text) :
    ¬symbol <:+: trim inner := by
  intro h
  refine hn (h.trans ((Text.trim_isInfix inner).trans ?_))
  rw [ht]
  exact ⟨['('], [')'], rfl⟩

variable (hs : symbol.all isBlank = false)
include hs

theorem Peels.withSymbolChars_eq (h : Peels text layers core) (hn : ¬symbol <:+: trim text) :
    withSymbolChars symbol text = inLayers layers (markCore symbol core) := by
  induction h with
  | blank hb => rw [inLayers_zero, withSymbolChars_blank hb, markCore, if_pos hb]
  | core hb hc => rw [inLayers_zero, withSymbolChars_core hs hn hb hc]
  | layer ht _ ih => rw [inLayers_succ, withSymbolChars_layer hs hn ht, ih (not_isInfix_inner ht hn)]

/-! ## (3) A second time -/

/-- Trimmed text with the symbol in it stays as it is. -/
theorem withSymbolChars_eq_self (ht : trim text = text) (h : symbol <:+: text) :
    withSymbolChars symbol text = text := by
  have hi : symbol <:+: trim text := by rwa [ht]
  rw [withSymbolChars_of_isInfix hs hi, ht]

end

theorem trim_parentheses (cs : List Char) : trim ('(' :: cs ++ [')']) = '(' :: cs ++ [')'] := by
  refine Text.trim_of_ends ?_ ?_
  · intro c hc
    cases hc
    rfl
  · intro c hc
    rw [List.getLast?_concat] at hc
    cases hc
    rfl

section

variable {symbol text core : List Char} {layers : Nat} (hs : symbol.all isBlank = false) (ht : trim symbol = symbol)

theorem isInfix_markCore (hb : core.all isBlank = false) : symbol <:+: markCore symbol core := by
  rw [markCore, if_neg (by simp [hb])]
  split
  · exact ⟨['-'], core.drop 1, rfl⟩
  · exact (List.prefix_append symbol core).isInfix

include hs ht

/-- The marked core starts with the minus sign or the symbol, and ends as the core or with the symbol. -/
theorem trim_markCore (hb : core.all isBlank = false) (hc : trim core = core) :
    trim (markCore symbol core) = markCore symbol core := by
  have hend : ∀ c, core.getLast? = some c → isBlank c = false := by
    intro c h
    rw [← hc] at h
    exact Text.getLast?_trim h
  have hsymbol : ∀ c, symbol.getLast? = some c → isBlank c = false := by
    intro c h
    rw [← ht] at h
    exact Text.getLast?_trim h
  rw [markCore, if_neg (by simp [hb])]
  split
  · rename_i hm
    obtain ⟨rest, rfl⟩ := List.head?_eq_some_iff.mp hm
    have hsigned : trim ('-' :: symbol) = '-' :: symbol :=
      Text.trim_append_eq (List.cons_ne_nil '-' []) rfl hsymbol
    refine Text.trim_append_eq (List.cons_ne_nil '-' symbol) hsigned ?_
    intro c h
    refine hend c ?_
    rw [List.drop_one, List.tail_cons] at h
    rw [List.getLast?_cons, h, Option.getD_some]
  · exact Text.trim_append_eq (ne_nil_of_isInfix hs (List.infix_refl symbol)) ht hend

theorem Peels.withSymbolChars_withSymbolChars (h : Peels text layers core) (hn : ¬symbol <:+: trim text) :
    withSymbolChars symbol (withSymbolChars symbol text) = withSymbolChars symbol text := by
  induction h with
  | blank hb => rw [withSymbolChars_blank hb, withSymbolChars_blank hb]
  | @core text hb hc =>
    have hb' : (trim text).all isBlank = false := by rwa [Text.all_isBlank_trim]
    rw [withSymbolChars_core hs hn hb hc]
    exact withSymbolChars_eq_self hs (trim_markCore hs ht hb' (Text.trim_trim text)) (isInfix_markCore hb')
  | @layer text inner core layers hl _ ih =>
    rw [withSymbolChars_layer hs hn hl]
    by_cases ho : symbol <:+: '(' :: withSymbolChars symbol inner ++ [')']
    · exact withSymbolChars_eq_self hs (trim_parentheses _) ho
    · have hp := trim_parentheses (withSymbolChars symbol inner)
      rw [withSymbolChars_layer hs (by rwa [hp]) hp, ih (not_isInfix_inner hl hn)]

theorem withSymbolChars_withSymbolChars (text : List Char) :
    withSymbolChars symbol (withSymbolChars symbol text) = withSymbolChars symbol text := by
  by_cases hn : symbol <:+: trim text
  · rw [withSymbolChars_of_isInfix hs hn]
    exact withSymbolChars_eq_self hs (Text.trim_trim text) hn
  · obtain ⟨layers, core, h⟩ := exists_peels text
    exact h.withSymbolChars_withSymbolChars hs ht hn

end

/-- The minus sign of a core. -/
def signOf (core : List Char) : List Char := if core.head? = some '-' then ['-'] else []

theorem visible_signOf (core : List Char) : visible (signOf core) = signOf core := by
  unfold signOf
  split <;> rfl

/-- The symbol is put between the sign of a core and the rest of it. -/
theorem exists_markCore (symbol core : List Char) : ∃ rest, core = signOf core ++ rest ∧
    markCore symbol core = signOf core ++ (if core.all isBlank then [] else symbol) ++ rest := by
  by_cases hm : core.head? = some '-'
  · obtain ⟨rest, rfl⟩ := List.head?_eq_some_iff.mp hm
    have hb : ('-' :: rest).all isBlank = false := rfl
    refine ⟨rest, rfl, ?_⟩
    rw [markCore, hb, if_neg Bool.false_ne_true, if_neg Bool.false_ne_true, if_pos hm]
    rfl
  · have hsign : signOf core = [] := if_neg hm
    refine ⟨core, ?_, ?_⟩
    · rw [hsign, List.nil_append]
    · rw [markCore, if_neg hm, hsign]
      split <;> rfl

/-- A text with the symbol put in once: inside of all layers of parentheses around the core and after its sign.
No other character is put in, taken out or moved, blanks aside, and a blank core has no place for the symbol. -/
structure MarkedOnce (symbol text : List Char) (layers : Nat) (core result : List Char) : Prop where
  shape : result = inLayers layers (markCore symbol core)
  place : ∃ before behind, before = List.replicate layers '(' ++ signOf core ∧ visible text = before ++ behind ∧
    visible result = before ++ (if core.all isBlank then [] else visible symbol) ++ behind

theorem Peels.markedOnce {symbol text core : List Char} {layers : Nat} (h : Peels text layers core)
    (hs : symbol.all isBlank = false) (hn : ¬symbol <:+: trim text) :
    MarkedOnce symbol text layers core (withSymbolChars symbol text) := by
  have hshape := h.withSymbolChars_eq hs hn
  obtain ⟨rest, hcore, hmarked⟩ := exists_markCore symbol core
  have hvisible : visible core = signOf core ++ visible rest := by
    rw [← visible_signOf core, ← Text.visible_append, ← hcore]
  have hplaced : visible (markCore symbol core) =
      signOf core ++ (if core.all isBlank then [] else visible symbol) ++ visible rest := by
    rw [hmarked, Text.visible_append, Text.visible_append, visible_signOf, apply_ite visible]
    rfl
  refine ⟨hshape, _, visible rest ++ List.replicate layers ')', rfl, ?_, ?_⟩
  · rw [h.visible_eq, hvisible, inLayers]
    simp only [List.append_assoc]
  · rw [hshape, visible_inLayers, hplaced, inLayers]
    simp only [List.append_assoc]

/-- A symbol is put into an amount once, however often it is asked for. The amount without it has layers of
parentheses around a core, and the symbol goes inside of them all, after a minus sign. -/
theorem symbol_is_inserted_once (text symbol : String) (hs : Text.allBlank symbol = false)
    (ht : Text.trimmed symbol = symbol) :
    withSymbol (withSymbol text symbol) symbol = withSymbol text symbol ∧
      (¬symbol.toList <:+: trim text.toList →
        (∃ layers core, Peels text.toList layers core) ∧
        ∀ layers core, Peels text.toList layers core →
          MarkedOnce symbol.toList text.toList layers core (withSymbol text symbol).toList) := by
  have ht' : trim symbol.toList = symbol.toList := by
    rw [← String.toList_inj, Text.trimmed, String.toList_ofList] at ht
    exact ht
  refine ⟨?_, fun hn => ⟨exists_peels text.toList, fun layers core h => ?_⟩⟩
  · rw [withSymbol, withSymbol, String.toList_ofList, withSymbolChars_withSymbolChars hs ht']
  · rw [withSymbol, String.toList_ofList]
    exact h.markedOnce hs hn

/-- A loss in two layers of parentheses with blanks between them. -/
theorem loss_in_parentheses_is_marked :
    let text := " ( ( -1,234.00 )) "
    let core := "-1,234.00".toList
    Text.allBlank "kr." = false ∧ Text.trimmed "kr." = "kr." ∧ ¬"kr.".toList <:+: trim text.toList ∧
      Peels text.toList 2 core ∧ withSymbol text "kr." = "((-kr.1,234.00))" ∧
      MarkedOnce "kr.".toList text.toList 2 core (withSymbol text "kr.").toList ∧
      withSymbol "((-kr.1,234.00))" "kr." = "((-kr.1,234.00))" := by
  intro text core
  have hs : Text.allBlank "kr." = false := by decide
  have ht : Text.trimmed "kr." = "kr." := by decide
  have hn : ¬"kr.".toList <:+: trim text.toList := by
    rw [← Text.occursIn_eq_true_iff]
    decide
  have hp : Peels text.toList 2 core :=
    @Peels.layer _ " ( -1,234.00 )".toList _ _ (by decide) (@Peels.layer _ " -1,234.00 ".toList _ _ (by decide)
      (@Peels.core " -1,234.00 ".toList (by decide) (.inl (by decide))))
  obtain ⟨htwice, hmarked⟩ := symbol_is_inserted_once text "kr." hs ht
  have hm := (hmarked hn).2 2 core hp
  have hw : withSymbol text "kr." = "((-kr.1,234.00))" := String.toList_inj.mp (hm.shape.trans (by decide))
  exact ⟨hs, ht, hn, hp, hw, hm, (congrArg (withSymbol · "kr.") hw).symm.trans (htwice.trans hw)⟩

end Money

end RecordNaming
