/-
  RecordNaming.Proofs.Numeral.Specifiers — the standard specifiers and the patterns that spell them.

  (1) A pattern of plain characters is one section, each character a token of its own (`tokenize_plain`).

  (2) Tokens with no text between the digits show a plain numeral (`Shows.eq_numeral`).

  (3) With zeros only behind the point all places are shown (`FixedTokens.shows_eq`).

  (4) A standard numeral has the digits of the same count of units (`fixed_eq`), whether or not the number has
  those places. So a pattern with all places shown is a standard numeral of the scaled number
  (`FixedPattern.applyPattern_eq_fixed`), and where the scaling fails so does the pattern.

  `specifiers_agree_with_patterns` compares the texts, signs and failures of the two for every decimal.
-/
import Mathlib.Data.List.TakeWhile
import RecordNaming.Proofs.Numeral.Custom

namespace RecordNaming.Numeral

/-! ## (1) Plain patterns -/

/-- A character that is a token of its own wherever it stands. -/
def isPlain (c : Char) : Bool := c != '\\' && !isQuote c && c != 'e' && c != 'E'

theorem isPlain_iff {c : Char} : isPlain c = true ↔ c ≠ '\\' ∧ isQuote c = false ∧ c ≠ 'e' ∧ c ≠ 'E' := by
  simp only [isPlain, Bool.and_eq_true, bne_iff_ne, Bool.not_eq_true', ne_eq, and_assoc]

theorem tokenize_plain {pattern : List Char} (h : ∀ c ∈ pattern, isPlain c = true) :
    tokenize none pattern = .ok (pattern.map Token.ofChar) := by
  induction pattern with
  | nil => rfl
  | cons c rest ih =>
    obtain ⟨hb, hq, he, hE⟩ := isPlain_iff.mp (h c List.mem_cons_self)
    have hx : startsExponent c rest = false := by simp [startsExponent, he, hE]
    rw [tokenize_cons hb, hq, hx, ih fun d hd => h d (List.mem_cons_of_mem c hd)]
    rfl

theorem bare_plain {pattern : List Char} (h : ∀ c ∈ pattern, isPlain c = true) : bare none pattern = pattern := by
  induction pattern with
  | nil => rfl
  | cons c rest ih =>
    obtain ⟨hb, hq, -⟩ := isPlain_iff.mp (h c List.mem_cons_self)
    rw [bare_cons hb, hq, ih fun d hd => h d (List.mem_cons_of_mem c hd)]
    rfl

theorem sections_plain {pattern : List Char} (h : ∀ c ∈ pattern, isPlain c = true) (hs : ';' ∉ pattern) :
    sections none pattern = .ok [pattern] :=
  sections_eq_singleton (tokenize_plain h) (by rwa [bare_plain h])

/-! ## (2) Plain numerals -/

/-- Tokens that show nothing of their own. -/
def Silent (tokens : List Token) : Prop := ∀ t ∈ tokens, t.isPlaceholder = false → t.ownText = []

theorem Trimmed.eq_nil {least : Nat} {shown : List Char} (h : Trimmed least [] shown) : shown = [] := by
  obtain ⟨k, hk⟩ := h.zeros
  exact (List.append_eq_nil_iff.mp hk.symm).1

theorem Trimmed.length_le {least : Nat} {all shown : List Char} (h : Trimmed least all shown) :
    shown.length ≤ all.length := by
  obtain ⟨k, hk⟩ := h.zeros
  rw [hk, List.length_append]
  omega

/-- Tokens with text of their own at the end only show a plain numeral in front of it. -/
theorem Shows.eq_numeral {tokens w ws q qs : List Token} {units : Nat} {text : List Char}
    (h : Shows tokens units text) (hw : wholeTokens tokens = w ++ ws) (hq : placeTokens tokens = q ++ qs)
    (hsw : Silent w) (hsq : Silent q) (hws : ∀ t ∈ ws, t.isPlaceholder = false)
    (hqs : ∀ t ∈ qs, t.isPlaceholder = false)
    (hend : ws = [] ∨ (placeTokens tokens = [] ∧ wholeSlots tokens ≠ 0)) :
    ∃ places, Trimmed (leastPlaces (placeTokens tokens)) (Text.lastDigits (placeSlots tokens) units) places ∧
      text = (chunks (commas (wholeTokens tokens)).grouping
          (shownWhole (leastWhole (wholeTokens tokens)) (units / tenPow (placeSlots tokens)))).flatten ++
        (if places = [] then [] else '.' :: places) ++
        (ws.map Token.ownText).flatten ++ (qs.map Token.ownText).flatten := by
  obtain ⟨grouping, shares, places, front, back, hl, rfl⟩ := h
  have hgroup : grouping = (commas (wholeTokens tokens)).grouping := by
    rw [Bool.eq_iff_iff, hl.grouping_iff, (commas_readFrom _).grouping]
  subst hgroup
  refine ⟨places, hl.trimmed, ?_⟩
  have hfront := hl.front
  rw [hw] at hfront
  obtain ⟨s, s', t, t', hs, rfl, ht, ht'⟩ := hfront.append_inv
  obtain ⟨rfl, rfl⟩ := ht'.eq_ownText hws
  rw [List.append_nil] at hs
  obtain rfl := ht.eq_flatten hsw
  have hback := hl.back
  rw [hq] at hback
  obtain ⟨b, b', u, u', hb, rfl, hu, hu'⟩ := hback.append_inv
  obtain ⟨rfl, rfl⟩ := hu'.eq_ownText hqs
  obtain rfl := hu.eq_flatten hsq
  have hplaces : b.flatten = places := by
    rw [List.append_nil] at hb
    rw [← hb]
    exact flatten_placeShares (hl.trimmed.length_le.trans_eq (Text.length_lastDigits _ _))
  have hdigits : s.flatten ++ (if wholeSlots tokens = 0 then
      (chunks (commas (wholeTokens tokens)).grouping
        (shownWhole (leastWhole (wholeTokens tokens)) (units / tenPow (placeSlots tokens)))).flatten else []) =
      (chunks (commas (wholeTokens tokens)).grouping
        (shownWhole (leastWhole (wholeTokens tokens)) (units / tenPow (placeSlots tokens)))).flatten := by
    by_cases h0 : wholeSlots tokens = 0
    · have hs0 : s = [] := by
        rw [← hs]
        exact List.eq_nil_of_length_eq_zero (hl.front.length_eq.trans h0)
      rw [if_pos h0, hs0, List.flatten_nil, List.nil_append]
    · rw [if_neg h0, List.append_nil, ← hs]
      exact (hl.rightAligned h0).all
  rw [hplaces]
  rcases hend with rfl | ⟨hnil, hslots⟩
  · rw [List.map_nil, List.flatten_nil, List.append_nil, List.append_nil, hdigits]
    by_cases hp : places = [] <;> simp [hp]
  · have hp : places = [] := by
      have ht := hl.trimmed
      rw [placeSlots, hnil] at ht
      exact ht.eq_nil
    rw [if_neg hslots, List.append_nil] at hdigits
    rw [← hdigits, if_neg hslots, hp]
    simp

theorem wholeTokens_append_point {w : List Token} (hw : .point ∉ w) (rest : List Token) :
    wholeTokens (w ++ .point :: rest) = w ∧ placeTokens (w ++ .point :: rest) = rest := by
  have hne : ∀ t ∈ w, (t != .point) = true := fun t ht => bne_iff_ne.mpr fun he => hw (he ▸ ht)
  rw [wholeTokens, placeTokens, List.takeWhile_append_of_pos hne, List.dropWhile_append_of_pos hne]
  exact ⟨List.append_nil w, rfl⟩

theorem wholeTokens_of_notMem {w : List Token} (hw : .point ∉ w) : wholeTokens w = w ∧ placeTokens w = [] := by
  have hne : ∀ t ∈ w, (t != .point) = true := fun t ht => bne_iff_ne.mpr fun he => hw (he ▸ ht)
  rw [wholeTokens, placeTokens, List.takeWhile_eq_self_iff.mpr hne, List.dropWhile_eq_nil_iff.mpr hne]
  exact ⟨rfl, rfl⟩

section

variable {suffix : List Token} (hs : ∀ t ∈ suffix, t.isPlaceholder = false)

include hs

theorem filter_append_suffix (w : List Token) :
    (w ++ suffix).filter Token.isPlaceholder = w.filter Token.isPlaceholder := by
  have hf : suffix.filter Token.isPlaceholder = [] :=
    List.filter_eq_nil_iff.mpr fun t ht => by rw [hs t ht]; exact Bool.false_ne_true
  rw [List.filter_append, hf, List.append_nil]

/-- Text at the end does not change what the commas in front of it do. -/
theorem grouping_append_suffix (w : List Token) : (commas (w ++ suffix)).grouping = (commas w).grouping := by
  induction suffix using List.reverseRecOn with
  | nil => rw [List.append_nil]
  | append_singleton suffix token ih =>
    have hn : commas (w ++ (suffix ++ [token])) = (commas (w ++ suffix)).next token := by
      rw [← List.append_assoc, commas, List.foldl_append]
      rfl
    rw [hn, Commas.next_other _ (hs token (by simp))]
    exact ih fun t ht => hs t (List.mem_append_left _ ht)

end

/-- Text at the end without commas leaves the commas that close the whole part. -/
theorem closingCommas_append_suffix {suffix : List Token} (hs : ∀ t ∈ suffix, t.isPlaceholder = false ∧ t ≠ .comma)
    (w : List Token) : closingCommas (w ++ suffix) = closingCommas w := by
  induction suffix using List.reverseRecOn with
  | nil => rw [List.append_nil]
  | append_singleton suffix token ih =>
    obtain ⟨hp, hc⟩ := hs token (by simp)
    have hne : (token == .comma) = false := beq_false_of_ne hc
    rw [← List.append_assoc, closingCommas_other hp, hne, Bool.and_false, if_neg Bool.false_ne_true, Nat.add_zero]
    exact ih fun t ht => hs t (List.mem_append_left _ ht)

/-- Only the percent and per mille signs scale. -/
theorem scaleUp_append {tokens : List Token} (h : ∀ t ∈ tokens, t ≠ .percent ∧ t ≠ .perMille) (d : Decimal)
    (rest : List Token) : scaleUp d (tokens ++ rest) = scaleUp d rest := by
  induction tokens with
  | nil => rfl
  | cons token tokens ih =>
    obtain ⟨h1, h2⟩ := h token List.mem_cons_self
    have hi := ih fun t ht => h t (List.mem_cons_of_mem token ht)
    cases token with
    | percent => exact absurd rfl h1
    | perMille => exact absurd rfl h2
    | _ => exact hi

theorem Silent.not_sign {tokens : List Token} (h : Silent tokens) :
    ∀ t ∈ tokens, t ≠ .percent ∧ t ≠ .perMille := by
  intro t ht
  constructor
  · rintro rfl
    cases h _ ht rfl
  · rintro rfl
    cases h _ ht rfl

/-! ## (3) All places shown -/

/-- The tokens of `n` places that are all shown. -/
def zeroPlaces (n : Nat) : List Token := if n = 0 then [] else .point :: List.replicate n .zero

theorem mem_zeroPlaces {n : Nat} {t : Token} (h : t ∈ zeroPlaces n) : t = .point ∨ t = .zero := by
  unfold zeroPlaces at h
  split at h
  · cases h
  · rw [List.mem_cons] at h
    exact h.imp_right List.eq_of_mem_replicate

theorem filter_replicate_zero (n : Nat) :
    (List.replicate n Token.zero).filter Token.isPlaceholder = List.replicate n .zero := by
  rw [List.filter_replicate]
  rfl

theorem dropWhile_replicate_zero (n : Nat) :
    (List.replicate n Token.zero).dropWhile (· != .zero) = List.replicate n .zero := by
  cases n <;> rfl

theorem leastPlaces_replicate (n : Nat) : leastPlaces (List.replicate n .zero) = n := by
  rw [leastPlaces, filter_replicate_zero, List.reverse_replicate, dropWhile_replicate_zero, List.length_replicate]

theorem silent_replicate_zero (n : Nat) : Silent (List.replicate n .zero) := by
  intro t ht hf
  rw [List.eq_of_mem_replicate ht] at hf
  cases hf

/-- Tokens of whole digits, the last of which is always shown, and text that may stand behind the places. -/
structure FixedTokens (w suffix : List Token) : Prop where
  silent : Silent w
  point : .point ∉ w
  zero : w.getLast? = some .zero
  suffix : ∀ t ∈ suffix, t.isPlaceholder = false ∧ t ≠ .comma ∧ t ≠ .point

section

variable {w suffix : List Token} (h : FixedTokens w suffix)

include h

theorem FixedTokens.mem_zero : .zero ∈ w := List.mem_of_getLast? h.zero

theorem FixedTokens.other : ∀ t ∈ suffix, t.isPlaceholder = false := fun t ht => (h.suffix t ht).1

/-- Without places the text stands in the whole part. -/
theorem FixedTokens.parts (n : Nat) :
    wholeTokens (w ++ zeroPlaces n ++ suffix) = w ++ (if n = 0 then suffix else []) ∧
      placeTokens (w ++ zeroPlaces n ++ suffix) = List.replicate n .zero ++ (if n = 0 then [] else suffix) := by
  by_cases h0 : n = 0
  · have hp : .point ∉ w ++ suffix := by
      rw [List.mem_append, not_or]
      exact ⟨h.point, fun hm => (h.suffix _ hm).2.2 rfl⟩
    rw [zeroPlaces, if_pos h0, if_pos h0, if_pos h0, List.append_nil, h0]
    exact wholeTokens_of_notMem hp
  · rw [zeroPlaces, if_neg h0, if_neg h0, if_neg h0, List.append_assoc, List.cons_append, List.append_nil]
    exact wholeTokens_append_point h.point _

theorem FixedTokens.part_other (n : Nat) {t : Token} :
    (t ∈ (if n = 0 then suffix else []) → t.isPlaceholder = false) ∧
      (t ∈ (if n = 0 then [] else suffix) → t.isPlaceholder = false) := by
  by_cases h0 : n = 0
  · rw [if_pos h0, if_pos h0]
    exact ⟨h.other t, nofun⟩
  · rw [if_neg h0, if_neg h0]
    exact ⟨nofun, h.other t⟩

theorem FixedTokens.placeSlots_eq (n : Nat) : placeSlots (w ++ zeroPlaces n ++ suffix) = n := by
  rw [placeSlots, (h.parts n).2, List.countP_eq_length_filter,
    filter_append_suffix fun t ht => (h.part_other n).2 ht, filter_replicate_zero, List.length_replicate]

theorem FixedTokens.leastPlaces_eq (n : Nat) : leastPlaces (placeTokens (w ++ zeroPlaces n ++ suffix)) = n := by
  rw [(h.parts n).2, leastPlaces, filter_append_suffix fun t ht => (h.part_other n).2 ht, ← leastPlaces,
    leastPlaces_replicate]

theorem FixedTokens.leastWhole_eq (n : Nat) :
    leastWhole (wholeTokens (w ++ zeroPlaces n ++ suffix)) = leastWhole w := by
  rw [(h.parts n).1, leastWhole, filter_append_suffix fun t ht => (h.part_other n).1 ht, ← leastWhole]

theorem FixedTokens.grouping_eq (n : Nat) :
    (commas (wholeTokens (w ++ zeroPlaces n ++ suffix))).grouping = (commas w).grouping := by
  rw [(h.parts n).1, grouping_append_suffix fun t ht => (h.part_other n).1 ht]

theorem FixedTokens.closingCommas_eq (n : Nat) : closingCommas (wholeTokens (w ++ zeroPlaces n ++ suffix)) = 0 := by
  have hs : ∀ t ∈ (if n = 0 then suffix else []), t.isPlaceholder = false ∧ t ≠ .comma := by
    intro t ht
    split at ht
    · exact ⟨(h.suffix t ht).1, (h.suffix t ht).2.1⟩
    · cases ht
  obtain ⟨v, rfl⟩ := List.getLast?_eq_some_iff.mp h.zero
  rw [(h.parts n).1, closingCommas_append_suffix hs, closingCommas_placeholder rfl]

theorem FixedTokens.scaleUp_eq (n : Nat) (d : Decimal) :
    scaleUp d (w ++ zeroPlaces n ++ suffix) = scaleUp d suffix := by
  refine scaleUp_append (fun t ht => ?_) d suffix
  rw [List.mem_append] at ht
  rcases ht with ht | ht
  · exact h.silent.not_sign t ht
  · rcases mem_zeroPlaces ht with rfl | rfl
    · exact ⟨nofun, nofun⟩
    · exact ⟨nofun, nofun⟩

/-- Such tokens show the whole digits, the places, and the text at the end. -/
theorem FixedTokens.shows_eq {n units : Nat} {text : List Char} (hs : Shows (w ++ zeroPlaces n ++ suffix) units text) :
    text = (chunks (commas w).grouping (shownWhole (leastWhole w) (units / tenPow n))).flatten ++
      (if n = 0 then [] else '.' :: Text.lastDigits n units) ++ (suffix.map Token.ownText).flatten := by
  obtain ⟨hwhole, hplace⟩ := h.parts n
  have hend : (if n = 0 then suffix else []) = [] ∨
      placeTokens (w ++ zeroPlaces n ++ suffix) = [] ∧ wholeSlots (w ++ zeroPlaces n ++ suffix) ≠ 0 := by
    by_cases h0 : n = 0
    · refine .inr ⟨by rw [hplace, h0]; rfl, ?_⟩
      rw [wholeSlots, hwhole]
      exact Nat.pos_iff_ne_zero.mp (List.countP_pos_iff.mpr ⟨.zero, List.mem_append_left _ h.mem_zero, rfl⟩)
    · exact .inl (if_neg h0)
  obtain ⟨places, ht, hx⟩ := hs.eq_numeral hwhole hplace h.silent (silent_replicate_zero n)
    (fun t ht => (h.part_other n).1 ht) (fun t ht => (h.part_other n).2 ht) hend
  rw [h.leastPlaces_eq, h.placeSlots_eq] at ht
  have hplaces := ht.eq_all (Nat.le_of_eq (Text.length_lastDigits _ _))
  rw [hx, h.grouping_eq, h.leastWhole_eq, h.placeSlots_eq, hplaces]
  by_cases h0 : n = 0
  · subst h0
    simp [Text.lastDigits]
  · have hne : Text.lastDigits n units ≠ [] := by
      intro he
      have hlen := congrArg List.length he
      rw [Text.length_lastDigits] at hlen
      exact h0 hlen
    simp [h0, hne]

end

/-! ## (4) Standard numerals -/

theorem fixed_eq (d : Decimal) (places : Nat) (grouping : Bool) :
    fixed d places grouping =
      ⟨(chunks grouping (Text.natDigits (nearestUnits d.value places / tenPow places))).flatten ++
        (if places = 0 then [] else '.' :: Text.lastDigits places (nearestUnits d.value places)),
        nearestUnits d.value places == 0⟩ := by
  rw [fixed, d.abs.integerDigits_round, d.abs.fractionDigits_round, d.abs.isZero_round, d.value_abs, nearestUnits_abs]

/-- A letter and the digits of a number up to 99. -/
theorem specifier?_letter {letter : Char} (hl : isLetter letter = true) {n : Nat} (hn : n ≤ 99) :
    specifier? (letter :: Text.natDigits n) = some (letter, some n) := by
  have hlen : (Text.natDigits n).length ≤ 2 := (Nat.length_toDigits_le_iff (by decide) (by decide)).mpr (by omega)
  have hne : (Text.natDigits n).isEmpty = false := by
    rw [List.isEmpty_eq_false_iff]
    exact Text.natDigits_ne_nil n
  have hall : (Text.natDigits n).all Text.isDigit = true :=
    List.all_eq_true.mpr fun c hc => Text.isDigit_of_mem_natDigits hc
  have hv : Text.digitsValue (Text.natDigits n) = n := Text.digitsFrom_natDigits n
  simp [specifier?, hl, hlen, hne, hall, hv]

theorem padded_eq_self {count : Nat} (h : count ≤ 1) (n : Nat) : Text.padded count n = Text.natDigits n := by
  have hlen : 0 < (Text.natDigits n).length := List.length_pos_iff.mpr (Text.natDigits_ne_nil n)
  have h0 : count - (Text.natDigits n).length = 0 := by omega
  rw [Text.padded, List.leftpad, h0]
  rfl

/-- Where a whole digit has to be shown, zero is a digit as well. -/
theorem shownWhole_eq_padded {least : Nat} (h : 1 ≤ least) (n : Nat) : shownWhole least n = Text.padded least n := by
  rw [shownWhole, Text.padded]
  by_cases hn : n = 0
  · obtain ⟨k, rfl⟩ : ∃ k, least = k + 1 := ⟨least - 1, by omega⟩
    have h0 : Text.natDigits 0 = ['0'] := rfl
    rw [if_pos hn, hn, h0, List.leftpad, List.leftpad, List.length_nil, List.length_singleton, Nat.sub_zero,
      Nat.add_sub_cancel, List.append_nil, List.replicate_succ']
  · rw [if_neg hn]

/-! ## Patterns with all places shown -/

/-- The pattern of `n` places that are all shown. -/
def placesPattern (n : Nat) : List Char := if n = 0 then [] else '.' :: List.replicate n '0'

theorem mem_placesPattern {n : Nat} {c : Char} (h : c ∈ placesPattern n) : c = '.' ∨ c = '0' := by
  unfold placesPattern at h
  split at h
  · cases h
  · rw [List.mem_cons] at h
    exact h.imp_right List.eq_of_mem_replicate

theorem map_placesPattern (n : Nat) : (placesPattern n).map Token.ofChar = zeroPlaces n := by
  unfold placesPattern zeroPlaces
  split
  · rfl
  · rw [List.map_cons, List.map_replicate]
    rfl

/-- A pattern of plain characters that shows at least one whole digit and all of its `n` places, with text at the
end. -/
structure FixedPattern (pattern : List Char) (w : List Token) (n : Nat) (suffix : List Token) : Prop where
  plain : ∀ c ∈ pattern, isPlain c = true
  semicolon : ';' ∉ pattern
  specifier : specifier? pattern = none
  tokens : pattern.map Token.ofChar = w ++ zeroPlaces n ++ suffix
  fixedTokens : FixedTokens w suffix

section

variable {pattern : List Char} {w suffix : List Token} {n : Nat} (h : FixedPattern pattern w n suffix)

include h

theorem FixedPattern.tokenize_eq : tokenize none pattern = .ok (w ++ zeroPlaces n ++ suffix) :=
  (tokenize_plain h.plain).trans (congrArg _ h.tokens)

theorem FixedPattern.sections_eq : sections none pattern = .ok [pattern] := sections_plain h.plain h.semicolon

theorem FixedPattern.mem_zero : .zero ∈ w ++ zeroPlaces n ++ suffix :=
  List.mem_append_left _ (List.mem_append_left _ h.fixedTokens.mem_zero)

/-- A decimal in such a pattern: the whole digits of the scaled number, its places, and the text at the end. -/
theorem FixedPattern.applyPattern_eq {d up : Decimal} (hu : scaleUp d.abs suffix = .ok up) :
    applyPattern d pattern = .ok (withSign d
      ((chunks (commas w).grouping (shownWhole (leastWhole w) (nearestUnits up.value n / tenPow n))).flatten ++
        (if n = 0 then [] else '.' :: Text.lastDigits n (nearestUnits up.value n)) ++
        (suffix.map Token.ownText).flatten)
      (nearestUnits up.value n == 0)) := by
  have hup : scaleUp d.abs (w ++ zeroPlaces n ++ suffix) = .ok up := (h.fixedTokens.scaleUp_eq n _).trans hu
  have hdown : scaleDown up (closingCommas (wholeTokens (w ++ zeroPlaces n ++ suffix))) = .ok up := by
    rw [h.fixedTokens.closingCommas_eq]
    rfl
  obtain ⟨text, hs, happly⟩ := applyPattern_shows h.specifier h.sections_eq h.tokenize_eq
    (.inl ⟨.zero, h.mem_zero, rfl⟩) hup hdown
  rw [h.fixedTokens.placeSlots_eq] at hs happly
  rw [happly, h.fixedTokens.shows_eq hs]

theorem FixedPattern.applyPattern_error {d : Decimal} {e : FormatError} (hu : scaleUp d.abs suffix = .error e) :
    applyPattern d pattern = .error e := by
  have herror := renderSection_error h.tokenize_eq (List.ne_nil_of_mem h.mem_zero) ((h.fixedTokens.scaleUp_eq n _).trans hu)
  rw [applyPattern_custom h.specifier h.sections_eq, herror]
  rfl

/-- With one whole digit at least, such a pattern shows the fixed numeral of the scaled number. -/
theorem FixedPattern.applyPattern_eq_fixed {d up : Decimal} (hw : leastWhole w = 1)
    (hu : scaleUp d.abs suffix = .ok up) :
    applyPattern d pattern = .ok (withSign d
      ((fixed up n (commas w).grouping).text ++ (suffix.map Token.ownText).flatten)
      (fixed up n (commas w).grouping).isZero) := by
  rw [h.applyPattern_eq hu, hw, shownWhole_eq_padded (Nat.le_refl 1), padded_eq_self (Nat.le_refl 1), fixed_eq]

end

/-! ## Specifiers and their patterns -/

/-- Whole digits in groups of three, at least one of them, and `n` places. -/
def groupedPattern (n : Nat) : List Char := ['#', ',', '#', '#', '0'] ++ placesPattern n

theorem placesPattern_plain (f : List Char) (hf : ∀ c ∈ f, isPlain c = true ∧ c ≠ ';') (n : Nat) :
    ∀ c ∈ f ++ placesPattern n, isPlain c = true ∧ c ≠ ';' := by
  intro c hc
  rw [List.mem_append] at hc
  rcases hc with hc | hc
  · exact hf c hc
  · rcases mem_placesPattern hc with rfl | rfl
    · exact ⟨rfl, by decide⟩
    · exact ⟨rfl, by decide⟩

theorem groupedPattern_fixed (n : Nat) :
    FixedPattern (groupedPattern n) [.hash, .comma, .hash, .hash, .zero] n [] := by
  have hp := placesPattern_plain ['#', ',', '#', '#', '0'] (by simp [isPlain, isQuote]) n
  refine ⟨fun c hc => (hp c hc).1, fun hc => (hp _ hc).2 rfl, rfl, ?_, ⟨?_, by decide, rfl, nofun⟩⟩
  · rw [groupedPattern, List.map_append, map_placesPattern, List.append_nil]
    rfl
  · unfold Silent
    decide

theorem percentPattern_fixed (n : Nat) : FixedPattern (groupedPattern n ++ [' ', '%'])
    [.hash, .comma, .hash, .hash, .zero] n [.literal [' '], .percent] := by
  have hg := groupedPattern_fixed n
  refine ⟨fun c hc => ?_, fun hc => ?_, rfl, ?_, ⟨hg.fixedTokens.silent, hg.fixedTokens.point, hg.fixedTokens.zero, by decide⟩⟩
  · have he : ∀ d ∈ [' ', '%'], isPlain d = true := by simp [isPlain, isQuote]
    rcases List.mem_append.mp hc with hc | hc
    · exact hg.plain c hc
    · exact he c hc
  · rcases List.mem_append.mp hc with hc | hc
    · exact hg.semicolon hc
    · revert hc
      decide
  · rw [List.map_append, hg.tokens, List.append_nil]
    rfl

theorem digitPattern_fixed (n : Nat) : FixedPattern ('0' :: placesPattern n) [.zero] n [] := by
  have hp := placesPattern_plain ['0'] (by simp [isPlain, isQuote]) n
  refine ⟨fun c hc => (hp c hc).1, fun hc => (hp _ hc).2 rfl, rfl, ?_, ⟨?_, by decide, rfl, nofun⟩⟩
  · rw [List.map_cons, map_placesPattern, List.append_nil]
    rfl
  · unfold Silent
    decide

theorem zerosPattern_fixed (k : Nat) :
    FixedPattern (List.replicate (k + 1) '0') (List.replicate (k + 1) .zero) 0 [] := by
  refine ⟨fun c hc => ?_, fun hc => ?_, rfl, ?_, ⟨silent_replicate_zero _, fun hc => ?_, ?_, nofun⟩⟩
  · rw [List.eq_of_mem_replicate hc]
    rfl
  · cases List.eq_of_mem_replicate hc
  · rw [List.map_replicate, List.append_nil]
    exact (List.append_nil _).symm
  · cases List.eq_of_mem_replicate hc
  · rw [List.replicate_succ', List.getLast?_concat]

theorem leastWhole_replicate (n : Nat) : leastWhole (List.replicate n .zero) = n := by
  rw [leastWhole, filter_replicate_zero, dropWhile_replicate_zero, List.length_replicate]

/-- Neither the grouping nor the commas matter where there are none. -/
theorem grouping_replicate_zero (n : Nat) : (commas (List.replicate n .zero)).grouping = false := by
  rw [← Bool.not_eq_true, (commas_readFrom _).grouping]
  rintro ⟨a, b, h, -⟩
  have hm : Token.comma ∈ List.replicate n Token.zero := by
    rw [h]
    simp
  cases List.eq_of_mem_replicate hm

theorem flatten_chunks_false (digits : List Char) : (chunks false digits).flatten = digits := by
  induction digits with
  | nil => rfl
  | cons d ds ih =>
    rw [chunks, List.flatten_cons, ih]
    rfl

/-- A decimal without places, in units of one. -/
theorem units_of_isIntegral {d : Decimal} (h : d.isIntegral = true) :
    nearestUnits d.value 0 * tenPow d.scale = d.magnitude := by
  have hp := tenPow_pos d.scale
  obtain ⟨k, hk⟩ : tenPow d.scale ∣ d.magnitude := Nat.dvd_of_mod_eq_zero (beq_iff_eq.mp h)
  rw [d.nearestUnits_value]
  by_cases hs : 0 < d.scale
  · have hhalf : tenPow d.scale / 2 / tenPow d.scale = 0 :=
      Nat.div_eq_of_lt (Nat.div_lt_self hp (by decide))
    rw [if_pos hs, Decimal.halfUp, Nat.sub_zero, hk, Nat.mul_add_div hp, hhalf, Nat.add_zero, Nat.mul_comm]
  · have h0 : d.scale = 0 := by omega
    rw [if_neg hs, h0, tenPow_zero, Nat.mul_one, Nat.mul_one]

section

variable (v : Decimal) {n : Nat} (hn : n ≤ 99)

include hn

theorem applyPattern_letter {letter : Char} (hl : isLetter letter = true) :
    applyPattern v (letter :: Text.natDigits n) = formatStandard v letter (some n) := by
  rw [applyPattern, specifier?_letter hl hn]

theorem grouped_specifier : applyPattern v ('N' :: Text.natDigits n) = applyPattern v (groupedPattern n) := by
  rw [applyPattern_letter v hn rfl, (groupedPattern_fixed n).applyPattern_eq_fixed rfl rfl, List.map_nil,
    List.flatten_nil, List.append_nil]
  rfl

theorem digit_specifier : applyPattern v ('F' :: Text.natDigits n) = applyPattern v ('0' :: placesPattern n) := by
  rw [applyPattern_letter v hn rfl, (digitPattern_fixed n).applyPattern_eq_fixed rfl rfl, List.map_nil,
    List.flatten_nil, List.append_nil]
  rfl

/-- The product with 100 is there for a number if it is there for its magnitude. -/
theorem percent_specifier :
    applyPattern v ('P' :: Text.natDigits n) = applyPattern v (groupedPattern n ++ [' ', '%']) := by
  obtain ⟨hundred, hh, hneg⟩ : ∃ f, Decimal.ofParts? 100 0 = some f ∧ f.negative = false := ⟨_, rfl, rfl⟩
  have hmul := v.mul?_abs hneg
  have hl : Char.toUpper 'P' = 'P' := rfl
  rw [applyPattern_letter v hn rfl]
  cases hm : v.mul? hundred with
  | none =>
    rw [hm] at hmul
    have hscale : scaleUp v.abs [.literal [' '], .percent] = .error .overflow := by
      simp only [scaleUp, hh, hmul, Option.map_none]
    rw [(percentPattern_fixed n).applyPattern_error hscale]
    simp only [formatStandard, hl, hh, Option.bind_some, hm]
  | some percent =>
    rw [hm] at hmul
    have hscale : scaleUp v.abs [.literal [' '], .percent] = .ok percent.abs := by
      simp only [scaleUp, hh, hmul, Option.map_some]
    rw [(percentPattern_fixed n).applyPattern_eq_fixed rfl hscale]
    simp only [formatStandard, hl, hh, Option.bind_some, hm]
    rfl

theorem whole_specifier (hv : v.isIntegral = true) :
    applyPattern v ('D' :: Text.natDigits n) = applyPattern v (List.replicate (max n 1) '0') := by
  obtain ⟨k, hk⟩ : ∃ k, max n 1 = k + 1 := ⟨max n 1 - 1, by omega⟩
  have hp := tenPow_pos v.scale
  have hunits := units_of_isIntegral hv
  have hdigits : v.integerDigits = Text.natDigits (nearestUnits v.value 0) := by
    rw [Decimal.integerDigits, ← hunits, Nat.mul_div_cancel _ hp]
  have hzero : v.isZero = (nearestUnits v.value 0 == 0) := by
    rw [Decimal.isZero, ← hunits, Bool.eq_iff_iff, beq_iff_eq, beq_iff_eq, Nat.mul_eq_zero, or_iff_left hp.ne']
  have hpadded : Text.padded (k + 1) (nearestUnits v.value 0) = Text.padded n (nearestUnits v.value 0) := by
    by_cases h0 : n = 0
    · rw [padded_eq_self (by omega), padded_eq_self (by omega)]
    · have hkn : k + 1 = n := by omega
      rw [hkn]
  have hstd : formatStandard v 'D' (some n) =
      .ok (withSign v (Text.padded n (nearestUnits v.value 0)) (nearestUnits v.value 0 == 0)) := by
    have hl : Char.toUpper 'D' = 'D' := rfl
    simp only [formatStandard, hl, hv, if_true, Option.getD_some, hdigits, hzero]
    rfl
  rw [applyPattern_letter v hn rfl, hstd, hk, (zerosPattern_fixed k).applyPattern_eq rfl,
    grouping_replicate_zero, flatten_chunks_false, leastWhole_replicate, shownWhole_eq_padded (by omega),
    tenPow_zero, Nat.div_one, Decimal.value_abs, nearestUnits_abs, hpadded]
  simp

end

/-- A standard specifier and the pattern that spells it give the same text for every decimal, or the same failure:
grouped and fixed numerals with their places, percentages, and whole numbers padded with zeros. -/
theorem specifiers_agree_with_patterns (v : Decimal) {n : Nat} (hn : n ≤ 99) :
    applyPattern v ('N' :: Text.natDigits n) = applyPattern v (groupedPattern n) ∧
      applyPattern v ('F' :: Text.natDigits n) = applyPattern v ('0' :: placesPattern n) ∧
      applyPattern v ('P' :: Text.natDigits n) = applyPattern v (groupedPattern n ++ [' ', '%']) ∧
      (v.isIntegral = true →
        applyPattern v ('D' :: Text.natDigits n) = applyPattern v (List.replicate (max n 1) '0')) :=
  ⟨grouped_specifier v hn, digit_specifier v hn, percent_specifier v hn, whole_specifier v hn⟩

/-- A negative whole number that has places to show. -/
theorem five_places_of_whole_number_agree :
    let v : Decimal := ⟨true, 123400, 2, by decide, by decide⟩
    5 ≤ 99 ∧ v.isIntegral = true ∧
      (applyPattern v "N5".toList = applyPattern v "#,##0.00000".toList ∧
        applyPattern v "F5".toList = applyPattern v "0.00000".toList ∧
        applyPattern v "P5".toList = applyPattern v "#,##0.00000 %".toList ∧
        applyPattern v "D5".toList = applyPattern v "00000".toList) ∧
      applyPattern v "P5".toList = .ok "-123,400.00000 %".toList ∧ applyPattern v "D5".toList = .ok "-01234".toList := by
  intro v
  have hv : v.isIntegral = true := by decide
  obtain ⟨hN, hF, hP, hD⟩ := specifiers_agree_with_patterns v (n := 5) (by decide)
  have hp : applyPattern v "P5".toList = .ok "-123,400.00000 %".toList := by decide +kernel
  have hd : applyPattern v "D5".toList = .ok "-01234".toList := by decide +kernel
  exact ⟨by decide, hv, ⟨hN, hF, hP, hD hv⟩, hp, hd⟩

example : let v : Decimal := ⟨false, Decimal.maxCoefficient, 0, by decide, by decide⟩
    applyPattern v "P2".toList = .error .overflow ∧ applyPattern v "#,##0.00 %".toList = .error .overflow := by
  decide +kernel

end RecordNaming.Numeral
