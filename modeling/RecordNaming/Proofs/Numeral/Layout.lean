/-
  RecordNaming.Proofs.Numeral.Layout — how the tokens of a section show a number.

  (1) A row of tokens is filled (`Filled`): each placeholder has its share of the digits, every other
  token its own text.

  (2) Before the point the digits go to the placeholders from the right, and the first placeholder has
  all that are too many (`RightAligned`); behind it they go from the left (`filled_layPlaces`).

  (3) A comma between two placeholders groups (`grouping_iff`); the commas behind the last one divide
  (`pending_eq`).

  `shows_layOut` puts them together: what a section shows of a rounded number depends on nothing but the
  count of units of the last place (`Shows`), and that determines the text (`Shows.unique`).
-/
import Mathlib.Data.List.Induction
import RecordNaming.Numeral.Section
import RecordNaming.Proofs.Decimal.Value

namespace RecordNaming.Numeral

/-! ## (1) Tokens filled with digits -/

/-- The text is the tokens in their order, each placeholder replaced by its share, every other token by
its own text. -/
inductive Filled : List Token → List (List Char) → List Char → Prop
  | nil : Filled [] [] []
  | placeholder {token : Token} {rest : List Token} {shares : List (List Char)} {text : List Char}
      (share : List Char) : token.isPlaceholder = true → Filled rest shares text →
      Filled (token :: rest) (share :: shares) (share ++ text)
  | other {token : Token} {rest : List Token} {shares : List (List Char)} {text : List Char} :
      token.isPlaceholder = false → Filled rest shares text →
      Filled (token :: rest) shares (token.ownText ++ text)

section

variable {tokens rest : List Token} {shares : List (List Char)} {text other : List Char}

theorem Filled.length_eq (h : Filled tokens shares text) : shares.length = tokens.countP Token.isPlaceholder := by
  induction h with
  | nil => rfl
  | placeholder share ht _ ih => rw [List.length_cons, ih, List.countP_cons_of_pos ht]
  | other ht _ ih => rw [ih, List.countP_cons_of_neg (by rw [ht]; exact Bool.false_ne_true)]

/-- Tokens without a text of their own show the shares alone. -/
theorem Filled.eq_flatten (h : Filled tokens shares text)
    (hown : ∀ t ∈ tokens, t.isPlaceholder = false → t.ownText = []) : text = shares.flatten := by
  induction h with
  | nil => rfl
  | placeholder share _ _ ih =>
    rw [List.flatten_cons, ih fun t ht => hown t (List.mem_cons_of_mem _ ht)]
  | other ht _ ih =>
    rw [hown _ List.mem_cons_self ht, List.nil_append]
    exact ih fun t ht => hown t (List.mem_cons_of_mem _ ht)

/-- Tokens without placeholders show their own text. -/
theorem Filled.eq_ownText (h : Filled tokens shares text) (hp : ∀ t ∈ tokens, t.isPlaceholder = false) :
    shares = [] ∧ text = (tokens.map Token.ownText).flatten := by
  induction h with
  | nil => exact ⟨rfl, rfl⟩
  | placeholder share ht _ _ =>
    have hf := hp _ List.mem_cons_self
    rw [ht] at hf
    cases hf
  | other _ _ ih =>
    obtain ⟨hs, ht⟩ := ih fun t ht => hp t (List.mem_cons_of_mem _ ht)
    exact ⟨hs, by rw [List.map_cons, List.flatten_cons, ht]⟩

theorem Filled.unique (h : Filled tokens shares text) (h' : Filled tokens shares other) : other = text := by
  induction h generalizing other with
  | nil =>
    cases h'
    rfl
  | placeholder share ht _ ih =>
    cases h' with
    | placeholder _ _ h' => rw [ih h']
    | other hf _ => rw [ht] at hf; cases hf
  | other hf _ ih =>
    cases h' with
    | placeholder _ ht _ => rw [ht] at hf; cases hf
    | other _ h' => rw [ih h']

theorem Filled.append_inv (h : Filled (tokens ++ rest) shares text) :
    ∃ s s' t t', shares = s ++ s' ∧ text = t ++ t' ∧ Filled tokens s t ∧ Filled rest s' t' := by
  induction tokens generalizing shares text with
  | nil => exact ⟨[], shares, [], text, rfl, rfl, .nil, h⟩
  | cons token tokens ih =>
    cases h with
    | placeholder share ht h =>
      obtain ⟨s, s', t, t', rfl, rfl, hs, hs'⟩ := ih h
      exact ⟨share :: s, s', share ++ t, t', rfl, (List.append_assoc ..).symm, .placeholder share ht hs, hs'⟩
    | other ht h =>
      obtain ⟨s, s', t, t', rfl, rfl, hs, hs'⟩ := ih h
      exact ⟨s, s', token.ownText ++ t, t', rfl, (List.append_assoc ..).symm, .other ht hs, hs'⟩

end

/-! ## (2) The shares -/

/-- Digits given to placeholders from the right: none is lost and none repeated, and every placeholder but
the first has the one digit that stands as far from the right as it does, if there is one. -/
structure RightAligned (digits shares : List (List Char)) : Prop where
  all : shares.flatten = digits.flatten
  aligned : ∀ j, j + 1 < shares.length → shares.reverse[j]? = some ((digits.reverse[j]?).getD [])

/-- The shares of `slots` placeholders. -/
def sharesOf : Nat → List (List Char) → List (List Char)
  | 0, _ => []
  | behind + 1, digits =>
    (digits.take (digits.length - behind)).flatten ::
      (List.replicate (behind - digits.length) [] ++ digits.drop (digits.length - behind))

theorem length_sharesOf (slots : Nat) (digits : List (List Char)) : (sharesOf slots digits).length = slots := by
  cases slots with
  | zero => rfl
  | succ behind =>
    simp only [sharesOf, List.length_cons, List.length_append, List.length_replicate, List.length_drop]
    omega

/-- Digits that are not too many have a placeholder each. -/
theorem sharesOf_eq {slots : Nat} {digits : List (List Char)} (h : digits.length ≤ slots) :
    sharesOf slots digits = List.replicate (slots - digits.length) [] ++ digits := by
  cases slots with
  | zero =>
    have hd : digits = [] := List.eq_nil_of_length_eq_zero (by omega)
    rw [hd]
    rfl
  | succ behind =>
    rw [sharesOf]
    by_cases hl : digits.length ≤ behind
    · have h0 : digits.length - behind = 0 := by omega
      have hs : behind + 1 - digits.length = behind - digits.length + 1 := by omega
      rw [h0, hs, List.take_zero, List.drop_zero, List.replicate_succ]
      rfl
    · have h1 : digits.length - behind = 1 := by omega
      have h0 : behind - digits.length = 0 := by omega
      have hs : behind + 1 - digits.length = 0 := by omega
      cases digits with
      | nil => exact absurd (Nat.zero_le _) hl
      | cons d ds => rw [h1, h0, hs]; simp

theorem rightAligned_sharesOf {slots : Nat} (hs : slots ≠ 0) (digits : List (List Char)) :
    RightAligned digits (sharesOf slots digits) := by
  obtain ⟨behind, rfl⟩ : ∃ k, slots = k + 1 := ⟨slots - 1, by omega⟩
  constructor
  · rw [sharesOf, List.flatten_cons, List.flatten_append, List.flatten_replicate_nil, List.nil_append,
      ← List.flatten_append, List.take_append_drop]
  · intro j hj
    rw [length_sharesOf] at hj
    have hlen : ((digits.drop (digits.length - behind)).reverse).length = min digits.length behind := by
      rw [List.length_reverse, List.length_drop]
      omega
    rw [sharesOf, List.reverse_cons, List.reverse_append, List.append_assoc]
    by_cases hl : j < digits.length
    · rw [List.getElem?_append_left (by omega), List.reverse_drop, List.getElem?_take_of_lt (by omega),
        List.getElem?_eq_getElem (by rw [List.length_reverse]; exact hl), Option.getD_some]
    · have hn : digits.reverse[j]? = none := List.getElem?_eq_none (by rw [List.length_reverse]; omega)
      rw [hn, Option.getD_none, List.getElem?_append_right (by omega),
        List.getElem?_append_left (by simp only [List.length_reverse, List.length_replicate, List.length_drop]; omega),
        List.reverse_replicate, List.getElem?_replicate_of_lt (by omega)]

theorem RightAligned.unique {digits s t : List (List Char)} (hs : RightAligned digits s) (ht : RightAligned digits t)
    (hl : s.length = t.length) : t = s := by
  cases s with
  | nil => exact List.eq_nil_of_length_eq_zero hl.symm
  | cons a s =>
    cases t with
    | nil => cases hl
    | cons b t =>
      have hlen : s.length = t.length := Nat.succ_inj.mp hl
      -- the shares behind the first are given by where they stand
      have hbehind : t = s := by
        refine List.reverse_injective (List.ext_getElem? fun j => ?_)
        by_cases hj : j < s.length
        · have h1 := hs.aligned j (Nat.succ_lt_succ hj)
          have h2 := ht.aligned j (Nat.succ_lt_succ (hlen ▸ hj))
          rw [List.reverse_cons, List.getElem?_append_left (by rw [List.length_reverse]; omega)] at h1 h2
          rw [h1, h2]
        · rw [List.getElem?_eq_none (by rw [List.length_reverse]; omega),
            List.getElem?_eq_none (by rw [List.length_reverse]; omega)]
      have hall := ht.all.trans hs.all.symm
      rw [hbehind, List.flatten_cons, List.flatten_cons] at hall
      rw [hbehind, List.append_cancel_right hall]

theorem layWhole_placeholder {token : Token} (ht : token.isPlaceholder = true) (rest : List Token) (behind : Nat)
    (digits : List (List Char)) : layWhole (token :: rest) (behind + 1) digits =
      ((digits.take (digits.length - behind)).flatten ++
        (layWhole rest behind (digits.drop (digits.length - behind))).1,
        (layWhole rest behind (digits.drop (digits.length - behind))).2) := by
  cases token with
  | zero => rfl
  | hash => rfl
  | _ => cases ht

theorem layWhole_other {token : Token} (ht : token.isPlaceholder = false) (rest : List Token) (slots : Nat)
    (digits : List (List Char)) : layWhole (token :: rest) slots digits =
      (token.ownText ++ (layWhole rest slots digits).1, (layWhole rest slots digits).2) := by
  cases token with
  | zero => cases ht
  | hash => cases ht
  | _ => rfl

/-- Whole digits laid out: every placeholder has its share, and digits are left only without placeholders. -/
theorem filled_layWhole (tokens : List Token) (digits : List (List Char)) :
    Filled tokens (sharesOf (tokens.countP Token.isPlaceholder) digits)
        (layWhole tokens (tokens.countP Token.isPlaceholder) digits).1 ∧
      (layWhole tokens (tokens.countP Token.isPlaceholder) digits).2 =
        if tokens.countP Token.isPlaceholder = 0 then digits else [] := by
  induction tokens generalizing digits with
  | nil => exact ⟨.nil, rfl⟩
  | cons token rest ih =>
    cases ht : token.isPlaceholder with
    | false =>
      rw [List.countP_cons_of_neg (by simp [ht]), layWhole_other ht]
      exact ⟨.other ht (ih digits).1, (ih digits).2⟩
    | true =>
      rw [List.countP_cons_of_pos ht, layWhole_placeholder ht, if_neg (Nat.succ_ne_zero _)]
      generalize rest.countP Token.isPlaceholder = behind at ih
      -- the digits that are passed on are not too many for the placeholders behind
      have hlen : (digits.drop (digits.length - behind)).length = min digits.length behind := by
        rw [List.length_drop]
        omega
      have he : behind - min digits.length behind = behind - digits.length := by omega
      obtain ⟨hf, hr⟩ := ih (digits.drop (digits.length - behind))
      rw [sharesOf_eq (by omega), hlen, he] at hf
      refine ⟨.placeholder _ ht hf, hr.trans ?_⟩
      by_cases h0 : behind = 0
      · rw [if_pos h0]
        exact List.eq_nil_of_length_eq_zero (by omega)
      · rw [if_neg h0]

theorem layPlaces_placeholder {token : Token} (ht : token.isPlaceholder = true) (rest : List Token)
    (digits : List Char) : layPlaces (token :: rest) digits = digits.take 1 ++ layPlaces rest (digits.drop 1) := by
  cases token with
  | zero => rfl
  | hash => rfl
  | _ => cases ht

theorem layPlaces_other {token : Token} (ht : token.isPlaceholder = false) (rest : List Token)
    (digits : List Char) : layPlaces (token :: rest) digits = token.ownText ++ layPlaces rest digits := by
  cases token with
  | zero => cases ht
  | hash => cases ht
  | _ => rfl

/-- The shares of places: a digit for each placeholder, from the left, as long as there are digits. -/
def placeShares (slots : Nat) (digits : List Char) : List (List Char) :=
  (List.range slots).map fun i => (digits[i]?).toList

theorem placeShares_succ (slots : Nat) (digits : List Char) :
    placeShares (slots + 1) digits = digits.take 1 :: placeShares slots (digits.drop 1) := by
  have h0 : (digits[0]?).toList = digits.take 1 := by cases digits <;> rfl
  have hs : (fun i => (digits[i]?).toList) ∘ Nat.succ = fun i => ((digits.drop 1)[i]?).toList := by
    funext i
    rw [Function.comp, List.getElem?_drop, Nat.add_comm]
  rw [placeShares, List.range_succ_eq_map, List.map_cons, List.map_map, hs, h0, placeShares]

theorem flatten_placeShares {slots : Nat} {digits : List Char} (h : digits.length ≤ slots) :
    (placeShares slots digits).flatten = digits := by
  induction slots generalizing digits with
  | zero => rw [List.eq_nil_of_length_eq_zero (Nat.le_zero.mp h)]; rfl
  | succ slots ih =>
    rw [placeShares_succ, List.flatten_cons, ih (by rw [List.length_drop]; omega), List.take_append_drop]

/-- Places laid out. -/
theorem filled_layPlaces (tokens : List Token) (digits : List Char) :
    Filled tokens (placeShares (tokens.countP Token.isPlaceholder) digits) (layPlaces tokens digits) := by
  induction tokens generalizing digits with
  | nil => exact .nil
  | cons token rest ih =>
    cases ht : token.isPlaceholder with
    | false =>
      rw [List.countP_cons_of_neg (by simp [ht]), layPlaces_other ht]
      exact .other ht (ih digits)
    | true =>
      rw [List.countP_cons_of_pos ht, layPlaces_placeholder ht, placeShares_succ]
      exact .placeholder _ ht (ih _)

/-! ## (3) Commas before the point -/

/-- A comma stands behind a placeholder. -/
def HasComma (whole : List Token) : Prop :=
  ∃ a b, whole = a ++ .comma :: b ∧ a.any Token.isPlaceholder = true

/-- A comma stands between two placeholders. -/
def HasGroupComma (whole : List Token) : Prop :=
  ∃ a b, whole = a ++ .comma :: b ∧ a.any Token.isPlaceholder = true ∧ b.any Token.isPlaceholder = true

/-- The commas behind the last placeholder, if there is one. -/
def closingCommas (whole : List Token) : Nat :=
  if whole.any Token.isPlaceholder then (whole.reverse.takeWhile (!·.isPlaceholder)).count .comma else 0

section

variable {token : Token} {whole : List Token}

/-- What stands in a list with one more at its end is the last one or stood there before. -/
theorem concat_eq_append_cons_iff {α : Type} {l a b : List α} {x y : α} :
    l ++ [x] = a ++ y :: b ↔ (b = [] ∧ l = a ∧ x = y) ∨ ∃ b', b = b' ++ [x] ∧ l = a ++ y :: b' := by
  rcases List.eq_nil_or_concat b with rfl | ⟨b', z, rfl⟩
  · simp
  · have he : a ++ y :: (b' ++ [z]) = (a ++ y :: b') ++ [z] := by simp
    rw [List.concat_eq_append, he]
    constructor
    · intro h
      obtain ⟨hl, hx⟩ := List.append_inj' h rfl
      cases hx
      exact .inr ⟨b', rfl, hl⟩
    · rintro (⟨hb, -⟩ | ⟨b'', hb, rfl⟩)
      · simp at hb
      · obtain ⟨rfl, hx⟩ := List.append_inj' hb rfl
        cases hx
        rfl

theorem hasComma_concat : HasComma (whole ++ [token]) ↔
    HasComma whole ∨ (token = .comma ∧ whole.any Token.isPlaceholder = true) := by
  constructor
  · rintro ⟨a, b, hw, ha⟩
    rcases concat_eq_append_cons_iff.mp hw with ⟨-, rfl, ht⟩ | ⟨b', -, rfl⟩
    · exact .inr ⟨ht, ha⟩
    · exact .inl ⟨a, b', rfl, ha⟩
  · rintro (⟨a, b, rfl, ha⟩ | ⟨rfl, ha⟩)
    · exact ⟨a, b ++ [token], by simp, ha⟩
    · exact ⟨whole, [], rfl, ha⟩

theorem hasGroupComma_concat : HasGroupComma (whole ++ [token]) ↔
    HasGroupComma whole ∨ (token.isPlaceholder = true ∧ HasComma whole) := by
  constructor
  · rintro ⟨a, b, hw, ha, hb⟩
    rcases concat_eq_append_cons_iff.mp hw with ⟨rfl, -, -⟩ | ⟨b', rfl, rfl⟩
    · cases hb
    · rw [List.any_append, Bool.or_eq_true] at hb
      rcases hb with hb | hb
      · exact .inl ⟨a, b', rfl, ha, hb⟩
      · exact .inr ⟨by simpa using hb, a, b', rfl, ha⟩
  · rintro (⟨a, b, rfl, ha, hb⟩ | ⟨ht, a, b, rfl, ha⟩)
    · exact ⟨a, b ++ [token], by simp, ha, by rw [List.any_append, hb, Bool.true_or]⟩
    · exact ⟨a, b ++ [token], by simp, ha, by simp [ht]⟩

theorem closingCommas_placeholder (ht : token.isPlaceholder = true) : closingCommas (whole ++ [token]) = 0 := by
  simp [closingCommas, ht]

theorem closingCommas_other (ht : token.isPlaceholder = false) : closingCommas (whole ++ [token]) =
    closingCommas whole + if whole.any Token.isPlaceholder && token == .comma then 1 else 0 := by
  cases hw : whole.any Token.isPlaceholder with
  | false => simp [closingCommas, ht, hw]
  | true => simp [closingCommas, ht, hw, List.count_cons]

theorem Commas.next_placeholder (s : Commas) (ht : token.isPlaceholder = true) :
    s.next token = ⟨s.grouping || (s.started && s.pending != 0), true, 0⟩ := by
  cases token with
  | zero => rfl
  | hash => rfl
  | _ => cases ht

theorem Commas.next_other (s : Commas) (ht : token.isPlaceholder = false) :
    s.next token = { s with pending := s.pending + if s.started && token == .comma then 1 else 0 } := by
  cases token with
  | zero => cases ht
  | hash => cases ht
  | comma =>
    obtain ⟨grouping, started, pending⟩ := s
    cases started <;> rfl
  | _ => rw [beq_false_of_ne (by simp), Bool.and_false]; rfl

end

/-- What the commas read so far have shown. -/
structure Commas.ReadFrom (s : Commas) (whole : List Token) : Prop where
  started : s.started = whole.any Token.isPlaceholder
  pending : s.pending = closingCommas whole
  grouping : s.grouping = true ↔ HasGroupComma whole
  comma : s.grouping = true ∨ s.pending ≠ 0 ↔ HasComma whole

theorem commas_readFrom (whole : List Token) : (commas whole).ReadFrom whole := by
  induction whole using List.reverseRecOn with
  | nil =>
    have hc : ¬ HasComma [] := by
      rintro ⟨a, b, h, -⟩
      cases a <;> cases h
    refine ⟨rfl, rfl, iff_of_false Bool.false_ne_true ?_, iff_of_false ?_ hc⟩
    · rintro ⟨a, b, h, ha, -⟩
      exact hc ⟨a, b, h, ha⟩
    · rintro (h | h)
      · cases h
      · exact h rfl
  | append_singleton whole token ih =>
    obtain ⟨hs, hp, hg, hc⟩ := ih
    have hn : commas (whole ++ [token]) = (commas whole).next token := by
      rw [commas, List.foldl_append]
      rfl
    -- a comma that divides is behind a placeholder
    have hstarted : (commas whole).pending ≠ 0 → (commas whole).started = true := by
      intro h
      by_contra hf
      rw [Bool.not_eq_true] at hf
      rw [hp, closingCommas, ← hs, hf] at h
      exact h rfl
    rw [hn]
    cases ht : token.isPlaceholder with
    | true =>
      have hne : token ≠ .comma := by
        rintro rfl
        cases ht
      have hgroup : ((commas whole).grouping || ((commas whole).started && (commas whole).pending != 0)) = true ↔
          HasComma whole := by
        rw [← hc, Bool.or_eq_true, Bool.and_eq_true, bne_iff_ne]
        exact or_congr_right ⟨fun h => h.2, fun h => ⟨hstarted h, h⟩⟩
      rw [Commas.next_placeholder _ ht]
      refine ⟨by simp [ht], (closingCommas_placeholder ht).symm, ?_, ?_⟩
      · rw [hasGroupComma_concat, ht, hgroup, and_iff_right rfl]
        refine (or_iff_right_of_imp ?_).symm
        rintro ⟨a, b, rfl, ha, -⟩
        exact ⟨a, b, rfl, ha⟩
      · rw [hasComma_concat, hgroup]
        simp [hne]
    | false =>
      rw [Commas.next_other _ ht]
      refine ⟨by simp [ht, hs], ?_, ?_, ?_⟩
      · rw [closingCommas_other ht, ← hp, ← hs]
      · rw [hasGroupComma_concat, ht, hg]
        simp
      · rw [hasComma_concat, ← hc, ← hs]
        by_cases hcomma : token = .comma ∧ (commas whole).started = true
        · simp [hcomma.1, hcomma.2]
        · have h0 : (if (commas whole).started && token == .comma then 1 else 0) = 0 := by
            rw [if_neg]
            rw [Bool.and_eq_true, beq_iff_eq]
            exact fun h => hcomma h.symm
          rw [h0, Nat.add_zero, or_iff_left hcomma]

/-! ## A number shown -/

/-- The digits of a whole number: none of zero, and zeros in front up to `least`. -/
def shownWhole (least n : Nat) : List Char := (if n = 0 then [] else Text.natDigits n).leftpad least '0'

/-- Digits without the zeros at their end that are beyond `least`. -/
structure Trimmed (least : Nat) (all shown : List Char) : Prop where
  zeros : ∃ k, all = shown ++ List.replicate k '0'
  least_le : least ≤ shown.length
  shortest : least < shown.length → shown.getLast? ≠ some '0'

/-- The placeholders before the point. -/
abbrev wholeSlots (tokens : List Token) : Nat := (wholeTokens tokens).countP Token.isPlaceholder

/-- The placeholders behind the point. -/
abbrev placeSlots (tokens : List Token) : Nat := (placeTokens tokens).countP Token.isPlaceholder

/-- How tokens lay out a number: `front` before the point, where the placeholders have `shares` of the whole
digits, and `back` behind it, where they have the digits `places` from the left. -/
structure Layout (tokens : List Token) (whole fraction : List Char) (grouping : Bool)
    (shares : List (List Char)) (places front back : List Char) : Prop where
  grouping_iff : grouping = true ↔ HasGroupComma (wholeTokens tokens)
  rightAligned : wholeSlots tokens ≠ 0 → RightAligned (chunks grouping whole) shares
  trimmed : Trimmed (leastPlaces (placeTokens tokens)) fraction places
  front : Filled (wholeTokens tokens) shares front
  back : Filled (placeTokens tokens) (placeShares (placeSlots tokens) places) back

/-- The text is the tokens with the number `units / 10 ^ n` laid out in them, for `n` placeholders behind the
point. Without placeholders before the point the whole digits stand at the point, and the point stands
where places are shown. -/
def Shows (tokens : List Token) (units : Nat) (text : List Char) : Prop :=
  ∃ grouping shares places front back,
    Layout tokens (shownWhole (leastWhole (wholeTokens tokens)) (units / tenPow (placeSlots tokens)))
      (Text.lastDigits (placeSlots tokens) units) grouping shares places front back ∧
    text = front ++
      (if wholeSlots tokens = 0 then
        (chunks grouping
          (shownWhole (leastWhole (wholeTokens tokens)) (units / tenPow (placeSlots tokens)))).flatten
      else []) ++
      (if places = [] then [] else ['.']) ++ back

theorem Trimmed.eq_all {least : Nat} {all shown : List Char} (h : Trimmed least all shown) (hl : all.length ≤ least) :
    shown = all := by
  obtain ⟨k, hk⟩ := h.zeros
  have hlen := congrArg List.length hk
  rw [List.length_append, List.length_replicate] at hlen
  have h0 : k = 0 := by
    have := h.least_le
    omega
  rw [hk, h0, List.replicate_zero, List.append_nil]

theorem Trimmed.length_le_length {least : Nat} {all a b : List Char} (ha : Trimmed least all a)
    (hb : Trimmed least all b) : a.length ≤ b.length := by
  obtain ⟨k, hk⟩ := ha.zeros
  obtain ⟨k', hk'⟩ := hb.zeros
  by_contra hlt
  have hleast := hb.least_le
  have hlen := congrArg List.length (hk.symm.trans hk')
  rw [List.length_append, List.length_append, List.length_replicate, List.length_replicate] at hlen
  -- the last digit of the longer one is a zero behind the shorter one
  refine ha.shortest (by omega) ?_
  have hlast : (a ++ List.replicate k '0')[a.length - 1]? = some '0' := by
    rw [← hk, hk', List.getElem?_append_right (by omega), List.getElem?_replicate_of_lt (by omega)]
  rw [List.getElem?_append_left (by omega)] at hlast
  rw [List.getLast?_eq_getElem?, hlast]

theorem Trimmed.unique {least : Nat} {all a b : List Char} (ha : Trimmed least all a) (hb : Trimmed least all b) :
    b = a := by
  obtain ⟨k, hk⟩ := ha.zeros
  obtain ⟨k', hk'⟩ := hb.zeros
  have hlen := Nat.le_antisymm (hb.length_le_length ha) (ha.length_le_length hb)
  exact (List.append_inj (hk'.symm.trans hk) hlen).1

theorem trimmed_take_append {least : Nat} {all : List Char} (h : least ≤ all.length) :
    Trimmed least all (all.take least ++ ((all.drop least).reverse.dropWhile (· == '0')).reverse) := by
  have hz : (all.drop least).reverse.takeWhile (· == '0') =
      List.replicate ((all.drop least).reverse.takeWhile (· == '0')).length '0' := by
    refine List.eq_replicate_iff.mpr ⟨rfl, fun c hc => ?_⟩
    exact beq_iff_eq.mp (List.all_eq_true.mp List.all_takeWhile c hc)
  constructor
  · refine ⟨((all.drop least).reverse.takeWhile (· == '0')).length, ?_⟩
    have hd : all.drop least = ((all.drop least).reverse.dropWhile (· == '0')).reverse ++
        ((all.drop least).reverse.takeWhile (· == '0')).reverse := by
      rw [← List.reverse_append, List.takeWhile_append_dropWhile, List.reverse_reverse]
    rw [List.append_assoc, ← List.reverse_replicate, ← hz, ← hd, List.take_append_drop]
  · rw [List.length_append, List.length_take]
    omega
  · intro hl
    have hne : (all.drop least).reverse.dropWhile (· == '0') ≠ [] := by
      intro he
      rw [he, List.reverse_nil, List.append_nil, List.length_take] at hl
      omega
    have hh := List.head_dropWhile_not (· == '0') hne
    rw [List.getLast?_append_of_ne_nil _ (by simpa using hne), List.getLast?_reverse, List.head?_eq_some_head hne]
    simpa using hh

theorem leastPlaces_le (places : List Token) : leastPlaces places ≤ places.countP Token.isPlaceholder := by
  have h := (List.dropWhile_sublist (· != Token.zero) (l := (places.filter Token.isPlaceholder).reverse)).length_le
  rw [List.length_reverse, ← List.countP_eq_length_filter] at h
  exact h

theorem wholeDigits_round (least places : Nat) (d : Decimal) :
    wholeDigits least (d.round places) = shownWhole least (nearestUnits d.value places / tenPow places) := by
  rw [wholeDigits, d.whole_round, d.integerDigits_round, shownWhole]

theorem placeDigits_round (least places : Nat) (d : Decimal) (h : least ≤ places) :
    Trimmed least (Text.lastDigits places (nearestUnits d.value places)) (placeDigits least places (d.round places)) := by
  rw [placeDigits, d.fractionDigits_round]
  exact trimmed_take_append (by rw [Text.length_lastDigits]; exact h)

/-- Where there is a placeholder or a point, there is one before the point or a point. -/
theorem slot_or_point {tokens : List Token} (h : (∃ t ∈ tokens, t.isPlaceholder = true) ∨ .point ∈ tokens) :
    wholeSlots tokens ≠ 0 ∨ .point ∈ tokens := by
  rcases h with ⟨t, ht, hp⟩ | h
  · rw [← List.takeWhile_append_dropWhile (p := (· != Token.point)) (l := tokens), List.mem_append] at ht
    rcases ht with ht | ht
    · exact .inl (Nat.pos_iff_ne_zero.mp (List.countP_pos_iff.mpr ⟨t, ht, hp⟩))
    · have hne := List.ne_nil_of_mem ht
      have hpoint := List.head_dropWhile_not (· != Token.point) hne
      rw [bne_eq_false_iff_eq] at hpoint
      exact .inr ((List.dropWhile_sublist _).subset (hpoint ▸ List.head_mem hne))
  · exact .inr h

/-- Tokens with a placeholder or a point show of a number, rounded to as many places as they have
placeholders behind the point, the count of units of the last place. -/
theorem shows_layOut {tokens : List Token} (h : (∃ t ∈ tokens, t.isPlaceholder = true) ∨ .point ∈ tokens)
    (d : Decimal) :
    Shows tokens (nearestUnits d.value (placeSlots tokens)) (layOut tokens (d.round (placeSlots tokens))) := by
  have hw := wholeDigits_round (leastWhole (wholeTokens tokens)) (placeSlots tokens) d
  have ht := placeDigits_round _ _ d (leastPlaces_le (placeTokens tokens))
  obtain ⟨hfront, hleft⟩ := filled_layWhole (wholeTokens tokens)
    (chunks (commas (wholeTokens tokens)).grouping
      (wholeDigits (leastWhole (wholeTokens tokens)) (d.round (placeSlots tokens))))
  refine ⟨(commas (wholeTokens tokens)).grouping, _, _, _, _, ⟨(commas_readFrom _).grouping, fun hs => ?_, ht, hfront,
    filled_layPlaces _ _⟩, ?_⟩
  · rw [← hw]
    exact rightAligned_sharesOf hs _
  · rw [← hw]
    simp only [layOut, hleft, List.isEmpty_iff]
    by_cases hs : wholeSlots tokens = 0
    · have hpoint : .point ∈ tokens := (slot_or_point h).resolve_left (fun hn => hn hs)
      simp [hs, hpoint]
    · simp [hs]

/-- The layout of a number determines its text. -/
theorem Shows.unique {tokens : List Token} {units : Nat} {text other : List Char} (h : Shows tokens units text)
    (h' : Shows tokens units other) : other = text := by
  obtain ⟨g, shares, places, front, back, hl, rfl⟩ := h
  obtain ⟨g', shares', places', front', back', hl', rfl⟩ := h'
  have hgroup : g' = g := by rw [Bool.eq_iff_iff, hl.grouping_iff, hl'.grouping_iff]
  subst hgroup
  have hlen : shares.length = shares'.length := hl.front.length_eq.trans hl'.front.length_eq.symm
  have hshares : shares' = shares := by
    by_cases h0 : wholeSlots tokens = 0
    · have hn := hl.front.length_eq.trans h0
      rw [List.eq_nil_of_length_eq_zero hn, List.eq_nil_of_length_eq_zero (hlen.symm.trans hn)]
    · exact (hl.rightAligned h0).unique (hl'.rightAligned h0) hlen
  have hplaces : places' = places := hl.trimmed.unique hl'.trimmed
  subst hshares hplaces
  rw [hl.front.unique hl'.front, hl.back.unique hl'.back]

end RecordNaming.Numeral
