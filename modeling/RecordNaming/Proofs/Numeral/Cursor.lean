/-
  RecordNaming.Proofs.Numeral.Cursor — numbers formatted with cursors have the text that they have without.

  (1) Digits that count down to zero are grouped as by `chunks` (`groupFrom_eq`), and no standard numeral is padded to
  more than two digits can say (`specifier?_precision`).

  (2) The cursor into the whole digits is never behind their end, and from it on they make the chunks that are left
  (`digitAt_eq`). A placeholder takes what is not reserved for those behind it (`pushExcess_eq`), so a run over the
  tokens is `layWhole` (`layTokens_eq`), and the digits it leaves are the last ones (`pushRest_eq`).

  (3) The parts of a section lie around the point (`splitAtPoint_eq`), no first zero is behind the placeholders
  (`leastWholeAt_eq`), and a section is used only where there is one (`hasZeroSection_eq`, `chooseAt_eq`).

  (4) The magnitude letter stands between two parts of the format (`letterAt?_eq`). `formatAt_eq`: no operation has a
  fault, and the text is that of `format`.
-/
import RecordNaming.Numeral.Cursor
import RecordNaming.Proofs.Access
import RecordNaming.Proofs.Numeral.SameNumber

namespace RecordNaming.Numeral

open Access

/-! ## (1) Digits in groups -/

theorem groupFrom_eq {count index : Nat} {digits : List Char} (h : index + digits.length = count) :
    groupFrom count index digits = .ok (grouped digits) := by
  induction digits generalizing index with
  | nil => rfl
  | cons c rest ih =>
    rw [List.length_cons] at h
    have hremaining : count - index - 1 = rest.length := by omega
    rw [groupFrom, minus_eq (by omega), ok_bind, minus_eq (by omega), ok_bind, hremaining, ih (by omega), ok_bind]
    cases rest <;> simp [grouped, chunks, pure, Except.pure]

theorem fixedAt_eq (d : Decimal) (places : Nat) (grouping : Bool) :
    fixedAt d places grouping = .ok (fixed d places grouping) := by
  cases grouping with
  | false =>
    rw [fixed, flatten_chunks_false]
    rfl
  | true =>
    rw [fixedAt, if_pos rfl, groupFrom_eq (Nat.zero_add _)]
    rfl

theorem digit?_le (c : Char) : (Text.digit? c).getD 0 ≤ 9 := by
  unfold Text.digit?
  split
  · next h =>
    rw [Bool.and_eq_true, decide_eq_true_eq, decide_eq_true_eq] at h
    exact Nat.sub_le_sub_right h.2 48
  · exact Nat.zero_le _

theorem digitsValue_le {word : List Char} (h : word.length ≤ 2) : Text.digitsValue word ≤ 99 := by
  match word, h with
  | [], _ => exact Nat.zero_le _
  | [a], _ =>
    have ha := digit?_le a
    simp only [Text.digitsValue, List.foldl_cons, List.foldl_nil]
    omega
  | [a, b], _ =>
    have ha := digit?_le a
    have hb := digit?_le b
    simp only [Text.digitsValue, List.foldl_cons, List.foldl_nil]
    omega

/-- A precision has two digits at most. -/
theorem specifier?_precision {pattern : List Char} {letter : Char} {precision : Option Nat}
    (h : specifier? pattern = some (letter, precision)) : precision.getD 0 ≤ 99 := by
  unfold specifier? at h
  repeat' split at h
  all_goals cases h
  · exact Nat.zero_le _
  · rename_i hword _
    rw [Bool.and_eq_true, decide_eq_true_eq] at hword
    exact digitsValue_le hword.1

theorem formatStandardAt_eq (d : Decimal) (letter : Char) {precision : Option Nat} (h : precision.getD 0 ≤ 99) :
    formatStandardAt d letter precision = lift (formatStandard d letter precision) := by
  unfold formatStandardAt formatStandard
  simp only [fixedAt_eq, ok_bind, width_eq (h.trans (by decide))]
  generalize letter.toUpper = u
  split
  · rfl
  · rfl
  · split <;> rfl
  · generalize (Decimal.ofParts? 100 0).bind d.mul? = percent
    cases percent <;> rfl
  · rfl
  · simp [lift, Except.mapError, *]

/-! ## (2) Digits in placeholders -/

section

variable {digits : List Char} {grouping : Bool} {next : Nat}

/-- The digits from an index on make the chunks from there on. -/
theorem drop_chunks (n : Nat) : (chunks grouping digits).drop n = chunks grouping (digits.drop n) := by
  induction n generalizing digits with
  | zero => rfl
  | succ n ih =>
    cases digits with
    | nil => rfl
    | cons c rest => exact ih

theorem length_chunks : (chunks grouping digits).length = digits.length := by
  induction digits with
  | nil => rfl
  | cons c rest ih => exact congrArg (· + 1) ih

/-- A cursor that is not behind the last digit is at the first of the chunks that are left. -/
theorem digitAt_eq (h : next < digits.length) : ∃ text, digitAt digits grouping next = .ok text ∧
    chunks grouping (digits.drop next) = text :: chunks grouping (digits.drop (next + 1)) := by
  have hrest : (digits.drop (next + 1)).length = digits.length - (next + 1) := List.length_drop
  refine ⟨_, ?_, by rw [List.drop_eq_getElem_cons h, chunks]⟩
  rw [digitAt, item_eq h, ok_bind, minus_eq h, ok_bind, ← hrest]
  cases digits.drop (next + 1) <;> simp [pure, Except.pure]

/-- A cursor inside the digits counts those that are left. -/
theorem pushExcess_step (reserved : Nat) (out : List Char) (h : next ≤ digits.length) :
    pushExcess digits grouping reserved out next =
      if reserved < digits.length - next then
        digitAt digits grouping next >>= fun text => pushExcess digits grouping reserved (out ++ text) (next + 1)
      else .ok (out, next) := by
  rw [pushExcess]
  split
  · next stop hstop =>
    rw [minus_eq h] at hstop
    cases hstop
  · next left hleft =>
    obtain ⟨-, rfl⟩ := minus_eq_ok_iff.mp hleft
    cases digitAt digits grouping next <;> rfl

theorem pushExcess_eq (reserved : Nat) (out : List Char) (h : next ≤ digits.length) :
    pushExcess digits grouping reserved out next =
      .ok (out ++ ((chunks grouping (digits.drop next)).take (digits.length - next - reserved)).flatten,
        next + (digits.length - next - reserved)) := by
  induction hn : digits.length - next - reserved generalizing out next with
  | zero =>
    rw [pushExcess_step reserved out h, if_neg (by omega), List.take_zero, List.flatten_nil, List.append_nil,
      Nat.add_zero]
  | succ n ih =>
    obtain ⟨text, htext, hchunks⟩ := @digitAt_eq digits grouping next (by omega)
    rw [pushExcess_step reserved out h, if_pos (by omega), htext, ok_bind, ih _ (by omega) (by omega), hchunks,
      List.take_succ_cons, List.flatten_cons, List.append_assoc, Nat.add_assoc, Nat.add_comm 1]

theorem pushRest_eq (out : List Char) (h : next ≤ digits.length) :
    pushRest digits grouping out next = .ok (out ++ (chunks grouping (digits.drop next)).flatten) := by
  induction hn : digits.length - next generalizing out next with
  | zero =>
    have hend : digits.drop next = [] := List.drop_eq_nil_of_le (by omega)
    rw [pushRest, if_neg (by omega), hend, chunks, List.flatten_nil, List.append_nil]
  | succ n ih =>
    obtain ⟨text, htext, hchunks⟩ := @digitAt_eq digits grouping next (by omega)
    rw [pushRest, if_pos (by omega), htext, hchunks, List.flatten_cons, ← List.append_assoc]
    exact ih _ (by omega) (by omega)

/-- Behind `seen` placeholders, each token finds the digits it shares in at the cursor. -/
theorem layTokens_eq {count seen : Nat} {tokens : List Token} (out : List Char)
    (hcount : seen + tokens.countP Token.isPlaceholder = count) (h : next ≤ digits.length) :
    ∃ behind ≤ digits.length,
      tokens.foldlM (layToken digits grouping count) ⟨out, next, seen⟩ =
        .ok ⟨out ++ (layWhole tokens (tokens.countP Token.isPlaceholder) (chunks grouping (digits.drop next))).1,
          behind, count⟩ ∧
      (layWhole tokens (tokens.countP Token.isPlaceholder) (chunks grouping (digits.drop next))).2 =
        chunks grouping (digits.drop behind) := by
  induction tokens generalizing out next seen with
  | nil =>
    refine ⟨next, h, ?_, rfl⟩
    rw [layWhole, List.append_nil, ← hcount]
    rfl
  | cons token rest ih =>
    rw [List.foldlM_cons, layToken]
    cases ht : token.isPlaceholder with
    | false =>
      have hslots : (token :: rest).countP Token.isPlaceholder = rest.countP Token.isPlaceholder :=
        List.countP_cons_of_neg (by rw [ht]; exact Bool.false_ne_true)
      rw [hslots] at hcount ⊢
      obtain ⟨behind, hbehind, hrun, hleft⟩ := ih (out ++ token.ownText) hcount h
      refine ⟨behind, hbehind, ?_, ?_⟩
      · rw [layWhole_other ht, ← List.append_assoc]
        exact hrun
      · rw [layWhole_other ht]
        exact hleft
    | true =>
      have hslots : (token :: rest).countP Token.isPlaceholder = rest.countP Token.isPlaceholder + 1 :=
        List.countP_cons_of_pos ht
      rw [hslots] at hcount ⊢
      have hreserved : minus count (seen + 1) = .ok (rest.countP Token.isPlaceholder) :=
        minus_eq_ok_iff.mpr ⟨by omega, by omega⟩
      have hlength : (chunks grouping (digits.drop next)).length = digits.length - next := by
        rw [length_chunks, List.length_drop]
      have hnext : next + (digits.length - next - rest.countP Token.isPlaceholder) ≤ digits.length := by omega
      have hseen : seen + 1 + rest.countP Token.isPlaceholder = count := by omega
      rw [if_pos rfl, hreserved, ok_bind, pushExcess_eq _ _ h, layWhole_placeholder ht, hlength, drop_chunks,
        List.drop_drop]
      obtain ⟨behind, hbehind, hrun, hleft⟩ := ih (out ++ _) hseen hnext
      refine ⟨behind, hbehind, ?_, hleft⟩
      rw [← List.append_assoc]
      exact hrun

end

/-! ## (3) Sections -/

theorem splitAtPoint_eq (tokens : List Token) :
    splitAtPoint tokens = .ok (wholeTokens tokens, placeTokens tokens) := by
  have hnot : ∀ t : Token, (t != .point) = !(t == .point) := fun _ => rfl
  rw [wholeTokens, placeTokens]
  rcases findIdx?_cases hnot tokens with ⟨hfind, hwhole, hplaces⟩ | ⟨i, hi, hfind, hwhole, hplaces⟩
  · rw [splitAtPoint, hfind, hwhole, hplaces]
    dsimp only
    rw [dropFrom_eq (Nat.le_refl _), List.drop_length]
    rfl
  · rw [splitAtPoint, hfind, hwhole, hplaces, List.drop_drop]
    dsimp only
    rw [upTo_eq (Nat.le_of_lt hi), ok_bind, dropFrom_eq hi]
    rfl

theorem leastWholeAt_eq (whole : List Token) :
    leastWholeAt whole (whole.countP Token.isPlaceholder) = .ok (leastWhole whole) := by
  have hnot : ∀ t : Token, (t != .zero) = !(t == .zero) := fun _ => rfl
  rw [leastWholeAt, leastWhole, List.countP_eq_length_filter]
  rcases findIdx?_cases hnot (whole.filter Token.isPlaceholder) with ⟨hfind, -, hzeros⟩ | ⟨i, hi, hfind, -, hzeros⟩
  · rw [hfind, hzeros]
    rfl
  · rw [hfind, hzeros, List.length_drop]
    exact minus_eq (Nat.le_of_lt hi)

theorem layOutAt_eq (tokens : List Token) (d : Decimal) :
    layOutAt tokens (wholeTokens tokens) (placeTokens tokens) (leastWhole (wholeTokens tokens)) d =
      .ok (layOut tokens d) := by
  obtain ⟨behind, hbehind, hrun, hleft⟩ := @layTokens_eq (wholeDigits (leastWhole (wholeTokens tokens)) d)
    (commas (wholeTokens tokens)).grouping 0 _ 0 (wholeTokens tokens) [] (Nat.zero_add _) (Nat.zero_le _)
  rw [List.drop_zero] at hrun hleft
  rw [layOutAt, hrun, ok_bind, pushRest_eq _ hbehind, ← hleft]
  unfold layOut
  dsimp only
  split <;> simp [ok_bind, pure, Except.pure]

theorem renderSectionAt_eq (d : Decimal) (pattern : List Char) :
    renderSectionAt d pattern = lift (renderSection d pattern) := by
  rw [renderSectionAt, renderSection]
  cases tokenize none pattern with
  | error e => rfl
  | ok tokens =>
    rw [lift_ok, ok_bind, splitAtPoint_eq]
    dsimp only [bind, Except.bind]
    cases tokens.isEmpty with
    | true => rfl
    | false =>
      rw [leastWholeAt_eq]
      dsimp only [bind, Except.bind]
      cases scaleUp d tokens with
      | error e => rfl
      | ok raised =>
        dsimp only
        cases scaleDown raised (commas (wholeTokens tokens)).pending with
        | error e => rfl
        | ok scaled =>
          dsimp only [lift_ok]
          rw [layOutAt_eq]
          rfl

/-- The third section is used only if it is there. -/
theorem hasZeroSection_eq (all : List (List Char)) : hasZeroSection all = .ok (section? all 2).isSome ∧
    ∀ s, section? all 2 = some s → item all 2 = .ok s := by
  rw [hasZeroSection]
  by_cases hlength : 3 ≤ all.length
  · have hsection : section? all 2 = (some all[2]).filter (!·.isEmpty) := by
      rw [section?, List.getElem?_eq_getElem hlength]
    rw [if_pos hlength, item_eq hlength, hsection, Option.filter]
    cases hempty : all[2].isEmpty <;> simp [hempty, ok_bind, pure, Except.pure]
  · have hsection : section? all 2 = none := by
      rw [section?, List.getElem?_eq_none (by omega)]
      rfl
    rw [if_neg hlength, hsection]
    exact ⟨rfl, by simp⟩

theorem chooseAt_eq (d : Decimal) {all : List (List Char)} (hne : all ≠ []) :
    chooseAt d all (section? all 2).isSome = .ok (chosenSection d all, d.isNegative && (section? all 1).isNone) := by
  obtain ⟨first, rest, rfl⟩ := List.exists_cons_of_ne_nil hne
  have hfirst : item (first :: rest) 0 = .ok first := rfl
  have hzero := (hasZeroSection_eq (first :: rest)).2
  rw [chooseAt, chosenSection, hfirst, List.headD_cons]
  cases d.isNegative with
  | true => cases section? (first :: rest) 1 <;> rfl
  | false =>
    cases hs : section? (first :: rest) 2 with
    | none => cases d.isZero <;> rfl
    | some s =>
      rw [hzero s hs]
      cases d.isZero <;> rfl

theorem formatCustomAt_eq (d : Decimal) (pattern : List Char) :
    formatCustomAt d pattern = lift (formatCustom d pattern) := by
  cases hsections : sections none pattern with
  | error e =>
    rw [formatCustomAt, formatCustom, hsections]
    rfl
  | ok all =>
    obtain ⟨hhas, hzero⟩ := hasZeroSection_eq all
    rw [formatCustomAt, formatCustom_of_sections hsections, hsections, lift_ok, ok_bind, hhas, ok_bind,
      chooseAt_eq d (sections_ne_nil hsections), ok_bind]
    dsimp only
    rw [renderSectionAt_eq]
    cases renderSection d.abs (chosenSection d all) with
    | error e => rfl
    | ok rendered =>
      rw [lift_ok, ok_bind, Except.bind]
      cases hs : section? all 2 with
      | none =>
        rw [Option.isSome_none, Bool.and_false, Bool.false_and, if_neg Bool.false_ne_true]
        rfl
      | some s =>
        rw [Option.isSome_some, Bool.and_true, hzero s hs, ok_bind, renderSectionAt_eq]
        dsimp only
        cases rendered.isZero && !d.isZero with
        | false => rfl
        | true =>
          rw [if_pos rfl, if_pos rfl]
          cases renderSection Decimal.zero s <;> rfl

/-! ## (4) Formats -/

theorem applyPatternAt_eq (d : Decimal) (pattern : List Char) :
    applyPatternAt d pattern = lift (applyPattern d pattern) := by
  unfold applyPatternAt applyPattern
  cases hp : specifier? pattern with
  | none => exact formatCustomAt_eq d pattern
  | some p => exact formatStandardAt_eq d p.1 (specifier?_precision hp)

/-- A letter is found behind the bytes of what is before it. -/
theorem letterAt?_eq (index : Nat) (format : List Char) :
    (letterAt? index format = none ∧ magnitude? format = none) ∨
      ∃ before divisor c behind, format = before ++ c :: behind ∧
        letterAt? index format = some (index + byteLength before, divisor, c) ∧
        magnitude? format = some ⟨divisor, c, before ++ behind⟩ := by
  induction format generalizing index with
  | nil => exact .inl ⟨rfl, rfl⟩
  | cons c rest ih =>
    cases hc : divisor? c with
    | some divisor =>
      refine .inr ⟨[], divisor, c, rest, rfl, ?_, ?_⟩
      · rw [letterAt?, hc]
        rfl
      · rw [magnitude?, hc]
        rfl
    | none =>
      rw [letterAt?, magnitude?, hc]
      rcases ih (index + c.utf8Size) with ⟨hletter, hmagnitude⟩ | ⟨before, divisor, l, behind, rfl, hletter, hmagnitude⟩
      · exact .inl ⟨hletter, by rw [hmagnitude]; rfl⟩
      · refine .inr ⟨c :: before, divisor, l, behind, rfl, ?_, by rw [hmagnitude]; rfl⟩
        have hbytes : byteLength (c :: before) = c.utf8Size + byteLength before := rfl
        rw [hbytes, ← Nat.add_assoc]
        exact hletter

theorem magnitudeAt_eq (format : List Char) : magnitudeAt format = .ok (magnitude? format) := by
  unfold magnitudeAt
  rcases letterAt?_eq 0 format with ⟨hletter, hmagnitude⟩ | ⟨before, divisor, c, behind, rfl, hletter, hmagnitude⟩
  · rw [hletter, hmagnitude]
    rfl
  · have hbefore : bytesUpTo (before ++ c :: behind) (byteLength before) = .ok before := by
      rw [bytesUpTo, splitBytes_append]
      rfl
    have hbehind : bytesFrom (before ++ c :: behind) (byteLength before + c.utf8Size) = .ok behind := by
      have hbytes : byteLength (before ++ [c]) = byteLength before + c.utf8Size := byteLength_append before [c]
      have hsplit := splitBytes_append (before ++ [c]) behind
      rw [List.append_assoc, hbytes] at hsplit
      rw [bytesFrom]
      exact congrArg (Except.map (·.2)) hsplit
    rw [hletter, hmagnitude, Nat.zero_add]
    dsimp only
    rw [hbefore, ok_bind, hbehind]
    rfl

theorem tryFormatAt_eq (d : Decimal) (format : List Char) : tryFormatAt d format = lift (tryFormat d format) := by
  rw [tryFormatAt, tryFormat, magnitudeAt_eq, ok_bind]
  cases magnitude? format with
  | none => exact applyPatternAt_eq d format
  | some m =>
    dsimp only
    cases d.div? m.divisor with
    | none => rfl
    | some scaled =>
      dsimp only
      rw [applyPatternAt_eq, lift_map]
      cases lift (applyPattern scaled _) <;> rfl

theorem formatAt_eq (d : Decimal) (format : Option String) : formatAt d format = .ok (Numeral.format d format) := by
  unfold formatAt Numeral.format
  cases Text.nonBlank? format with
  | none => rfl
  | some f =>
    dsimp only
    rw [tryFormatAt_eq, ← lift_map, orDefault_lift]
    cases tryFormat d f.toList <;> rfl

end RecordNaming.Numeral
