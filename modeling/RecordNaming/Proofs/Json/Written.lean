/-
  RecordNaming.Proofs.Json.Written — the written forms of a JSON value, and that they are
  read back.

  `Written` is the grammar of values whose numbers are whole: tokens as the printers
  write them, with any spaces between them.
  - `readString_quote`: every string survives its escapes.
  - `readNumber_natDigits`: whole numbers of 64 bits are exact.
  - `readValue_written`: a written value followed by anything that cannot continue a number
    is read as that value, and what follows is left (`read?_written` for whole texts).
  - `written_pretty`, `written_compact`: what the printers give are written forms.
-/
import RecordNaming.Json.Printer
import RecordNaming.Json.Reader
import RecordNaming.Proofs.Text.Digits

namespace RecordNaming.Json

open Document (Node)
open Text (natDigits digitsFrom)

/-! ## Strings -/

theorem hex4?_hexDigit {n : Nat} (h : n < 32) :
    hex4? '0' '0' (hexDigit (n / 16)) (hexDigit (n % 16)) = some n := by
  have all : ∀ m < 32, hex4? '0' '0' (hexDigit (m / 16)) (hexDigit (m % 16)) = some m := by decide
  exact all n h

theorem pushUnit_low (p : StringPart) {c : Char} (h : c.toNat < 32) : p.pushUnit c.toNat = p.push c := by
  unfold StringPart.pushUnit
  rw [if_neg (by simp; omega), if_neg (by simp; omega), Char.ofNat_toNat]

theorem readString_plain (p : StringPart) {c : Char} (hq : c ≠ '\x22') (hb : c ≠ '\\') (h : ¬ c.toNat < 32)
    (rest : List Char) : readString p (c :: rest) = readString (p.push c) rest := by
  rw [readString] <;> simp [hq, hb, h]

/-- An escaped character is read as that character. -/
theorem readString_escaped (p : StringPart) (c : Char) (rest : List Char) :
    readString p (escaped c ++ rest) = readString (p.push c) rest := by
  unfold escaped
  by_cases h1 : c = '\x22'
  · subst h1; rfl
  by_cases h2 : c = '\\'
  · subst h2; rfl
  by_cases h3 : c = '\x08'
  · subst h3; rfl
  by_cases h4 : c = '\x0C'
  · subst h4; rfl
  by_cases h5 : c = '\n'
  · subst h5; rfl
  by_cases h6 : c = '\r'
  · subst h6; rfl
  by_cases h7 : c = '\t'
  · subst h7; rfl
  simp only [beq_iff_eq, h1, h2, h3, h4, h5, h6, h7, if_false]
  by_cases h8 : c.toNat < 32
  · simp only [h8, if_true, List.cons_append, List.nil_append]
    rw [readString, hex4?_hexDigit h8]
    simp only [pushUnit_low p h8]
  · simp only [h8, if_false, List.cons_append, List.nil_append]
    exact readString_plain p h1 h2 h8 rest

theorem readString_flatMap_escaped (cs acc rest : List Char) :
    readString ⟨some acc, 0⟩ (cs.flatMap escaped ++ '\x22' :: rest) =
      some (some (String.ofList (acc.reverse ++ cs)), rest) := by
  induction cs generalizing acc with
  | nil => simp [readString, StringPart.close]
  | cons c cs ih =>
    rw [List.flatMap_cons, List.append_assoc, readString_escaped]
    have hp : (⟨some acc, 0⟩ : StringPart).push c = ⟨some (c :: acc), 0⟩ := rfl
    rw [hp, ih]
    simp

/-- A quoted string is read back. -/
theorem readString_quote (s : String) (rest : List Char) :
    readString {} (s.toList.flatMap escaped ++ '\x22' :: rest) = some (some s, rest) := by
  have h := readString_flatMap_escaped s.toList [] rest
  rwa [List.reverse_nil, List.nil_append, String.ofList_toList] at h

/-! ## Whole numbers -/

theorem absorb_eq {n : Nat} {cs : List Char} (h : digitsFrom n cs ≤ 18446744073709551615) :
    absorb n cs = (digitsFrom n cs, []) := by
  induction cs generalizing n with
  | nil => rfl
  | cons c cs ih =>
    rw [Text.digitsFrom_cons] at h ⊢
    have hle := Text.le_digitsFrom (n * 10 + (Text.digit? c).getD 0) cs
    rw [absorb]
    simp only [if_pos (Nat.le_trans hle h), ih h]

/-- The text after a value does not go on with a number. -/
def Closes (rest : List Char) : Prop :=
  ∀ c, rest.head? = some c → Text.isDigit c = false ∧ c ≠ '.' ∧ c ≠ 'e' ∧ c ≠ 'E'

theorem closes_cons {c : Char} {rest : List Char}
    (h : Text.isDigit c = false ∧ c ≠ '.' ∧ c ≠ 'e' ∧ c ≠ 'E') : Closes (c :: rest) := by
  intro d hd
  cases hd
  exact h

theorem closes_nil : Closes [] := fun _ h => by cases h

theorem readNumber_natDigits {negative : Bool} {magnitude : Nat} {rest : List Char} (hr : Closes rest)
    {n : Int} (hn : n = if negative then -(magnitude : Int) else magnitude)
    (low : -9223372036854775808 ≤ n) (high : n ≤ 18446744073709551615)
    (hz : negative = true → 0 < magnitude) :
    readNumber negative (natDigits magnitude ++ rest) = some (.number (.integer n low high), rest) := by
  obtain ⟨hw, hd⟩ := Text.takeWhile_isDigit_append
    (fun _ h => Text.isDigit_of_mem_natDigits (n := magnitude) h) (fun c h => (hr c h).1)
  have hm : magnitude ≤ 18446744073709551615 := by
    cases negative <;> simp at hn <;> omega
  have ha : absorb 0 (natDigits magnitude) = (magnitude, []) := by
    rw [absorb_eq (by rwa [Text.digitsFrom_natDigits]), Text.digitsFrom_natDigits]
  have he : (natDigits magnitude).isEmpty = false := by simp [Text.natDigits_ne_nil]
  have hzero : (negative && magnitude == 0) = false := by
    cases negative with
    | false => rfl
    | true => have := hz rfl; simp; omega
  have hnode : numberNode negative (natDigits magnitude) none none = .number (.integer n low high) := by
    simp only [numberNode, ha, List.isEmpty_nil, hzero, Bool.not_false, Bool.and_self, if_true, ← hn,
      Number.ofInt?, dif_pos (And.intro low high)]
  unfold readNumber
  simp only [hw, hd, he, Text.natDigits_no_leading_zero, Bool.or_self]
  cases rest with
  | nil => simp [hnode]
  | cons c cs =>
    obtain ⟨-, hdot, he, hE⟩ := hr c rfl
    simp [hnode, hdot, he, hE]

/-! ## Written values -/

def Spaces (cs : List Char) : Prop := ∀ c ∈ cs, isSpace c = true

theorem spaces_nil : Spaces [] := by simp [Spaces]

theorem skipSpace_append {ws : List Char} (h : Spaces ws) (cs : List Char) :
    skipSpace (ws ++ cs) = skipSpace cs :=
  List.dropWhile_append_of_pos h

theorem skipSpace_cons {c : Char} (h : isSpace c = false) (cs : List Char) : skipSpace (c :: cs) = c :: cs := by
  simp [skipSpace, h]

theorem skipSpace_to {ws : List Char} (h : Spaces ws) {c : Char} (hc : isSpace c = false) (cs : List Char) :
    skipSpace (ws ++ c :: cs) = c :: cs := by
  rw [skipSpace_append h, skipSpace_cons hc]

theorem isSpace_of_isDigit {c : Char} (h : c.isDigit = true) : isSpace c = false := by
  cases hs : isSpace c with
  | false => rfl
  | true =>
    simp [isSpace] at hs
    rcases hs with ((rfl | rfl) | rfl) | rfl <;> cases h

mutual

/-- The written forms of a value. -/
inductive Written : Json → List Char → Prop
  | null : Written .null "null".toList
  | bool (b : Bool) : Written (.bool b) (if b then "true".toList else "false".toList)
  | integer (n : Int) (low : -9223372036854775808 ≤ n) (high : n ≤ 18446744073709551615) :
      Written (.number (.integer n low high)) (Text.intDigits n)
  | string (s : String) : Written (.string s) (quote s)
  | emptyArray (ws : List Char) : Spaces ws → Written (.array []) ('[' :: ws ++ [']'])
  | array (items : List Json) (cs : List Char) : WrittenItems items cs → Written (.array items) ('[' :: cs)
  | emptyObject (ws : List Char) : Spaces ws → Written (.object []) ('\x7b' :: ws ++ ['\x7d'])
  | object (members : List (String × Json)) (cs : List Char) : WrittenMembers members cs →
      Written (.object members) ('\x7b' :: cs)

/-- The written forms of one item or more and the closing bracket. -/
inductive WrittenItems : List Json → List Char → Prop
  | last (item : Json) (ws cs ws' : List Char) : Spaces ws → Written item cs → Spaces ws' →
      WrittenItems [item] (ws ++ cs ++ (ws' ++ [']']))
  | more (item : Json) (rest : List Json) (ws cs ws' ds : List Char) : Spaces ws → Written item cs →
      Spaces ws' → WrittenItems rest ds → WrittenItems (item :: rest) (ws ++ cs ++ (ws' ++ ',' :: ds))

/-- The written forms of one member or more and the closing brace. -/
inductive WrittenMembers : List (String × Json) → List Char → Prop
  | last (name : String) (value : Json) (ws ws' cs ws'' : List Char) : Spaces ws → Spaces ws' →
      Written value cs → Spaces ws'' →
      WrittenMembers [(name, value)] (ws ++ quote name ++ ':' :: (ws' ++ cs ++ (ws'' ++ ['\x7d'])))
  | more (name : String) (value : Json) (rest : List (String × Json)) (ws ws' cs ws'' ds : List Char) :
      Spaces ws → Spaces ws' → Written value cs → Spaces ws'' → WrittenMembers rest ds →
      WrittenMembers ((name, value) :: rest)
        (ws ++ quote name ++ ':' :: (ws' ++ cs ++ (ws'' ++ ',' :: ds)))

end

theorem intDigits_head (n : Int) : ∃ c cs, Text.intDigits n = c :: cs ∧ (c = '-' ∨ c.isDigit = true) := by
  unfold Text.intDigits
  by_cases h : n < 0
  · rw [if_pos h]
    exact ⟨'-', _, rfl, Or.inl rfl⟩
  · rw [if_neg h]
    obtain ⟨c, cs, hc⟩ := List.exists_cons_of_ne_nil (Text.natDigits_ne_nil n.natAbs)
    refine ⟨c, cs, hc, Or.inr (Text.charIsDigit_of_mem_natDigits (n := n.natAbs) ?_)⟩
    rw [hc]
    exact List.mem_cons_self

/-- A value starts with no space, and not as an array ends. -/
theorem Written.head {j : Json} {cs : List Char} (h : Written j cs) :
    ∃ c ds, cs = c :: ds ∧ isSpace c = false ∧ c ≠ ']' := by
  cases h with
  | bool b => cases b <;> exact ⟨_, _, rfl, rfl, by decide⟩
  | integer n low high =>
    obtain ⟨c, cs, hc, hd⟩ := intDigits_head n
    refine ⟨c, cs, hc, ?_⟩
    rcases hd with rfl | hd
    · exact ⟨rfl, by decide⟩
    · refine ⟨isSpace_of_isDigit hd, ?_⟩
      rintro rfl
      cases hd
  | _ => exact ⟨_, _, rfl, rfl, by decide⟩

theorem WrittenItems.head {items : List Json} {cs : List Char} (h : WrittenItems items cs) (rest : List Char) :
    ∃ c ds, skipSpace (cs ++ rest) = c :: ds ∧ c ≠ ']' := by
  cases h with
  | last item ws cs ws' hw h _ =>
    obtain ⟨c, ds, rfl, hs, hc⟩ := h.head
    exact ⟨c, ds ++ (ws' ++ ']' :: rest), by simp [skipSpace_to hw hs], hc⟩
  | more item items ws cs ws' es hw h _ _ =>
    obtain ⟨c, ds, rfl, hs, hc⟩ := h.head
    exact ⟨c, ds ++ (ws' ++ ',' :: (es ++ rest)), by simp [skipSpace_to hw hs], hc⟩

theorem WrittenMembers.head {members : List (String × Json)} {cs : List Char} (h : WrittenMembers members cs)
    (rest : List Char) : ∃ ds, skipSpace (cs ++ rest) = '\x22' :: ds := by
  cases h with
  | last name value ws ws' cs ws'' hw _ _ _ =>
    rw [List.append_assoc, List.append_assoc, skipSpace_append hw]
    exact ⟨_, rfl⟩
  | more name value members ws ws' cs ws'' ds hw _ _ _ _ =>
    rw [List.append_assoc, List.append_assoc, skipSpace_append hw]
    exact ⟨_, rfl⟩

/-! ## Reading what is written -/

theorem skipSpace_skipSpace (cs : List Char) : skipSpace (skipSpace cs) = skipSpace cs := by
  induction cs with
  | nil => rfl
  | cons c cs ih =>
    by_cases h : isSpace c = true
    · simpa [skipSpace, h] using ih
    · simp [skipSpace, h]

theorem readValue_skipSpace (fuel : Nat) (cs : List Char) :
    readValue fuel (skipSpace cs) = readValue fuel cs := by
  cases fuel with
  | zero => simp [readValue]
  | succ fuel => rw [readValue, readValue, skipSpace_skipSpace]

theorem readItems_skipSpace (fuel : Nat) (cs : List Char) :
    readItems fuel (skipSpace cs) = readItems fuel cs := by
  cases fuel with
  | zero => simp [readItems]
  | succ fuel => rw [readItems, readItems, readValue_skipSpace]

theorem readEntries_skipSpace (fuel : Nat) (cs : List Char) :
    readEntries fuel (skipSpace cs) = readEntries fuel cs := by
  cases fuel with
  | zero => simp [readEntries]
  | succ fuel => rw [readEntries, readEntries, skipSpace_skipSpace]

theorem readValue_spaces {ws : List Char} (h : Spaces ws) (fuel : Nat) (cs : List Char) :
    readValue fuel (ws ++ cs) = readValue fuel cs := by
  rw [← readValue_skipSpace, skipSpace_append h, readValue_skipSpace]

theorem readValue_digits {c : Char} (h : c.isDigit = true) (fuel : Nat) (cs : List Char) :
    readValue (fuel + 1) (c :: cs) = readNumber false (c :: cs) := by
  rw [readValue, skipSpace_cons (isSpace_of_isDigit h)]
  split <;> simp_all

theorem readValue_integer {n : Int} (low : -9223372036854775808 ≤ n) (high : n ≤ 18446744073709551615)
    (fuel : Nat) {rest : List Char} (hr : Closes rest) :
    readValue (fuel + 1) (Text.intDigits n ++ rest) = some (.number (.integer n low high), rest) := by
  unfold Text.intDigits
  by_cases h : n < 0
  · rw [if_pos h, List.cons_append, readValue, skipSpace_cons (by decide)]
    have hn : n = if true then -(n.natAbs : Int) else n.natAbs := by rw [if_pos rfl]; omega
    exact readNumber_natDigits hr hn low high fun _ => by omega
  · rw [if_neg h]
    obtain ⟨c, cs, hc⟩ := List.exists_cons_of_ne_nil (Text.natDigits_ne_nil n.natAbs)
    have hd : c.isDigit = true := Text.charIsDigit_of_mem_natDigits (n := n.natAbs) (by simp [hc])
    rw [hc, List.cons_append, readValue_digits hd, ← List.cons_append, ← hc]
    have hn : n = if false then -(n.natAbs : Int) else n.natAbs := by rw [if_neg Bool.false_ne_true]; omega
    exact readNumber_natDigits hr hn low high fun e => absurd e Bool.false_ne_true

/-- Spaces and what comes after them do not go on with a number. -/
theorem closes_spaces {ws : List Char} (h : Spaces ws) {rest : List Char} (hr : Closes rest) :
    Closes (ws ++ rest) := by
  cases ws with
  | nil => exact hr
  | cons c ws =>
    refine closes_cons ?_
    have hc := h c List.mem_cons_self
    simp [isSpace] at hc
    rcases hc with ((rfl | rfl) | rfl) | rfl <;> decide

mutual

-- an item takes two calls and has two characters at least, its comma or bracket counted
/-- A written value is read as the value wherever no number goes on behind it; what follows is left. -/
theorem readValue_written {j : Json} {cs : List Char} : Written j cs → ∀ {fuel : Nat} {rest : List Char},
    2 * cs.length ≤ fuel → Closes rest → readValue fuel (cs ++ rest) = some (Node.ofJson j, rest)
  | .null, fuel + 1, rest, _, _ => by
    simp [readValue, skipSpace, isSpace, Node.ofJson]
  | .bool b, fuel + 1, rest, _, _ => by
    cases b <;> simp [readValue, skipSpace, isSpace, Node.ofJson]
  | .integer n low high, fuel + 1, rest, _, hr => readValue_integer low high fuel hr
  | .string s, fuel + 1, rest, _, _ => by
    rw [quote, List.cons_append, List.cons_append, readValue, skipSpace_cons (by decide)]
    simp [readString_quote, stringNode, Node.ofJson]
  | .emptyArray ws h, fuel + 1, rest, _, _ => by
    have hs := skipSpace_to h (c := ']') rfl rest
    rw [List.cons_append, List.cons_append, readValue, skipSpace_cons rfl]
    simp [hs, Node.ofJson, Node.ofItems]
  | .array items cs h, fuel + 1, rest, hf, hr => by
    obtain ⟨c, ds, hs, hc⟩ := h.head rest
    have hi : readItems fuel (c :: ds) = some (Node.ofItems items, rest) := by
      rw [← hs, readItems_skipSpace, readItems_written h (by simp at hf; omega)]
    rw [List.cons_append, readValue, skipSpace_cons rfl]
    simp [hs, hc, hi, Node.ofJson]
  | .emptyObject ws h, fuel + 1, rest, _, _ => by
    have hs := skipSpace_to h (c := '\x7d') rfl rest
    rw [List.cons_append, List.cons_append, readValue, skipSpace_cons rfl]
    simp [hs, Node.ofJson, Node.ofMembers]
  | .object members cs h, fuel + 1, rest, hf, hr => by
    obtain ⟨ds, hs⟩ := h.head rest
    have hm : readEntries fuel ('\x22' :: ds) = some (Node.ofMembers members, rest) := by
      rw [← hs, readEntries_skipSpace, readEntries_written h (by simp at hf; omega)]
    rw [List.cons_append, readValue, skipSpace_cons rfl]
    simp [hs, hm, Node.ofJson]
  | h, 0, rest, hf, hr => by
    obtain ⟨c, ds, rfl, -⟩ := h.head
    simp at hf

theorem readItems_written {items : List Json} {cs : List Char} : WrittenItems items cs →
    ∀ {fuel : Nat} {rest : List Char}, 2 * cs.length ≤ fuel →
      readItems fuel (cs ++ rest) = some (Node.ofItems items, rest)
  | .last item ws cs ws' hw h hw', fuel, rest, hf => by
    obtain ⟨f, rfl⟩ : ∃ f, fuel = f + 1 := ⟨fuel - 1, by simp at hf; omega⟩
    have hv : readValue f (ws ++ (cs ++ (ws' ++ ']' :: rest))) = some (Node.ofJson item, ws' ++ ']' :: rest) := by
      rw [readValue_spaces hw,
        readValue_written h (by simp at hf; omega) (closes_spaces hw' (closes_cons (by decide)))]
    simp only [List.append_assoc, List.cons_append, List.nil_append]
    rw [readItems, hv]
    simp [skipSpace_to hw' (c := ']') rfl, Node.ofItems]
  | .more item items ws cs ws' ds hw h hw' hi, fuel, rest, hf => by
    obtain ⟨f, rfl⟩ : ∃ f, fuel = f + 1 := ⟨fuel - 1, by simp at hf; omega⟩
    have hv : readValue f (ws ++ (cs ++ (ws' ++ ',' :: (ds ++ rest)))) =
        some (Node.ofJson item, ws' ++ ',' :: (ds ++ rest)) := by
      rw [readValue_spaces hw,
        readValue_written h (by simp at hf; omega) (closes_spaces hw' (closes_cons (by decide)))]
    have hd : readItems f (ds ++ rest) = some (Node.ofItems items, rest) :=
      readItems_written hi (by simp at hf; omega)
    simp only [List.append_assoc, List.cons_append]
    rw [readItems, hv]
    simp [skipSpace_to hw' (c := ',') rfl, hd, Node.ofItems]

theorem readEntries_written {members : List (String × Json)} {cs : List Char} : WrittenMembers members cs →
    ∀ {fuel : Nat} {rest : List Char}, 2 * cs.length ≤ fuel →
      readEntries fuel (cs ++ rest) = some (Node.ofMembers members, rest)
  | .last name value ws ws' cs ws'' hw hw' h hw'', fuel, rest, hf => by
    obtain ⟨f, rfl⟩ : ∃ f, fuel = f + 1 := ⟨fuel - 1, by simp at hf; omega⟩
    have hv : readValue f (ws' ++ (cs ++ (ws'' ++ '\x7d' :: rest))) =
        some (Node.ofJson value, ws'' ++ '\x7d' :: rest) := by
      rw [readValue_spaces hw',
        readValue_written h (by simp at hf; omega) (closes_spaces hw'' (closes_cons (by decide)))]
    simp only [quote, List.append_assoc, List.cons_append, List.nil_append]
    rw [readEntries, skipSpace_to hw rfl]
    simp [readString_quote, skipSpace_cons (c := ':') rfl, hv, skipSpace_to hw'' (c := '\x7d') rfl, stringNode,
      Node.ofMembers]
  | .more name value members ws ws' cs ws'' ds hw hw' h hw'' hm, fuel, rest, hf => by
    obtain ⟨f, rfl⟩ : ∃ f, fuel = f + 1 := ⟨fuel - 1, by simp at hf; omega⟩
    have hv : readValue f (ws' ++ (cs ++ (ws'' ++ ',' :: (ds ++ rest)))) =
        some (Node.ofJson value, ws'' ++ ',' :: (ds ++ rest)) := by
      rw [readValue_spaces hw',
        readValue_written h (by simp at hf; omega) (closes_spaces hw'' (closes_cons (by decide)))]
    have hd : readEntries f (ds ++ rest) = some (Node.ofMembers members, rest) :=
      readEntries_written hm (by simp at hf; omega)
    simp only [quote, List.append_assoc, List.cons_append, List.nil_append]
    rw [readEntries, skipSpace_to hw rfl]
    simp [readString_quote, skipSpace_cons (c := ':') rfl, hv, skipSpace_to hw'' (c := ',') rfl, hd, stringNode,
      Node.ofMembers]

end

/-- The text of a written value is read as the value, with spaces around it or without. -/
theorem read?_written {j : Json} {ws cs ws' : List Char} (hw : Spaces ws) (h : Written j cs) (hw' : Spaces ws') :
    read? (ws ++ cs ++ ws') = some (Node.ofJson j) := by
  have hc : Closes ws' := by simpa using closes_spaces hw' closes_nil
  have hv : readValue (2 * (ws ++ cs ++ ws').length + 2) (ws ++ (cs ++ ws')) = some (Node.ofJson j, ws') := by
    rw [readValue_spaces hw, readValue_written h (by simp; omega) hc]
  have hs : skipSpace ws' = [] := by
    rw [← List.append_nil ws', skipSpace_append hw']
    rfl
  rw [← List.append_assoc] at hv
  rw [read?, hv]
  simp [hs]

/-! ## What the printer writes -/

mutual

/-- All numbers in a value are whole. -/
def Whole : Json → Prop
  | .number (.float _) => False
  | .array items => WholeItems items
  | .object members => WholeMembers members
  | _ => True

def WholeItems : List Json → Prop
  | [] => True
  | item :: rest => Whole item ∧ WholeItems rest

def WholeMembers : List (String × Json) → Prop
  | [] => True
  | (_, value) :: rest => Whole value ∧ WholeMembers rest

end

theorem spaces_newline (level : Nat) : Spaces (newline level) := by
  intro c hc
  rcases List.mem_cons.mp hc with rfl | hc
  · rfl
  · rw [List.eq_of_mem_replicate hc]
    rfl

theorem spaces_blank : Spaces [' '] := by simp [Spaces, isSpace]

mutual

theorem written_pretty (level : Nat) : ∀ j : Json, Whole j → Written j (pretty level j)
  | .null, _ => .null
  | .bool b, _ => by cases b <;> exact .bool _
  | .number (.integer n low high), _ => .integer n low high
  | .number (.float _), h => h.elim
  | .string s, _ => .string s
  | .array [], _ => .emptyArray [] spaces_nil
  | .array (item :: rest), h =>
    .array _ _ (writtenItems_pretty (level + 1) level (item :: rest) (List.cons_ne_nil _ _) h)
  | .object [], _ => .emptyObject [] spaces_nil
  | .object (m :: rest), h =>
    .object _ _ (writtenMembers_pretty (level + 1) level (m :: rest) (List.cons_ne_nil _ _) h)

theorem writtenItems_pretty (level outer : Nat) : ∀ items : List Json, items ≠ [] → WholeItems items →
    WrittenItems items (prettyItems level items ++ newline outer ++ [']'])
  | [item], _, h => by
    have hi := WrittenItems.last item _ _ _ (spaces_newline level) (written_pretty level item h.1)
      (spaces_newline outer)
    simpa only [prettyItems, List.append_assoc] using hi
  | item :: next :: rest, _, h => by
    have hi := WrittenItems.more item _ _ _ _ _ (spaces_newline level) (written_pretty level item h.1)
      spaces_nil (writtenItems_pretty level outer (next :: rest) (List.cons_ne_nil _ _) h.2)
    simpa only [prettyItems, List.append_assoc, List.cons_append, List.nil_append] using hi

theorem writtenMembers_pretty (level outer : Nat) : ∀ members : List (String × Json), members ≠ [] →
    WholeMembers members → WrittenMembers members (prettyMembers level members ++ newline outer ++ ['\x7d'])
  | [(name, value)], _, h => by
    have hm := WrittenMembers.last name value _ _ _ _ (spaces_newline level) spaces_blank
      (written_pretty level value h.1) (spaces_newline outer)
    simpa only [prettyMembers, List.append_assoc, List.cons_append, List.nil_append] using hm
  | (name, value) :: next :: rest, _, h => by
    have hm := WrittenMembers.more name value _ _ _ _ _ _ (spaces_newline level) spaces_blank
      (written_pretty level value h.1) spaces_nil
      (writtenMembers_pretty level outer (next :: rest) (List.cons_ne_nil _ _) h.2)
    simpa only [prettyMembers, List.append_assoc, List.cons_append, List.nil_append] using hm

end

mutual

theorem written_compact : ∀ j : Json, Whole j → Written j (compact j)
  | .null, _ => .null
  | .bool b, _ => by cases b <;> exact .bool _
  | .number (.integer n low high), _ => .integer n low high
  | .number (.float _), h => h.elim
  | .string s, _ => .string s
  | .array [], _ => .emptyArray [] spaces_nil
  | .array (item :: rest), h => .array _ _ (writtenItems_compact (item :: rest) (List.cons_ne_nil _ _) h)
  | .object [], _ => .emptyObject [] spaces_nil
  | .object (m :: rest), h => .object _ _ (writtenMembers_compact (m :: rest) (List.cons_ne_nil _ _) h)

theorem writtenItems_compact : ∀ items : List Json, items ≠ [] → WholeItems items →
    WrittenItems items (compactItems items ++ [']'])
  | [item], _, h => .last item [] _ [] spaces_nil (written_compact item h.1) spaces_nil
  | item :: next :: rest, _, h => by
    have hi := WrittenItems.more item _ [] _ [] _ spaces_nil (written_compact item h.1) spaces_nil
      (writtenItems_compact (next :: rest) (List.cons_ne_nil _ _) h.2)
    simpa only [compactItems, List.append_assoc, List.cons_append, List.nil_append] using hi

theorem writtenMembers_compact : ∀ members : List (String × Json), members ≠ [] → WholeMembers members →
    WrittenMembers members (compactMembers members ++ ['\x7d'])
  | [(name, value)], _, h => by
    have hm := WrittenMembers.last name value [] [] _ [] spaces_nil spaces_nil (written_compact value h.1)
      spaces_nil
    simpa only [compactMembers, List.append_assoc, List.cons_append, List.nil_append] using hm
  | (name, value) :: next :: rest, _, h => by
    have hm := WrittenMembers.more name value _ [] [] _ [] _ spaces_nil spaces_nil (written_compact value h.1)
      spaces_nil (writtenMembers_compact (next :: rest) (List.cons_ne_nil _ _) h.2)
    simpa only [compactMembers, List.append_assoc, List.cons_append, List.nil_append] using hm

end

/-- The indented text of a value is read as the value. -/
theorem read?_prettyText {j : Json} (h : Whole j) : read? j.prettyText.toList = some (Node.ofJson j) := by
  have hr := read?_written spaces_nil (written_pretty 0 j h) spaces_nil
  simpa [prettyText] using hr

/-- The compact text of a value is read as the value. -/
theorem read?_compactText {j : Json} (h : Whole j) : read? j.compactText.toList = some (Node.ofJson j) := by
  have hr := read?_written spaces_nil (written_compact j h) spaces_nil
  simpa [compactText] using hr

end RecordNaming.Json
