/-
  RecordNaming.Proofs.Instant.Casing — texts of instants regardless of case.

  (1) A text with an offset has its letters in either case: it is read as its lower case is (`withOffset?_toLower`).

  (2) What is read with an offset has simple characters alone (`isSimple_of_withOffset?`). The layouts without one take
  a capital letter only, so what they read has no small letters (`all_of_layouts`).

  So two texts that are read as instants are read as one instant if they are equal regardless of case
  (`parse?_of_lower_eq`): either both have an offset, or they are equal but for the blanks around them.
-/
import RecordNaming.Instant.Reading
import RecordNaming.Proofs.Text.AsciiCase

namespace RecordNaming.Instant

open Text (isSimple isSimpleNotSmall isSimpleNotSmall_of_isDigit isDigit_toLower toLower_congr)

/-! ## (1) Instants of a lower case -/

/-- What was read, and the rest in lower case. -/
def lowerRest {α : Type} (p : α × List Char) : α × List Char := (p.1, p.2.map Char.toLower)

theorem digitsUpTo?_toLower (most : Nat) (cs : List Char) :
    digitsUpTo? most (cs.map Char.toLower) = (digitsUpTo? most cs).map lowerRest := by
  rw [digitsUpTo?, digitsUpTo?, Text.takeWhile_toLower isDigit_toLower, ← List.map_take]
  simp only [List.isEmpty_map, Text.digitsValue_toLower, List.length_map, ← List.map_drop]
  split
  · rfl
  · rfl

theorem digitsExactly?_toLower (count : Nat) (cs : List Char) :
    digitsExactly? count (cs.map Char.toLower) = (digitsExactly? count cs).map lowerRest := by
  rw [digitsExactly?, digitsExactly?, digitsUpTo?_toLower, ← List.map_take, List.length_map,
    Text.all_toLower isDigit_toLower]
  cases digitsUpTo? count cs with
  | none => rfl
  | some p =>
    simp only [Option.map_some, Option.filter_some]
    split
    · rfl
    · rfl

theorem fraction?_toLower (cs : List Char) :
    fraction? (cs.map Char.toLower) = (fraction? cs).map lowerRest := by
  have hpad (word : List Char) : ((word.map Char.toLower).take 9).rightpad 9 '0' =
      ((word.take 9).rightpad 9 '0').map Char.toLower := by
    simp [List.rightpad, List.map_append, List.map_take]
  rw [fraction?, fraction?, Text.takeWhile_toLower isDigit_toLower, Text.dropWhile_toLower isDigit_toLower]
  simp only [List.isEmpty_map, hpad, Text.digitsValue_toLower]
  split
  · rfl
  · rfl

theorem expect?_toLower (allowed : List Char)
    (h : ∀ n < 128, allowed.contains (Char.ofNat n).toLower = allowed.contains (Char.ofNat n)) (cs : List Char) :
    expect? allowed (cs.map Char.toLower) = (expect? allowed cs).map (List.map Char.toLower) := by
  cases cs with
  | nil => rfl
  | cons c rest =>
    rw [List.map_cons, expect?, expect?, toLower_congr allowed.contains h]
    split
    · rfl
    · rfl

theorem offset?_toLower (cs : List Char) : offset? (cs.map Char.toLower) = offset? cs := by
  rcases cs with - | ⟨c, - | ⟨d, rest⟩⟩
  · rfl
  · -- behind a sign there are digits
    have hnil : digitsExactly? 2 [] = none := rfl
    have hone (c : Char) : offset? [c] = if c == 'Z' || c == 'z' then some 0 else none := by
      by_cases hcapital : c = 'Z'
      · subst hcapital
        rfl
      by_cases hsmall : c = 'z'
      · subst hsmall
        rfl
      simp [offset?, hcapital, hsmall, hnil]
    have hletter : (c.toLower == 'Z' || c.toLower == 'z') = (c == 'Z' || c == 'z') :=
      toLower_congr (fun c => c == 'Z' || c == 'z') (by decide) c
    rw [List.map_cons, List.map_nil, hone, hone, hletter]
  · have hplus : (c.toLower == '+') = (c == '+') := toLower_congr (· == '+') (by decide) c
    have hminus : (c.toLower == '-' || c.toLower == '\u2212') = (c == '-' || c == '\u2212') :=
      toLower_congr (fun c => c == '-' || c == '\u2212') (by decide) c
    have hdigits := digitsExactly?_toLower 2 (d :: rest)
    have colon := expect?_toLower [':'] (by decide)
    rw [List.map_cons] at hdigits
    rw [List.map_cons, List.map_cons]
    generalize c.toLower = sign at hplus hminus
    simp only [offset?, hplus, hminus, hdigits, colon, digitsExactly?_toLower, Option.bind_eq_bind, Option.bind_map,
      Function.comp_def, lowerRest, List.isEmpty_map]

/-- Steps behind two readings that differ in what they hand on: each takes what it is handed for the same. -/
theorem bind_map_congr {α β γ : Type} {o : Option β} {o' : Option α} {g : α → β} {f : β → Option γ} {f' : α → Option γ}
    (ho : o = o'.map g) (h : ∀ a, f (g a) = f' a) : (o >>= f) = (o' >>= f') := by
  rw [ho]
  cases o' with
  | none => rfl
  | some a => exact h a

theorem bind_lowerRest {α β : Type} {o o' : Option (α × List Char)} {f f' : α × List Char → Option β}
    (ho : o = o'.map lowerRest) (h : ∀ a rest, f (a, rest.map Char.toLower) = f' (a, rest)) :
    (o >>= f) = (o' >>= f') :=
  bind_map_congr ho fun p => h p.1 p.2

theorem withOffset?_toLower (cs : List Char) : withOffset? (cs.map Char.toLower) = withOffset? cs := by
  have hyphen := expect?_toLower ['-'] (by decide)
  have colon := expect?_toLower [':'] (by decide)
  have letter := expect?_toLower ['T', 't', ' '] (by decide)
  unfold withOffset?
  refine bind_lowerRest (digitsExactly?_toLower 4 cs) fun year cs => ?_
  refine bind_map_congr (hyphen cs) fun cs => ?_
  refine bind_lowerRest (digitsExactly?_toLower 2 cs) fun month cs => ?_
  refine bind_map_congr (hyphen cs) fun cs => ?_
  refine bind_lowerRest (digitsExactly?_toLower 2 cs) fun day cs => ?_
  refine bind_map_congr (letter cs) fun cs => ?_
  refine bind_lowerRest (digitsExactly?_toLower 2 cs) fun hour cs => ?_
  refine bind_map_congr (colon cs) fun cs => ?_
  refine bind_lowerRest (digitsExactly?_toLower 2 cs) fun minute cs => ?_
  refine bind_map_congr (colon cs) fun cs => ?_
  refine bind_lowerRest (digitsExactly?_toLower 2 cs) fun second cs => ?_
  cases cs with
  | nil => rfl
  | cons c rest =>
    by_cases hpoint : c = '.'
    · subst hpoint
      refine bind_lowerRest (fraction?_toLower rest) fun nanosecond cs => ?_
      show (offset? (cs.map Char.toLower) >>= _) = _
      rw [offset?_toLower]
    · have hl : c.toLower ≠ '.' := mt (Text.toLower_eq_iff (by decide)).mp hpoint
      have hoffset := offset?_toLower (c :: rest)
      rw [List.map_cons] at hoffset ⊢
      simp [hpoint, hl, hoffset]

/-! ## (2) The characters of an instant -/

section

variable {p : Char → Bool} (hp : ∀ c, Text.isDigit c = true → p c = true)

include hp

theorem all_of_digitsUpTo? {most n : Nat} {cs rest : List Char} (h : digitsUpTo? most cs = some (n, rest)) :
    cs.all p = rest.all p := by
  unfold digitsUpTo? at h
  simp only at h
  split at h
  · cases h
  · cases h
    have hprefix : (cs.takeWhile Text.isDigit).take most <+: cs :=
      (List.take_prefix most _).trans (List.takeWhile_prefix Text.isDigit)
    have hword : ((cs.takeWhile Text.isDigit).take most).all p = true := by
      rw [List.all_eq_true]
      intro c hc
      exact hp c (List.all_eq_true.mp List.all_takeWhile c (List.mem_of_mem_take hc))
    generalize (cs.takeWhile Text.isDigit).take most = word at hprefix hword
    obtain ⟨behind, rfl⟩ := hprefix
    rw [List.drop_left, List.all_append, hword, Bool.true_and]

theorem all_of_digitsExactly? {count n : Nat} {cs rest : List Char} (h : digitsExactly? count cs = some (n, rest)) :
    cs.all p = rest.all p :=
  all_of_digitsUpTo? hp (Option.filter_eq_some_iff.mp h).1

theorem all_of_fraction? {n : Nat} {cs rest : List Char} (h : fraction? cs = some (n, rest)) :
    cs.all p = rest.all p := by
  unfold fraction? at h
  simp only at h
  split at h
  · cases h
  · cases h
    exact (Text.all_dropWhile hp cs).symm

omit hp in
theorem all_of_expect? {allowed cs rest : List Char} (ha : allowed.all p = true) (h : expect? allowed cs = some rest) :
    cs.all p = rest.all p := by
  cases cs with
  | nil => cases h
  | cons c behind =>
    rw [expect?] at h
    split at h
    · rename_i hc
      cases h
      rw [List.all_cons, List.all_eq_true.mp ha c (List.contains_iff_mem.mp hc), Bool.true_and]
    · cases h

end

/-! With an offset. -/

theorem isSimple_digitsExactly? {count n : Nat} {cs rest : List Char} (h : digitsExactly? count cs = some (n, rest)) :
    cs.all isSimple = rest.all isSimple :=
  all_of_digitsExactly? (fun _ => Text.isSimple_of_isDigit) h

/-- The numbers of an offset are the end of a text. -/
theorem isSimple_of_offsetNumbers {cs : List Char} {g : Nat × List Char → Nat × List Char → Int} {offset : Int}
    (h : ((digitsExactly? 2 cs).bind fun hours => (expect? [':'] hours.2).bind fun behind =>
      (digitsExactly? 2 behind).bind fun minutes =>
        if hours.1 ≤ 23 ∧ minutes.1 ≤ 59 ∧ minutes.2.isEmpty = true then some (g hours minutes) else none) =
      some offset) : cs.all isSimple = true := by
  simp only [Option.bind_eq_some_iff] at h
  obtain ⟨⟨hours, r1⟩, hhours, r2, hcolon, ⟨minutes, r3⟩, hminutes, hend⟩ := h
  rw [isSimple_digitsExactly? hhours, all_of_expect? (by decide) hcolon, isSimple_digitsExactly? hminutes]
  split at hend
  · rename_i hbounds
    have hnil : r3 = [] := List.isEmpty_iff.mp hbounds.2.2
    rw [hnil]
    rfl
  · cases hend

theorem isSimple_of_offset? {cs : List Char} {offset : Int} (h : offset? cs = some offset) :
    cs.all isSimple = true := by
  unfold offset? at h
  split at h
  · rfl
  · rfl
  · simp only [Option.bind_eq_bind] at h
    split at h
    · rename_i hplus
      rw [beq_iff_eq.mp hplus]
      exact (Text.all_cons_of rfl).trans (isSimple_of_offsetNumbers h)
    · split at h
      · rename_i hminus
        rcases Bool.or_eq_true_iff.mp hminus with hm | hm
        · rw [beq_iff_eq.mp hm]
          exact (Text.all_cons_of rfl).trans (isSimple_of_offsetNumbers h)
        · rw [beq_iff_eq.mp hm]
          exact (Text.all_cons_of rfl).trans (isSimple_of_offsetNumbers h)
      · cases h
  · cases h

theorem exists_of_bind {α β : Type} {o : Option α} {f : α → Option β} {b : β} (h : (o >>= f) = some b) :
    ∃ a, o = some a ∧ f a = some b :=
  Option.bind_eq_some_iff.mp h

theorem isSimple_of_withOffset? {cs : List Char} {t : Instant} (h : withOffset? cs = some t) :
    cs.all isSimple = true := by
  unfold withOffset? at h
  obtain ⟨⟨year, r1⟩, hyear, h⟩ := exists_of_bind h
  obtain ⟨r2, hhyphen, h⟩ := exists_of_bind h
  obtain ⟨⟨month, r3⟩, hmonth, h⟩ := exists_of_bind h
  obtain ⟨r4, hhyphen', h⟩ := exists_of_bind h
  obtain ⟨⟨day, r5⟩, hday, h⟩ := exists_of_bind h
  obtain ⟨r6, hletter, h⟩ := exists_of_bind h
  obtain ⟨⟨hour, r7⟩, hhour, h⟩ := exists_of_bind h
  obtain ⟨r8, hcolon, h⟩ := exists_of_bind h
  obtain ⟨⟨minute, r9⟩, hminute, h⟩ := exists_of_bind h
  obtain ⟨r10, hcolon', h⟩ := exists_of_bind h
  obtain ⟨⟨second, r11⟩, hsecond, h⟩ := exists_of_bind h
  rw [isSimple_digitsExactly? hyear, all_of_expect? (by decide) hhyphen, isSimple_digitsExactly? hmonth,
    all_of_expect? (by decide) hhyphen', isSimple_digitsExactly? hday, all_of_expect? (by decide) hletter,
    isSimple_digitsExactly? hhour, all_of_expect? (by decide) hcolon, isSimple_digitsExactly? hminute,
    all_of_expect? (by decide) hcolon', isSimple_digitsExactly? hsecond]
  simp only at h
  split at h
  · obtain ⟨⟨nanosecond, r12⟩, hnanosecond, h⟩ := exists_of_bind h
    obtain ⟨offset, hoffset, -⟩ := exists_of_bind h
    rw [Text.all_cons_of rfl, all_of_fraction? (fun _ => Text.isSimple_of_isDigit) hnanosecond]
    exact isSimple_of_offset? hoffset
  · obtain ⟨⟨nanosecond, r12⟩, hnone, h⟩ := exists_of_bind h
    cases hnone
    obtain ⟨offset, hoffset, -⟩ := exists_of_bind h
    exact isSimple_of_offset? hoffset

/-! In a layout. -/

theorem notSmall_digitsUpTo? {most n : Nat} {cs rest : List Char} (h : digitsUpTo? most cs = some (n, rest)) :
    cs.all isSimpleNotSmall = rest.all isSimpleNotSmall :=
  all_of_digitsUpTo? (fun _ => isSimpleNotSmall_of_isDigit) h

theorem all_skipBlanks (cs : List Char) : (skipBlanks cs).all isSimpleNotSmall = cs.all isSimpleNotSmall :=
  Text.all_dropWhile (fun _ => Text.isSimpleNotSmall_of_isBlank) cs

theorem all_of_twoDigits? {n : Nat} {cs rest : List Char} (h : twoDigits? cs = some (n, rest)) :
    cs.all isSimpleNotSmall = rest.all isSimpleNotSmall := by
  rw [← all_skipBlanks, notSmall_digitsUpTo? h]

theorem all_of_year? {n : Int} {cs rest : List Char} (h : year? cs = some (n, rest)) :
    cs.all isSimpleNotSmall = rest.all isSimpleNotSmall := by
  unfold year? at h
  split at h
  · obtain ⟨p, hp, hn⟩ := Option.map_eq_some_iff.mp h
    cases hn
    rw [Text.all_cons_of rfl, notSmall_digitsUpTo? hp]
  · obtain ⟨p, hp, hn⟩ := Option.map_eq_some_iff.mp h
    cases hn
    rw [Text.all_cons_of rfl, notSmall_digitsUpTo? hp]
  · obtain ⟨p, hp, hn⟩ := Option.map_eq_some_iff.mp h
    cases hn
    exact notSmall_digitsUpTo? hp

/-- The character of a mark is no small letter. -/
def LayoutItem.notSmall : LayoutItem → Bool
  | mark c => isSimpleNotSmall c
  | _ => true

theorem LayoutItem.all_of_read? {item : LayoutItem} (hitem : item.notSmall = true) {before after : Parts}
    {cs rest : List Char} (h : item.read? before cs = some (after, rest)) :
    cs.all isSimpleNotSmall = rest.all isSimpleNotSmall := by
  have two {f : Nat × List Char → Parts} (h : ((twoDigits? cs).map fun p => (f p, p.2)) = some (after, rest)) :
      cs.all isSimpleNotSmall = rest.all isSimpleNotSmall := by
    obtain ⟨p, hp, hrest⟩ := Option.map_eq_some_iff.mp h
    cases hrest
    exact all_of_twoDigits? hp
  cases item with
  | year =>
    obtain ⟨p, hp, hrest⟩ := Option.map_eq_some_iff.mp h
    cases hrest
    rw [← all_skipBlanks, all_of_year? hp]
  | month => exact two h
  | day => exact two h
  | hour => exact two h
  | minute => exact two h
  | second => exact two h
  | fraction =>
    unfold read? at h
    simp only at h
    split at h
    · obtain ⟨p, hp, hrest⟩ := Option.map_eq_some_iff.mp h
      cases hrest
      rw [Text.all_cons_of rfl, all_of_fraction? (fun _ => isSimpleNotSmall_of_isDigit) hp]
    · cases h
      rfl
  | space =>
    cases h
    exact (all_skipBlanks cs).symm
  | mark c =>
    obtain ⟨behind, hc, hp⟩ := Option.map_eq_some_iff.mp h
    cases hp
    have hmark : [c].all isSimpleNotSmall = true := Text.all_cons_of hitem
    exact all_of_expect? hmark hc

theorem all_of_readLayout? {layout : List LayoutItem} (hlayout : layout.all LayoutItem.notSmall = true) {parts : Parts}
    {cs : List Char} {t : Instant} (h : readLayout? parts layout cs = some t) : cs.all isSimpleNotSmall = true := by
  induction layout generalizing parts cs with
  | nil =>
    rw [readLayout?] at h
    split at h
    · rename_i hnil
      rw [List.isEmpty_iff.mp hnil]
      rfl
    · cases h
  | cons item rest ih =>
    rw [List.all_cons, Bool.and_eq_true] at hlayout
    obtain ⟨⟨after, behind⟩, hitem, hrest⟩ := Option.bind_eq_some_iff.mp h
    rw [LayoutItem.all_of_read? hlayout.1 hitem]
    exact ih hlayout.2 hrest

theorem all_of_layouts {cs : List Char} {t : Instant} (h : layouts.findSome? (readLayout? {} · cs) = some t) :
    cs.all isSimpleNotSmall = true := by
  have hlayouts : layouts.all (·.all LayoutItem.notSmall) = true := by decide
  obtain ⟨layout, hmem, hread⟩ := List.exists_of_findSome?_eq_some h
  exact all_of_readLayout? (List.all_eq_true.mp hlayouts layout hmem) hread

theorem isSimple_of_parse? {s : String} {t : Instant} (h : parse? s = some t) : ∀ c ∈ s.toList, isSimple c = true := by
  refine Text.isSimple_of_trim ?_
  rcases Option.or_eq_some_iff.mp h with hoffset | ⟨-, hlayouts⟩
  · exact isSimple_of_withOffset? hoffset
  · have hall := List.all_eq_true.mp (all_of_layouts hlayouts)
    rw [List.all_eq_true]
    exact fun c hc => (Bool.and_eq_true_iff.mp (hall c hc)).1

/-- An offset is read in either case, so both texts have one or neither has. -/
theorem parse?_of_lower_eq {a b : String} {t u : Instant} (hlower : Text.lower a = Text.lower b)
    (ha : parse? a = some t) (hb : parse? b = some u) : t = u := by
  rw [Text.lower_eq_asciiLower (isSimple_of_parse? ha), Text.lower_eq_asciiLower (isSimple_of_parse? hb),
    Text.asciiLower, Text.asciiLower, String.ofList_inj] at hlower
  have htrim : (Text.trim a.toList).map Char.toLower = (Text.trim b.toList).map Char.toLower := by
    rw [← Text.trim_toLower, hlower, Text.trim_toLower]
  have hoffset : withOffset? (Text.trim a.toList) = withOffset? (Text.trim b.toList) := by
    rw [← withOffset?_toLower, htrim, withOffset?_toLower]
  unfold parse? at ha hb
  simp only at ha hb
  rcases Option.or_eq_some_iff.mp ha with hat | ⟨hnone, hat⟩
  · rw [← hoffset, hat] at hb
    exact Option.some.inj hb
  · rw [← hoffset, hnone] at hb
    have heq := Text.map_toLower_inj (all_of_layouts hat) (all_of_layouts hb) htrim
    rw [heq] at hat
    exact Option.some.inj (hat.symm.trans hb)

end RecordNaming.Instant
