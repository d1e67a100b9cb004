/-
  RecordNaming.Proofs.Text.Blank — blank texts, and what is left of a text without the blanks at its
  ends.

  (1) A string is not blank if a single character of it is not (`allBlank_eq_false_of_mem`).

  (2) Trimming takes blanks off the two ends and nothing else (`exists_trim`), as many as there are
  (`head?_trim`, `getLast?_trim`): a second time it takes off nothing (`trim_trim`), and the characters that
  are not blank stay (`visible_trim`).
-/
import Mathlib.Data.List.Basic
import RecordNaming.Proofs.Text.Digits

namespace RecordNaming.Text

/-! ## (1) Blank strings -/

theorem allBlank_eq_false_of_mem {s : String} {c : Char} (h : c ∈ s.toList) (hc : isBlank c = false) :
    allBlank s = false := by
  refine List.all_eq_false.mpr ⟨c, h, ?_⟩
  rw [hc]
  exact Bool.false_ne_true

theorem allBlank_ofList (cs : List Char) : allBlank (String.ofList cs) = cs.all isBlank := by
  rw [allBlank, String.toList_ofList]

theorem ne_empty_of_not_blank {s : String} (h : allBlank s = false) : s ≠ "" := by
  rintro rfl
  cases h

/-! ## (2) Trimmed texts -/

/-- The characters of a text that are not blank, in order. -/
def visible (cs : List Char) : List Char := cs.filter (!isBlank ·)

theorem visible_append (cs ds : List Char) : visible (cs ++ ds) = visible cs ++ visible ds :=
  List.filter_append ..

theorem visible_eq_nil_iff {cs : List Char} : visible cs = [] ↔ cs.all isBlank = true := by
  simp [visible]

/-- Behind the trimmed text stand the last blanks. -/
theorem trim_append_lastBlanks (cs : List Char) :
    trim cs ++ ((cs.dropWhile isBlank).reverse.takeWhile isBlank).reverse = cs.dropWhile isBlank := by
  rw [trim, ← List.reverse_append, List.takeWhile_append_dropWhile, List.reverse_reverse]

/-- Blanks are taken off the two ends of a text. -/
theorem exists_trim (cs : List Char) :
    ∃ before behind, cs = before ++ trim cs ++ behind ∧ before.all isBlank = true ∧ behind.all isBlank = true := by
  refine ⟨cs.takeWhile isBlank, ((cs.dropWhile isBlank).reverse.takeWhile isBlank).reverse, ?_,
    List.all_takeWhile, ?_⟩
  · rw [List.append_assoc, trim_append_lastBlanks]
    exact List.takeWhile_append_dropWhile.symm
  · rw [List.all_reverse]
    exact List.all_takeWhile

theorem trim_isInfix (cs : List Char) : trim cs <:+: cs := by
  obtain ⟨before, behind, h, -, -⟩ := exists_trim cs
  exact ⟨before, behind, h.symm⟩

theorem visible_trim (cs : List Char) : visible (trim cs) = visible cs := by
  obtain ⟨before, behind, h, hbefore, hbehind⟩ := exists_trim cs
  have hcs : visible cs = visible (before ++ trim cs ++ behind) := congrArg visible h
  rw [hcs, visible_append, visible_append, visible_eq_nil_iff.mpr hbefore, visible_eq_nil_iff.mpr hbehind,
    List.nil_append, List.append_nil]

theorem getLast?_trim {cs : List Char} {c : Char} (h : (trim cs).getLast? = some c) : isBlank c = false := by
  rw [trim, List.getLast?_reverse] at h
  have hd := List.head?_dropWhile_not isBlank (cs.dropWhile isBlank).reverse
  rw [h] at hd
  exact hd

theorem head?_trim {cs : List Char} {c : Char} (h : (trim cs).head? = some c) : isBlank c = false := by
  have hd := List.head?_dropWhile_not isBlank cs
  have hc : (cs.dropWhile isBlank).head? = some c := by
    rw [← trim_append_lastBlanks cs, List.head?_append, h, Option.some_or]
  rw [hc] at hd
  exact hd

@[simp] theorem trim_trim (cs : List Char) : trim (trim cs) = trim cs :=
  trim_of_ends (fun _ h => head?_trim h) fun _ h => getLast?_trim h

/-- Trimmed text stays trimmed in front of text that does not end with a blank. -/
theorem trim_append_eq {cs ds : List Char} (hne : cs ≠ []) (hc : trim cs = cs)
    (hd : ∀ d, ds.getLast? = some d → isBlank d = false) : trim (cs ++ ds) = cs ++ ds := by
  refine trim_of_ends ?_ ?_
  · intro c h
    rw [List.head?_append_of_ne_nil _ hne, ← hc] at h
    exact head?_trim h
  · intro c h
    rw [List.getLast?_append] at h
    cases hl : ds.getLast? with
    | none =>
      rw [hl, Option.none_or, ← hc] at h
      exact getLast?_trim h
    | some d =>
      rw [hl, Option.some_or] at h
      cases h
      exact hd _ hl

theorem trim_eq_nil_iff {cs : List Char} : trim cs = [] ↔ cs.all isBlank = true := by
  constructor
  · intro h
    obtain ⟨before, behind, hcs, hbefore, hbehind⟩ := exists_trim cs
    rw [hcs, h, List.append_nil, List.all_append, hbefore, hbehind, Bool.and_self]
  · intro h
    cases hc : (trim cs).head? with
    | none => exact List.head?_eq_none_iff.mp hc
    | some c =>
      have hm : c ∈ cs := (trim_isInfix cs).subset (List.mem_of_head? hc)
      have hblank := List.all_eq_true.mp h c hm
      rw [head?_trim hc] at hblank
      cases hblank

/-- Blanks put around a text are taken off again. -/
theorem trim_blanks {before behind : List Char} (hbefore : before.all isBlank = true)
    (hbehind : behind.all isBlank = true) (cs : List Char) : trim (before ++ cs ++ behind) = trim cs := by
  have hdrop : (before ++ cs ++ behind).dropWhile isBlank = (cs ++ behind).dropWhile isBlank := by
    rw [List.append_assoc, List.dropWhile_append_of_pos (List.all_eq_true.mp hbefore)]
  by_cases hcs : cs.all isBlank = true
  · have hall : (before ++ cs ++ behind).all isBlank = true := by
      rw [List.all_append, List.all_append, hbefore, hcs, hbehind]
      rfl
    rw [trim_eq_nil_iff.mpr hall, trim_eq_nil_iff.mpr hcs]
  · have hkept : (cs ++ behind).dropWhile isBlank = cs.dropWhile isBlank ++ behind := by
      rw [List.dropWhile_append, if_neg]
      intro hnil
      refine hcs (trim_eq_nil_iff.mp ?_)
      rw [trim, List.isEmpty_iff.mp hnil]
      rfl
    have hreverse : ∀ c ∈ behind.reverse, isBlank c = true := by
      intro c hc
      exact List.all_eq_true.mp hbehind c (List.mem_reverse.mp hc)
    rw [trim, hdrop, hkept, List.reverse_append, List.dropWhile_append_of_pos hreverse, trim]

theorem all_isBlank_trim (cs : List Char) : (trim cs).all isBlank = cs.all isBlank := by
  rw [Bool.eq_iff_iff, ← trim_eq_nil_iff, ← trim_eq_nil_iff, trim_trim]

end RecordNaming.Text
