/-
  RecordNaming.Proofs.Text.Cut — what a cut leaves of a text.

  (1) A text that is too long is left with as many characters as the limit allows, the indicator or
  its start at their end (`cutChars_of_lt`, `length_cutChars`).

  (2) A cut of a cut text cuts the text to the smaller limit (`cutChars_cutChars`): the second cut
  takes off what the first one left of its indicator.

  `cuts_compose` says so for strings, whatever the limits and the indicator.
-/
import RecordNaming.Text.Cut

namespace RecordNaming.Text

/-! ## (1) One cut -/

section

variable {text indicator : List Char} {limit : Nat}

theorem cutChars_of_le (h : text.length ≤ limit) : cutChars text limit indicator = text := if_pos h

theorem cutChars_of_lt (h : limit < text.length) :
    cutChars text limit indicator =
      if indicator.length < limit then text.take (limit - indicator.length) ++ indicator
      else indicator.take limit := by
  unfold cutChars
  rw [if_neg (by omega)]
  by_cases hk : indicator.length < limit
  · rw [if_neg (by omega), if_pos hk]
  · rw [if_pos (by omega), if_neg hk]

theorem length_cutChars_of_lt (h : limit < text.length) : (cutChars text limit indicator).length = limit := by
  rw [cutChars_of_lt h]
  split
  · rw [List.length_append, List.length_take]
    omega
  · rw [List.length_take]
    omega

end

theorem length_cutChars (text : List Char) (limit : Nat) (indicator : List Char) :
    (cutChars text limit indicator).length = min text.length limit := by
  by_cases h : text.length ≤ limit
  · rw [cutChars_of_le h, Nat.min_eq_left h]
  · rw [length_cutChars_of_lt (by omega), Nat.min_eq_right (by omega)]

theorem toList_cut {text indicator : String} (limit : Nat) (h : indicator ≠ "") :
    (cut text limit indicator).toList = cutChars text.toList limit indicator.toList := by
  have hs : (some indicator).filter (!·.isEmpty) = some indicator := by simp [Option.filter, h]
  simp [cut, indicatorOr, hs]

/-! ## (2) Two cuts -/

theorem cutChars_cutChars (text : List Char) (n m : Nat) (indicator : List Char) :
    cutChars (cutChars text n indicator) m indicator = cutChars text (min n m) indicator := by
  by_cases hn : text.length ≤ n
  · rw [cutChars_of_le hn]
    by_cases hm : m ≤ n
    · rw [Nat.min_eq_right hm]
    · rw [Nat.min_eq_left (by omega), cutChars_of_le hn, cutChars_of_le (by omega)]
  · have hlen : (cutChars text n indicator).length = n := length_cutChars_of_lt (by omega)
    by_cases hm : n ≤ m
    · rw [Nat.min_eq_left hm, cutChars_of_le (by omega)]
    · have hr : m < (cutChars text n indicator).length := by omega
      have ht : m < text.length := by omega
      rw [Nat.min_eq_right (by omega), cutChars_of_lt hr, cutChars_of_lt ht]
      by_cases hk : indicator.length < m
      · -- the second cut ends in the text that the first one left, in front of its indicator
        have hfirst : cutChars text n indicator = text.take (n - indicator.length) ++ indicator := by
          rw [cutChars_of_lt (by omega), if_pos (by omega)]
        rw [if_pos hk, if_pos hk, hfirst, List.take_append_of_le_length (by rw [List.length_take]; omega),
          List.take_take, Nat.min_eq_left (by omega)]
      · rw [if_neg hk, if_neg hk]

/-- Two cuts with one indicator are the cut to the smaller limit, so a second cut to the same limit changes
nothing and the order of two cuts does not matter. A cut leaves as many characters as the limit allows, and
all of a text only if the text fits. The empty indicator is three points. -/
theorem cuts_compose (text indicator : String) (n m : Nat) :
    cut (cut text n indicator) m indicator = cut text (min n m) indicator ∧
      cut (cut text n indicator) n indicator = cut text n indicator ∧
      cut (cut text n indicator) m indicator = cut (cut text m indicator) n indicator ∧
      (cut text n indicator).length = min text.length n ∧
      (cut text n indicator = text ↔ text.length ≤ n) ∧
      cut text n "" = cut text n "..." := by
  have hcut (n m : Nat) : cut (cut text n indicator) m indicator = cut text (min n m) indicator := by
    rw [cut, cut, cut, String.toList_ofList, cutChars_cutChars]
  have hlength : (cut text n indicator).length = min text.length n := by
    rw [cut, String.length_ofList, length_cutChars, String.length_toList]
  refine ⟨hcut n m, ?_, ?_, hlength, ⟨fun he => ?_, fun hle => ?_⟩, rfl⟩
  · rw [hcut, Nat.min_self]
  · rw [hcut, hcut, Nat.min_comm]
  · rw [he] at hlength
    omega
  · rw [cut, cutChars_of_le (by rwa [String.length_toList]), String.ofList_toList]

end RecordNaming.Text
