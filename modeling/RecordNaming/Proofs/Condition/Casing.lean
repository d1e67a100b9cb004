/-
  RecordNaming.Proofs.Condition.Casing — the order of texts that are equal regardless of case.

  Equality compares lower cases, order upper cases. Two numerals of one lower case are one number and two texts of
  instants are one instant, and their upper cases are the same. So where texts are equal, whichever stage decides puts
  them as their upper cases stand (`order_of_eqIgnoringCase`): the field is neither greater nor less, unless a text has
  a capital without a small letter of its own (`sharp_s_is_equal_and_greater`).
-/
import RecordNaming.Proofs.Condition.Order
import RecordNaming.Proofs.Decimal.Casing
import RecordNaming.Proofs.Instant.Casing

namespace RecordNaming

/-! ## What the stages have read -/

section

variable {x y : String}

theorem stage_eq_numbers {a b : Decimal} (h : stage x y = .numbers a b) :
    Decimal.parse? x = some a ∧ Decimal.parse? y = some b := by
  unfold stage at h
  split at h
  · rename_i hx hy
    cases h
    exact ⟨hx, hy⟩
  · unfold instantStage at h
    split at h
    · cases h
    · cases h

theorem stage_eq_instants {t u : Instant} (h : stage x y = .instants t u) :
    Instant.parse? x = some t ∧ Instant.parse? y = some u := by
  unfold stage at h
  split at h
  · cases h
  · unfold instantStage at h
    split at h
    · rename_i hx hy
      cases h
      exact ⟨hx, hy⟩
    · cases h

theorem stage_eq_texts {a b : String} (h : stage x y = .texts a b) : a = x ∧ b = y := by
  unfold stage at h
  split at h
  · cases h
  · unfold instantStage at h
    split at h
    · cases h
    · cases h
      exact ⟨rfl, rfl⟩

end

/-! ## Order and equality -/

/-- Simple characters have one upper case if they have one lower case. -/
theorem Text.textOrder_upper_of_isSimple {x y : String} (h : eqIgnoringCase x y = true)
    (hx : ∀ c ∈ x.toList, isSimple c = true) (hy : ∀ c ∈ y.toList, isSimple c = true) :
    Comparand.textOrder (upper x) (upper y) = .eq := by
  have hupper : upper x = upper y :=
    upper_eq_of_eqIgnoringCase h (fun c hc => notMem_loneCapitals (hx c hc)) fun c hc => notMem_loneCapitals (hy c hc)
  rw [hupper, Comparand.textOrder_self]

theorem order_of_eqIgnoringCase {x y : String} (h : Text.eqIgnoringCase x y = true) :
    (stage x y).order = Comparand.textOrder (Text.upper x) (Text.upper y) := by
  have hlower : Text.lower x = Text.lower y := beq_iff_eq.mp h
  cases hstage : stage x y with
  | numbers a b =>
    obtain ⟨hx, hy⟩ := stage_eq_numbers hstage
    have hab : a = b := Decimal.parse?_of_lower_eq hlower hx hy
    subst hab
    have hself : a.cmp a = .eq := Std.ReflCmp.compare_self
    rw [Text.textOrder_upper_of_isSimple h (Decimal.isSimple_of_parse? hx) (Decimal.isSimple_of_parse? hy)]
    exact hself
  | instants t u =>
    obtain ⟨hx, hy⟩ := stage_eq_instants hstage
    have htu : t = u := Instant.parse?_of_lower_eq hlower hx hy
    subst htu
    have hself : t.cmp t = .eq := Std.ReflCmp.compare_self
    rw [Text.textOrder_upper_of_isSimple h (Instant.isSimple_of_parse? hx) (Instant.isSimple_of_parse? hy)]
    exact hself
  | texts a b =>
    obtain ⟨rfl, rfl⟩ := stage_eq_texts hstage
    rfl

/-- A field with a text that is equal to the operand is greater or less as the upper case of the text is, whether or
not the two are read as numbers or instants. It is neither if all their capitals have small letters of their own. -/
theorem equal_texts_are_ordered_by_upper_case {r : Record} {field x operand : String}
    (hfield : r.get? field = some (.text x)) (hequal : (Condition.compare field .equals operand).holds r = true) :
    ((Condition.compare field .greaterThan operand).holds r = true ↔ Text.upper operand < Text.upper x) ∧
      ((Condition.compare field .lessThan operand).holds r = true ↔ Text.upper x < Text.upper operand) ∧
      ((∀ c ∈ x.toList ++ operand.toList, c ∉ Text.loneCapitals) →
        (Condition.compare field .greaterThan operand).holds r = false ∧
          (Condition.compare field .lessThan operand).holds r = false) := by
  have heq := (holds_equals_iff hfield operand).mp hequal
  have horder := order_of_eqIgnoringCase heq
  have hgreater := holds_greaterThan_iff hfield operand
  have hless := holds_lessThan_iff hfield operand
  rw [horder] at hgreater hless
  refine ⟨hgreater.trans Comparand.textOrder_eq_gt_iff, hless.trans Comparand.textOrder_eq_lt_iff, ?_⟩
  intro hlone
  have hupper : Text.upper x = Text.upper operand := by
    refine Text.upper_eq_of_eqIgnoringCase heq (fun c hc => ?_) fun c hc => ?_
    · exact hlone c (List.mem_append_left _ hc)
    · exact hlone c (List.mem_append_right _ hc)
  rw [hupper, Comparand.textOrder_self] at hgreater hless
  constructor
  · rw [← Bool.not_eq_true, hgreater]
    exact nofun
  · rw [← Bool.not_eq_true, hless]
    exact nofun

/-- A capital sigma that ends a word has another small letter than within the word, and is the capital of both. -/
theorem final_sigma_is_neither_greater_nor_less :
    let r : Record := ({} : Record).insert "street" (.text "ΟΔΟΣ")
    r.get? "street" = some (.text "ΟΔΟΣ") ∧ (Condition.compare "street" .equals "οδος").holds r = true ∧
      (∀ c ∈ "ΟΔΟΣ".toList ++ "οδος".toList, c ∉ Text.loneCapitals) ∧
      (Condition.compare "street" .greaterThan "οδος").holds r = false ∧
      (Condition.compare "street" .lessThan "οδος").holds r = false := by
  intro r
  have hfield : r.get? "street" = some (.text "ΟΔΟΣ") := Record.get?_insert_self _ _ _
  have hequal : (Condition.compare "street" .equals "οδος").holds r = true := by decide +kernel
  have hlone : ("ΟΔΟΣ".toList ++ "οδος".toList).all (fun c => !Text.loneCapitals.contains c) = true := by decide
  have hnone : ∀ c ∈ "ΟΔΟΣ".toList ++ "οδος".toList, c ∉ Text.loneCapitals := by
    intro c hc hmem
    have hnot := List.all_eq_true.mp hlone c hc
    rw [List.contains_iff_mem.mpr hmem] at hnot
    cases hnot
  obtain ⟨-, -, hneither⟩ := equal_texts_are_ordered_by_upper_case hfield hequal
  exact ⟨hfield, hequal, hnone, hneither hnone⟩

/-- The capital sharp s has the small letter of two capitals S: the text is equal to one in small letters, and greater
than it. -/
theorem sharp_s_is_equal_and_greater :
    let r : Record := ({} : Record).insert "street" (.text "STRAẞE")
    r.get? "street" = some (.text "STRAẞE") ∧ (Condition.compare "street" .equals "straße").holds r = true ∧
      (Condition.compare "street" .greaterThan "straße").holds r = true ∧
      ¬ ∀ (r : Record) (field x operand : String), r.get? field = some (.text x) →
        (Condition.compare field .equals operand).holds r = true →
        (Condition.compare field .greaterThan operand).holds r = false ∧
          (Condition.compare field .lessThan operand).holds r = false := by
  intro r
  have hfield : r.get? "street" = some (.text "STRAẞE") := Record.get?_insert_self _ _ _
  have hequal : (Condition.compare "street" .equals "straße").holds r = true := by decide +kernel
  have hgreater : (Condition.compare "street" .greaterThan "straße").holds r = true := by decide +kernel
  refine ⟨hfield, hequal, hgreater, ?_⟩
  intro h
  have hnot := (h r "street" "STRAẞE" "straße" hfield hequal).1
  rw [hgreater] at hnot
  cases hnot

end RecordNaming
