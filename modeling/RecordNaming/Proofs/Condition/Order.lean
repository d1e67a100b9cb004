/-
  RecordNaming.Proofs.Condition.Order — the order of texts is the same from either side.

  (1) Decimals, instants and strings: each order turns round when its sides do, and nothing is before itself.

  (2) Stages. What decides the order of two texts is a stage: two numbers, two instants or the texts (`stage`). A field
  that holds a text is ordered by the stage of it and the operand (`order_ofField_text`), although its own side is
  read with the record and the operand with the condition. From the other side it is the same stage (`stage_swap`),
  and its order turns round (`Stage.order_swap`).

  `text_order_is_antisymmetric` says this of the two operators of order.
-/
import RecordNaming.Condition.Evaluation

namespace RecordNaming

/-! ## (1) The three orders -/

instance : Std.OrientedCmp Decimal.cmp where
  eq_swap := Std.OrientedOrd.eq_swap

instance : Std.OrientedCmp Date.cmp where
  eq_swap {a b} := by
    rw [Date.cmp, Date.cmp, Ordering.swap_then, Ordering.swap_then]
    rw [← Std.OrientedOrd.eq_swap, ← Std.OrientedOrd.eq_swap, ← Std.OrientedOrd.eq_swap]

instance : Std.OrientedCmp Instant.cmp where
  eq_swap {t u} := by
    have hdate : t.date.cmp u.date = (u.date.cmp t.date).swap := Std.OrientedCmp.eq_swap
    rw [Instant.cmp, Instant.cmp, Ordering.swap_then, Ordering.swap_then]
    rw [← hdate, ← Std.OrientedOrd.eq_swap, ← Std.OrientedOrd.eq_swap]

namespace Comparand

/-- The order of two strings is that of the library. -/
theorem textOrder_eq (a b : String) : textOrder a b = compare a b := rfl

theorem textOrder_self (s : String) : textOrder s s = .eq := by
  rw [textOrder_eq]
  exact Std.ReflOrd.compare_self

theorem textOrder_eq_lt_iff {a b : String} : textOrder a b = .lt ↔ a < b := by
  by_cases hlt : a < b
  · simp [textOrder, hlt]
  · by_cases heq : a = b
    · simp [textOrder, heq]
    · simp [textOrder, hlt, heq]

theorem textOrder_eq_gt_iff {a b : String} : textOrder a b = .gt ↔ b < a := by
  rw [textOrder_eq, Std.OrientedOrd.eq_swap, Ordering.swap_eq_gt, ← textOrder_eq,
    textOrder_eq_lt_iff]

end Comparand

/-! ## (2) Stages -/

/-- What decides the order of two texts. -/
inductive Stage where
  | numbers (a b : Decimal)
  | instants (t u : Instant)
  | texts (a b : String)

namespace Stage

def order : Stage → Ordering
  | numbers a b => a.cmp b
  | instants t u => t.cmp u
  | texts a b => Comparand.textOrder (Text.upper a) (Text.upper b)

/-- The stage from the other side. -/
def swap : Stage → Stage
  | numbers a b => numbers b a
  | instants t u => instants u t
  | texts a b => texts b a

theorem order_swap (s : Stage) : s.swap.order = s.order.swap := by
  cases s with
  | numbers a b =>
    have h : b.cmp a = (a.cmp b).swap := Std.OrientedCmp.eq_swap
    exact h
  | instants t u =>
    have h : u.cmp t = (t.cmp u).swap := Std.OrientedCmp.eq_swap
    exact h
  | texts a b =>
    rw [swap, order, order, Comparand.textOrder_eq, Comparand.textOrder_eq]
    exact Std.OrientedOrd.eq_swap

end Stage

/-- The stage behind that of numbers. -/
def instantStage (x operand : String) : Stage :=
  match Instant.parse? x, Instant.parse? operand with
  | some t, some u => .instants t u
  | _, _ => .texts x operand

/-- The stage of a field that holds the text `x`, and an operand. -/
def stage (x operand : String) : Stage :=
  match Decimal.parse? x, Decimal.parse? operand with
  | some a, some b => .numbers a b
  | _, _ => instantStage x operand

theorem instantStage_swap (x y : String) : instantStage y x = (instantStage x y).swap := by
  unfold instantStage
  cases Instant.parse? x with
  | none => cases Instant.parse? y <;> rfl
  | some t => cases Instant.parse? y <;> rfl

/-- Which stage decides does not depend on the side. -/
theorem stage_swap (x y : String) : stage y x = (stage x y).swap := by
  have hlater := instantStage_swap x y
  unfold stage
  cases Decimal.parse? x with
  | none => cases Decimal.parse? y <;> exact hlater
  | some a =>
    cases Decimal.parse? y with
    | none => exact hlater
    | some b => rfl

section

variable {r : Record} {field x : String} (h : r.get? field = some (.text x))

include h

theorem ofField_text : Comparand.ofField r field = ⟨true, Decimal.parse? x, Instant.parse? x, [x]⟩ := by
  rw [Comparand.ofField, h]
  rfl

theorem order_ofField_text (operand : String) :
    (Comparand.ofField r field).order operand = (stage x operand).order := by
  rw [ofField_text h, Comparand.order, stage, instantStage]
  cases Decimal.parse? x with
  | none => cases Instant.parse? x <;> cases Instant.parse? operand <;> rfl
  | some a =>
    cases Decimal.parse? operand with
    | none => cases Instant.parse? x <;> cases Instant.parse? operand <;> rfl
    | some b => rfl

theorem holds_greaterThan_iff (operand : String) :
    (Condition.compare field .greaterThan operand).holds r = true ↔ (stage x operand).order = .gt := by
  rw [Condition.holds, Comparand.satisfies, order_ofField_text h, beq_iff_eq]

theorem holds_lessThan_iff (operand : String) :
    (Condition.compare field .lessThan operand).holds r = true ↔ (stage x operand).order = .lt := by
  rw [Condition.holds, Comparand.satisfies, order_ofField_text h, beq_iff_eq]

theorem holds_equals_iff (operand : String) :
    (Condition.compare field .equals operand).holds r = true ↔ Text.eqIgnoringCase x operand = true := by
  rw [Condition.holds, ofField_text h]
  simp [Comparand.satisfies, Comparand.anyCandidate]

end

/-- No stage puts a text before itself or behind. -/
theorem order_stage_self (x : String) : (stage x x).order = .eq := by
  have h := (stage x x).order_swap
  rw [← stage_swap] at h
  cases horder : (stage x x).order with
  | eq => rfl
  | lt =>
    rw [horder] at h
    cases h
  | gt =>
    rw [horder] at h
    cases h

/-- A field with the text `x` is greater than `y` exactly if one with the text `y` is less than `x`, and the other way
round, whatever the records hold beside. No text is greater or less than itself. -/
theorem text_order_is_antisymmetric {r r' : Record} {field field' x y : String} (hx : r.get? field = some (.text x))
    (hy : r'.get? field' = some (.text y)) :
    ((Condition.compare field .greaterThan y).holds r = true ↔
        (Condition.compare field' .lessThan x).holds r' = true) ∧
      ((Condition.compare field .lessThan y).holds r = true ↔
        (Condition.compare field' .greaterThan x).holds r' = true) ∧
      (Condition.compare field .greaterThan x).holds r = false ∧
      (Condition.compare field .lessThan x).holds r = false := by
  have hother : (stage y x).order = (stage x y).order.swap := by
    rw [stage_swap, Stage.order_swap]
  have hself := order_stage_self x
  refine ⟨?_, ?_, ?_, ?_⟩
  · rw [holds_greaterThan_iff hx, holds_lessThan_iff hy, hother, Ordering.swap_eq_lt]
  · rw [holds_lessThan_iff hx, holds_greaterThan_iff hy, hother, Ordering.swap_eq_gt]
  · rw [← Bool.not_eq_true, holds_greaterThan_iff hx, hself]
    exact nofun
  · rw [← Bool.not_eq_true, holds_lessThan_iff hx, hself]
    exact nofun

/-- A number against a date: neither is read as the other, so the letters decide, and the number is the greater. -/
theorem number_against_date :
    let r : Record := ({} : Record).insert "code" (.text "9")
    let r' : Record := ({} : Record).insert "day" (.text "2024-05-31")
    r.get? "code" = some (.text "9") ∧ r'.get? "day" = some (.text "2024-05-31") ∧
      (Condition.compare "code" .greaterThan "2024-05-31").holds r = true ∧
      (Condition.compare "day" .lessThan "9").holds r' = true ∧
      (Condition.compare "code" .greaterThan "9").holds r = false ∧
      (Condition.compare "code" .lessThan "9").holds r = false := by
  intro r r'
  have hx : r.get? "code" = some (.text "9") := Record.get?_insert_self _ _ _
  have hy : r'.get? "day" = some (.text "2024-05-31") := Record.get?_insert_self _ _ _
  have hgreater : (Condition.compare "code" .greaterThan "2024-05-31").holds r = true := by decide +kernel
  obtain ⟨hiff, -, hself⟩ := text_order_is_antisymmetric hx hy
  exact ⟨hx, hy, hgreater, hiff.mp hgreater, hself⟩

end RecordNaming
