/-
  RecordNaming.Proofs.Condition.Duality — conditions have negations among the conditions, as long
  as none of their operators asks for an order.

  (1) Trees. What holds of comparisons and of every group whose conditions it holds of, holds of
  all conditions (`inductionOnChildren`); the depth and the fields of a list of conditions are made of
  those of each (`deepest_eq`, `fieldsOfAll_eq`).

  (2) Operators. All but the two of order have a dual, which holds of a field exactly where they do
  not, be the field absent or compared by several candidates (`satisfies_dual`).

  (3) Conditions. The dual of a condition has the other groups and the dual operators: "any of"
  fails where all of its conditions fail, and the empty group of one kind fails where the one of
  the other kind holds (`holds_dual`). It has the same shape (`depth_dual`, `fields_dual`).

  `dual_is_negation` puts this together.
-/
import Mathlib.Data.List.Basic
import RecordNaming.Condition.Evaluation

namespace RecordNaming

/-! ## (1) Trees -/

namespace Condition

/-- Induction on a condition by the conditions in its groups. -/
theorem inductionOnChildren {motive : Condition → Prop}
    (group : ∀ g children, (∀ c ∈ children, motive c) → motive (.group g children))
    (compare : ∀ field operator operand, motive (.compare field operator operand)) (c : Condition) :
    motive c := by
  refine @Condition.rec motive (fun cs => ∀ c ∈ cs, motive c) group compare ?_ ?_ c
  · intro c hc
    cases hc
  · intro c rest hc hrest d hd
    rcases List.mem_cons.mp hd with rfl | hd
    · exact hc
    · exact hrest d hd

/-- Only the depths of the conditions matter. -/
theorem deepest_eq (cs : List Condition) : deepest cs = (cs.map depth).foldr max 0 := by
  induction cs with
  | nil => rfl
  | cons c rest ih => rw [deepest, ih, List.map_cons, List.foldr_cons]

theorem fieldsOfAll_eq (cs : List Condition) : fieldsOfAll cs = cs.flatMap fields := by
  induction cs with
  | nil => rfl
  | cons c rest ih => rw [fieldsOfAll, ih, List.flatMap_cons]

mutual

/-- The operators of the comparisons, in order and with repetitions. -/
def operators : Condition → List Operator
  | .group _ children => operatorsOfAll children
  | .compare _ operator _ => [operator]

def operatorsOfAll : List Condition → List Operator
  | [] => []
  | c :: rest => c.operators ++ operatorsOfAll rest

end

theorem operatorsOfAll_eq (cs : List Condition) : operatorsOfAll cs = cs.flatMap operators := by
  induction cs with
  | nil => rfl
  | cons c rest ih => rw [operatorsOfAll, ih, List.flatMap_cons]

end Condition

/-! ## (2) Operators -/

namespace Operator

/-- The operator asks for an order. -/
def isOrder : Operator → Bool
  | greaterThan => true
  | lessThan => true
  | _ => false

/-- The operator that asks the opposite; those of order have none. -/
def dual : Operator → Operator
  | equals => notEquals
  | notEquals => equals
  | contains => notContains
  | notContains => contains
  | isEmpty => isNotEmpty
  | isNotEmpty => isEmpty
  | greaterThan => greaterThan
  | lessThan => lessThan

@[simp] theorem dual_dual (o : Operator) : o.dual.dual = o := by
  cases o <;> rfl

@[simp] theorem isOrder_dual (o : Operator) : o.dual.isOrder = o.isOrder := by
  cases o <;> rfl

end Operator

theorem Comparand.satisfies_dual {operator : Operator} (h : operator.isOrder = false) (c : Comparand)
    (operand : String) : c.satisfies operator.dual operand = !c.satisfies operator operand := by
  cases operator with
  | equals => rfl
  | notEquals => exact (Bool.not_not _).symm
  | contains => rfl
  | notContains => exact (Bool.not_not _).symm
  | isEmpty => rfl
  | isNotEmpty => exact (Bool.not_not _).symm
  | greaterThan => cases h
  | lessThan => cases h

/-! ## (3) Conditions -/

/-- The other way to join conditions. -/
def Group.dual : Group → Group
  | .anyOf => .allOf
  | .allOf => .anyOf

@[simp] theorem Group.dual_dual (g : Group) : g.dual.dual = g := by
  cases g <;> rfl

namespace Condition

mutual

/-- The condition with the other groups and the dual operators, on the same fields and operands. -/
def dual : Condition → Condition
  | .group g children => .group g.dual (dualOfAll children)
  | .compare field operator operand => .compare field operator.dual operand

def dualOfAll : List Condition → List Condition
  | [] => []
  | c :: rest => c.dual :: dualOfAll rest

end

theorem dualOfAll_eq (cs : List Condition) : dualOfAll cs = cs.map dual := by
  induction cs with
  | nil => rfl
  | cons c rest ih => rw [dualOfAll, ih, List.map_cons]

theorem dual_group (g : Group) (children : List Condition) :
    (Condition.group g children).dual = .group g.dual (children.map dual) := by
  rw [dual, dualOfAll_eq]

theorem operators_group (g : Group) (children : List Condition) :
    (Condition.group g children).operators = children.flatMap operators := by
  rw [operators, operatorsOfAll_eq]

/-- No operator in the condition asks for an order. -/
def Orderless (c : Condition) : Prop := ∀ operator ∈ c.operators, operator.isOrder = false

instance (c : Condition) : Decidable c.Orderless :=
  inferInstanceAs (Decidable (∀ operator ∈ c.operators, operator.isOrder = false))

theorem orderless_compare_iff {field operand : String} {operator : Operator} :
    (Condition.compare field operator operand).Orderless ↔ operator.isOrder = false := by
  simp [Orderless, operators]

theorem orderless_group_iff {g : Group} {children : List Condition} :
    (Condition.group g children).Orderless ↔ ∀ c ∈ children, c.Orderless := by
  simp only [Orderless, operators_group, List.mem_flatMap]
  constructor
  · intro h c hc operator ho
    exact h operator ⟨c, hc, ho⟩
  · intro h operator ho
    obtain ⟨c, hc, ho⟩ := ho
    exact h c hc operator ho

section

variable {r : Record} {children : List Condition} (h : ∀ c ∈ children, c.dual.holds r = !c.holds r)
include h

theorem allHold_dual : allHold r (children.map dual) = !anyHolds r children := by
  induction children with
  | nil => rfl
  | cons c rest ih =>
    have hc := h c List.mem_cons_self
    have hrest := ih fun d hd => h d (List.mem_cons_of_mem c hd)
    rw [List.map_cons, allHold, anyHolds, hc, hrest, Bool.not_or]

theorem anyHolds_dual : anyHolds r (children.map dual) = !allHold r children := by
  induction children with
  | nil => rfl
  | cons c rest ih =>
    have hc := h c List.mem_cons_self
    have hrest := ih fun d hd => h d (List.mem_cons_of_mem c hd)
    rw [List.map_cons, allHold, anyHolds, hc, hrest, Bool.not_and]

end

theorem holds_dual (r : Record) (c : Condition) (h : c.Orderless) : c.dual.holds r = !c.holds r := by
  induction c using inductionOnChildren with
  | compare field operator operand =>
    rw [dual, holds, holds, Comparand.satisfies_dual (orderless_compare_iff.mp h)]
  | group g children ih =>
    have hc : ∀ c ∈ children, c.dual.holds r = !c.holds r := by
      intro c hc
      exact ih c hc (orderless_group_iff.mp h c hc)
    rw [dual_group]
    cases g with
    | anyOf =>
      rw [Group.dual, holds, holds]
      exact allHold_dual hc
    | allOf =>
      rw [Group.dual, holds, holds]
      exact anyHolds_dual hc

theorem depth_dual (c : Condition) : c.dual.depth = c.depth := by
  induction c using inductionOnChildren with
  | compare field operator operand => rfl
  | group g children ih =>
    have hd : (children.map dual).map depth = children.map depth := by
      rw [List.map_map]
      exact List.map_congr_left ih
    rw [dual_group, depth, depth, deepest_eq, deepest_eq, hd]

theorem fields_dual (c : Condition) : c.dual.fields = c.fields := by
  induction c using inductionOnChildren with
  | compare field operator operand => rfl
  | group g children ih =>
    rw [dual_group, fields, fields, fieldsOfAll_eq, fieldsOfAll_eq, List.flatMap_map]
    exact List.flatMap_congr ih

theorem orderless_dual {c : Condition} (h : c.Orderless) : c.dual.Orderless := by
  induction c using inductionOnChildren with
  | compare field operator operand =>
    rw [dual, orderless_compare_iff, Operator.isOrder_dual]
    exact orderless_compare_iff.mp h
  | group g children ih =>
    rw [dual_group, orderless_group_iff]
    intro d hd
    obtain ⟨c, hc, rfl⟩ := List.mem_map.mp hd
    exact ih c hc (orderless_group_iff.mp h c hc)

@[simp] theorem dual_dual (c : Condition) : c.dual.dual = c := by
  induction c using inductionOnChildren with
  | compare field operator operand => rw [dual, dual, Operator.dual_dual]
  | group g children ih =>
    have hc : (children.map dual).map dual = children := by
      rw [List.map_map]
      exact (List.map_congr_left ih).trans (List.map_id children)
    rw [dual_group, dual_group, Group.dual_dual, hc]

/-- A condition without operators of order has a negation of the same kind: its dual holds of a
record exactly where the condition itself does not. The dual is as deep, reads the same fields in
the same order, and has the condition as its own dual. -/
theorem dual_is_negation (c : Condition) (h : c.Orderless) :
    c.dual.Orderless ∧ (∀ r : Record, c.dual.holds r = !c.holds r) ∧ c.dual.depth = c.depth ∧
      c.dual.fields = c.fields ∧ c.dual.dual = c :=
  ⟨orderless_dual h, fun r => holds_dual r c h, depth_dual c, fields_dual c, dual_dual c⟩

/-- An absent field, a field with a label beside its number, and an empty group within a group. -/
theorem dual_of_labelled_amount :
    let c : Condition := .group .allOf [.group .anyOf [.compare "amount" .equals "NET", .group .anyOf []],
      .compare "note" .isEmpty ""]
    let d : Condition := .group .anyOf [.group .allOf [.compare "amount" .notEquals "NET", .group .allOf []],
      .compare "note" .isNotEmpty ""]
    let r : Record := (({} : Record).insert "amount" (.money .one)).withLabel "amount" "net"
    c.Orderless ∧ c.dual = d ∧ d.Orderless ∧ c.holds r = true ∧ d.holds r = false ∧ d.depth = 3 ∧
      d.fields = ["amount", "note"] ∧ d.dual = c := by
  intro c d r
  have h : c.Orderless := by decide
  have hd : c.dual = d := rfl
  have hc : c.holds r = true := by decide
  obtain ⟨hdual, hholds, hdepth, hfields, hback⟩ := dual_is_negation c h
  have hr := hholds r
  rw [hd] at hdual hr hdepth hfields hback
  rw [hc] at hr
  exact ⟨h, hd, hdual, hc, hr, hdepth, hfields, hback⟩

/-- The operators of order are no negations of each other: both fail of a field equal to the operand. -/
example : ∀ operator ∈ [Operator.greaterThan, Operator.lessThan],
    (Condition.compare "count" operator "5").holds (({} : Record).insert "count" (.whole 5)) = false := by
  decide

end Condition

end RecordNaming
