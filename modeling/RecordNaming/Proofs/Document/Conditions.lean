/-
  RecordNaming.Proofs.Document.Conditions — which values are conditions, and of which shape.

  The object of a condition gives a value under each name that it has and that is not null.
  (1) `Condition.Fits`: each of these values has the form that its name asks for. `Shape.Shown`:
      the object names a field that is not blank, or it gives a group. `Condition.Denoted`: the
      condition that an object stands for by its one shape.
  (2) Each part is read of the values of its form, and as what they mean (`readOperator_eq_ok_iff`,
      `readOperand_eq_ok_iff`, `readConditions_eq_ok_iff`), whatever the other parts are
      (`ConditionDraft.exists_set_iff`).
  (3) So an object is a condition exactly if it fits and shows one shape
      (`Condition.exists_ofJson_iff`), and then it is the one denoted (`Condition.denoted_of_ofJson`).
      A text is read as the value that it is written as (`Condition.ofJsonText_eq`).
-/
import RecordNaming.Proofs.Document.Forms

namespace RecordNaming

open Document

/-! ## (1) Objects of conditions -/

/-- The value is the name of an operator, but for blanks around it, underscores and case. -/
def NamesOperator (j : Json) (op : Operator) : Prop :=
  ∃ s, j = .string s ∧ Text.asciiLower op.name = Operator.normalized s

/-- The value is a comparison operand of this text. -/
inductive IsOperand : Json → String → Prop
  | text (s : String) : IsOperand (.string s) s
  | number (n : Json.Number) : IsOperand (.number n) n.text
  | truth (b : Bool) : IsOperand (.bool b) (if b then "true" else "false")

/-- What makes an object a condition. -/
inductive Shape where
  | comparison
  | group (g : Group)

/-- The object gives what the shape is made of. -/
def Shape.Shown (o : Json) : Shape → Prop
  | comparison => ∃ s, o.given? "field" = some (.string s) ∧ Text.allBlank s = false
  | group g => ∃ v, o.given? g.name = some v

namespace Condition

/-- Each value given has the form that its name asks for. -/
structure Fits (o : Json) : Prop where
  field : ∀ v, o.given? "field" = some v → ∃ s, v = .string s
  operator : ∀ v, o.given? "operator" = some v → ∃ op, NamesOperator v op
  operand : ∀ v, o.given? "value" = some v → ∃ s, IsOperand v s
  group : ∀ (g : Group) (v : Json), o.given? g.name = some v →
    ∃ items, v = .array items ∧ ∀ item ∈ items, ∃ c, ofJson item = .ok c

/-- The condition that the object stands for. -/
inductive Denoted (o : Json) : Condition → Prop
  | group (g : Group) (items : List Json) (children : List Condition)
      (given : o.given? g.name = some (.array items))
      (read : List.Forall₂ (fun item c => ofJson item = .ok c) items children) : Denoted o (.group g children)
  | compare (field : String) (operator : Option Operator) (operand : Option String)
      (given : o.given? "field" = some (.string field)) (named : Text.allBlank field = false)
      (asks : Option.Rel NamesOperator (o.given? "operator") operator)
      (against : Option.Rel IsOperand (o.given? "value") operand) :
      Denoted o (.compare field (operator.getD .equals) (operand.getD ""))

end Condition

/-! ## (2) Parts -/

namespace Operator

theorem asciiLower_name_injective {a b : Operator}
    (h : Text.asciiLower a.name = Text.asciiLower b.name) : a = b := by
  revert h
  cases a <;> cases b <;> decide +kernel

theorem ofName?_eq_some_iff {s : String} {op : Operator} :
    ofName? s = some op ↔ Text.asciiLower op.name = normalized s := by
  have found : ∀ op', ofName? s = some op' → Text.asciiLower op'.name = normalized s :=
    fun op' h => by simpa using List.find?_some h
  refine ⟨found op, fun h => ?_⟩
  have ho : (ofName? s).isSome := by
    rw [ofName?, List.find?_isSome]
    exact ⟨op, by cases op <;> simp [all], by simpa using h⟩
  obtain ⟨op', ho⟩ := Option.isSome_iff_exists.mp ho
  rw [ho, asciiLower_name_injective ((found op' ho).trans h.symm)]

end Operator

namespace Document

theorem readOperator_eq_ok_iff {j : Json} {op : Operator} :
    readOperator (Node.ofJson j) = .ok op ↔ NamesOperator j op := by
  rw [readOperator, bind_eq_ok_iff, NamesOperator]
  refine exists_congr fun s => and_congr readText_eq_ok_iff ?_
  rw [← Operator.ofName?_eq_some_iff]
  cases Operator.ofName? s <;> simp

theorem readOperand_eq_ok_iff {levels : Nat} {j : Json} {s : String} :
    (Node.ofJson j).readOperand levels = .ok s ↔ IsOperand j s := by
  constructor
  · intro h
    cases j with
    | string s => cases h; exact .text s
    | number n => cases h; exact .number n
    | bool b => cases h; exact .truth b
    | _ => simp [Node.ofJson, Node.readOperand] at h
  · intro h
    cases h <;> rfl

theorem readConditions_eq_ok_iff {levels : Nat} {j : Json} (hl : height j ≤ levels) {cs : List Condition} :
    readConditions levels (Node.ofJson j) = .ok cs ↔ ListOf (fun item c => Condition.ofJson item = .ok c) j cs :=
  readAll_eq_ok_iff (fun _ => rfl) (fun _ _ => rfl) (fun levels => (readCondition_succ levels).1) hl

namespace ConditionDraft

section

variable {levels : Nat} {children : Node → Except DocumentError (List Condition)}

/-- Setting one part leaves the others as they are. -/
theorem set_other {d d' : ConditionDraft} {name : String} {n : Node}
    (h : d.set levels children name n = .ok d') :
    (name ≠ "field" → d'.field = d.field) ∧ (name ≠ "operator" → d'.operator = d.operator) ∧
      (name ≠ "value" → d'.operand = d.operand) ∧ (name ≠ "anyOf" → d'.anyOf = d.anyOf) ∧
      (name ≠ "allOf" → d'.allOf = d.allOf) := by
  unfold set at h
  split at h
  case h_6 =>
    cases h
    simp
  all_goals
    obtain ⟨v, -, rfl⟩ := map_eq_ok_iff.mp h
    simp

theorem isPart_field :
    IsPart (set levels children) "field" ConditionDraft.field (Node.readOptional Node.readText) :=
  .of_map (fun _ _ => rfl) (fun _ _ => rfl) fun hn h => (set_other h).1 hn

theorem isPart_operator :
    IsPart (set levels children) "operator" ConditionDraft.operator (Node.readOptional readOperator) :=
  .of_map (fun _ _ => rfl) (fun _ _ => rfl) fun hn h => (set_other h).2.1 hn

theorem isPart_operand : IsPart (set levels children) "value" ConditionDraft.operand
    (Node.readOptional (Node.readOperand levels)) :=
  .of_map (fun _ _ => rfl) (fun _ _ => rfl) fun hn h => (set_other h).2.2.1 hn

theorem isPart_anyOf :
    IsPart (set levels children) "anyOf" ConditionDraft.anyOf (Node.readOptional children) :=
  .of_map (fun _ _ => rfl) (fun _ _ => rfl) fun hn h => (set_other h).2.2.2.1 hn

theorem isPart_allOf :
    IsPart (set levels children) "allOf" ConditionDraft.allOf (Node.readOptional children) :=
  .of_map (fun _ _ => rfl) (fun _ _ => rfl) fun hn h => (set_other h).2.2.2.2 hn

/-- Whether a part can be set does not depend on the others. -/
theorem exists_set_iff (d : ConditionDraft) (name : String) (n : Node) :
    (∃ d', d.set levels children name n = .ok d') ↔ ∃ d', set levels children {} name n = .ok d' := by
  unfold set
  split <;> simp [exists_map_eq_ok_iff]

end

/-- What is made of the parts, if they have one shape. -/
theorem finish_eq_ok_iff {d : ConditionDraft} {c : Condition} :
    d.finish = .ok c ↔
      (∃ cs, d.anyOf = some cs ∧ d.allOf = none ∧ Text.nonBlank? d.field = none ∧ c = .group .anyOf cs) ∨
      (∃ cs, d.anyOf = none ∧ d.allOf = some cs ∧ Text.nonBlank? d.field = none ∧ c = .group .allOf cs) ∨
      ∃ f, d.anyOf = none ∧ d.allOf = none ∧ Text.nonBlank? d.field = some f ∧
        c = .compare f (d.operator.getD .equals) (d.operand.getD "") := by
  unfold finish shapes
  cases d.anyOf <;> cases d.allOf <;> cases Text.nonBlank? d.field <;> simp [eq_comm]

/-! ## (3) One shape -/

/-- The parts of a condition are what an object gives under their names. -/
structure ReadFrom (o : Json) (d : ConditionDraft) : Prop where
  field : Option.Rel (fun j s => j = .string s) (o.given? "field") d.field
  operator : Option.Rel NamesOperator (o.given? "operator") d.operator
  operand : Option.Rel IsOperand (o.given? "value") d.operand
  anyOf : Option.Rel (ListOf fun item c => Condition.ofJson item = .ok c) (o.given? "anyOf") d.anyOf
  allOf : Option.Rel (ListOf fun item c => Condition.ofJson item = .ok c) (o.given? "allOf") d.allOf

/-- The parts that an object of these members is read as, before its shape is decided. -/
def ofMembers (ms : List (String × Json)) : Except DocumentError ConditionDraft :=
  readStructure "struct RawCondition" conditionNames
    (ConditionDraft.set (heightOfMembers ms) (readConditions (heightOfMembers ms))) {}
    (Node.ofJson (.object ms))

variable {ms : List (String × Json)}

theorem readFrom_of_ofMembers {d : ConditionDraft} (h : ofMembers ms = .ok d) : ReadFrom (.object ms) d := by
  obtain ⟨nodup, run⟩ := readStructure_object_iff.mp h
  have hf := isPart_field.optional_of_assign rfl nodup run
  have ho := isPart_operator.optional_of_assign rfl nodup run
  have hv := isPart_operand.optional_of_assign rfl nodup run
  have hany := isPart_anyOf.optional_of_assign rfl nodup run
  have hall := isPart_allOf.optional_of_assign rfl nodup run
  rw [given?_known (by decide)] at hf ho hv hany hall
  exact {
    field := (rel_congr fun _ _ _ => readText_eq_ok_iff).mp hf
    operator := (rel_congr fun _ _ _ => readOperator_eq_ok_iff).mp ho
    operand := (rel_congr fun _ _ _ => readOperand_eq_ok_iff).mp hv
    anyOf := (rel_congr fun _ hj _ => readConditions_eq_ok_iff (height_given?_le hj)).mp hany
    allOf := (rel_congr fun _ hj _ => readConditions_eq_ok_iff (height_given?_le hj)).mp hall }

/-- The parts can be read if each value given has its form, and none is given twice. -/
theorem exists_ofMembers_iff :
    (∃ d, ofMembers ms = .ok d) ↔
      ((known conditionNames ms).map (·.1)).Nodup ∧ Condition.Fits (.object ms) := by
  simp only [ofMembers, readStructure_object_iff, exists_and_left]
  refine and_congr_right fun nodup => ?_
  rw [exists_assign_iff exists_set_iff, forall_known_iff nodup
    (p := fun name j => ∃ d, set _ _ {} name (Node.ofJson j) = .ok d)]
  simp only [conditionNames, List.forall_mem_cons, List.not_mem_nil, false_imp_iff, implies_true, and_true]
  rw [settable_optional_iff (fun _ => rfl), settable_optional_iff (fun _ => rfl),
    settable_optional_iff (fun _ => rfl), settable_optional_iff (fun _ => rfl),
    settable_optional_iff (fun _ => rfl)]
  -- a group is read where its object is open, its conditions at their own heights
  have hg (name : String) : (∀ v, (Json.object ms).given? name = some v →
        ∃ cs, readConditions (heightOfMembers ms) (Node.ofJson v) = .ok cs) ↔
      ∀ v, (Json.object ms).given? name = some v →
        ∃ items, v = .array items ∧ ∀ item ∈ items, ∃ c, Condition.ofJson item = .ok c := by
    refine forall₂_congr fun v hv => ?_
    simp only [readConditions_eq_ok_iff (height_given?_le hv), exists_listOf_iff]
  simp only [readText_eq_ok_iff, readOperator_eq_ok_iff, readOperand_eq_ok_iff, hg]
  constructor
  · rintro ⟨field, operator, operand, anyOf, allOf⟩
    refine ⟨field, operator, operand, fun g => ?_⟩
    cases g with
    | anyOf => exact anyOf
    | allOf => exact allOf
  · rintro ⟨field, operator, operand, group⟩
    exact ⟨field, operator, operand, group .anyOf, group .allOf⟩

/-- An object shows the shapes of the parts that it is read as. -/
theorem ReadFrom.shown_iff {o : Json} {d : ConditionDraft} (h : ReadFrom o d) (shape : Shape) :
    shape.Shown o ↔ match shape with
      | .comparison => (Text.nonBlank? d.field).isSome
      | .group .anyOf => d.anyOf.isSome
      | .group .allOf => d.allOf.isSome := by
  rcases shape with _ | (_ | _)
  · have hf := h.field
    rw [Shape.Shown]
    generalize o.given? "field" = given at hf ⊢
    generalize d.field = field at hf ⊢
    cases hf with
    | none => simp [Text.nonBlank?]
    | some hs =>
      subst hs
      simp [Text.nonBlank?]
  · exact exists_given_iff h.anyOf
  · exact exists_given_iff h.allOf

theorem existsUnique_shape_iff {p : Shape → Prop} :
    (∃! shape, p shape) ↔
      (p (.group .anyOf) ∧ ¬p (.group .allOf) ∧ ¬p .comparison) ∨
      (¬p (.group .anyOf) ∧ p (.group .allOf) ∧ ¬p .comparison) ∨
      (¬p (.group .anyOf) ∧ ¬p (.group .allOf) ∧ p .comparison) := by
  constructor
  · rintro ⟨shape, hp, unique⟩
    have others : ∀ other, other ≠ shape → ¬p other := fun other hne ho => hne (unique other ho)
    rcases shape with _ | (_ | _)
    · exact .inr (.inr ⟨others _ (by simp), others _ (by simp), hp⟩)
    · exact .inl ⟨hp, others _ (by simp), others _ (by simp)⟩
    · exact .inr (.inl ⟨others _ (by simp), hp, others _ (by simp)⟩)
  · rintro (⟨hany, hall, hc⟩ | ⟨hany, hall, hc⟩ | ⟨hany, hall, hc⟩)
    · refine ⟨.group .anyOf, hany, fun other ho => ?_⟩
      rcases other with _ | (_ | _)
      · exact absurd ho hc
      · rfl
      · exact absurd ho hall
    · refine ⟨.group .allOf, hall, fun other ho => ?_⟩
      rcases other with _ | (_ | _)
      · exact absurd ho hc
      · exact absurd ho hany
      · rfl
    · refine ⟨.comparison, hc, fun other ho => ?_⟩
      rcases other with _ | (_ | _)
      · rfl
      · exact absurd ho hany
      · exact absurd ho hall

/-- Parts make a condition if the object that they are read from shows one shape. -/
theorem ReadFrom.exists_finish_iff {o : Json} {d : ConditionDraft} (h : ReadFrom o d) :
    (∃ c, d.finish = .ok c) ↔ ∃! shape : Shape, shape.Shown o := by
  rw [existsUnique_shape_iff]
  simp only [h.shown_iff, finish_eq_ok_iff]
  cases d.anyOf <;> cases d.allOf <;> cases Text.nonBlank? d.field <;> simp

/-- The condition made of the parts is the one that the object stands for. -/
theorem ReadFrom.denoted {o : Json} {d : ConditionDraft} {c : Condition} (h : ReadFrom o d)
    (hc : d.finish = .ok c) : Condition.Denoted o c := by
  obtain ⟨hf, ho, hv, hany, hall⟩ := h
  rcases finish_eq_ok_iff.mp hc with ⟨cs, ha, -, -, rfl⟩ | ⟨cs, -, ha, -, rfl⟩ | ⟨f, -, -, hn, rfl⟩
  · rw [ha] at hany
    obtain ⟨_, hg, items, rfl, hcs⟩ := rel_some_iff.mp hany
    exact .group .anyOf items cs hg hcs
  · rw [ha] at hall
    obtain ⟨_, hg, items, rfl, hcs⟩ := rel_some_iff.mp hall
    exact .group .allOf items cs hg hcs
  · obtain ⟨hd, hb⟩ := Option.filter_eq_some_iff.mp hn
    rw [hd] at hf
    obtain ⟨_, hg, rfl⟩ := rel_some_iff.mp hf
    exact .compare f d.operator d.operand hg (by simpa using hb) ho hv

end ConditionDraft

end Document

namespace Condition

variable {ms : List (String × Json)} {c : Condition}

theorem ofJson_object_eq_ok_iff :
    ofJson (.object ms) = .ok c ↔ ∃ d, ConditionDraft.ofMembers ms = .ok d ∧ d.finish = .ok c := by
  rw [ofJson, height, Nat.add_comm, readCondition, bind_eq_ok_iff]
  refine exists_congr fun d => and_congr_right fun _ => ?_
  cases d.finish <;> simp

/-- An object is a condition if no part is given twice, each has its form and one shape is shown. -/
theorem exists_ofJson_iff :
    (∃ c, ofJson (.object ms) = .ok c) ↔ ((known conditionNames ms).map (·.1)).Nodup ∧
      Fits (.object ms) ∧ ∃! shape : Shape, shape.Shown (.object ms) := by
  simp only [ofJson_object_eq_ok_iff]
  rw [← and_assoc, ← ConditionDraft.exists_ofMembers_iff, exists_comm]
  constructor
  · rintro ⟨d, c, hd, hc⟩
    exact ⟨⟨d, hd⟩, (ConditionDraft.readFrom_of_ofMembers hd).exists_finish_iff.mp ⟨c, hc⟩⟩
  · rintro ⟨⟨d, hd⟩, hs⟩
    obtain ⟨c, hc⟩ := (ConditionDraft.readFrom_of_ofMembers hd).exists_finish_iff.mpr hs
    exact ⟨d, c, hd, hc⟩

theorem denoted_of_ofJson (h : ofJson (.object ms) = .ok c) : Denoted (.object ms) c := by
  obtain ⟨d, hd, hc⟩ := ofJson_object_eq_ok_iff.mp h
  exact (ConditionDraft.readFrom_of_ofMembers hd).denoted hc

/-- A value is read the same wherever it fits, also within a rule. -/
theorem readCondition_eq_ofJson {j : Json} {levels : Nat} (hl : height j ≤ levels) :
    readCondition levels (Node.ofJson j) = ofJson j :=
  read_eq_of_height_le (fun levels => (readCondition_succ levels).1) hl

/-- A text is read as the value that it is written as. -/
theorem ofJsonText_eq {text : String} {j : Json} (hr : Json.read? text.toList = some (Node.ofJson j))
    (hl : height j ≤ Json.maxOpen) : ofJsonText text = ofJson j := by
  rw [ofJsonText, hr]
  exact readCondition_eq_ofJson hl

end Condition

end RecordNaming
