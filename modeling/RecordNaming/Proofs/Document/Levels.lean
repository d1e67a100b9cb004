/-
  RecordNaming.Proofs.Document.Levels — a value is read the same wherever its arrays and
  objects may be open.

  Readers of conditions, rules and configurations count how many arrays and objects may
  still be opened. Two readers agree up to a height (`AgreeUpTo`) if they do the same, errors
  included, with every value that opens no more at once. Sequences and structures of parts that
  agree up to one level less agree (`AgreeUpTo.sequence`, `AgreeUpTo.structure`); so one more
  level changes nothing for what fits (`readCondition_succ`, `readRule_succ`,
  `readConfiguration_succ`), nor do any number of them (`read_eq_of_height_le`).

  `configurationOfNode_agrees`: the configuration of a value is that of its text, but for how an
  error is worded.
-/
import RecordNaming.Proofs.Document.Generic

namespace RecordNaming.Document

variable {α σ : Type}

/-- The readers do the same with each value that opens at most so many arrays and objects at once. -/
def AgreeUpTo (levels : Nat) (read read' : Node → Except DocumentError α) : Prop :=
  ∀ j, height j ≤ levels → read (Node.ofJson j) = read' (Node.ofJson j)

/-! ## Sequences and structures -/

theorem AgreeUpTo.optional {levels : Nat} {read read' : Node → Except DocumentError α}
    (h : AgreeUpTo levels read read') : AgreeUpTo levels (Node.readOptional read) (Node.readOptional read') := by
  intro j hj
  rw [Node.readOptional, Node.readOptional, h j hj]

theorem mapM_ofItems_agree {levels : Nat} {read read' : Node → Except DocumentError α}
    (h : AgreeUpTo levels read read') : ∀ {items : List Json}, heightOfItems items ≤ levels →
      (Node.ofItems items).mapM read = (Node.ofItems items).mapM read'
  | [], _ => rfl
  | item :: rest, hl => by
    rw [heightOfItems, Nat.max_le] at hl
    rw [Node.ofItems, List.mapM_cons, List.mapM_cons, h item hl.1, mapM_ofItems_agree h hl.2]

theorem AgreeUpTo.sequence {levels : Nat} {read read' : Node → Except DocumentError α}
    (h : AgreeUpTo levels read read') : AgreeUpTo (levels + 1) (readSequence read) (readSequence read')
  | .array items, hj => mapM_ofItems_agree h (by rw [height] at hj; omega)
  | .null, _ | .bool _, _ | .number _, _ | .string _, _ | .object _, _ => rfl

section

variable {levels : Nat} {set set' : σ → String → Node → Except DocumentError σ}
  (h : ∀ s name, AgreeUpTo levels (set s name) (set' s name))
include h

theorem setEntries_agree (names : List String) : ∀ {members : List (String × Json)} {seen : List String}
    {state : σ}, heightOfMembers members ≤ levels →
      setEntries names set seen state (Node.ofMembers members) =
        setEntries names set' seen state (Node.ofMembers members)
  | [], _, _, _ => rfl
  | (name, value) :: rest, seen, state, hl => by
    rw [heightOfMembers, Nat.max_le] at hl
    have hr (seen : List String) (state : σ) : setEntries names set seen state (Node.ofMembers rest) =
        setEntries names set' seen state (Node.ofMembers rest) := setEntries_agree names hl.2
    simp only [Node.ofMembers, setEntries, Node.keyName, bind, Except.bind, h state name value hl.1, hr]

theorem setItems_agree (count : Nat) : ∀ {names : List String} {items : List Json} {state : σ},
    heightOfItems items ≤ levels →
      setItems set count state names (Node.ofItems items) = setItems set' count state names (Node.ofItems items)
  | names, [], _, _ => by cases names <;> rfl
  | [], _ :: _, _, _ => rfl
  | name :: names, item :: rest, state, hl => by
    rw [heightOfItems, Nat.max_le] at hl
    have hr (state : σ) : setItems set count state names (Node.ofItems rest) =
        setItems set' count state names (Node.ofItems rest) := setItems_agree count hl.2
    simp only [Node.ofItems, setItems, h state name item hl.1, hr]

theorem AgreeUpTo.structure (expected : String) (names : List String) (start : σ) :
    AgreeUpTo (levels + 1) (readStructure expected names set start) (readStructure expected names set' start)
  | .array items, hj => setItems_agree h _ (by rw [height] at hj; omega)
  | .object members, hj => setEntries_agree h names (by rw [height] at hj; omega)
  | .null, _ | .bool _, _ | .number _, _ | .string _, _ => rfl

end

/-- Where nothing may be opened, a value that opens nothing is still found to be no sequence. -/
theorem AgreeUpTo.sequence_zero (read : Node → Except DocumentError α) :
    AgreeUpTo 0 (readSequence read) fun n => .error (n.tooDeep "a sequence")
  | .array _, hj | .object _, hj => by simp [height] at hj
  | .null, _ | .bool _, _ | .number _, _ | .string _, _ => rfl

theorem AgreeUpTo.structure_zero (expected : String) (names : List String)
    (set : σ → String → Node → Except DocumentError σ) (start : σ) :
    AgreeUpTo 0 (readStructure expected names set start) fun n => .error (n.tooDeep expected)
  | .array _, hj | .object _, hj => by simp [height] at hj
  | .null, _ | .bool _, _ | .number _, _ | .string _, _ => rfl

/-- The levels matter to an operand only for whether the node has a generic value. -/
theorem readOperand_of_isSome {levels levels' : Nat} {n : Node} (h : (n.toJson? levels).isSome = true)
    (h' : (n.toJson? levels').isSome = true) : n.readOperand levels = n.readOperand levels' := by
  unfold Node.readOperand
  split <;> simp only [h, h']

theorem readOperand_succ (levels : Nat) :
    AgreeUpTo levels (Node.readOperand (levels + 1)) (Node.readOperand levels) := fun _ hj =>
  readOperand_of_isSome (isSome_toJson?_ofJson (Nat.le_succ_of_le hj)) (isSome_toJson?_ofJson hj)

/-! ## One more level -/

theorem ConditionDraft.set_agree {levels : Nat} {children children' : Node → Except DocumentError (List Condition)}
    (h : AgreeUpTo levels children children') (d : ConditionDraft) (name : String) :
    AgreeUpTo levels (set (levels + 1) children d name) (set levels children' d name) := by
  intro j hj
  have ho := (readOperand_succ levels).optional j hj
  have hc := h.optional j hj
  unfold set
  split <;> simp only [ho, hc]

/-- One more level changes nothing for conditions that fit, nor for lists of them. -/
theorem readCondition_succ (levels : Nat) :
    AgreeUpTo levels (readCondition (levels + 1)) (readCondition levels) ∧
      AgreeUpTo levels (readConditions (levels + 1)) (readConditions levels) := by
  induction levels with
  | zero =>
    refine ⟨fun j hj => ?_, fun j hj => ?_⟩
    · rw [readCondition, readCondition, AgreeUpTo.structure_zero _ _ _ _ j hj]
      rfl
    · rw [readConditions, readConditions, AgreeUpTo.sequence_zero _ j hj]
  | succ levels ih =>
    refine ⟨fun j hj => ?_, fun j hj => ?_⟩
    · rw [readCondition, readCondition, AgreeUpTo.structure (ConditionDraft.set_agree ih.2) _ _ _ j hj]
    · rw [readConditions, readConditions, ih.1.sequence j hj]

theorem RuleDraft.set_agree {levels : Nat} {chain chain' : Node → Except DocumentError RuleChain}
    {condition condition' : Node → Except DocumentError Condition} (h : AgreeUpTo levels chain chain')
    (hc : AgreeUpTo levels condition condition') (d : RuleDraft) (name : String) :
    AgreeUpTo levels (set chain condition d name) (set chain' condition' d name) := by
  intro j hj
  have ha := h.optional j hj
  have hi := hc.optional j hj
  unfold set
  split <;> simp only [ha, hi]

theorem readRule_succ (levels : Nat) : AgreeUpTo levels (readRule (levels + 1)) (readRule levels) := by
  induction levels with
  | zero =>
    intro j hj
    rw [readRule, readRule, AgreeUpTo.structure_zero _ _ _ _ j hj]
    rfl
  | succ levels ih =>
    intro j hj
    rw [readRule, readRule,
      AgreeUpTo.structure (RuleDraft.set_agree ih (readCondition_succ levels).1) _ _ _ j hj]

theorem readRules_succ (levels : Nat) : AgreeUpTo levels (readRules (levels + 1)) (readRules levels) := by
  intro j hj
  cases levels with
  | zero => rw [readRules, readRules, AgreeUpTo.sequence_zero _ j hj]
  | succ levels => rw [readRules, readRules, (readRule_succ levels).sequence j hj]

theorem setConfiguration_agree {levels : Nat} {rules rules' : Node → Except DocumentError (List RuleChain)}
    (h : AgreeUpTo levels rules rules') (c : Configuration) (name : String) :
    AgreeUpTo levels (setConfiguration rules c name) (setConfiguration rules' c name) := by
  intro j hj
  have hr := h j hj
  unfold setConfiguration
  split <;> simp only [hr]

theorem readConfiguration_succ (levels : Nat) :
    AgreeUpTo levels (readConfiguration (levels + 1)) (readConfiguration levels) := by
  intro j hj
  cases levels with
  | zero => rw [readConfiguration, readConfiguration, AgreeUpTo.structure_zero _ _ _ _ j hj]
  | succ levels =>
    rw [readConfiguration, readConfiguration,
      AgreeUpTo.structure (setConfiguration_agree (readRules_succ levels)) _ _ _ j hj]

/-! ## Any levels -/

/-- A reader that one more level changes nothing for reads a value at any level that it fits as at its
own height. -/
theorem read_eq_of_height_le {read : Nat → Node → Except DocumentError α}
    (h : ∀ levels, AgreeUpTo levels (read (levels + 1)) (read levels)) {j : Json} {levels : Nat}
    (hl : height j ≤ levels) : read levels (Node.ofJson j) = read (height j) (Node.ofJson j) := by
  induction hl with
  | refl => rfl
  | step hl ih => rw [h _ j hl, ih]

/-- Two attempts at a value that fits come to the same configuration, or to one error each. -/
theorem configurationOfNode_agrees (source : String) {j : Json} {levels : Nat} (hl : height j ≤ levels) :
    (∃ c, configurationOfNode source false (height j) (Node.ofJson j) = .ok c ∧
      configurationOfNode source true levels (Node.ofJson j) = .ok c) ∨
    ∃ detail detail', configurationOfNode source false (height j) (Node.ofJson j) =
        .error (.malformedDocument source detail) ∧
      configurationOfNode source true levels (Node.ofJson j) = .error (.malformedDocument source detail') := by
  unfold configurationOfNode
  rw [read_eq_of_height_le readConfiguration_succ hl, read_eq_of_height_le readRules_succ hl]
  cases readConfiguration (height j) (Node.ofJson j) with
  | ok c => exact .inl ⟨c, rfl, rfl⟩
  | error e =>
    cases readRules (height j) (Node.ofJson j) with
    | ok rules => exact .inl ⟨_, rfl, rfl⟩
    | error _ => exact .inr ⟨_, _, rfl, rfl⟩

end RecordNaming.Document
