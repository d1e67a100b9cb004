/-
  RecordNaming.Proofs.Document.Lists — what an array is read as where a configuration is expected.

  (1) `Configuration.InOrder`: an array of at most five items gives the parts of a configuration in
      their order, which it is read as first (`readConfiguration_array_iff`).
  (2) `Configuration.Listed`: each item is a rule, and the configuration has these rules and nothing
      else (`readRules_array_iff`).
  (3) An array is read in one of these ways or not at all (`Configuration.ofJson_array_iff`). A rule is
      neither null nor a text (`RuleChain.ne_of_ofJson`), a first part is one of them, so the first
      item decides between the two.

  `arrays_are_read_in_order_or_as_lists` puts them together; `two_texts_are_no_list` is an array that is
  no list of rules and is read.
-/
import RecordNaming.Proofs.Document.Forms

namespace RecordNaming

open Document

/-! ## (1) Parts in order -/

namespace Configuration

/-- The items give the parts of a configuration in their order, as many as there are. -/
structure InOrder (items : List Json) (c : Configuration) : Prop where
  few : items.length ≤ 5
  entity : Option.Rel (fun j s => j = .string s) (items[0]?.bind Json.present?) c.entity
  targetField : match items[1]? with
    | none => c.targetField = "name"
    | some j => j = .string c.targetField
  maxLength : Option.Rel (fun j (n : UInt64) => j = intJson n.toNat) (items[2]?.bind Json.present?) c.maxLength
  enableTracing : Option.Rel (fun j b => j = .bool b) (items[3]?.bind Json.present?) c.enableTracing
  fields : match items[4]? with
    | none => c.fields = []
    | some j => ListOf (fun item chain => RuleChain.ofJson item = .ok chain) j c.fields

/-- The items are rules, and these are all that the configuration has. -/
def Listed (items : List Json) (c : Configuration) : Prop :=
  ∃ rules, List.Forall₂ (fun item chain => RuleChain.ofJson item = .ok chain) items rules ∧
    c = { fields := rules }

end Configuration

namespace Document

theorem readRules_eq_ok_iff {levels : Nat} {j : Json} (hl : height j ≤ levels) {rules : List RuleChain} :
    readRules levels (Node.ofJson j) = .ok rules ↔
      ListOf (fun item chain => RuleChain.ofJson item = .ok chain) j rules :=
  readAll_eq_ok_iff (fun _ => rfl) (fun _ _ => rfl) readRule_succ hl

section

variable {rules : Node → Except DocumentError (List RuleChain)}

/-- Setting one part leaves the others as they are. -/
theorem setConfiguration_other {c c' : Configuration} {name : String} {n : Node}
    (h : setConfiguration rules c name n = .ok c') :
    (name ≠ "entity" → c'.entity = c.entity) ∧ (name ≠ "targetField" → c'.targetField = c.targetField) ∧
      (name ≠ "maxLength" → c'.maxLength = c.maxLength) ∧
      (name ≠ "enableTracing" → c'.enableTracing = c.enableTracing) ∧
      (name ≠ "fields" → c'.fields = c.fields) := by
  unfold setConfiguration at h
  split at h
  case h_6 =>
    cases h
    simp
  all_goals
    obtain ⟨v, -, rfl⟩ := map_eq_ok_iff.mp h
    simp

theorem isPart_entity :
    IsPart (setConfiguration rules) "entity" Configuration.entity (Node.readOptional Node.readText) :=
  .of_map (fun _ _ => rfl) (fun _ _ => rfl) fun hn h => (setConfiguration_other h).1 hn

theorem isPart_targetField :
    IsPart (setConfiguration rules) "targetField" Configuration.targetField Node.readText :=
  .of_map (fun _ _ => rfl) (fun _ _ => rfl) fun hn h => (setConfiguration_other h).2.1 hn

theorem isPart_maxLength :
    IsPart (setConfiguration rules) "maxLength" Configuration.maxLength (Node.readOptional Node.readUInt64) :=
  .of_map (fun _ _ => rfl) (fun _ _ => rfl) fun hn h => (setConfiguration_other h).2.2.1 hn

theorem isPart_enableTracing :
    IsPart (setConfiguration rules) "enableTracing" Configuration.enableTracing
      (Node.readOptional Node.readBool) :=
  .of_map (fun _ _ => rfl) (fun _ _ => rfl) fun hn h => (setConfiguration_other h).2.2.2.1 hn

theorem isPart_fields : IsPart (setConfiguration rules) "fields" Configuration.fields rules :=
  .of_map (fun _ _ => rfl) (fun _ _ => rfl) fun hn h => (setConfiguration_other h).2.2.2.2 hn

/-- Whether a part can be set does not depend on the others. -/
theorem exists_setConfiguration_iff (c : Configuration) (name : String) (n : Node) :
    (∃ c', setConfiguration rules c name n = .ok c') ↔ ∃ c', setConfiguration rules {} name n = .ok c' := by
  unfold setConfiguration
  split <;> simp [exists_map_eq_ok_iff]

end

/-- The parts of a configuration that an array is read as, if it is. -/
def inOrder (items : List Json) : Except DocumentError Configuration :=
  readConfiguration (height (.array items)) (Node.ofJson (.array items))

variable {items : List Json} {c : Configuration}

theorem inOrder_eq_ok_iff_assign : inOrder items = .ok c ↔ items.length ≤ 5 ∧
    assign (setConfiguration (readRules (heightOfItems items))) {} (configurationNames.zip items) = .ok c := by
  rw [inOrder, height, Nat.add_comm, readConfiguration, readStructure_array_iff]
  rfl

theorem height_getElem?_le {k : Nat} {j : Json} (h : items[k]? = some j) : height j ≤ heightOfItems items :=
  (heightOfItems_le_iff items _).mp (Nat.le_refl _) j (List.mem_of_getElem? h)

theorem inOrder_of_eq_ok (h : inOrder items = .ok c) : c.InOrder items := by
  obtain ⟨few, run⟩ := inOrder_eq_ok_iff_assign.mp h
  have distinct : configurationNames.Nodup := by decide
  have nodup : ((configurationNames.zip items).map (·.1)).Nodup := distinct.sublist names_zip_sublist
  have entity := isPart_entity.optional_of_assign rfl nodup run
  have targetField := isPart_targetField.of_assign nodup run
  have maxLength := isPart_maxLength.optional_of_assign rfl nodup run
  have enableTracing := isPart_enableTracing.optional_of_assign rfl nodup run
  have fields := isPart_fields.of_assign nodup run
  rw [given?_zip (k := 0) distinct rfl] at entity
  rw [member?_zip (k := 1) distinct rfl] at targetField
  rw [given?_zip (k := 2) distinct rfl] at maxLength
  rw [given?_zip (k := 3) distinct rfl] at enableTracing
  rw [member?_zip (k := 4) distinct rfl] at fields
  refine ⟨few, (rel_congr fun _ _ _ => readText_eq_ok_iff).mp entity, ?_,
    (rel_congr fun _ _ _ => readUInt64_eq_ok_iff).mp maxLength,
    (rel_congr fun _ _ _ => readBool_eq_ok_iff).mp enableTracing, ?_⟩
  · cases h : items[1]? with
    | none =>
      rw [h] at targetField
      exact targetField
    | some j =>
      rw [h] at targetField
      exact readText_eq_ok_iff.mp targetField
  · cases h : items[4]? with
    | none =>
      rw [h] at fields
      exact fields
    | some j =>
      rw [h] at fields
      exact (readRules_eq_ok_iff (height_getElem?_le h)).mp fields

theorem exists_inOrder (h : c.InOrder items) : ∃ c', inOrder items = .ok c' := by
  have distinct : configurationNames.Nodup := by decide
  have nodup : ((configurationNames.zip items).map (·.1)).Nodup := distinct.sublist names_zip_sublist
  simp only [inOrder_eq_ok_iff_assign, exists_and_left]
  refine ⟨h.few, ?_⟩
  rw [exists_assign_iff exists_setConfiguration_iff, ← known_zip, forall_known_iff (known_nodup nodup)
    (p := fun name j => ∃ c, setConfiguration _ {} name (Node.ofJson j) = .ok c)]
  intro name hn
  simp only [configurationNames, List.mem_cons, List.not_mem_nil, or_false] at hn
  rcases hn with rfl | rfl | rfl | rfl | rfl
  · rw [settable_optional_iff (fun _ => rfl), given?_zip (k := 0) distinct rfl]
    simp only [readText_eq_ok_iff]
    exact exists_rel_iff.mp ⟨_, h.entity⟩
  · rw [member?_zip (k := 1) distinct rfl]
    intro j hj
    have ht := h.targetField
    rw [hj] at ht
    exact exists_map_eq_ok_iff.mpr ⟨_, readText_eq_ok_iff.mpr ht⟩
  · rw [settable_optional_iff (fun _ => rfl), given?_zip (k := 2) distinct rfl]
    simp only [readUInt64_eq_ok_iff]
    exact exists_rel_iff.mp ⟨_, h.maxLength⟩
  · rw [settable_optional_iff (fun _ => rfl), given?_zip (k := 3) distinct rfl]
    simp only [readBool_eq_ok_iff]
    exact exists_rel_iff.mp ⟨_, h.enableTracing⟩
  · rw [member?_zip (k := 4) distinct rfl]
    intro j hj
    have hf := h.fields
    rw [hj] at hf
    exact exists_map_eq_ok_iff.mpr ⟨_, (readRules_eq_ok_iff (height_getElem?_le hj)).mpr hf⟩

-- what the items mean is what is read of them, so it is one thing
theorem inOrder_unique {c' : Configuration} (h : c.InOrder items) (h' : c'.InOrder items) : c = c' := by
  have entity : c.entity = c'.entity :=
    rel_unique (fun h h' => Json.string.inj (h.symm.trans h')) h.entity h'.entity
  have maxLength : c.maxLength = c'.maxLength :=
    rel_unique (R := fun j (n : UInt64) => j = intJson n.toNat) (fun h h' => Except.ok.inj
      ((readUInt64_eq_ok_iff.mpr h).symm.trans (readUInt64_eq_ok_iff.mpr h'))) h.maxLength h'.maxLength
  have enableTracing : c.enableTracing = c'.enableTracing :=
    rel_unique (fun h h' => Json.bool.inj (h.symm.trans h')) h.enableTracing h'.enableTracing
  have targetField : c.targetField = c'.targetField := by
    have ht := h.targetField
    have ht' := h'.targetField
    cases hj : items[1]? with
    | none =>
      rw [hj] at ht ht'
      exact ht.trans ht'.symm
    | some j =>
      rw [hj] at ht ht'
      exact Json.string.inj (ht.symm.trans ht')
  have fields : c.fields = c'.fields := by
    have hf := h.fields
    have hf' := h'.fields
    cases hj : items[4]? with
    | none =>
      rw [hj] at hf hf'
      exact hf.trans hf'.symm
    | some j =>
      rw [hj] at hf hf'
      exact Except.ok.inj (((readRules_eq_ok_iff (Nat.le_refl _)).mpr hf).symm.trans
        ((readRules_eq_ok_iff (Nat.le_refl _)).mpr hf'))
  cases c
  cases c'
  simp only [Configuration.mk.injEq]
  exact ⟨entity, targetField, maxLength, enableTracing, fields⟩

/-- An array is read as a configuration if its items give the parts in order. -/
theorem inOrder_eq_ok_iff : inOrder items = .ok c ↔ c.InOrder items := by
  refine ⟨inOrder_of_eq_ok, fun h => ?_⟩
  obtain ⟨c', hc⟩ := exists_inOrder h
  rw [hc, inOrder_unique (inOrder_of_eq_ok hc) h]

theorem inOrder_nil : Configuration.InOrder [] {} := inOrder_of_eq_ok rfl

/-! ## (2) Lists of rules -/

/-- An array is read as a list if each item is a rule. -/
theorem readRules_array_iff {rules : List RuleChain} :
    readRules (height (.array items)) (Node.ofJson (.array items)) = .ok rules ↔
      List.Forall₂ (fun item chain => RuleChain.ofJson item = .ok chain) items rules := by
  rw [readRules_eq_ok_iff (Nat.le_refl _), ListOf]
  simp

end Document

/-- A rule is an object, or an array in JSON. -/
theorem RuleChain.ne_of_ofJson {j : Json} {chain : RuleChain} (h : RuleChain.ofJson j = .ok chain) :
    j ≠ .null ∧ ∀ s, j ≠ .string s := by
  constructor
  · rintro rfl
    cases h
  · rintro s rfl
    cases h

/-! ## (3) Arrays -/

namespace Configuration

variable {items : List Json} {c : Configuration}

theorem ofJson_array_eq : ofJson (.array items) =
    match inOrder items with
    | .ok c => .ok c
    | .error e =>
      match readRules (height (.array items)) (Node.ofJson (.array items)) with
      | .ok rules => .ok { fields := rules }
      | .error _ => .error (.malformedDocument inlineSource (e.message false ++ attempts)) := rfl

/-- Where the first item is neither null nor a text, items in order are no parts of a configuration. -/
theorem not_inOrder_of_head {first : Json} {rest : List Json} (h : first ≠ .null ∧ ∀ s, first ≠ .string s) :
    ¬c.InOrder (first :: rest) := by
  intro ho
  have he := ho.entity
  have hp : first.present? = some first := present?_eq_some_iff.mpr ⟨rfl, h.1⟩
  simp only [List.getElem?_cons_zero, Option.bind_some, hp] at he
  cases hc : c.entity with
  | none =>
    rw [hc] at he
    cases he
  | some s =>
    rw [hc] at he
    obtain ⟨_, hf, rfl⟩ := rel_some_iff.mp he
    cases hf
    exact h.2 s rfl

/-- An array is a list of rules or the parts of a configuration in order; only an empty array is both. -/
theorem ofJson_array_iff : ofJson (.array items) = .ok c ↔ c.Listed items ∨ c.InOrder items := by
  rw [ofJson_array_eq]
  cases ho : inOrder items with
  | ok c' =>
    have hc' := inOrder_eq_ok_iff.mp ho
    constructor
    · intro h
      cases h
      exact .inr hc'
    · rintro (⟨rules, hr, rfl⟩ | hc)
      · cases hr with
        | nil => rw [inOrder_unique hc' inOrder_nil]
        | cons hi _ => exact absurd hc' (not_inOrder_of_head (RuleChain.ne_of_ofJson hi))
      · rw [inOrder_unique hc' hc]
  | error e =>
    have none : ¬c.InOrder items := by
      rw [← inOrder_eq_ok_iff, ho]
      nofun
    rw [or_iff_left none]
    unfold Listed
    simp only [← readRules_array_iff]
    cases readRules (height (.array items)) (Node.ofJson (.array items)) <;> simp [eq_comm]

theorem error_of_ofJson_array {e : RuleError} (h : ofJson (.array items) = .error e) :
    ∃ detail, e = .malformedDocument inlineSource detail := by
  rw [ofJson_array_eq] at h
  split at h
  · cases h
  · split at h
    · cases h
    · cases h
      exact ⟨_, rfl⟩

end Configuration

/-- An array is read as a list of rules if all its items are rules, and it is also read if its items give
the parts of a configuration in their order; in no other way, and else it is malformed. Unless it begins
with a null or a text, only the list is left. -/
theorem arrays_are_read_in_order_or_as_lists (items : List Json) :
    (∀ c, Configuration.ofJson (.array items) = .ok c ↔ c.Listed items ∨ c.InOrder items) ∧
    (∀ e, Configuration.ofJson (.array items) = .error e →
      ∃ detail, e = .malformedDocument inlineSource detail) ∧
    ((∀ first, items.head? = some first → first ≠ .null ∧ ∀ s, first ≠ .string s) →
      ∀ c, Configuration.ofJson (.array items) = .ok c ↔ c.Listed items) := by
  refine ⟨fun c => Configuration.ofJson_array_iff, fun e => Configuration.error_of_ofJson_array, fun h c => ?_⟩
  rw [Configuration.ofJson_array_iff]
  refine or_iff_left_of_imp fun ho => ?_
  cases items with
  | nil =>
    rw [inOrder_unique ho inOrder_nil]
    exact ⟨[], .nil, rfl⟩
  | cons first rest => exact absurd ho (Configuration.not_inOrder_of_head (h first rfl))

/-- Two rules, one of them as an array of its parts. -/
def twoRules : List Json := [.object [("field", .string "number")], .array [.string "title", .string "string"]]

theorem two_rules_are_a_list :
    Configuration.ofJson (.array twoRules) =
        .ok { fields := [⟨{ field := "number" }, []⟩, ⟨{ field := "title", type := some .string }, []⟩] } ∧
      ∃ c : Configuration, c.Listed twoRules := by
  have hc : Configuration.ofJson (.array twoRules) =
    .ok { fields := [⟨{ field := "number" }, []⟩, ⟨{ field := "title", type := some .string }, []⟩] } := by rfl
  have start : ∀ first, twoRules.head? = some first → first ≠ .null ∧ ∀ s, first ≠ .string s := by
    intro first h
    cases h
    exact ⟨nofun, nofun⟩
  exact ⟨hc, _, ((arrays_are_read_in_order_or_as_lists twoRules).2.2 start _).mp hc⟩

/-- Two texts are no rules, and are read as the type of record and the field of the name. -/
theorem two_texts_are_no_list :
    Configuration.ofJson (.array [.string "firstname", .string "lastname"]) =
        .ok { entity := some "firstname", targetField := "lastname" } ∧
      ∀ item ∈ [Json.string "firstname", .string "lastname"], ∀ chain, RuleChain.ofJson item ≠ .ok chain := by
  refine ⟨rfl, fun item hi chain h => ?_⟩
  obtain ⟨-, hs⟩ := RuleChain.ne_of_ofJson h
  simp only [List.mem_cons, List.not_mem_nil, or_false] at hi
  rcases hi with rfl | rfl
  · exact hs _ rfl
  · exact hs _ rfl

end RecordNaming
