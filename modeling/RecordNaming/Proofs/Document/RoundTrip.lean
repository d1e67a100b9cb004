/-
  RecordNaming.Proofs.Document.RoundTrip — a written configuration is read back.

  - `Condition.read_toJson`, `FieldRule.read_toJson`, `Configuration.read_toJson`: what is
    written is read as what it was, where its arrays and objects may be open and the leaves
    of its conditions have names.
  - `Configuration.height_toJson_le`: soundness under a limit bounds how many are open.
  - `Configuration.whole_toJson`: its numbers are whole, so that its text is read as itself.

  `written_configuration_is_read_back` puts them together for valid configurations.
-/
import RecordNaming.Proofs.Document.Structure
import RecordNaming.Proofs.Validity.FirstDefect

namespace RecordNaming

open Document

/-! ## Names and numbers -/

theorem Operator.ofName?_name (op : Operator) : Operator.ofName? op.name = some op := by
  cases op <;> decide +kernel

theorem FieldType.ofName?_name (t : FieldType) : FieldType.ofName? t.name = some t := by
  cases t <;> decide +kernel

theorem readsBack_text (s : String) : ReadsBack Node.readText .string s where
  present := by simp
  read_eq := rfl

theorem readsBack_bool (b : Bool) : ReadsBack Node.readBool .bool b where
  present := by simp
  read_eq := rfl

theorem readsBack_operator (op : Operator) : ReadsBack readOperator (.string ·.name) op where
  present := by simp
  read_eq := by
    rw [Node.ofJson, readOperator]
    simp only [Node.readText, bind, Except.bind, Operator.ofName?_name]
    rfl

theorem readsBack_fieldType (t : FieldType) : ReadsBack readFieldType (.string ·.name) t where
  present := by simp
  read_eq := by
    rw [Node.ofJson, readFieldType]
    simp only [Node.readText, bind, Except.bind, FieldType.ofName?_name]
    rfl

theorem intJson_eq {n : Int} (low : -9223372036854775808 ≤ n) (high : n ≤ 18446744073709551615) :
    intJson n = .number (.integer n low high) := by
  rw [intJson, Json.Number.ofInt?, dif_pos ⟨low, high⟩]
  rfl

theorem toNat_le (n : UInt64) : (n.toNat : Int) ≤ 18446744073709551615 := by
  have := n.toNat_lt
  omega

theorem intJson_toNat (n : UInt64) :
    intJson n.toNat = .number (.integer n.toNat (by omega) (toNat_le n)) := intJson_eq _ _

theorem toInt_bounds (n : Int32) : -2147483648 ≤ n.toInt ∧ n.toInt ≤ 2147483647 := by
  have h := n.toInt_lt
  have h' := n.le_toInt
  omega

theorem intJson_toInt (n : Int32) :
    intJson n.toInt = .number (.integer n.toInt (by have := toInt_bounds n; omega)
      (by have := toInt_bounds n; omega)) := intJson_eq _ _

theorem readsBack_uint64 (n : UInt64) : ReadsBack Node.readUInt64 (intJson ·.toNat) n where
  present := by simp [intJson_toNat]
  read_eq := by
    rw [intJson_toNat, Node.ofJson, Node.readUInt64, Node.readInt, if_pos ⟨by omega, toNat_le n⟩]
    simp [Except.map]

theorem readsBack_int32 (n : Int32) : ReadsBack Node.readInt32 (intJson ·.toInt) n where
  present := by simp [intJson_toInt]
  read_eq := by
    rw [intJson_toInt, Node.ofJson, Node.readInt32, Node.readInt, if_pos (toInt_bounds n)]
    simp [Except.map]

/-! ## Conditions -/

theorem nonBlank?_some {s : String} (h : Text.allBlank s = false) : Text.nonBlank? (some s) = some s := by
  simp [Text.nonBlank?, h]

theorem Condition.toJson_ne_null (c : Condition) : c.toJson ≠ .null := by cases c <;> simp [toJson]

theorem readCondition_ofJson {levels : Nat} {ms : List (String × Json)} {draft : ConditionDraft} {c : Condition}
    (h : Fills conditionNames (ConditionDraft.set levels (readConditions levels)) {} ms draft)
    (hc : draft.finish = .ok c) : readCondition (levels + 1) (Node.ofJson (.object ms)) = .ok c := by
  rw [readCondition, readStructure_ofJson (by decide) h]
  simp only [bind, Except.bind, hc]

theorem Condition.read_compare (levels : Nat) {field : String} (operator : Operator) (operand : String)
    (hf : Text.allBlank field = false) :
    readCondition (levels + 1) (Node.ofJson (compare field operator operand).toJson) =
      .ok (compare field operator operand) := by
  have start : Fills [] (ConditionDraft.set levels (readConditions levels)) {} [] {} := .nil
  have named := start.and_member "field" (.string field) rfl
  have asked := named.and_member "operator" (.string operator.name)
    (by rw [ConditionDraft.set, (readsBack_operator operator).optional]; rfl)
  have compared := asked.and_member "value" (.string operand) rfl
  rw [toJson]
  refine readCondition_ofJson (compared.of_sublist (by decide)) ?_
  simp [ConditionDraft.finish, ConditionDraft.shapes, nonBlank?_some hf]

theorem Condition.read_group {levels : Nat} (g : Group) {children : List Condition}
    (h : ReadsBack (readConditions levels) (fun cs => .array (toJsonItems cs)) children) :
    readCondition (levels + 1) (Node.ofJson (group g children).toJson) = .ok (group g children) := by
  have start : Fills [] (ConditionDraft.set levels (readConditions levels)) {} [] {} := .nil
  rw [toJson]
  cases g with
  | anyOf =>
    have joined := start.and_member (u := { anyOf := some children }) "anyOf" (.array (toJsonItems children))
      (by rw [ConditionDraft.set, h.optional]; rfl)
    exact readCondition_ofJson (joined.of_sublist (by decide)) rfl
  | allOf =>
    have joined := start.and_member (u := { allOf := some children }) "allOf" (.array (toJsonItems children))
      (by rw [ConditionDraft.set, h.optional]; rfl)
    exact readCondition_ofJson (joined.of_sublist (by decide)) rfl

mutual

/-- A condition whose leaves have names is read back where its arrays and objects may be open. -/
theorem Condition.read_toJson : ∀ (c : Condition) {levels : Nat}, height c.toJson ≤ levels →
    (∀ f ∈ c.fields, Text.allBlank f = false) → readCondition levels (Node.ofJson c.toJson) = .ok c
  | .compare field operator operand, 0, hl, _ => by
    simp [toJson, height] at hl
  | .compare field operator operand, levels + 1, _, hf =>
    read_compare levels operator operand (hf field (List.mem_singleton.mpr rfl))
  | .group g children, 0, hl, _ => by
    simp [toJson, height] at hl
  | .group g children, 1, hl, _ => by
    simp only [toJson, height, heightOfMembers] at hl
    omega
  | .group g children, levels + 2, hl, hf => by
    -- the object of the group and the array of its children are open around each child
    have hc : heightOfItems (toJsonItems children) ≤ levels := by
      simp only [toJson, height, heightOfMembers] at hl
      omega
    refine read_group g ⟨by simp, ?_⟩
    rw [readConditions, Node.ofJson]
    exact read_toJsonItems children hc hf

theorem Condition.read_toJsonItems : ∀ (cs : List Condition) {levels : Nat},
    heightOfItems (toJsonItems cs) ≤ levels → (∀ f ∈ fieldsOfAll cs, Text.allBlank f = false) →
      (Node.ofItems (toJsonItems cs)).mapM (readCondition levels) = .ok cs
  | [], _, _, _ => rfl
  | c :: rest, levels, hl, hf => by
    rw [toJsonItems, heightOfItems, Nat.max_le] at hl
    rw [fieldsOfAll, List.forall_mem_append] at hf
    rw [toJsonItems, Node.ofItems, List.mapM_cons, read_toJson c hl.1 hf.1, read_toJsonItems rest hl.2 hf.2]
    rfl

end

/-! ## Rules -/

/-- The alternates of a rule as a chain of their own. -/
def RuleChain.ofRules? : List FieldRule → Option RuleChain
  | [] => none
  | r :: rest => some ⟨r, rest⟩

theorem FieldRule.toJson_eq (r : FieldRule) (alternates : List FieldRule) :
    r.toJson alternates = .object (r.parts.1 ++
      part "alternateField" (RuleChain.ofRules? alternates) RuleChain.toJson ++ r.parts.2) := by
  cases alternates with
  | nil => simp [toJson, RuleChain.ofRules?, part]
  | cons next rest => simp [toJson, RuleChain.ofRules?, part, RuleChain.toJson]

theorem height_intJson (n : Int) : height (intJson n) = 0 := by
  unfold intJson
  cases Json.Number.ofInt? n <;> rfl

/-- Only the alternates and the condition of a rule open arrays and objects within it. -/
theorem FieldRule.height_toJson_le_iff (r : FieldRule) (alternates : List FieldRule) (n : Nat) :
    height (r.toJson alternates) ≤ n + 1 ↔
      (∀ c, RuleChain.ofRules? alternates = some c → height c.toJson ≤ n) ∧
        ∀ c, r.includeIf = some c → height c.toJson ≤ n := by
  rw [toJson_eq, height, Nat.add_comm 1, Nat.add_le_add_iff_right]
  simp only [parts, heightOfMembers_append, Nat.max_le, heightOfMembers_part_le_iff, height_intJson]
  simp [heightOfMembers, height]

theorem readRule_ofJson {levels : Nat} {ms : List (String × Json)} {draft : RuleDraft} {c : RuleChain}
    (h : Fills ruleNames (RuleDraft.set (readRule levels) (readCondition levels)) {} ms draft)
    (hc : ∀ n, draft.finish n = .ok c) : readRule (levels + 1) (Node.ofJson (.object ms)) = .ok c := by
  rw [readRule, readStructure_ofJson (by decide) h]
  exact hc _

theorem FieldRule.fills_parts (r : FieldRule) {alternate : Option RuleChain}
    {chain : Node → Except DocumentError RuleChain} {condition : Node → Except DocumentError Condition}
    (ha : ∀ c, alternate = some c → ReadsBack chain RuleChain.toJson c)
    (hc : ∀ c, r.includeIf = some c → ReadsBack condition Condition.toJson c) :
    Fills ruleNames (RuleDraft.set chain condition) {}
      (r.parts.1 ++ part "alternateField" alternate RuleChain.toJson ++ r.parts.2)
      ⟨some r.field, { r with field := "" }, alternate⟩ := by
  have start : Fills [] (RuleDraft.set chain condition) {} [] {} := .nil
  exact start
    |>.and_member "field" (.string r.field) rfl
    |>.and_part "type" r.type (.string ·.name) (fun _ => rfl) rfl (fun t _ => readsBack_fieldType t)
    |>.and_part "format" r.format .string (fun _ => rfl) rfl (fun s _ => readsBack_text s)
    |>.and_part "maxLength" r.maxLength (intJson ·.toNat) (fun _ => rfl) rfl (fun n _ => readsBack_uint64 n)
    |>.and_part "truncationIndicator" r.truncationIndicator .string (fun _ => rfl) rfl (fun s _ => readsBack_text s)
    |>.and_part "default" r.default .string (fun _ => rfl) rfl (fun s _ => readsBack_text s)
    |>.and_part "prefix" r.leading .string (fun _ => rfl) rfl (fun s _ => readsBack_text s)
    |>.and_part "suffix" r.trailing .string (fun _ => rfl) rfl (fun s _ => readsBack_text s)
    |>.and_part "timezoneOffsetHours" r.offsetHours (intJson ·.toInt) (fun _ => rfl) rfl
      (fun n _ => readsBack_int32 n)
    |>.and_part "alternateField" alternate RuleChain.toJson (fun _ => rfl) rfl ha
    |>.and_part "includeIf" r.includeIf Condition.toJson (fun _ => rfl) rfl hc

/-- A rule and its alternates are read back if the leaves of their conditions have names. -/
theorem FieldRule.read_toJson (r : FieldRule) (alternates : List FieldRule) {levels : Nat}
    (hl : height (r.toJson alternates) ≤ levels)
    (hf : ∀ s ∈ r :: alternates, ∀ c, s.includeIf = some c → ∀ f ∈ c.fields, Text.allBlank f = false) :
    readRule levels (Node.ofJson (r.toJson alternates)) = .ok ⟨r, alternates⟩ := by
  -- the alternates and the condition are both one level further in
  induction levels generalizing r alternates with
  | zero =>
    rw [toJson_eq, height] at hl
    omega
  | succ levels ih =>
    obtain ⟨hla, hlc⟩ := (r.height_toJson_le_iff alternates levels).mp hl
    have ha : ∀ c, RuleChain.ofRules? alternates = some c → ReadsBack (readRule levels) RuleChain.toJson c := by
      intro c hc
      cases alternates with
      | nil => cases hc
      | cons next rest =>
        cases hc
        refine ⟨?_, ih next rest (hla _ rfl) fun s hs => hf s (List.mem_cons_of_mem r hs)⟩
        rw [RuleChain.toJson, toJson_eq]
        simp
    have hc : ∀ c, r.includeIf = some c → ReadsBack (readCondition levels) Condition.toJson c := by
      intro c hc
      exact ⟨c.toJson_ne_null, c.read_toJson (hlc c hc) (hf r List.mem_cons_self c hc)⟩
    rw [toJson_eq]
    refine readRule_ofJson (r.fills_parts ha hc) fun n => ?_
    cases alternates <;> rfl

/-! ## Configurations -/

theorem Configuration.fills_parts (c : Configuration) {rules : Node → Except DocumentError (List RuleChain)}
    (hr : rules (Node.ofJson (.array (c.fields.map RuleChain.toJson))) = .ok c.fields) :
    Fills configurationNames (setConfiguration rules) {} (part "entity" c.entity .string ++
      [("targetField", .string c.targetField)] ++ part "maxLength" c.maxLength (intJson ·.toNat) ++
      part "enableTracing" c.enableTracing .bool ++ [("fields", .array (c.fields.map RuleChain.toJson))]) c := by
  have start : Fills [] (setConfiguration rules) {} [] {} := .nil
  have limited := start
    |>.and_part "entity" c.entity .string (fun _ => rfl) rfl (fun s _ => readsBack_text s)
    |>.and_member "targetField" (.string c.targetField) rfl
    |>.and_part "maxLength" c.maxLength (intJson ·.toNat) (fun _ => rfl) rfl (fun n _ => readsBack_uint64 n)
    |>.and_part "enableTracing" c.enableTracing .bool (fun _ => rfl) rfl (fun b _ => readsBack_bool b)
  refine limited.and_member "fields" _ ?_
  rw [setConfiguration, hr]
  rfl

theorem Configuration.height_toJson_le_iff (c : Configuration) (n : Nat) :
    height c.toJson ≤ n + 2 ↔ ∀ chain ∈ c.fields, height chain.toJson ≤ n := by
  have hi := heightOfItems_le_iff (c.fields.map RuleChain.toJson) n
  rw [List.forall_mem_map] at hi
  rw [toJson, height, ← hi, show n + 2 = 1 + (n + 1) by omega, Nat.add_le_add_iff_left]
  simp only [heightOfMembers_append, Nat.max_le, heightOfMembers_part_le_iff, height_intJson]
  simp [heightOfMembers, height]
  omega

/-- A configuration is read back if the leaves of its conditions have names. -/
theorem Configuration.read_toJson (c : Configuration) {levels : Nat} (hl : height c.toJson ≤ levels)
    (hf : ∀ chain ∈ c.fields, ∀ r ∈ chain.rules, ∀ i, r.includeIf = some i →
      ∀ f ∈ i.fields, Text.allBlank f = false) :
    readConfiguration levels (Node.ofJson c.toJson) = .ok c := by
  obtain ⟨n, rfl⟩ : ∃ n, levels = n + 2 := by
    refine ⟨levels - 2, ?_⟩
    simp [toJson, height, heightOfMembers_append, heightOfMembers] at hl
    omega
  rw [c.height_toJson_le_iff n] at hl
  have hr : readRules (n + 1) (Node.ofJson (.array (c.fields.map RuleChain.toJson))) = .ok c.fields := by
    rw [readRules, Node.ofJson]
    exact mapM_ofItems fun chain hc => chain.first.read_toJson chain.alternates (hl chain hc) (hf chain hc)
  rw [readConfiguration, toJson]
  exact readStructure_ofJson (by decide) (c.fills_parts hr) _

/-! ## Depth -/

mutual

/-- Each condition of a tree opens an object and an array at most. -/
theorem Condition.height_toJson_le : ∀ c : Condition, height c.toJson ≤ 2 * c.depth
  | .compare field operator operand => by simp [toJson, height, heightOfMembers, depth]
  | .group g children => by
    have hc := heightOfItems_toJsonItems_le children
    simp [toJson, height, heightOfMembers, depth]
    omega

theorem Condition.heightOfItems_toJsonItems_le : ∀ cs : List Condition,
    heightOfItems (toJsonItems cs) ≤ 2 * deepest cs
  | [] => by simp [toJsonItems, heightOfItems]
  | c :: rest => by
    have hc := height_toJson_le c
    have hr := heightOfItems_toJsonItems_le rest
    rw [toJsonItems, heightOfItems, deepest]
    omega

end

theorem FieldRule.height_toJson_le_of {limit position : Nat} {r : FieldRule} {alternates : List FieldRule}
    (h : r.SoundAt limit position)
    (ha : ∀ c, RuleChain.ofRules? alternates = some c → height c.toJson + 2 * position ≤ 2 * limit) :
    height (r.toJson alternates) + 2 * position ≤ 2 * limit + 1 := by
  have hd := h.depth
  have hb : height (r.toJson alternates) ≤ 2 * limit - 2 * position + 1 := by
    refine (r.height_toJson_le_iff alternates _).mpr ⟨fun c hc => ?_, fun c hc => ?_⟩
    · have := ha c hc
      omega
    · have hcd := (h.condition c hc).1
      have := c.height_toJson_le
      omega
  omega

theorem FieldRule.height_toJson_le {limit : Nat} (r : FieldRule) (alternates : List FieldRule) {position : Nat}
    (h : ∀ (k : Nat) (s : FieldRule), (r :: alternates)[k]? = some s → s.SoundAt limit (position + k)) :
    height (r.toJson alternates) + 2 * position ≤ 2 * limit + 1 := by
  induction alternates generalizing r position with
  | nil => exact height_toJson_le_of (h 0 r rfl) fun c hc => by (cases hc)
  | cons next rest ih =>
    refine height_toJson_le_of (h 0 r rfl) fun c hc => ?_
    cases hc
    have hn : height (next.toJson rest) + 2 * (position + 1) ≤ 2 * limit + 1 := by
      refine ih next fun k s hs => ?_
      rw [show position + 1 + k = position + (k + 1) by omega]
      exact h (k + 1) s hs
    show height (next.toJson rest) + 2 * position ≤ 2 * limit
    omega

theorem Configuration.height_toJson_le {c : Configuration} {limit : Nat} (h : c.Sound limit) :
    height c.toJson ≤ 2 * limit + 2 := by
  refine (c.height_toJson_le_iff (2 * limit)).mpr fun chain hc => ?_
  have hr : height chain.toJson + 2 * 1 ≤ 2 * limit + 1 := by
    refine chain.first.height_toJson_le chain.alternates fun k s hs => ?_
    rw [Nat.add_comm 1 k]
    exact h chain hc k s hs
  omega

/-! ## Whole numbers only -/

mutual

theorem Condition.whole_toJson : ∀ c : Condition, Json.Whole c.toJson
  | .compare field operator operand => by simp [toJson, Json.Whole, Json.WholeMembers]
  | .group g children => by
    have hc := wholeItems_toJsonItems children
    simpa [toJson, Json.Whole, Json.WholeMembers] using hc

theorem Condition.wholeItems_toJsonItems : ∀ cs : List Condition, Json.WholeItems (toJsonItems cs)
  | [] => trivial
  | c :: rest => ⟨whole_toJson c, wholeItems_toJsonItems rest⟩

end

theorem whole_intJson (n : Int) : Json.Whole (intJson n) := by
  unfold intJson Json.Number.ofInt?
  by_cases h : -9223372036854775808 ≤ n ∧ n ≤ 18446744073709551615
  · rw [dif_pos h]
    trivial
  · rw [dif_neg h]
    trivial

theorem FieldRule.whole_toJson_iff (r : FieldRule) (alternates : List FieldRule) :
    Json.Whole (r.toJson alternates) ↔
      ∀ c, RuleChain.ofRules? alternates = some c → Json.Whole c.toJson := by
  have hc := Condition.whole_toJson
  rw [toJson_eq]
  simp only [Json.Whole, parts, wholeMembers_append, wholeMembers_part_iff, Json.WholeMembers]
  simp [whole_intJson, hc]

theorem FieldRule.whole_toJson (r : FieldRule) (alternates : List FieldRule) :
    Json.Whole (r.toJson alternates) := by
  rw [whole_toJson_iff]
  induction alternates generalizing r with
  | nil => exact fun c hc => by (cases hc)
  | cons next rest ih =>
    intro c hc
    cases hc
    exact (next.whole_toJson_iff rest).mpr (ih next)

theorem Configuration.whole_toJson (c : Configuration) : Json.Whole c.toJson := by
  have hf := (wholeItems_iff (c.fields.map RuleChain.toJson)).mpr
    (List.forall_mem_map.mpr fun chain _ => chain.first.whole_toJson chain.alternates)
  rw [toJson]
  simp only [Json.Whole, wholeMembers_append, wholeMembers_part_iff, Json.WholeMembers]
  simp [whole_intJson, hf]

/-! ## Valid configurations -/

/-- A valid configuration is written as a text that is read back as the same configuration. The text
opens no more arrays and objects at once than a generic value of a text may. -/
theorem written_configuration_is_read_back (c : Configuration)
    (h : c.validate Configuration.defaultMaxDepth = .ok ()) :
    Configuration.ofJsonText inlineSource c.toJson.prettyText = .ok c ∧
      Json.read? c.toJson.prettyText.toList = some (Node.ofJson c.toJson) ∧
      height c.toJson ≤ Json.maxOpen := by
  have sound := (c.validate_eq_ok_iff _).mp h
  have hl : height c.toJson ≤ Json.maxOpen :=
    Nat.le_trans (Configuration.height_toJson_le sound) (by decide)
  have hn := Json.read?_prettyText c.whole_toJson
  have hf : ∀ chain ∈ c.fields, ∀ r ∈ chain.rules, ∀ i, r.includeIf = some i →
      ∀ f ∈ i.fields, Text.allBlank f = false := by
    intro chain hc r hr i hi
    obtain ⟨k, hk⟩ := List.mem_iff_getElem?.mp hr
    exact ((sound chain hc k r hk).condition i hi).2
  refine ⟨?_, hn, hl⟩
  rw [Configuration.ofJsonText, hn]
  simp only [configurationOfNode, c.read_toJson hl hf]

/-- A condition within another, an alternate, and most of the parts that may be absent. -/
def orderConfiguration : Configuration where
  entity := some "order"
  maxLength := some 40
  enableTracing := some false
  fields := [
    ⟨{ field := "number", type := some .number, format := some "0.00", maxLength := some 12 },
      [{ field := "title", default := some "\x22untitled\x22", trailing := some "\n" }]⟩,
    ⟨{ field := "due"
       type := some .dateTime
       offsetHours := some (-7)
       includeIf := some (.group .anyOf
         [.equals "state" "open", .group .allOf [.compare "total" .greaterThan "10"]]) }, []⟩]

theorem order_configuration_is_read_back :
    orderConfiguration.validate Configuration.defaultMaxDepth = .ok () ∧
      Configuration.ofJsonText inlineSource orderConfiguration.toJson.prettyText = .ok orderConfiguration :=
  ⟨rfl, (written_configuration_is_read_back orderConfiguration rfl).1⟩

end RecordNaming
