/-
  RecordNaming.Proofs.Document.Named — comparisons that are read name their fields.

  (1) `Condition.Named`: each comparison of a condition, at whatever depth, names a field that is
      not blank; so do those of rules and configurations.
  (2) Whatever node a condition, a rule or a configuration is read of, its comparisons name fields
      (`readCondition_named`, `readRule_named`, `readConfiguration_named`): each part that is set
      keeps that of the parts set before.
  (3) So they do in each configuration that is parsed, of JSON as of YAML (`Configuration.Parsed.named`).
  (4) A step of a path keeps it (`Part.Named.step`), so each comparison that a path leads to names a
      field, and validation finds no condition empty (`Configuration.Named.validate_ne`).

  `conditions_accepted_by_shape` states which objects are conditions, and that they name fields.
-/
import RecordNaming.Loading
import RecordNaming.Proofs.Document.Conditions
import RecordNaming.Proofs.Validity.FirstDefect

namespace RecordNaming

open Document

namespace Condition

/-! ## (1) Comparisons that name fields -/

/-- Each comparison, at whatever depth, names a field that is not blank. -/
def Named (c : Condition) : Prop := ∀ f ∈ c.fields, Text.allBlank f = false

theorem named_compare_iff {field operand : String} {operator : Operator} :
    (compare field operator operand).Named ↔ Text.allBlank field = false := by
  simp [Named, fields]

theorem named_group_iff {g : Group} {cs : List Condition} : (group g cs).Named ↔ ∀ c ∈ cs, c.Named := by
  unfold Named
  rw [fields]
  induction cs with
  | nil => simp [fieldsOfAll]
  | cons c rest ih => rw [fieldsOfAll, List.forall_mem_append, ih, List.forall_mem_cons]

end Condition

/-- The comparisons of the rule's condition name fields. -/
def FieldRule.Named (r : FieldRule) : Prop := ∀ c, r.includeIf = some c → c.Named

def RuleChain.Named (chain : RuleChain) : Prop := ∀ r ∈ chain.rules, r.Named

/-- All comparisons in the conditions of a configuration name fields. -/
def Configuration.Named (c : Configuration) : Prop := ∀ chain ∈ c.fields, chain.Named

namespace Document

/-! ## (2) Reading -/

/-- The conditions of the groups that are read name fields. -/
structure ConditionDraft.Named (d : ConditionDraft) : Prop where
  anyOf : ∀ cs, d.anyOf = some cs → ∀ c ∈ cs, c.Named
  allOf : ∀ cs, d.allOf = some cs → ∀ c ∈ cs, c.Named

theorem ConditionDraft.Named.set {levels : Nat} {children : Node → Except DocumentError (List Condition)}
    (hc : ∀ {n cs}, children n = .ok cs → ∀ c ∈ cs, c.Named) {d d' : ConditionDraft} {name : String} {n : Node}
    (hd : d.Named) (h : d.set levels children name n = .ok d') : d'.Named := by
  unfold ConditionDraft.set at h
  split at h
  case h_6 =>
    cases h
    exact hd
  all_goals obtain ⟨v, hv, rfl⟩ := map_eq_ok_iff.mp h
  case h_4 => exact ⟨readOptional_forall hc hv, hd.allOf⟩
  case h_5 => exact ⟨hd.anyOf, readOptional_forall hc hv⟩
  all_goals exact ⟨hd.anyOf, hd.allOf⟩

theorem ConditionDraft.Named.finish {d : ConditionDraft} {c : Condition} (hd : d.Named)
    (h : d.finish = .ok c) : c.Named := by
  rcases finish_eq_ok_iff.mp h with ⟨cs, ha, -, -, rfl⟩ | ⟨cs, -, ha, -, rfl⟩ | ⟨f, -, -, hn, rfl⟩
  · exact Condition.named_group_iff.mpr (hd.anyOf cs ha)
  · exact Condition.named_group_iff.mpr (hd.allOf cs ha)
  · rw [Condition.named_compare_iff]
    simpa using (Option.filter_eq_some_iff.mp hn).2

/-- Of whatever node a condition is read, its comparisons name fields. -/
theorem readCondition_named (levels : Nat) :
    (∀ {n c}, readCondition levels n = .ok c → c.Named) ∧
      ∀ {n cs}, readConditions levels n = .ok cs → ∀ c ∈ cs, c.Named := by
  induction levels with
  | zero => exact ⟨fun h => by (cases h), fun h => by (cases h)⟩
  | succ levels ih =>
    refine ⟨fun {n c} h => ?_, fun {n cs} h => readSequence_forall ih.1 h⟩
    rw [readCondition, bind_eq_ok_iff] at h
    obtain ⟨d, hd, h⟩ := h
    have start : ConditionDraft.Named {} := ⟨fun _ h => by (cases h), fun _ h => by (cases h)⟩
    have read : d.Named := readStructure_preserves (ConditionDraft.Named.set ih.2) start hd
    cases hc : d.finish with
    | ok c' =>
      rw [hc] at h
      cases h
      exact read.finish hc
    | error e => simp [hc] at h

/-- The conditions of the rule and of its alternates name fields. -/
structure RuleDraft.Named (d : RuleDraft) : Prop where
  rule : d.rule.Named
  alternate : ∀ chain, d.alternate = some chain → chain.Named

theorem RuleDraft.Named.set {chain : Node → Except DocumentError RuleChain}
    {condition : Node → Except DocumentError Condition} (ha : ∀ {n c}, chain n = .ok c → c.Named)
    (hc : ∀ {n c}, condition n = .ok c → c.Named) {d d' : RuleDraft} {name : String} {n : Node}
    (hd : d.Named) (h : d.set chain condition name n = .ok d') : d'.Named := by
  unfold RuleDraft.set at h
  dsimp only at h
  split at h
  case h_12 =>
    cases h
    exact hd
  all_goals obtain ⟨v, hv, rfl⟩ := map_eq_ok_iff.mp h
  case h_10 => exact ⟨hd.rule, readOptional_forall ha hv⟩
  case h_11 => exact ⟨readOptional_forall hc hv, hd.alternate⟩
  all_goals exact ⟨hd.rule, hd.alternate⟩

theorem RuleDraft.Named.finish {d : RuleDraft} {n : Node} {chain : RuleChain} (hd : d.Named)
    (h : d.finish n = .ok chain) : chain.Named := by
  unfold RuleDraft.finish at h
  split at h
  · cases h
    refine List.forall_mem_cons.mpr ⟨hd.rule, ?_⟩
    cases ha : d.alternate with
    | none => simp
    | some chain => exact hd.alternate chain ha
  · cases h
  · cases h

theorem readRule_named (levels : Nat) : ∀ {n chain}, readRule levels n = .ok chain → chain.Named := by
  induction levels with
  | zero => exact fun h => by (cases h)
  | succ levels ih =>
    intro n chain h
    rw [readRule, bind_eq_ok_iff] at h
    obtain ⟨d, hd, h⟩ := h
    have start : RuleDraft.Named {} := ⟨fun _ h => by (cases h), fun _ h => by (cases h)⟩
    have read : d.Named := readStructure_preserves (RuleDraft.Named.set ih (readCondition_named levels).1) start hd
    exact read.finish h

theorem readRules_named {levels : Nat} {n : Node} {chains : List RuleChain}
    (h : readRules levels n = .ok chains) : ∀ chain ∈ chains, chain.Named := by
  cases levels with
  | zero => cases h
  | succ levels => exact readSequence_forall (readRule_named levels) h

theorem setConfiguration_named {rules : Node → Except DocumentError (List RuleChain)}
    (hr : ∀ {n chains}, rules n = .ok chains → ∀ chain ∈ chains, chain.Named) {c c' : Configuration}
    {name : String} {n : Node} (hc : c.Named) (h : setConfiguration rules c name n = .ok c') : c'.Named := by
  unfold setConfiguration at h
  split at h
  case h_6 =>
    cases h
    exact hc
  all_goals obtain ⟨v, hv, rfl⟩ := map_eq_ok_iff.mp h
  case h_5 => exact hr hv
  all_goals exact hc

theorem readConfiguration_named {levels : Nat} {n : Node} {c : Configuration}
    (h : readConfiguration levels n = .ok c) : c.Named := by
  cases levels with
  | zero => cases h
  | succ levels =>
    rw [readConfiguration] at h
    have start : Configuration.Named {} := List.forall_mem_nil _
    exact readStructure_preserves (setConfiguration_named readRules_named) start h

theorem configurationOfNode_named {source : String} {inText : Bool} {levels : Nat} {n : Node}
    {c : Configuration} (h : configurationOfNode source inText levels n = .ok c) : c.Named := by
  unfold configurationOfNode at h
  split at h
  · rename_i hc
    cases h
    exact readConfiguration_named hc
  · split at h
    · rename_i hr
      cases h
      exact readRules_named hr
    · cases h

end Document

/-! ## (3) Configurations that are parsed -/

namespace Configuration

/-- The configuration is parsed: of a value, of a text in either format, or of a file. -/
inductive Parsed : Configuration → Prop
  | json {value : Json} {c : Configuration} : ofJson value = .ok c → Parsed c
  | jsonText {source text : String} {c : Configuration} : ofJsonText source text = .ok c → Parsed c
  | yamlText {source text : String} {c : Configuration} : ofYamlText source text = .ok c → Parsed c
  | file {files : FileLookup} {path : String} {c : Configuration} : load files path = .ok c → Parsed c

theorem named_of_ofJsonText {source text : String} {c : Configuration} (h : ofJsonText source text = .ok c) :
    c.Named := by
  unfold ofJsonText at h
  split at h
  · exact configurationOfNode_named h
  · cases h

theorem named_of_ofYaml? {n : Yaml.Node} {c : Configuration} (h : ofYaml? n = some c) : c.Named := by
  replace h : Option.orElse _ _ = some c := h
  rw [Option.orElse_eq_or, Option.or_eq_some_iff] at h
  rcases h with written | ⟨-, listed⟩
  · obtain ⟨n, -, hc⟩ := Option.bind_eq_some_iff.mp written
    exact readConfiguration_named (toOption_eq_some_iff.mp hc)
  · obtain ⟨rules, hr, rfl⟩ := Option.map_eq_some_iff.mp listed
    obtain ⟨n, -, hr⟩ := Option.bind_eq_some_iff.mp hr
    exact readRules_named (toOption_eq_some_iff.mp hr)

theorem named_of_ofYamlText {source text : String} {c : Configuration} (h : ofYamlText source text = .ok c) :
    c.Named := by
  unfold ofYamlText at h
  split at h
  · rename_i hn
    cases h
    obtain ⟨n, -, hn⟩ := Option.bind_eq_some_iff.mp hn
    exact named_of_ofYaml? hn
  · cases h

theorem Parsed.named {c : Configuration} (h : c.Parsed) : c.Named := by
  cases h with
  | json h => exact configurationOfNode_named h
  | jsonText h => exact named_of_ofJsonText h
  | yamlText h => exact named_of_ofYamlText h
  | file h =>
    unfold load at h
    split at h
    · cases h
    · cases h
    · split at h
      · cases h
      · split at h
        · exact named_of_ofYamlText h
        · exact named_of_ofJsonText h

end Configuration

/-! ## (4) Paths -/

/-- The comparisons within the part name fields. -/
def Part.Named : Part → Prop
  | document c => c.Named
  | rule r alternates => ∀ s ∈ r :: alternates, s.Named
  | condition c => c.Named

theorem Part.Named.step {p q : Part} {s : PathStep} (hp : p.Named) (h : p.step? s = some q) : q.Named := by
  unfold Part.step? at h
  split at h
  · rename_i c index
    obtain ⟨chain, hc, rfl⟩ := Option.map_eq_some_iff.mp h
    exact hp chain (List.mem_of_getElem? hc)
  · cases h
    exact (List.forall_mem_cons.mp hp).2
  · rename_i r alternates
    obtain ⟨c, hc, rfl⟩ := Option.map_eq_some_iff.mp h
    exact hp r List.mem_cons_self c hc
  · split at h
    · obtain ⟨c, hc, rfl⟩ := Option.map_eq_some_iff.mp h
      exact Condition.named_group_iff.mp hp c (List.mem_of_getElem? hc)
    · cases h
  · cases h

theorem Part.Named.follow {p q : Part} {path : DefectPath} (hp : p.Named) (h : p.follow path = some q) :
    q.Named := by
  induction path generalizing p with
  | nil =>
    cases h
    exact hp
  | cons s rest ih =>
    obtain ⟨p', hs, h⟩ := Option.bind_eq_some_iff.mp h
    exact ih (hp.step hs) h

/-- Where comparisons name fields, validation does not find a condition empty. -/
theorem Configuration.Named.validate_ne {c : Configuration} (hc : c.Named) (limit : Nat) :
    c.validate limit ≠ .error .emptyCondition := by
  rw [c.validate_eq]
  intro h
  obtain ⟨before, place, after, hp, -, hd⟩ := (firstDefect_eq_error_iff c.places .emptyCondition).mp h
  have hm : place ∈ c.places := hp ▸ List.mem_append_right before List.mem_cons_self
  have named : place.part.Named := Part.Named.follow (p := .document c) hc ((c.mem_places_iff place).mp hm).2
  unfold Place.defect? at hd
  split at hd
  · cases hd
  · split at hd
    · split at hd <;> cases hd
    · rename_i hpart
      rw [hpart] at named
      simp [Condition.named_compare_iff.mp named] at hd
    · cases hd

/-! ## Conditions that are accepted -/

/-- An object is a condition exactly if each value that it gives has the form that its name asks for
and it shows one shape, and it is the condition that this shape denotes; an object that gives a part
twice is none. That is so wherever the object fits, also in a text. In each configuration that is
parsed every comparison that a path leads to names a field that is not blank, and validation never
finds a condition empty. -/
theorem conditions_accepted_by_shape :
    (∀ members : List (String × Json), (members.map (·.1)).Nodup →
      ((∃ c, Condition.ofJson (.object members) = .ok c) ↔
        Condition.Fits (.object members) ∧ ∃! shape : Shape, shape.Shown (.object members)) ∧
      ∀ c, Condition.ofJson (.object members) = .ok c → Condition.Denoted (.object members) c) ∧
    (∀ members : List (String × Json), ¬((known conditionNames members).map (·.1)).Nodup →
      ¬∃ c, Condition.ofJson (.object members) = .ok c) ∧
    (∀ (j : Json) (levels : Nat), height j ≤ levels →
      readCondition levels (Node.ofJson j) = Condition.ofJson j) ∧
    (∀ (text : String) (j : Json), Json.read? text.toList = some (Node.ofJson j) → height j ≤ Json.maxOpen →
      Condition.ofJsonText text = Condition.ofJson j) ∧
    ∀ c : Configuration, c.Parsed →
      (∀ path field operator operand,
        (Part.document c).follow path = some (.condition (.compare field operator operand)) →
          Text.allBlank field = false) ∧
      ∀ limit, c.validate limit ≠ .error .emptyCondition := by
  refine ⟨fun members nodup => ⟨?_, fun c => Condition.denoted_of_ofJson⟩, fun members twice h => ?_,
    fun j levels => Condition.readCondition_eq_ofJson, fun text j => Condition.ofJsonText_eq,
    fun c parsed => ⟨fun path field operator operand h => ?_, parsed.named.validate_ne⟩⟩
  · rw [Condition.exists_ofJson_iff]
    exact and_iff_right (known_nodup nodup)
  · exact twice (Condition.exists_ofJson_iff.mp h).1
  · have named : (Part.document c).Named := parsed.named
    exact Condition.named_compare_iff.mp (named.follow h)

/-- A group of comparisons with a name of its own for an operator, a number, an unknown name and a null. -/
def looseGroup : List (String × Json) :=
  [("note", .bool true), ("field", .string " "), ("allOf", .null),
    ("anyOf", .array [
      .object [("field", .string "state"), ("operator", .string " NOT_equals"),
        ("value", intJson 3)],
      .object [("field", .string "title")]])]

theorem loose_group_is_accepted :
    Condition.ofJson (.object looseGroup) =
        .ok (.group .anyOf [.compare "state" .notEquals "3", .compare "title" .equals ""]) ∧
      Condition.Fits (.object looseGroup) ∧ (∃! shape : Shape, shape.Shown (.object looseGroup)) ∧
      Condition.ofJsonText (Json.object looseGroup).compactText = Condition.ofJson (.object looseGroup) ∧
      ∀ c, Configuration.ofJson (.array [.object [("field", .string "a"), ("includeIf", .object looseGroup)]]) = .ok c →
        c.validate 0 ≠ .error .emptyCondition := by
  have hc : Condition.ofJson (.object looseGroup) =
      .ok (.group .anyOf [.compare "state" .notEquals "3", .compare "title" .equals ""]) := by rfl
  have whole : (Json.object looseGroup).Whole := by
    simp [looseGroup, Json.Whole, Json.WholeMembers, Json.WholeItems, whole_intJson]
  obtain ⟨objects, -, -, texts, configurations⟩ := conditions_accepted_by_shape
  obtain ⟨fits, shown⟩ := (objects looseGroup (by decide)).1.mp ⟨_, hc⟩
  exact ⟨hc, fits, shown, texts _ _ (Json.read?_compactText whole) (by decide),
    fun c h => (configurations c (.json h)).2 0⟩

end RecordNaming
