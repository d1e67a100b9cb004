/-
  RecordNaming.Proofs.Relevance — what a name does not depend on.

  The fields that a configuration reads (`Configuration.fieldsRead`) are those of its rules
  and alternates and those of the conditions on top rules, spelled exactly as they are
  written there.

  (1) Conditions on alternates are never asked: what a configuration makes of a record is
  the same without them (`outcome_withoutAlternateConditions`).

  (2) `evaluate_depends_on_fieldsRead`: records that have the same values and labels at the
  fields read, the same symbol of their own and the same reference to a currency have the
  same outcome; so no other attribute, no other label and no condition on an alternate
  shows in it.
-/
import RecordNaming.Proofs.Dependence

namespace RecordNaming

/-! ## (1) Conditions on alternates -/

/-- The rule without its condition. -/
def FieldRule.unconditional (rule : FieldRule) : FieldRule := { rule with includeIf := none }

namespace RuleChain

variable (r : Record) (source : SymbolSource)

theorem resolveFrom_unconditional (rule : FieldRule) (alternates : List FieldRule) :
    resolveFrom r source rule.unconditional alternates = resolveFrom r source rule alternates := by
  cases alternates <;> rfl

theorem resolveFrom_map_unconditional (rule : FieldRule) (alternates : List FieldRule) :
    resolveFrom r source rule (alternates.map FieldRule.unconditional) =
      resolveFrom r source rule alternates := by
  induction alternates generalizing rule with
  | nil => rfl
  | cons next rest ih => rw [List.map_cons, resolveFrom, resolveFrom, resolveFrom_unconditional, ih]

/-- The chain with no condition but the one on its first rule. -/
def withoutAlternateConditions (chain : RuleChain) : RuleChain :=
  { chain with alternates := chain.alternates.map FieldRule.unconditional }

theorem contribution_withoutAlternateConditions (chain : RuleChain) :
    chain.withoutAlternateConditions.contribution r source = chain.contribution r source := by
  have hr : chain.withoutAlternateConditions.resolve r source = chain.resolve r source :=
    resolveFrom_map_unconditional r source chain.first chain.alternates
  have hi : chain.withoutAlternateConditions.included r = chain.included r := rfl
  rw [contribution, contribution, hi, hr]
  rfl

end RuleChain

namespace Configuration

/-- The configuration with conditions on top rules only. -/
def withoutAlternateConditions (c : Configuration) : Configuration :=
  { c with fields := c.fields.map RuleChain.withoutAlternateConditions }

/-- What a configuration makes of a record. -/
def outcome (c : Configuration) (source : SymbolSource) (r : Record) : Outcome :=
  ((c.fields.map (·.contribution r source)).foldl Outcome.record {}).limited c.outputLimit c.indicator

theorem indicator_withoutAlternateConditions (c : Configuration) :
    c.withoutAlternateConditions.indicator = c.indicator := by
  rw [indicator, indicator, withoutAlternateConditions, List.findSome?_map]
  rfl

theorem outcome_withoutAlternateConditions (c : Configuration) (source : SymbolSource) (r : Record) :
    c.withoutAlternateConditions.outcome source r = c.outcome source r := by
  have hk : c.withoutAlternateConditions.fields.map (·.contribution r source) =
      c.fields.map (·.contribution r source) := by
    rw [withoutAlternateConditions, List.map_map]
    exact List.map_congr_left fun chain _ => chain.contribution_withoutAlternateConditions r source
  have hl : c.withoutAlternateConditions.outputLimit = c.outputLimit := rfl
  rw [outcome, outcome, hk, hl, indicator_withoutAlternateConditions]

/-! ## (2) Fields that are not read -/

/-- The fields that a configuration reads for a name. -/
def fieldsRead (c : Configuration) : List String := c.fields.flatMap RuleChain.fieldsRead

theorem mem_fieldsRead {c : Configuration} {chain : RuleChain} (hc : chain ∈ c.fields) {f : String}
    (hf : f ∈ chain.fieldsRead) : f ∈ c.fieldsRead :=
  List.mem_flatMap.mpr ⟨chain, hc, hf⟩

end Configuration

theorem RuleSet.evaluate_eq_outcome (rules : RuleSet) (source : SymbolSource) (r : Record) :
    rules.evaluate source r = rules.configuration.outcome source r := rfl

namespace Record

/-- The two records cannot be told apart by reading these fields and asking for their currency. -/
structure SameFor (fields : List String) (r s : Record) : Prop where
  value : ∀ f ∈ fields, r.get? f = s.get? f
  label : ∀ f ∈ fields, r.label? f = s.label? f
  symbol : r.currencySymbol = s.currencySymbol
  currency : r.currencyReference? = s.currencyReference?

theorem SameFor.agreeOn {fields : List String} {r s : Record} (h : r.SameFor fields s) :
    AgreeOn (· ∈ fields) r s where
  value f hf := by rw [valueOrEmpty, valueOrEmpty, h.value f hf]
  label := h.label
  symbol := h.symbol
  currency := h.currency

theorem sameFor_insert {fields : List String} {f : String} (r : Record) (value : FieldValue) (hf : f ∉ fields)
    (hc : f ≠ currencyField) : (r.insert f value).SameFor fields r where
  value g hg := r.get?_insert_ne value fun e => hf (e ▸ hg)
  label _ _ := rfl
  symbol := rfl
  currency := by rw [currencyReference?, currencyReference?, r.get?_insert_ne value hc.symm]

theorem sameFor_withLabel {fields : List String} {f : String} (r : Record) (label : String) (hf : f ∉ fields) :
    (r.withLabel f label).SameFor fields r where
  value _ _ := rfl
  label g hg := by
    have hne : g ≠ f := fun e => hf (e ▸ hg)
    rw [label?_withLabel, if_neg hne]
  symbol := rfl
  currency := rfl

end Record

theorem RuleSet.evaluate_of_sameFor (rules : RuleSet) (source : SymbolSource) {r s : Record}
    (h : r.SameFor rules.configuration.fieldsRead s) : rules.evaluate source r = rules.evaluate source s :=
  RuleSet.evaluate_congr h.agreeOn source rules fun _ hc _ hf => Configuration.mem_fieldsRead hc hf

/-- A name depends on a record by the values and labels of the fields that its rules, their
alternates and the conditions on top rules read, by the record's own symbol and by its reference
to a currency: records that are the same there have the same outcome. So rule sets that differ
in conditions on alternates only make the same names, and no other attribute and no other label
can change one. -/
theorem evaluate_depends_on_fieldsRead (rules : RuleSet) (source : SymbolSource) :
    (∀ r s : Record, r.SameFor rules.configuration.fieldsRead s →
        rules.evaluate source r = rules.evaluate source s) ∧
      (∀ other : RuleSet, other.configuration.withoutAlternateConditions =
          rules.configuration.withoutAlternateConditions →
        ∀ r : Record, other.evaluate source r = rules.evaluate source r) ∧
      ∀ (r : Record) (f : String), f ∉ rules.configuration.fieldsRead →
        (∀ label : String, rules.evaluate source (r.withLabel f label) = rules.evaluate source r) ∧
          (f ≠ Record.currencyField →
            ∀ value : FieldValue, rules.evaluate source (r.insert f value) = rules.evaluate source r) := by
  refine ⟨fun r s h => rules.evaluate_of_sameFor source h, fun other h r => ?_, fun r f hf => ⟨?_, ?_⟩⟩
  · rw [RuleSet.evaluate_eq_outcome, RuleSet.evaluate_eq_outcome,
      ← other.configuration.outcome_withoutAlternateConditions, h,
      rules.configuration.outcome_withoutAlternateConditions]
  · intro label
    exact rules.evaluate_of_sameFor source (r.sameFor_withLabel label hf)
  · intro hc value
    exact rules.evaluate_of_sameFor source (r.sameFor_insert value hf hc)

/-- A rule whose alternate has a condition that is never asked. -/
def guardedRules : RuleSet where
  configuration :=
    { fields := [⟨{ field := "title", includeIf := some (.equals "kind" "book") },
        [{ field := "code", includeIf := some (.equals "state" "open") }]⟩] }
  maxDepth := 32
  valid := by rfl

/-- The same rules without that condition. -/
def unguardedRules : RuleSet where
  configuration := guardedRules.configuration.withoutAlternateConditions
  maxDepth := 32
  valid := by rfl

/-- The state of a record, and its code in another spelling, show in no name. -/
theorem guardedRules_do_not_read_state :
    let r : Record := (({} : Record).insert "kind" (.text "Book")).insert "code" (.whole 7)
    let s : Record := (r.insert "Code" (.whole 8)).withLabel "state" "Open"
    r.SameFor guardedRules.configuration.fieldsRead s ∧
      guardedRules.evaluate .none r = guardedRules.evaluate .none s ∧
      unguardedRules.configuration.withoutAlternateConditions =
        guardedRules.configuration.withoutAlternateConditions ∧
      unguardedRules.evaluate .none r = guardedRules.evaluate .none r ∧
      "state" ∉ guardedRules.configuration.fieldsRead ∧ "state" ≠ Record.currencyField ∧
      guardedRules.evaluate .none (r.withLabel "state" "Open") = guardedRules.evaluate .none r ∧
      guardedRules.evaluate .none (r.insert "state" (.text "open")) = guardedRules.evaluate .none r := by
  intro r s
  obtain ⟨same, conditions, others⟩ := evaluate_depends_on_fieldsRead guardedRules .none
  have hs : r.SameFor guardedRules.configuration.fieldsRead s :=
    ⟨by decide, by decide, rfl, rfl⟩
  have hf : "state" ∉ guardedRules.configuration.fieldsRead := by decide
  have hc : "state" ≠ Record.currencyField := by decide
  obtain ⟨label, value⟩ := others r "state" hf
  exact ⟨hs, same r s hs, rfl, conditions unguardedRules rfl r, hf, hc, label "Open", value hc (.text "open")⟩

end RecordNaming
