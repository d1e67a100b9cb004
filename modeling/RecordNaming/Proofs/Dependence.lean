/-
  RecordNaming.Proofs.Dependence — the parts of a record that a name depends on.

  An absent attribute and an empty text are told apart nowhere: `valueOrEmpty` reads both
  as the empty text, and what a field offers to a comparison (`satisfies_ofField`), to a
  rule (`value?_eq`) and to the look-up of the currency (`currencyReference?_eq`) is said
  of it.

  Two records that have the same values and labels at some fields (`SameAt`) give the same
  answer wherever no other field is read: for conditions (`holds_congr`) and, if the
  currency symbol is the same where it is shown, for chains of alternates (`resolve_congr`)
  and for whole names (`evaluate_congr_shown`). The fields that a name reads are those of
  the rules and alternates and those of the conditions on top rules (`fieldsRead`). Records
  that refer to the same currency (`AgreeOn`) have the same symbol from every source.
-/
import RecordNaming.RuleSet

namespace RecordNaming

/-! ## Absent attributes and empty texts -/

namespace Record

/-- The value of a field, the empty text for none. -/
def valueOrEmpty (r : Record) (field : String) : FieldValue := (r.get? field).getD (.text "")

theorem valueOrEmpty_of_none {r : Record} {field : String} (h : r.get? field = none) :
    r.valueOrEmpty field = .text "" := by
  rw [valueOrEmpty, h, Option.getD_none]

theorem value?_eq (r : Record) (field : String) :
    r.value? field = (some (r.valueOrEmpty field)).filter (!·.isEmpty) := by
  unfold value? valueOrEmpty
  cases r.get? field with
  | none => simp [FieldValue.isEmpty, Text.allBlank, Option.filter]
  | some v => rfl

/-- The reference that a value is, unless it names nothing. -/
def referenceIn? : FieldValue → Option EntityReference
  | .lookup reference => if reference.id.isNil then none else some reference
  | _ => none

theorem currencyReference?_eq (r : Record) :
    r.currencyReference? = referenceIn? (r.valueOrEmpty currencyField) := by
  unfold currencyReference? valueOrEmpty
  cases r.get? currencyField with
  | none => rfl
  | some v => cases v <;> rfl

end Record

namespace Comparand

theorem parse?_empty : Decimal.parse? "" = none ∧ Instant.parse? "" = none := by decide

/-- An empty text passes the same tests as no value, whatever its label. -/
theorem satisfies_ofValue_empty (label : Option String) (operator : Operator) (operand : String) :
    (ofValue label (.text "")).satisfies operator operand = ({} : Comparand).satisfies operator operand := by
  obtain ⟨hd, hi⟩ := parse?_empty
  cases operator <;>
    simp [ofValue, satisfies, anyCandidate, isEmpty, order, hd, hi, Text.allBlank]

theorem satisfies_ofField (r : Record) (field : String) (operator : Operator) (operand : String) :
    (ofField r field).satisfies operator operand =
      (ofValue (r.shownLabel? field) (r.valueOrEmpty field)).satisfies operator operand := by
  unfold ofField Record.valueOrEmpty
  cases r.get? field with
  | none => exact (satisfies_ofValue_empty _ operator operand).symm
  | some v => rfl

end Comparand

/-! ## Records that agree -/

/-- The two records have the same labels and values for these fields, an absent value counted as
the empty text. -/
structure Record.SameAt (fields : String → Prop) (r s : Record) : Prop where
  value : ∀ f, fields f → r.valueOrEmpty f = s.valueOrEmpty f
  label : ∀ f, fields f → r.label? f = s.label? f

/-- The two records have the same labels and values for these fields, an absent value counted as
the empty text, and refer to the same currency. -/
structure Record.AgreeOn (fields : String → Prop) (r s : Record) : Prop where
  value : ∀ f, fields f → r.valueOrEmpty f = s.valueOrEmpty f
  label : ∀ f, fields f → r.label? f = s.label? f
  symbol : r.currencySymbol = s.currencySymbol
  currency : r.currencyReference? = s.currencyReference?

variable {fields : String → Prop} {r s : Record}

theorem Record.SameAt.refl (r : Record) : SameAt fields r r := ⟨fun _ _ => rfl, fun _ _ => rfl⟩

theorem Record.AgreeOn.sameAt (h : AgreeOn fields r s) : SameAt fields r s := ⟨h.value, h.label⟩

theorem Record.AgreeOn.symbol? (h : AgreeOn fields r s) (source : SymbolSource) :
    r.symbol? source = s.symbol? source := by
  simp only [Record.symbol?, Record.askedCurrency?, h.symbol, h.currency]

section

variable (h : Record.SameAt fields r s)
include h

theorem Record.SameAt.shownLabel? {f : String} (hf : fields f) : r.shownLabel? f = s.shownLabel? f := by
  rw [Record.shownLabel?, Record.shownLabel?, h.label f hf]

theorem Record.SameAt.value? {f : String} (hf : fields f) : r.value? f = s.value? f := by
  rw [Record.value?_eq, Record.value?_eq, h.value f hf]

end

mutual

theorem Condition.holds_congr (h : Record.SameAt fields r s) :
    ∀ c : Condition, (∀ f ∈ c.fields, fields f) → c.holds r = c.holds s
  | .group .anyOf children, hc => by
    rw [Condition.holds, Condition.holds]
    exact anyHolds_congr h children hc
  | .group .allOf children, hc => by
    rw [Condition.holds, Condition.holds]
    exact allHold_congr h children hc
  | .compare field operator operand, hc => by
    have hf : fields field := hc field (by simp [Condition.fields])
    rw [Condition.holds, Condition.holds, Comparand.satisfies_ofField, Comparand.satisfies_ofField,
      h.shownLabel? hf, h.value field hf]

theorem Condition.anyHolds_congr (h : Record.SameAt fields r s) :
    ∀ cs : List Condition, (∀ f ∈ Condition.fieldsOfAll cs, fields f) → anyHolds r cs = anyHolds s cs
  | [], _ => rfl
  | c :: rest, hc => by
    simp only [Condition.fieldsOfAll, List.mem_append] at hc
    rw [Condition.anyHolds, Condition.anyHolds, holds_congr h c fun f hf => hc f (.inl hf),
      anyHolds_congr h rest fun f hf => hc f (.inr hf)]

theorem Condition.allHold_congr (h : Record.SameAt fields r s) :
    ∀ cs : List Condition, (∀ f ∈ Condition.fieldsOfAll cs, fields f) → allHold r cs = allHold s cs
  | [], _ => rfl
  | c :: rest, hc => by
    simp only [Condition.fieldsOfAll, List.mem_append] at hc
    rw [Condition.allHold, Condition.allHold, holds_congr h c fun f hf => hc f (.inl hf),
      allHold_congr h rest fun f hf => hc f (.inr hf)]

end

/-- The text of the value has the currency symbol in it, if there is one. -/
def FieldRule.ShowsSymbol (rule : FieldRule) (value : FieldValue) : Prop :=
  FieldType.effective rule.type value = .currency ∧ value.decimal?.isSome = true

theorem RuleChain.showsSymbol_eq_true_iff (chain : RuleChain) (r : Record) :
    chain.showsSymbol r = true ↔
      ∃ rule value, chain.supplier? r = some (rule, value) ∧ rule.ShowsSymbol value := by
  unfold showsSymbol FieldRule.ShowsSymbol
  cases chain.supplier? r with
  | none => simp
  | some p => simp [Prod.ext_iff, and_assoc]

section

variable (h : Record.SameAt fields r s) {source source' : SymbolSource}
include h

theorem FieldRule.formatValue_congr (rule : FieldRule) (hf : fields rule.field) (value : FieldValue)
    (hs : rule.ShowsSymbol value → r.symbol? source = s.symbol? source') :
    rule.formatValue value r source = rule.formatValue value s source' := by
  simp only [formatValue, h.shownLabel? hf]
  split
  · rfl
  · rfl
  · rfl
  · rename_i hc
    cases hd : value.decimal? with
    | none => rfl
    | some amount => rw [hs ⟨hc, by simp [hd]⟩]
  all_goals rfl

namespace RuleChain

theorem primaryText_congr (rule : FieldRule) (hf : fields rule.field) (value : FieldValue)
    (hs : rule.ShowsSymbol value → r.symbol? source = s.symbol? source') :
    primaryText rule value r source = primaryText rule value s source' := by
  rw [primaryText, primaryText, rule.formatValue_congr h hf value hs]

theorem resolveFrom_congr (alternates : List FieldRule) (rule : FieldRule)
    (hf : ∀ a ∈ rule :: alternates, fields a.field)
    (hs : ∀ a value, supplier? ⟨rule, alternates⟩ r = some (a, value) → a.ShowsSymbol value →
      r.symbol? source = s.symbol? source') :
    resolveFrom r source rule alternates = resolveFrom s source' rule alternates := by
  induction alternates generalizing rule with
  | nil =>
    have hr : fields rule.field := hf rule List.mem_cons_self
    rw [resolveFrom, resolveFrom, ← h.value? hr]
    cases hv : r.value? rule.field with
    | none => rfl
    | some value => exact primaryText_congr h rule hr value (hs rule value (by simp [supplier?, rules, hv]))
  | cons next rest ih =>
    have hr : fields rule.field := hf rule List.mem_cons_self
    rw [resolveFrom, resolveFrom, ← h.value? hr]
    cases hv : r.value? rule.field with
    | none =>
      -- the supplier is one of the alternates
      have hn := ih next (fun a ha => hf a (List.mem_cons_of_mem rule ha)) fun a value ha =>
        hs a value (by simpa [supplier?, rules, hv] using ha)
      simp only [hn]
    | some value => exact primaryText_congr h rule hr value (hs rule value (by simp [supplier?, rules, hv]))

theorem resolve_congr (chain : RuleChain) (hf : ∀ a ∈ chain.rules, fields a.field)
    (hs : chain.showsSymbol r = true → r.symbol? source = s.symbol? source') :
    chain.resolve r source = chain.resolve s source' := by
  refine resolveFrom_congr h chain.alternates chain.first hf fun a value ha hv => hs ?_
  exact (chain.showsSymbol_eq_true_iff r).mpr ⟨a, value, ha, hv⟩

/-- The fields of the condition on the first rule; those on alternates do not matter. -/
def conditionFields (chain : RuleChain) : List String :=
  match chain.first.includeIf with
  | some c => c.fields
  | none => []

omit source source' in
theorem included_congr (chain : RuleChain) (hc : ∀ f ∈ chain.conditionFields, fields f) :
    chain.included r = chain.included s := by
  unfold included
  unfold conditionFields at hc
  split
  · rename_i c he
    rw [he] at hc
    exact Condition.holds_congr h c hc
  · rfl

/-- The fields that a chain reads for a name. -/
def fieldsRead (chain : RuleChain) : List String :=
  chain.rules.map FieldRule.field ++ chain.conditionFields

theorem contribution_congr (chain : RuleChain) (hf : ∀ f ∈ chain.fieldsRead, fields f)
    (hs : chain.included r = true → chain.showsSymbol r = true → r.symbol? source = s.symbol? source') :
    chain.contribution r source = chain.contribution s source' := by
  have hi := included_congr h chain fun f hm => hf f (List.mem_append_right _ hm)
  unfold contribution
  rw [← hi]
  cases he : chain.included r with
  | false => rfl
  | true =>
    have hr := resolve_congr h chain (fun a ha => hf a.field (List.mem_append_left _ (List.mem_map_of_mem ha)))
      (hs he)
    rw [hr]

end RuleChain

/-- Records that are the same at the fields that the rules read have the same name, if they have the
same currency symbol or the name does not show it. -/
theorem RuleSet.evaluate_congr_shown (rules : RuleSet)
    (hf : ∀ chain ∈ rules.configuration.fields, ∀ f ∈ chain.fieldsRead, fields f)
    (hs : rules.showsSymbol r = true → r.symbol? source = s.symbol? source') :
    rules.evaluate source r = rules.evaluate source' s := by
  have hk : rules.configuration.fields.map (·.contribution r source) =
      rules.configuration.fields.map (·.contribution s source') := by
    refine List.map_congr_left fun chain hm => chain.contribution_congr h (hf chain hm) fun hi hc => hs ?_
    exact List.any_eq_true.mpr ⟨chain, hm, by rw [hi, hc]; rfl⟩
  rw [RuleSet.evaluate, RuleSet.evaluate, hk]

end

/-- Records that agree on the fields that the rules read have the same name. -/
theorem RuleSet.evaluate_congr (h : Record.AgreeOn fields r s) (source : SymbolSource) (rules : RuleSet)
    (hf : ∀ chain ∈ rules.configuration.fields, ∀ f ∈ chain.fieldsRead, fields f) :
    rules.evaluate source r = rules.evaluate source s :=
  rules.evaluate_congr_shown h.sameAt hf fun _ => h.symbol? source

end RecordNaming
