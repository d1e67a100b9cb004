/-
  RecordNaming.Proofs.Provisioning — which attributes a record needs for its name.

  A record can be reduced to the attributes of some names, case aside
  (`Record.provisioned`); labels and the symbol of its own stay.

  (1) The listed names. Every name that a configuration mentions and that is not blank is
  listed in some spelling (`lists_of_mem_mentionedFields`), so a sound configuration lists
  the fields that it reads (`RuleSet.lists_fieldsRead`).

  (2) The currency. A name that shows a currency symbol either has a rule declared as
  currency, and then the reference to the currency is listed, or takes a text from an
  amount whose rule declares no type (`showsSymbol_cases`). In the second case the list
  falls short: `untyped_amount_loses_its_currency`.

  `referencedFields_suffice` says when the listed attributes are enough, and that with the
  reference to the currency they always are.
-/
import RecordNaming.Configuration.References
import RecordNaming.Proofs.Relevance
import RecordNaming.Proofs.Validity.FirstDefect

namespace RecordNaming

/-! ## Records reduced to some attributes -/

/-- One of the names equals the field, case aside. -/
def lists (names : List String) (field : String) : Bool := names.any (Text.eqIgnoringCase field ·)

theorem lists_iff {names : List String} {field : String} :
    lists names field = true ↔ ∃ name ∈ names, Text.lower field = Text.lower name := by
  simp only [lists, List.any_eq_true, Text.eqIgnoringCase, beq_iff_eq]

namespace Record

/-- The record with only the attributes that the names list. -/
def provisioned (r : Record) (names : List String) : Record :=
  { r with attributes := r.attributes.filter (lists names) }

variable (r : Record) (names : List String)

theorem get?_provisioned (field : String) :
    (r.provisioned names).get? field = if lists names field then r.get? field else none :=
  r.attributes.get?_filter (lists names) field

theorem currencyReference?_provisioned :
    (r.provisioned names).currencyReference? =
      if lists names currencyField then r.currencyReference? else none := by
  rw [currencyReference?, get?_provisioned]
  cases lists names currencyField <;> rfl

/-- A record without its reference is left with its own symbol, so only a symbol that is found through the reference
is lost. -/
theorem symbol?_provisioned (source : SymbolSource)
    (h : lists names currencyField = true ∨ r.symbol? source = Text.nonBlank? r.currencySymbol) :
    r.symbol? source = (r.provisioned names).symbol? source := by
  have hs : (r.provisioned names).currencySymbol = r.currencySymbol := rfl
  by_cases hl : lists names currencyField = true
  · rw [symbol?, symbol?, askedCurrency?, askedCurrency?, hs, currencyReference?_provisioned, if_pos hl]
  · have ha : (r.provisioned names).askedCurrency? = none := by
      rw [askedCurrency?, currencyReference?_provisioned, if_neg hl]
      split <;> rfl
    rw [h.resolve_left hl, symbol?, ha, hs, Option.bind_none, Option.or_none]

end Record

theorem RuleSet.evaluate_provisioned (rules : RuleSet) (source : SymbolSource) (r : Record)
    {names : List String} (hf : ∀ f ∈ rules.configuration.fieldsRead, lists names f = true)
    (hc : rules.showsSymbol r = true →
      lists names Record.currencyField = true ∨ r.symbol? source = Text.nonBlank? r.currencySymbol) :
    rules.evaluate source (r.provisioned names) = rules.evaluate source r := by
  have same : r.SameAt (· ∈ rules.configuration.fieldsRead) (r.provisioned names) := by
    refine ⟨fun f hm => ?_, fun f _ => rfl⟩
    rw [Record.valueOrEmpty, Record.valueOrEmpty, Record.get?_provisioned, if_pos (hf f hm)]
  refine (rules.evaluate_congr_shown same (fun _ hm _ hr => Configuration.mem_fieldsRead hm hr) fun hs => ?_).symm
  exact r.symbol?_provisioned names source (hc hs)

/-! ## (1) The listed names -/

namespace Configuration

/-- Of names that differ in case only, the first one is kept. -/
theorem exists_mem_firstSpellings {names seen : List String} {name : String} (h : name ∈ names)
    (hs : Text.lower name ∉ seen) :
    ∃ kept ∈ firstSpellings seen names, Text.lower kept = Text.lower name := by
  induction names generalizing seen with
  | nil => cases h
  | cons first rest ih =>
    rw [firstSpellings]
    by_cases hf : Text.lower first ∈ seen
    · have hm : name ∈ rest := by
        rcases List.mem_cons.mp h with rfl | hm
        · exact absurd hf hs
        · exact hm
      simp only [List.contains_iff_mem, hf, if_true]
      exact ih hm hs
    · simp only [List.contains_iff_mem, hf, if_false]
      by_cases e : Text.lower first = Text.lower name
      · exact ⟨first, List.mem_cons_self, e⟩
      · have hm : name ∈ rest := by
          rcases List.mem_cons.mp h with rfl | hm
          · exact absurd rfl e
          · exact hm
        have hn : Text.lower name ∉ Text.lower first :: seen := by simp [hs, Ne.symm e]
        obtain ⟨kept, hk, he⟩ := ih hm hn
        exact ⟨kept, List.mem_cons_of_mem first hk, he⟩

variable {c : Configuration}

theorem lists_of_mem_mentionedFields {f : String} (h : f ∈ c.mentionedFields) (hb : Text.allBlank f = false) :
    lists c.referencedFields f = true := by
  have hm : f ∈ c.mentionedFields.filter (!Text.allBlank ·) := List.mem_filter.mpr ⟨h, by simp [hb]⟩
  obtain ⟨kept, hk, he⟩ := exists_mem_firstSpellings hm (List.not_mem_nil (a := Text.lower f))
  exact lists_iff.mpr ⟨kept, List.mem_mergeSort.mpr hk, he.symm⟩

theorem mem_mentionedFields {chain : RuleChain} (hc : chain ∈ c.fields) {rule : FieldRule}
    (hr : rule ∈ chain.rules) {f : String} (hf : f ∈ rule.fields) : f ∈ c.mentionedFields := by
  have ha : rule ∈ c.allRules := List.mem_flatMap.mpr ⟨chain, hc, hr⟩
  exact List.mem_append_left _ (List.mem_flatMap.mpr ⟨rule, ha, hf⟩)

theorem lists_currencyField {chain : RuleChain} (hc : chain ∈ c.fields) {rule : FieldRule}
    (hr : rule ∈ chain.rules) (ht : rule.type = some .currency) :
    lists c.referencedFields Record.currencyField = true := by
  have ha : c.allRules.any (·.type == some .currency) = true :=
    List.any_eq_true.mpr ⟨rule, List.mem_flatMap.mpr ⟨chain, hc, hr⟩, by simp [ht]⟩
  refine lists_of_mem_mentionedFields ?_ (by decide)
  rw [mentionedFields, if_pos ha]
  exact List.mem_append_right _ List.mem_cons_self

/-- A field that is read is the field of a rule, or one of a condition on a top rule. -/
theorem mem_fieldsRead_cases {f : String} (h : f ∈ c.fieldsRead) :
    ∃ chain ∈ c.fields, ∃ rule ∈ chain.rules,
      f = rule.field ∨ ∃ condition, rule.includeIf = some condition ∧ f ∈ condition.fields := by
  obtain ⟨chain, hc, hf⟩ := List.mem_flatMap.mp h
  refine ⟨chain, hc, ?_⟩
  rcases List.mem_append.mp hf with hf | hf
  · obtain ⟨rule, hr, rfl⟩ := List.mem_map.mp hf
    exact ⟨rule, hr, Or.inl rfl⟩
  · refine ⟨chain.first, List.mem_cons_self, Or.inr ?_⟩
    unfold RuleChain.conditionFields at hf
    split at hf
    · rename_i condition he
      exact ⟨condition, he, hf⟩
    · cases hf

/-- A sound configuration lists all fields that it reads: none of their names is blank. -/
theorem Sound.lists_fieldsRead {limit : Nat} (h : c.Sound limit) {f : String} (hf : f ∈ c.fieldsRead) :
    lists c.referencedFields f = true := by
  obtain ⟨chain, hc, rule, hr, hf⟩ := mem_fieldsRead_cases hf
  obtain ⟨k, hk⟩ := List.mem_iff_getElem?.mp hr
  have sound := h chain hc k rule hk
  rcases hf with rfl | ⟨condition, he, hf⟩
  · exact lists_of_mem_mentionedFields (mem_mentionedFields hc hr List.mem_cons_self) sound.field
  · refine lists_of_mem_mentionedFields (mem_mentionedFields hc hr ?_) ((sound.condition condition he).2 f hf)
    rw [FieldRule.fields, he]
    exact List.mem_cons_of_mem rule.field hf

end Configuration

theorem RuleSet.lists_fieldsRead (rules : RuleSet) {f : String} (hf : f ∈ rules.configuration.fieldsRead) :
    lists rules.configuration.referencedFields f = true :=
  ((rules.configuration.validate_eq_ok_iff rules.maxDepth).mp rules.valid).lists_fieldsRead hf

/-! ## (2) The currency -/

/-- A rule that contributes takes its text from an amount of money though it declares no type: only
the value says that its text is one of a currency. -/
def RuleSet.InfersCurrency (rules : RuleSet) (r : Record) : Prop :=
  ∃ chain ∈ rules.configuration.fields, chain.included r = true ∧
    ∃ rule amount, chain.supplier? r = some (rule, .money amount) ∧ rule.type = none

theorem RuleChain.supplier?_mem {chain : RuleChain} {r : Record} {rule : FieldRule} {value : FieldValue}
    (h : chain.supplier? r = some (rule, value)) : rule ∈ chain.rules := by
  obtain ⟨other, hm, he⟩ := List.exists_of_findSome?_eq_some h
  obtain ⟨_, -, he⟩ := Option.map_eq_some_iff.mp he
  cases he
  exact hm

theorem FieldType.infer_eq_currency {value : FieldValue} (h : infer value = currency) :
    ∃ amount, value = .money amount := by
  cases value with
  | money amount => exact ⟨amount, rfl⟩
  | _ => cases h

/-- A name with a currency symbol in it has a rule declared as currency, or it infers one. -/
theorem RuleSet.showsSymbol_cases {rules : RuleSet} {r : Record} (h : rules.showsSymbol r = true) :
    lists rules.configuration.referencedFields Record.currencyField = true ∨ rules.InfersCurrency r := by
  obtain ⟨chain, hc, hi⟩ := List.any_eq_true.mp h
  rw [Bool.and_eq_true] at hi
  obtain ⟨rule, value, hs, ht, -⟩ := (chain.showsSymbol_eq_true_iff r).mp hi.2
  cases hd : rule.type with
  | some t =>
    have ht : t = .currency := by simpa [FieldType.effective, hd] using ht
    exact Or.inl (Configuration.lists_currencyField hc (RuleChain.supplier?_mem hs) (by rw [hd, ht]))
  | none =>
    have ht : FieldType.infer value = .currency := by simpa [FieldType.effective, hd] using ht
    obtain ⟨amount, rfl⟩ := FieldType.infer_eq_currency ht
    exact Or.inr ⟨chain, hc, hi.1, rule, amount, hs, hd⟩

/-- The attributes that a configuration lists are enough for a name, unless all of this holds: the
reference to the currency is not listed, the record has no symbol of its own and the source knows
one for its currency, and a rule that contributes infers from an amount that its text is one of a
currency. With the reference to the currency the listed attributes are always enough. -/
theorem referencedFields_suffice (rules : RuleSet) (source : SymbolSource) (r : Record) :
    (lists rules.configuration.referencedFields Record.currencyField = true ∨
        r.symbol? source = Text.nonBlank? r.currencySymbol ∨ ¬ rules.InfersCurrency r →
      rules.evaluate source (r.provisioned rules.configuration.referencedFields) = rules.evaluate source r) ∧
      rules.evaluate source (r.provisioned (Record.currencyField :: rules.configuration.referencedFields)) =
        rules.evaluate source r := by
  refine ⟨fun h => ?_, ?_⟩
  · refine rules.evaluate_provisioned source r (fun f hf => rules.lists_fieldsRead hf) fun hs => ?_
    rcases h with h | h | h
    · exact Or.inl h
    · exact Or.inr h
    · exact Or.inl ((RuleSet.showsSymbol_cases hs).resolve_right h)
  · refine rules.evaluate_provisioned source r (fun f hf => ?_) fun _ => Or.inl ?_
    · rw [lists, List.any_cons, Bool.or_eq_true]
      exact Or.inr (rules.lists_fieldsRead hf)
    · rw [lists_iff]
      exact ⟨Record.currencyField, List.mem_cons_self, rfl⟩

/-- One rule for an amount. -/
def amountRules (type : Option FieldType) : RuleSet where
  configuration := { fields := [⟨{ field := "amount", type }, []⟩] }
  maxDepth := 32
  valid := by
    cases type with
    | none => rfl
    | some t => cases t <;> rfl

/-- An amount with its currency, and a note. -/
def pricedRecord : Record :=
  ((({} : Record).insert "amount" (.money .one)).insert "note" (.text "net")).insert Record.currencyField
    (.lookup { id := ⟨1, by decide⟩ })

/-- A rule that is declared as currency has its currency listed. -/
theorem declared_amount_keeps_its_currency :
    let rules := amountRules (some .currency)
    let listed := rules.configuration.referencedFields
    let dollar : SymbolSource := fun _ => some "$"
    lists listed Record.currencyField = true ∧ (pricedRecord.provisioned listed).get? "note" = none ∧
      rules.evaluate dollar (pricedRecord.provisioned listed) = rules.evaluate dollar pricedRecord := by
  intro rules listed dollar
  have hl : listed = ["amount", Record.currencyField] :=
    List.mergeSort_of_pairwise (l := ["amount", Record.currencyField]) (by decide +kernel)
  have hc : lists listed Record.currencyField = true := by
    rw [hl]
    decide +kernel
  have hn : (pricedRecord.provisioned listed).get? "note" = none := by
    rw [hl]
    decide +kernel
  exact ⟨hc, hn, (referencedFields_suffice rules dollar pricedRecord).1 (Or.inl hc)⟩

/-- Without a declared type the amount still shows the symbol of its currency, but the reference to
the currency is not listed: reduced to what is listed, the record has another name. -/
theorem untyped_amount_loses_its_currency :
    let rules := amountRules none
    let dollar : SymbolSource := fun _ => some "$"
    rules.configuration.referencedFields = ["amount"] ∧
      (rules.evaluate dollar pricedRecord).value = "$1.00" ∧
      (rules.evaluate dollar (pricedRecord.provisioned rules.configuration.referencedFields)).value = "1.00" ∧
      ¬ ∀ (rules : RuleSet) (source : SymbolSource) (r : Record),
        rules.evaluate source (r.provisioned rules.configuration.referencedFields) = rules.evaluate source r := by
  intro rules dollar
  have hw : (rules.evaluate dollar pricedRecord).value = "$1.00" := by decide +kernel
  have hp : (rules.evaluate dollar (pricedRecord.provisioned rules.configuration.referencedFields)).value =
      "1.00" := by decide +kernel
  refine ⟨by decide +kernel, hw, hp, fun h => ?_⟩
  rw [h, hw] at hp
  exact absurd hp (by decide)

end RecordNaming
