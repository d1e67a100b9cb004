/-
  RecordNaming.Proofs.Supplier — which rule of a chain supplies its text, and what that rule
  makes of it.

  (1) The supplier (`IsSupplier`) is the first rule whose field has a value that is not empty,
  or else the last rule, with its default. Every chain has one (`exists_isSupplier`), which is
  behind the first rule exactly if that one's field offers nothing (`IsSupplier.behind`).

  (2) The text of the chain is the supplier's, cut to the supplier's limit (`Keeps`) and put
  between its affixes unless nothing is left (`finish_eq`).

  (3) The rest of the chain does not show: chains that read the same fields and have the same
  supplier, conditions and unused defaults aside, have the same text
  (`IsSupplier.resolve_congr`).

  `supplier_decides_text` puts them together for every chain and record.
-/
import RecordNaming.Proofs.Outcome

namespace RecordNaming

/-! ## (1) The supplier -/

/-- The record has this value for the field, and it is not empty. -/
def Record.Offers (r : Record) (field : String) (value : FieldValue) : Prop :=
  r.get? field = some value ∧ value.isEmpty = false

theorem Record.value?_eq_some_iff (r : Record) (field : String) (value : FieldValue) :
    r.value? field = some value ↔ r.Offers field value := by
  rw [value?, Option.filter_eq_some_iff, Offers, Bool.not_eq_true']

theorem Record.value?_eq_none_iff (r : Record) (field : String) :
    r.value? field = none ↔ ∀ value, ¬r.Offers field value := by
  simp only [← value?_eq_some_iff, Option.eq_none_iff_forall_ne_some, ne_eq]

namespace RuleChain

/-- The rule at an index of a chain supplies the text of the chain: from the value of its field, or,
without one, from its default. -/
inductive IsSupplier (chain : RuleChain) (r : Record) : Nat → FieldRule → Option FieldValue → Prop
  /-- The field of the rule is the first one in the chain that has a value which is not empty. -/
  | field {i : Nat} {rule : FieldRule} {value : FieldValue} : chain.rules[i]? = some rule →
      r.Offers rule.field value →
      (∀ j < i, ∀ s, chain.rules[j]? = some s → ∀ v, ¬r.Offers s.field v) →
      IsSupplier chain r i rule (some value)
  /-- No field in the chain has one, and the rule is the last. -/
  | last {rule : FieldRule} : chain.rules[chain.alternates.length]? = some rule →
      (∀ s ∈ chain.rules, ∀ v, ¬r.Offers s.field v) → IsSupplier chain r chain.alternates.length rule none

section

variable {r : Record} {first next : FieldRule} {rest : List FieldRule} {i : Nat} {rule : FieldRule}
  {value : Option FieldValue}

theorem IsSupplier.cons (hf : ∀ v, ¬r.Offers first.field v) (h : IsSupplier ⟨next, rest⟩ r i rule value) :
    IsSupplier ⟨first, next :: rest⟩ r (i + 1) rule value := by
  cases h with
  | field hi ho hb =>
    refine .field hi ho fun j hj s hs => ?_
    cases j with
    | zero => cases hs; exact hf
    | succ j => exact hb j (by omega) s hs
  | last hi hn =>
    refine .last hi fun s hs => ?_
    rcases List.mem_cons.mp hs with rfl | hs
    · exact hf
    · exact hn s hs

/-- A first rule whose field offers nothing leaves the text to its alternates. -/
theorem IsSupplier.behind (hf : ∀ v, ¬r.Offers first.field v)
    (h : IsSupplier ⟨first, next :: rest⟩ r i rule value) :
    ∃ j, i = j + 1 ∧ IsSupplier ⟨next, rest⟩ r j rule value := by
  cases h with
  | field hi ho hb =>
    cases i with
    | zero => cases hi; exact absurd ho (hf _)
    | succ j => exact ⟨j, rfl, .field hi ho fun k hk s hs => hb (k + 1) (by omega) s hs⟩
  | last hi hn => exact ⟨rest.length, rfl, .last hi fun s hs => hn s (List.mem_cons_of_mem first hs)⟩

/-- A first rule whose field offers a value is the supplier. -/
theorem IsSupplier.eq_first {v : FieldValue} (hf : r.Offers first.field v)
    (h : IsSupplier ⟨first, rest⟩ r i rule value) : i = 0 ∧ rule = first ∧ value = some v := by
  cases h with
  | field hi ho hb =>
    cases i with
    | zero =>
      cases hi
      exact ⟨rfl, rfl, hf.1 ▸ ho.1.symm⟩
    | succ j => exact absurd hf (hb 0 (by omega) first rfl v)
  | last _ hn => exact absurd hf (hn first List.mem_cons_self v)

end

theorem exists_isSupplier (chain : RuleChain) (r : Record) : ∃ i rule value, chain.IsSupplier r i rule value := by
  obtain ⟨first, alternates⟩ := chain
  induction alternates generalizing first with
  | nil =>
    cases hv : r.value? first.field with
    | some v =>
      exact ⟨0, first, some v, .field rfl ((r.value?_eq_some_iff _ v).mp hv) fun j hj => absurd hj (by omega)⟩
    | none =>
      refine ⟨0, first, none, .last rfl fun s hs => ?_⟩
      rw [List.mem_singleton.mp hs]
      exact (r.value?_eq_none_iff _).mp hv
  | cons next rest ih =>
    cases hv : r.value? first.field with
    | some v =>
      exact ⟨0, first, some v, .field rfl ((r.value?_eq_some_iff _ v).mp hv) fun j hj => absurd hj (by omega)⟩
    | none =>
      obtain ⟨i, rule, value, h⟩ := ih next
      exact ⟨i + 1, rule, value, h.cons ((r.value?_eq_none_iff _).mp hv)⟩

/-- The text of a supplier before it is cut. -/
def suppliedText (rule : FieldRule) (value : Option FieldValue) (r : Record) (source : SymbolSource) : String :=
  match value with
  | some v => rule.formatValue v r source
  | none => rule.default.getD ""

/-- Where a text is told to be from when the supplier is at this index. -/
def suppliedFrom (i : Nat) (value : Option FieldValue) : ContributionSource :=
  if i = 0 then (if value.isSome then .primary else .default) else .alternate

theorem IsSupplier.resolve_eq {chain : RuleChain} {r : Record} {i : Nat} {rule : FieldRule}
    {value : Option FieldValue} (h : chain.IsSupplier r i rule value) (source : SymbolSource) :
    chain.resolve r source =
      withSource (rule.finish (suppliedText rule value r source)) (suppliedFrom i value) := by
  obtain ⟨first, alternates⟩ := chain
  -- on the alternates: they supply what the first rule does not
  induction alternates generalizing first i with
  | nil =>
    rw [resolve, resolveFrom]
    cases hv : r.value? first.field with
    | some v =>
      obtain ⟨rfl, rfl, rfl⟩ := h.eq_first ((r.value?_eq_some_iff _ v).mp hv)
      rfl
    | none =>
      have hn := (r.value?_eq_none_iff _).mp hv
      cases h with
      | field hi ho hb =>
        obtain ⟨hi, hr⟩ := List.getElem?_eq_some_iff.mp hi
        have hm : rule ∈ (⟨first, []⟩ : RuleChain).rules := hr ▸ List.getElem_mem hi
        exact absurd ho (List.mem_singleton.mp hm ▸ hn _)
      | last hi _ => cases hi; rfl
  | cons next rest ih =>
    rw [resolve, resolveFrom]
    cases hv : r.value? first.field with
    | some v =>
      obtain ⟨rfl, rfl, rfl⟩ := h.eq_first ((r.value?_eq_some_iff _ v).mp hv)
      rfl
    | none =>
      obtain ⟨j, rfl, hj⟩ := h.behind ((r.value?_eq_none_iff _).mp hv)
      have ht : resolveFrom r source next rest = _ := ih next hj
      simp only [ht, withSource, suppliedFrom, Nat.add_eq_zero_iff, Nat.one_ne_zero, and_false, if_false]

/-- A field that offers a value supplies the text of its rule, whatever the alternates. -/
theorem resolve_of_offers {chain : RuleChain} {r : Record} {value : FieldValue}
    (h : r.Offers chain.first.field value) (source : SymbolSource) :
    chain.resolve r source = withSource (chain.first.finish (chain.first.formatValue value r source)) .primary := by
  have hs : chain.IsSupplier r 0 chain.first (some value) := .field rfl h fun j hj => absurd hj (by omega)
  exact hs.resolve_eq source

/-- Without a value for its field a rule has its text from elsewhere. -/
theorem resolve_source_ne_primary {chain : RuleChain} {r : Record} (h : ∀ v, ¬r.Offers chain.first.field v)
    (source : SymbolSource) : (chain.resolve r source).2 ≠ .primary := by
  obtain ⟨i, rule, value, hs⟩ := chain.exists_isSupplier r
  have hfrom : suppliedFrom i value ≠ .primary := by
    cases hs with
    | field hi ho _ =>
      cases i with
      | zero => cases hi; exact absurd ho (h _)
      | succ j => simp [suppliedFrom]
    | last _ _ =>
      unfold suppliedFrom
      split
      · exact nofun
      · exact nofun
  rw [hs.resolve_eq source]
  exact withSource_ne _ hfrom (by decide)

end RuleChain

/-! ## (2) Cut and affixed -/

namespace FieldRule

/-- The indicator of a rule's cuts: its own one, unless that is empty, or three points. -/
def HasIndicator (rule : FieldRule) (indicator : String) : Prop :=
  (rule.truncationIndicator = some indicator ∧ indicator ≠ "") ∨
    (indicator = "..." ∧ ∀ i, rule.truncationIndicator = some i → i = "")

theorem hasIndicator (rule : FieldRule) : rule.HasIndicator rule.indicator := by
  unfold HasIndicator indicator Text.indicatorOr
  cases rule.truncationIndicator with
  | none => exact .inr ⟨rfl, fun i h => by (cases h)⟩
  | some i =>
    by_cases he : i = ""
    · subst he
      exact .inr ⟨rfl, fun j h => by (cases h; rfl)⟩
    · exact .inl (by simp [Option.filter, he])

theorem HasIndicator.ne_empty {rule : FieldRule} {indicator : String} (h : rule.HasIndicator indicator) :
    indicator ≠ "" := by
  rcases h with ⟨-, h⟩ | ⟨rfl, -⟩
  · exact h
  · decide

/-- What is kept of a text under the limit of a rule: all of a text that fits, and else as many
characters as the limit allows, with as much of the indicator as fits at their end. -/
structure Keeps (rule : FieldRule) (indicator text kept : String) : Prop where
  whole : (∀ n, rule.maxLength = some n → text.length ≤ n.toNat) → kept = text
  cut : ∀ n, rule.maxLength = some n → n.toNat < text.length → kept.length = n.toNat ∧
    kept.toList =
      if indicator.length < n.toNat then text.toList.take (n.toNat - indicator.length) ++ indicator.toList
      else indicator.toList.take n.toNat

theorem Keeps.length_le {rule : FieldRule} {indicator text kept : String} (h : rule.Keeps indicator text kept)
    {n : UInt64} (hn : rule.maxLength = some n) : kept.length ≤ n.toNat := by
  by_cases hl : n.toNat < text.length
  · exact Nat.le_of_eq (h.cut n hn hl).1
  · have hw : kept = text := h.whole fun m hm => by
      cases hn.symm.trans hm
      omega
    rw [hw]
    omega

/-- A finished text is what the limit keeps, between the affixes unless nothing is kept. -/
theorem finish_eq (rule : FieldRule) (text : String) : ∃ kept, rule.Keeps rule.indicator text kept ∧
    rule.finish text = if kept = "" then "" else rule.leading.getD "" ++ kept ++ rule.trailing.getD "" := by
  have affixed (kept : String) :
      (if kept.isEmpty then kept else rule.leading.getD "" ++ kept ++ rule.trailing.getD "") =
        if kept = "" then "" else rule.leading.getD "" ++ kept ++ rule.trailing.getD "" := by
    by_cases he : kept = "" <;> simp [he]
  rw [finish]
  cases hm : rule.maxLength with
  | none => exact ⟨text, ⟨fun _ => rfl, fun n hn => by simp [hm] at hn⟩, affixed text⟩
  | some limit =>
    have hc : (Text.cut text limit.toNat rule.indicator).toList = _ :=
      Text.toList_cut limit.toNat rule.hasIndicator.ne_empty
    refine ⟨Text.cut text limit.toNat rule.indicator, ⟨fun hw => ?_, fun n hn hl => ?_⟩, affixed _⟩
    · have hl : text.toList.length ≤ limit.toNat := by rw [String.length_toList]; exact hw limit hm
      rw [← String.toList_inj, hc, Text.cutChars, if_pos hl]
    · cases hm.symm.trans hn
      have hl : limit.toNat < text.toList.length := by rwa [String.length_toList]
      rw [← String.length_toList, hc, Text.length_cutChars_of_lt hl, Text.cutChars_of_lt hl,
        String.length_toList]
      exact ⟨rfl, rfl⟩

/-- A text is not lost under a limit that has room for a character. -/
theorem finish_ne_empty {rule : FieldRule} {text : String} (ht : text ≠ "")
    (hm : ∀ n, rule.maxLength = some n → 1 ≤ n) : rule.finish text ≠ "" := by
  obtain ⟨kept, hk, hf⟩ := rule.finish_eq text
  have hkept : kept ≠ "" := by
    by_cases hfits : ∀ n, rule.maxLength = some n → text.length ≤ n.toNat
    · rw [hk.whole hfits]
      exact ht
    · simp only [not_forall, Nat.not_le] at hfits
      obtain ⟨n, hn, hl⟩ := hfits
      have hroom : 1 ≤ n.toNat := UInt64.le_iff_toNat_le.mp (hm n hn)
      have hlen : kept.length = n.toNat := (hk.cut n hn hl).1
      rintro rfl
      rw [String.length_empty] at hlen
      omega
  rw [hf, if_neg hkept]
  intro he
  exact hkept (String.append_eq_empty_iff.mp (String.append_eq_empty_iff.mp he).1).2

/-- The rule without its default and its condition. -/
def bare (rule : FieldRule) : FieldRule := { rule with default := none, includeIf := none }

end FieldRule

/-! ## (3) The rest of the chain -/

namespace RuleChain

section

variable {chain chain' : RuleChain} {r : Record} {i : Nat} {rule : FieldRule} {value : Option FieldValue}

theorem IsSupplier.getElem? (h : chain.IsSupplier r i rule value) : chain.rules[i]? = some rule := by
  cases h with
  | field hi _ _ => exact hi
  | last hi _ => exact hi

/-- The place of the supplier and its value depend on the fields of a chain only. -/
theorem IsSupplier.of_fields (h : chain.IsSupplier r i rule value)
    (hf : chain'.rules.map FieldRule.field = chain.rules.map FieldRule.field) :
    ∃ rule', chain'.IsSupplier r i rule' value := by
  have at? (j : Nat) : chain'.rules[j]?.map FieldRule.field = chain.rules[j]?.map FieldRule.field := by
    rw [← List.getElem?_map, hf, List.getElem?_map]
  have supplier : ∃ rule', chain'.rules[i]? = some rule' ∧ rule'.field = rule.field := by
    have hi := at? i
    rwa [h.getElem?, Option.map_some, Option.map_eq_some_iff] at hi
  obtain ⟨rule', hi', he⟩ := supplier
  refine ⟨rule', ?_⟩
  cases h with
  | field _ ho hb =>
    refine .field hi' (he ▸ ho) fun j hj s hs => ?_
    have hj' := at? j
    rw [hs, Option.map_some, eq_comm, Option.map_eq_some_iff] at hj'
    obtain ⟨t, ht, hst⟩ := hj'
    exact hst ▸ hb j hj t ht
  | last _ hn =>
    have hl : chain'.alternates.length = chain.alternates.length := by
      simpa [rules] using congrArg List.length hf
    rw [← hl] at hi' ⊢
    refine .last hi' fun s hs => ?_
    have hm := List.mem_map_of_mem (f := FieldRule.field) hs
    rw [hf, List.mem_map] at hm
    obtain ⟨t, ht, hst⟩ := hm
    exact hst ▸ hn t ht

/-- Chains that read the same fields have the same text, if they have the same rule where the
supplier is, conditions aside, and its default too where that is the text. -/
theorem IsSupplier.resolve_congr (h : chain.IsSupplier r i rule value)
    (hf : chain'.rules.map FieldRule.field = chain.rules.map FieldRule.field)
    (hs : ∀ rule', chain'.rules[i]? = some rule' →
      rule'.bare = rule.bare ∧ (value = none → rule'.default = rule.default)) (source : SymbolSource) :
    chain'.resolve r source = chain.resolve r source := by
  obtain ⟨rule', h'⟩ := h.of_fields hf
  obtain ⟨hb, hd⟩ := hs rule' h'.getElem?
  have finished (text : String) : rule'.finish text = rule.finish text := by
    have hr : rule'.bare.finish text = rule.bare.finish text := by rw [hb]
    exact hr
  have supplied : suppliedText rule' value r source = suppliedText rule value r source := by
    cases value with
    | none => rw [suppliedText, suppliedText, hd rfl]
    | some v =>
      have hr : rule'.bare.formatValue v r source = rule.bare.formatValue v r source := by rw [hb]
      exact hr
  rw [h.resolve_eq, h'.resolve_eq, supplied, finished]

end

/-- What the supplier at an index makes of a chain for a record. -/
structure Supplied (chain : RuleChain) (r : Record) (source : SymbolSource) (i : Nat) (rule : FieldRule)
    (value : Option FieldValue) : Prop where
  /-- The text is that of the supplier, cut to its limit and then between its affixes. -/
  text : ∃ indicator kept, rule.HasIndicator indicator ∧
    rule.Keeps indicator (suppliedText rule value r source) kept ∧
    (chain.resolve r source).1 =
      if kept = "" then "" else rule.leading.getD "" ++ kept ++ rule.trailing.getD ""
  origin : (chain.resolve r source).2 =
    if (chain.resolve r source).1 = "" then .empty else suppliedFrom i value
  length : rule.leading.getD "" = "" → rule.trailing.getD "" = "" → ∀ n, rule.maxLength = some n →
    (chain.resolve r source).1.length ≤ n.toNat
  /-- Only the fields of the other rules matter, and of the supplier neither its condition nor a
  default that is not the text. -/
  others : ∀ chain' : RuleChain, chain'.rules.map FieldRule.field = chain.rules.map FieldRule.field →
    (∀ rule', chain'.rules[i]? = some rule' →
      rule'.bare = rule.bare ∧ (value = none → rule'.default = rule.default)) →
    chain'.resolve r source = chain.resolve r source

end RuleChain

/-- Every chain has a supplier for a record: the first rule whose field has a value that is not
empty, or else the last one with its default. Its text, its limit and its affixes make the text of
the chain, and nothing else in the chain does. -/
theorem supplier_decides_text (chain : RuleChain) (r : Record) (source : SymbolSource) :
    (∃ i rule value, chain.IsSupplier r i rule value) ∧
      ∀ i rule value, chain.IsSupplier r i rule value → chain.Supplied r source i rule value := by
  refine ⟨chain.exists_isSupplier r, fun i rule value h => ?_⟩
  obtain ⟨kept, hk, hf⟩ := rule.finish_eq (RuleChain.suppliedText rule value r source)
  have hr := h.resolve_eq source
  have ht : (chain.resolve r source).1 = rule.finish (RuleChain.suppliedText rule value r source) := by
    rw [hr]
    rfl
  refine ⟨⟨rule.indicator, kept, rule.hasIndicator, hk, ht.trans hf⟩, ?_, fun hl htr n hn => ?_,
    fun chain' hfields hs => h.resolve_congr hfields hs source⟩
  · rw [ht, hr]
    simp only [withSource, String.isEmpty_iff]
  · have hkept : (chain.resolve r source).1 = kept := by
      rw [ht, hf, hl, htr]
      by_cases he : kept = "" <;> simp [he]
    rw [hkept]
    exact hk.length_le hn

/-- The second of three rules supplies the text; the limits and affixes of the others and the
default behind it do not count. -/
theorem second_rule_supplies_text :
    let chain : RuleChain := ⟨{ field := "nick", maxLength := some 1, default := some "none" },
      [{ field := "first", maxLength := some 5, leading := some "<", trailing := some ">" },
        { field := "company", default := some "unknown" }]⟩
    let supplier : FieldRule := { field := "first", maxLength := some 5, leading := some "<", trailing := some ">" }
    let r := (({} : Record).insert "nick" (.text " ")).insert "first" (.text "Augusta")
    chain.IsSupplier r 1 supplier (some (.text "Augusta")) ∧
      chain.Supplied r .none 1 supplier (some (.text "Augusta")) ∧
      chain.resolve r .none = ("<Au...>", .alternate) := by
  intro chain supplier r
  have h : chain.IsSupplier r 1 supplier (some (.text "Augusta")) := by
    refine .field rfl ⟨by decide, by decide⟩ fun j hj s hs v hv => ?_
    obtain rfl : j = 0 := by omega
    cases hs
    have hn : r.value? "nick" = none := by decide
    exact (r.value?_eq_none_iff "nick").mp hn v hv
  exact ⟨h, (supplier_decides_text chain r .none).2 1 supplier _ h, by decide⟩

end RecordNaming
