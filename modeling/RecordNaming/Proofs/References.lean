/-
  RecordNaming.Proofs.References — the list of the fields that a configuration reads.

  (1) Occurrences. A rule names its field, and a comparison the field that it compares. These names in document
  order, with the currency reference behind them if some rule is declared as currency, are what the configuration
  mentions (`mentionedFields_eq`).

  (2) First spellings. Of the names that are equal regardless of case the first one is kept, and no other
  (`mem_firstSpellings_iff`).

  (3) Order. The list is in the strict order of the lower-case names (`pairwise_referencedFields`). So the lower-case
  list is known from its members, which the order of the rules does not change (`map_lower_referencedFields_of_perm`).

  `referencedFields_are_first_spellings` says of every configuration which names are in the list, in which spelling
  and in which order.
-/
import Mathlib.Data.List.Sort
import RecordNaming.Configuration.References
import RecordNaming.Proofs.Condition.Duality
import RecordNaming.Proofs.Validity.Places

namespace RecordNaming

/-! ## (1) Occurrences -/

namespace Part

/-- The name of a field that a part of a document has itself: a rule's field, or that of a comparison. -/
def name? : Part → Option String
  | .rule r _ => some r.field
  | .condition (.compare field _ _) => some field
  | _ => none

/-- A part that is a rule, its alternates aside. -/
def rule? : Part → Option FieldRule
  | .rule r _ => some r
  | _ => none

theorem rule?_eq_some_iff {p : Part} {r : FieldRule} : p.rule? = some r ↔ ∃ alternates, p = .rule r alternates := by
  cases p with
  | rule s alternates => simp [rule?]
  | _ => simp [rule?]

/-- What is selected of parts makes these lists for a condition and for a rule, alternates aside. -/
structure Selects {α : Type} (select : Part → Option α) (ofCondition : Condition → List α)
    (ofRule : FieldRule → List α) : Prop where
  compare : ∀ field operator operand,
    (select (.condition (.compare field operator operand))).toList = ofCondition (.compare field operator operand)
  group : ∀ g children, select (.condition (.group g children)) = none ∧
    ofCondition (.group g children) = children.flatMap ofCondition
  rule : ∀ r alternates, ofRule r = (select (.rule r alternates)).toList ++ match r.includeIf with
    | some c => ofCondition c
    | none => []

end Part

/-! What is selected of the places in document order is put together as the document is. -/

section

variable {α : Type} {select : Part → Option α} {ofCondition : Condition → List α} {ofRule : FieldRule → List α}

theorem Place.filterMap_cons (place : Place) (rest : List Place) :
    (place :: rest).filterMap (select ·.part) = (select place.part).toList ++ rest.filterMap (select ·.part) := by
  cases h : select place.part <;> simp [h]

mutual

theorem Condition.filterMap_places (h : Part.Selects select ofCondition ofRule) (path : DefectPath) :
    ∀ c : Condition, (c.places path).filterMap (select ·.part) = ofCondition c
  | .compare field operator operand => by
    rw [places, Place.filterMap_cons, h.compare, List.filterMap_nil, List.append_nil]
  | .group g children => by
    obtain ⟨hnone, hchildren⟩ := h.group g children
    rw [places, Place.filterMap_cons, hnone, hchildren]
    exact Condition.filterMap_childPlaces h path g 0 children

theorem Condition.filterMap_childPlaces (h : Part.Selects select ofCondition ofRule) (path : DefectPath) (g : Group) :
    ∀ (index : Nat) (cs : List Condition),
      (childPlaces path g index cs).filterMap (select ·.part) = cs.flatMap ofCondition
  | _, [] => rfl
  | index, c :: rest => by
    rw [childPlaces, List.filterMap_append, Condition.filterMap_places h, Condition.filterMap_childPlaces h,
      List.flatMap_cons]

end

variable (h : Part.Selects select ofCondition ofRule)

include h

theorem FieldRule.filterMap_places (path : DefectPath) (r : FieldRule) (alternates : List FieldRule) :
    (r.places path alternates).filterMap (select ·.part) = ofRule r := by
  rw [places, Place.filterMap_cons, h.rule r alternates]
  cases r.includeIf with
  | none => rfl
  | some c => rw [Condition.filterMap_places h]

theorem FieldRule.filterMap_chainPlaces (path : DefectPath) (rs : List FieldRule) :
    (chainPlaces path rs).filterMap (select ·.part) = rs.flatMap ofRule := by
  induction rs generalizing path with
  | nil => rfl
  | cons r rest ih =>
    rw [chainPlaces, List.filterMap_append, FieldRule.filterMap_places h, ih, List.flatMap_cons]

theorem RuleChain.filterMap_places (index : Nat) (chains : List RuleChain) :
    (places index chains).filterMap (select ·.part) = (chains.flatMap rules).flatMap ofRule := by
  induction chains generalizing index with
  | nil => rfl
  | cons chain rest ih =>
    rw [places, List.filterMap_append, FieldRule.filterMap_chainPlaces h, ih, List.flatMap_cons, List.flatMap_append]

end

namespace Configuration

variable (c : Configuration)

theorem filterMap_name? : c.places.filterMap (·.part.name?) = c.allRules.flatMap FieldRule.fields := by
  have h : Part.Selects Part.name? Condition.fields FieldRule.fields := {
    compare := fun _ _ _ => rfl
    group := fun _ children => ⟨rfl, Condition.fieldsOfAll_eq children⟩
    rule := fun _ _ => rfl }
  exact RuleChain.filterMap_places h 0 c.fields

theorem filterMap_rule? : c.places.filterMap (·.part.rule?) = c.allRules := by
  have h : Part.Selects Part.rule? (fun _ => []) fun r => [r] := {
    compare := fun _ _ _ => rfl
    group := fun _ children => ⟨rfl, (List.flatMap_eq_nil_iff.mpr fun _ _ => rfl).symm⟩
    rule := fun r _ => by cases r.includeIf <;> rfl }
  have hrules := RuleChain.filterMap_places h 0 c.fields
  rw [List.flatMap_singleton'] at hrules
  exact hrules

/-- The names in document order, the currency reference behind them if some rule is declared as currency. -/
def occurrences : List String :=
  c.places.filterMap (·.part.name?) ++
    if (c.places.filterMap (·.part.rule?)).any (·.type == some .currency) then [Record.currencyField] else []

theorem mentionedFields_eq : c.mentionedFields = c.occurrences := by
  rw [mentionedFields, occurrences, filterMap_name?, filterMap_rule?]

/-- What is selected of a part that some path leads to, the document aside. -/
theorem mem_filterMap_places_iff {α : Type} {select : Part → Option α} (hdocument : select (.document c) = none)
    {a : α} : a ∈ c.places.filterMap (select ·.part) ↔
      ∃ path part, (Part.document c).follow path = some part ∧ select part = some a := by
  rw [List.mem_filterMap]
  constructor
  · rintro ⟨place, hm, ha⟩
    exact ⟨place.path, place.part, ((c.mem_places_iff place).mp hm).2, ha⟩
  · rintro ⟨path, part, hf, ha⟩
    refine ⟨⟨path, part⟩, (c.mem_places_iff _).mpr ⟨?_, hf⟩, ha⟩
    rintro rfl
    cases hf
    rw [hdocument] at ha
    cases ha

theorem mem_occurrences_iff {name : String} : name ∈ c.occurrences ↔
    (∃ path part, (Part.document c).follow path = some part ∧ part.name? = some name) ∨
      name = Record.currencyField ∧ ∃ path r alternates,
        (Part.document c).follow path = some (.rule r alternates) ∧ r.type = some .currency := by
  have hcurrency : (c.places.filterMap (·.part.rule?)).any (·.type == some .currency) = true ↔
      ∃ path r alternates, (Part.document c).follow path = some (.rule r alternates) ∧ r.type = some .currency := by
    rw [List.any_eq_true]
    constructor
    · rintro ⟨r, hm, ht⟩
      obtain ⟨path, part, hf, hr⟩ := (c.mem_filterMap_places_iff rfl).mp hm
      obtain ⟨alternates, rfl⟩ := Part.rule?_eq_some_iff.mp hr
      exact ⟨path, r, alternates, hf, beq_iff_eq.mp ht⟩
    · rintro ⟨path, r, alternates, hf, ht⟩
      exact ⟨r, (c.mem_filterMap_places_iff rfl).mpr ⟨path, _, hf, rfl⟩, beq_iff_eq.mpr ht⟩
  rw [occurrences, List.mem_append, c.mem_filterMap_places_iff rfl, ← hcurrency]
  split
  · rename_i hany
    simp [hany]
  · rename_i hany
    simp [hany]

end Configuration

/-! ## (2) First spellings -/

namespace Configuration

theorem firstSpellings_of_mem {first : String} {rest seen : List String} (h : Text.lower first ∈ seen) :
    firstSpellings seen (first :: rest) = firstSpellings seen rest :=
  if_pos (List.contains_iff_mem.mpr h)

theorem firstSpellings_of_notMem {first : String} {rest seen : List String} (h : Text.lower first ∉ seen) :
    firstSpellings seen (first :: rest) = first :: firstSpellings (Text.lower first :: seen) rest :=
  if_neg fun hc => h (List.contains_iff_mem.mp hc)

/-- A name is kept if no name before it is equal to it regardless of case. -/
theorem mem_firstSpellings_iff {name : String} {names seen : List String} : name ∈ firstSpellings seen names ↔
    Text.lower name ∉ seen ∧ names.find? (Text.eqIgnoringCase name) = some name := by
  induction names generalizing seen with
  | nil => simp [firstSpellings]
  | cons first rest ih =>
    by_cases he : Text.lower name = Text.lower first
    · have hfound : Text.eqIgnoringCase name first = true := beq_iff_eq.mpr he
      rw [List.find?_cons_of_pos hfound, he]
      by_cases hs : Text.lower first ∈ seen
      · rw [firstSpellings_of_mem hs, ih, he]
        simp [hs]
      · rw [firstSpellings_of_notMem hs, List.mem_cons, ih, he]
        simp [hs, eq_comm]
    · have hpassed : ¬ Text.eqIgnoringCase name first = true := fun h => he (beq_iff_eq.mp h)
      have hne : name ≠ first := fun h => he (congrArg Text.lower h)
      rw [List.find?_cons_of_neg hpassed]
      by_cases hs : Text.lower first ∈ seen
      · rw [firstSpellings_of_mem hs, ih]
      · rw [firstSpellings_of_notMem hs, List.mem_cons, ih]
        simp [he, hne]

theorem pairwise_firstSpellings (seen names : List String) :
    (firstSpellings seen names).Pairwise fun a b => Text.lower a ≠ Text.lower b := by
  induction names generalizing seen with
  | nil => exact List.Pairwise.nil
  | cons first rest ih =>
    by_cases hs : Text.lower first ∈ seen
    · rw [firstSpellings_of_mem hs]
      exact ih seen
    · rw [firstSpellings_of_notMem hs]
      refine List.Pairwise.cons ?_ (ih _)
      intro name hm he
      exact (mem_firstSpellings_iff.mp hm).1 (he ▸ List.mem_cons_self)

/-- The name is the first one of those that are not blank and equal to it regardless of case. -/
def IsFirstSpelling (names : List String) (name : String) : Prop :=
  names.find? (fun other => !Text.allBlank other && Text.eqIgnoringCase name other) = some name

theorem mem_referencedFields_iff {c : Configuration} {name : String} :
    name ∈ c.referencedFields ↔ IsFirstSpelling c.mentionedFields name := by
  rw [referencedFields, List.mem_mergeSort, mem_firstSpellings_iff, List.find?_filter, IsFirstSpelling]
  simp

/-- Some spelling of a name is the first one. -/
theorem mem_map_lower_iff {c : Configuration} {key : String} : key ∈ c.referencedFields.map Text.lower ↔
    ∃ name ∈ c.mentionedFields, Text.allBlank name = false ∧ Text.lower name = key := by
  rw [List.mem_map]
  constructor
  · rintro ⟨name, hm, hk⟩
    rw [mem_referencedFields_iff, IsFirstSpelling] at hm
    have hnamed := List.find?_some hm
    rw [Bool.and_eq_true, Bool.not_eq_true'] at hnamed
    exact ⟨name, List.mem_of_find?_eq_some hm, hnamed.1, hk⟩
  · rintro ⟨name, hm, hb, rfl⟩
    have hsome : (c.mentionedFields.find?
        (fun other => !Text.allBlank other && Text.eqIgnoringCase name other)).isSome = true := by
      rw [List.find?_isSome]
      exact ⟨name, hm, by simp [hb, Text.eqIgnoringCase]⟩
    obtain ⟨first, hfirst⟩ := Option.isSome_iff_exists.mp hsome
    have hnamed := List.find?_some hfirst
    rw [Bool.and_eq_true, Text.eqIgnoringCase, beq_iff_eq] at hnamed
    refine ⟨first, mem_referencedFields_iff.mpr ?_, hnamed.2.symm⟩
    rw [IsFirstSpelling]
    simpa only [Text.eqIgnoringCase, hnamed.2] using hfirst

/-! ## (3) Order -/

theorem pairwise_referencedFields (c : Configuration) : (c.referencedFields.map Text.lower).Pairwise (· < ·) := by
  rw [List.pairwise_map]
  have hsorted : c.referencedFields.Pairwise fun a b => (!(Text.lower b < Text.lower a : Bool)) = true := by
    refine List.pairwise_mergeSort ?_ ?_ _
    · intro x y z hxy hyz
      simp only [Bool.not_eq_true', decide_eq_false_iff_not, String.not_lt] at hxy hyz ⊢
      exact String.le_trans hxy hyz
    · intro x y
      simp only [Bool.or_eq_true, Bool.not_eq_true', decide_eq_false_iff_not, String.not_lt]
      exact String.le_total _ _
  have hdistinct : c.referencedFields.Pairwise fun a b => Text.lower a ≠ Text.lower b := by
    refine (List.mergeSort_perm _ _).symm.pairwise (pairwise_firstSpellings _ _) ?_
    intro x y h
    exact h.symm
  refine hsorted.imp₂ ?_ hdistinct
  intro x y hxy hne
  simp only [Bool.not_eq_true', decide_eq_false_iff_not, String.not_lt] at hxy
  exact String.not_le.mp fun hyx => hne (String.le_antisymm hxy hyx)

/-- The first spellings in the strict order of the lower-case names are the list. -/
theorem referencedFields_eq {c : Configuration} {names : List String}
    (hperm : (firstSpellings [] (c.mentionedFields.filter (!Text.allBlank ·))).Perm names)
    (hsorted : names.Pairwise fun a b => Text.lower a < Text.lower b) : c.referencedFields = names := by
  have hlist : c.referencedFields.Pairwise fun a b => Text.lower a < Text.lower b :=
    List.pairwise_map.mp c.pairwise_referencedFields
  have hlistPerm : c.referencedFields.Perm names := (List.mergeSort_perm _ _).trans hperm
  refine hlistPerm.eq_of_pairwise ?_ hlist hsorted
  intro a b _ _ hab hba
  exact absurd hab (String.lt_asymm hba)

theorem mem_mentionedFields_of_perm {c d : Configuration} (h : d.fields.Perm c.fields) (name : String) :
    name ∈ d.mentionedFields ↔ name ∈ c.mentionedFields := by
  have hrules : d.allRules.Perm c.allRules := h.flatMap_right _
  rw [mentionedFields, mentionedFields, hrules.any_eq, List.mem_append, List.mem_append,
    (hrules.flatMap_right FieldRule.fields).mem_iff]

theorem map_lower_referencedFields_of_perm {c d : Configuration} (h : d.fields.Perm c.fields) :
    d.referencedFields.map Text.lower = c.referencedFields.map Text.lower := by
  refine d.pairwise_referencedFields.eq_of_mem_iff c.pairwise_referencedFields fun key => ?_
  simp only [mem_map_lower_iff, mem_mentionedFields_of_perm h]

/-- The listed fields are in the strict order of their lower-case names. A lower-case name is listed if a rule or a
comparison somewhere in the document has a field of this name that is not blank, or if it is that of the currency
reference and some rule is declared as currency. Each is spelled as where it occurs first. Rules in another order
make the same lower-case list. -/
theorem referencedFields_are_first_spellings (c : Configuration) :
    (c.referencedFields.map Text.lower).Pairwise (· < ·) ∧
      (∀ key, key ∈ c.referencedFields.map Text.lower ↔
        (∃ path part name, (Part.document c).follow path = some part ∧ part.name? = some name ∧
          Text.allBlank name = false ∧ Text.lower name = key) ∨
        key = Record.currencyField ∧ ∃ path r alternates,
          (Part.document c).follow path = some (.rule r alternates) ∧ r.type = some .currency) ∧
      (∀ name, name ∈ c.referencedFields ↔ IsFirstSpelling c.occurrences name) ∧
      ∀ d : Configuration, d.fields.Perm c.fields →
        d.referencedFields.map Text.lower = c.referencedFields.map Text.lower := by
  refine ⟨c.pairwise_referencedFields, fun key => ?_, fun name => ?_,
    fun d h => map_lower_referencedFields_of_perm h⟩
  · have hlower : Text.lower Record.currencyField = Record.currencyField := by decide +kernel
    have hblank : Text.allBlank Record.currencyField = false := by decide
    rw [mem_map_lower_iff, mentionedFields_eq]
    constructor
    · rintro ⟨name, hm, hb, hk⟩
      rcases c.mem_occurrences_iff.mp hm with ⟨path, part, hf, hn⟩ | ⟨rfl, hcurrency⟩
      · exact Or.inl ⟨path, part, name, hf, hn, hb, hk⟩
      · exact Or.inr ⟨hk.symm.trans hlower, hcurrency⟩
    · rintro (⟨path, part, name, hf, hn, hb, hk⟩ | ⟨rfl, hcurrency⟩)
      · exact ⟨name, c.mem_occurrences_iff.mpr (Or.inl ⟨path, part, hf, hn⟩), hb, hk⟩
      · exact ⟨_, c.mem_occurrences_iff.mpr (Or.inr ⟨rfl, hcurrency⟩), hblank, hlower⟩
  · rw [mem_referencedFields_iff, mentionedFields_eq]

/-- A condition on the revenue names two fields that the other rule spells in another way: which spelling is first
depends on the order of the two rules. -/
theorem order_of_rules_shows_in_spellings_alone :
    let condition : Condition := .group .anyOf [.compare "StatusCode" .equals "1", .compare "name" .isNotEmpty ""]
    let revenue : RuleChain := ⟨{ field := "revenue", type := some .currency, includeIf := some condition }, []⟩
    let name : RuleChain := ⟨{ field := "Name" }, [{ field := "statuscode" }]⟩
    let c : Configuration := { fields := [revenue, name] }
    let d : Configuration := { fields := [name, revenue] }
    d.fields.Perm c.fields ∧
      c.referencedFields = ["name", "revenue", "StatusCode", "transactioncurrencyid"] ∧
      d.referencedFields = ["Name", "revenue", "statuscode", "transactioncurrencyid"] ∧
      d.referencedFields.map Text.lower = c.referencedFields.map Text.lower := by
  intro condition revenue name c d
  have hperm : d.fields.Perm c.fields := List.Perm.swap revenue name []
  have hc : c.referencedFields = ["name", "revenue", "StatusCode", "transactioncurrencyid"] :=
    referencedFields_eq (by decide +kernel) (by decide +kernel)
  have hd : d.referencedFields = ["Name", "revenue", "statuscode", "transactioncurrencyid"] :=
    referencedFields_eq (by decide +kernel) (by decide +kernel)
  exact ⟨hperm, hc, hd, (referencedFields_are_first_spellings c).2.2.2 d hperm⟩

end Configuration

end RecordNaming
