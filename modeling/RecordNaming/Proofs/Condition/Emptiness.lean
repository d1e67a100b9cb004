/-
  RecordNaming.Proofs.Condition.Emptiness — conditions and rules mean the same by an empty field.

  A condition looks at the texts that a field is compared by, a rule at the value itself.

  (1) Whatever is printed of a value other than a text has a character that is not blank: a digit
  of a number (`text_not_blank`), a hyphen of an identifier or of an instant. So the texts are
  blank exactly if the value is a blank text, whatever its label (`isEmpty_ofValue`), and the
  condition asks whether a rule would find a value (`holds_isEmpty`, `holds_isNotEmpty`).

  (2) A rule that is there only if its own field has a value does not fall back, and one that is
  there only if it has none never shows it (`followsOwnField`).

  `emptiness_is_one_notion` says both of every record and rule set.
-/
import RecordNaming.Proofs.Dependence
import RecordNaming.Proofs.Instant.Texts
import RecordNaming.Proofs.Supplier
import RecordNaming.Proofs.Text.Blank

namespace RecordNaming

/-! ## (1) Emptiness of a field -/

theorem Text.natDigits_visible (n : Nat) : ∃ c ∈ natDigits n, isBlank c = false := by
  have hm := List.head_mem (natDigits_ne_nil n)
  exact ⟨(natDigits n).head (natDigits_ne_nil n), hm, isBlank_of_isDigit (charIsDigit_of_mem_natDigits hm)⟩

theorem FieldValue.intText_not_blank (n : Int) : Text.allBlank (intText n) = false := by
  obtain ⟨c, hc, hb⟩ := Text.natDigits_visible n.natAbs
  refine Text.allBlank_eq_false_of_mem (c := c) ?_ hb
  rw [intText, String.toList_ofList, Text.intDigits]
  split
  · exact List.mem_cons_of_mem _ hc
  · exact hc

theorem Decimal.text_not_blank (d : Decimal) : Text.allBlank d.text = false := by
  obtain ⟨c, hc, hb⟩ := Text.natDigits_visible (d.magnitude / tenPow d.scale)
  refine Text.allBlank_eq_false_of_mem (c := c) ?_ hb
  rw [text, String.toList_ofList, digits]
  exact List.mem_append_left _ (List.mem_append_right _ hc)

theorem EntityId.text_not_blank (id : EntityId) : Text.allBlank id.text = false := by
  refine Text.allBlank_eq_false_of_mem (c := '-') ?_ rfl
  rw [text, String.toList_ofList]
  simp

theorem Instant.roundTripText_not_blank (t : Instant) : Text.allBlank t.roundTripText = false := by
  refine Text.allBlank_eq_false_of_mem (c := '-') ?_ rfl
  rw [roundTripText_eq_flatMap, String.toList_ofList]
  exact List.mem_flatMap.mpr ⟨.literal ['-'], by decide, List.mem_singleton_self _⟩

namespace Comparand

theorem isEmpty_of_mem {c : Comparand} {s : String} (h : s ∈ c.candidates) (hs : Text.allBlank s = false)
    (hp : c.present = true) : c.isEmpty = false := by
  have hall : c.candidates.all Text.allBlank = false := by
    refine List.all_eq_false.mpr ⟨s, h, ?_⟩
    rw [hs]
    exact Bool.false_ne_true
  rw [isEmpty, hp, hall]
  rfl

/-- The texts that a value is compared by are blank if the value is a blank text, and only then. -/
theorem isEmpty_ofValue (label : Option String) (value : FieldValue) :
    (ofValue label value).isEmpty = value.isEmpty := by
  cases value with
  | text s => simp [ofValue, isEmpty, FieldValue.isEmpty]
  | whole n => exact isEmpty_of_mem (List.mem_singleton_self _) (FieldValue.intText_not_blank _) rfl
  | decimal d => exact isEmpty_of_mem (List.mem_singleton_self _) d.text_not_blank rfl
  | boolean b => cases b <;> rfl
  | timestamp t => exact isEmpty_of_mem (List.mem_singleton_self _) t.roundTripText_not_blank rfl
  | optionSet code =>
    have hm := List.mem_append_right label.toList (List.mem_singleton_self (FieldValue.intText code.toInt))
    exact isEmpty_of_mem hm (FieldValue.intText_not_blank _) rfl
  | money amount =>
    have hm := List.mem_append_right label.toList (List.mem_singleton_self amount.text)
    exact isEmpty_of_mem hm amount.text_not_blank rfl
  | lookup reference =>
    have hm := List.mem_append_right (Text.nonBlank? reference.name).toList
      (List.mem_singleton_self reference.id.text)
    exact isEmpty_of_mem hm reference.id.text_not_blank rfl

end Comparand

namespace Condition

variable (r : Record) (field operand : String)

theorem holds_isEmpty : (Condition.compare field .isEmpty operand).holds r = (r.value? field).isNone := by
  rw [holds, Comparand.satisfies_ofField, Record.value?_eq]
  show (Comparand.ofValue (r.shownLabel? field) (r.valueOrEmpty field)).isEmpty = _
  rw [Comparand.isEmpty_ofValue]
  cases h : (r.valueOrEmpty field).isEmpty <;> simp [Option.filter, h]

theorem holds_isNotEmpty : (Condition.compare field .isNotEmpty operand).holds r = (r.value? field).isSome := by
  have h := holds_isEmpty r field operand
  rw [holds] at h ⊢
  show (!(Comparand.ofField r field).satisfies .isEmpty operand) = _
  rw [h, Option.not_isNone]

end Condition

/-- A rule finds no value in a field that is absent or has an empty value. -/
theorem Record.value?_eq_none_iff_absent (r : Record) (field : String) :
    r.value? field = none ↔ r.get? field = none ∨ ∃ value, r.get? field = some value ∧ value.isEmpty = true := by
  unfold value?
  cases r.get? field with
  | none => simp
  | some value => cases h : value.isEmpty <;> simp [Option.filter, h]

/-! ## (2) Rules that ask their own field -/

namespace RuleChain

/-- The condition of the first rule asks the field of the rule itself. -/
def AsksOwnField (chain : RuleChain) (operator : Operator) : Prop :=
  ∃ operand, chain.first.includeIf = some (.compare chain.first.field operator operand)

theorem included_of_isNotEmpty {chain : RuleChain} (h : chain.AsksOwnField .isNotEmpty) (r : Record) :
    chain.included r = (r.value? chain.first.field).isSome := by
  obtain ⟨operand, h⟩ := h
  rw [included, h]
  exact Condition.holds_isNotEmpty r _ operand

theorem included_of_isEmpty {chain : RuleChain} (h : chain.AsksOwnField .isEmpty) (r : Record) :
    chain.included r = (r.value? chain.first.field).isNone := by
  obtain ⟨operand, h⟩ := h
  rw [included, h]
  exact Condition.holds_isEmpty r _ operand

theorem source_contribution (chain : RuleChain) (r : Record) (source : SymbolSource) :
    (chain.contribution r source).source =
      if chain.included r then (chain.resolve r source).2 else .skippedByCondition := by
  unfold contribution
  split <;> rfl

/-- What the source of a contribution is when the condition of its rule asks whether the rule's own field is
empty: with a value there is no fallback, without one there is nothing else. -/
structure FollowsOwnField (r : Record) (chain : RuleChain) (k : Contribution) : Prop where
  present : chain.AsksOwnField .isNotEmpty → k.source ≠ .alternate ∧ k.source ≠ .default ∧
    (k.source = .skippedByCondition ↔ r.value? chain.first.field = none)
  absent : chain.AsksOwnField .isEmpty → k.source ≠ .primary ∧
    (k.source = .skippedByCondition ↔ r.value? chain.first.field ≠ none)

theorem followsOwnField (chain : RuleChain) (r : Record) (source : SymbolSource) :
    FollowsOwnField r chain (chain.contribution r source) := by
  have hs := chain.resolve_source_ne_skipped r source
  cases hv : r.value? chain.first.field with
  | none =>
    have hn := (r.value?_eq_none_iff _).mp hv
    refine ⟨fun h => ?_, fun h => ?_⟩
    · rw [source_contribution, included_of_isNotEmpty h, hv]
      exact ⟨nofun, nofun, fun _ => rfl, fun _ => rfl⟩
    · rw [source_contribution, included_of_isEmpty h, hv]
      exact ⟨resolve_source_ne_primary hn source, fun he => absurd he hs, fun he => absurd rfl he⟩
  | some value =>
    have ho := (r.value?_eq_some_iff _ value).mp hv
    refine ⟨fun h => ?_, fun h => ?_⟩
    · rw [source_contribution, included_of_isNotEmpty h, hv]
      have hr := resolve_of_offers ho source
      refine ⟨?_, ?_, fun he => absurd he hs, nofun⟩
      · rw [hr]
        exact withSource_ne _ (by decide) (by decide)
      · rw [hr]
        exact withSource_ne _ (by decide) (by decide)
    · rw [source_contribution, included_of_isEmpty h, hv]
      exact ⟨nofun, fun _ => nofun, fun _ => rfl⟩

end RuleChain

/-- A condition finds a field empty exactly if a rule does: if the record has no value for it or an empty
one, and the opposite condition is its negation. So a rule under the condition that its own field is not
empty never has its text from an alternate or from a default, and one under the condition that it is empty
never has it from the field; each is skipped exactly where the other is not. -/
theorem emptiness_is_one_notion (r : Record) (source : SymbolSource) (rules : RuleSet) :
    (∀ field operand,
      ((Condition.compare field .isEmpty operand).holds r = true ↔ r.value? field = none) ∧
      (r.value? field = none ↔
        r.get? field = none ∨ ∃ value, r.get? field = some value ∧ value.isEmpty = true) ∧
      (Condition.compare field .isNotEmpty operand).holds r =
        !(Condition.compare field .isEmpty operand).holds r) ∧
      List.Forall₂ (RuleChain.FollowsOwnField r) rules.configuration.fields
        (rules.evaluate source r).contributions := by
  constructor
  · intro field operand
    refine ⟨?_, r.value?_eq_none_iff_absent field, ?_⟩
    · rw [Condition.holds_isEmpty, Option.isNone_iff_eq_none]
    · rw [Condition.holds_isEmpty, Condition.holds_isNotEmpty, Option.not_isNone]
  · rw [rules.contributions_evaluate, List.forall₂_map_right_iff, List.forall₂_same]
    intro chain _
    exact chain.followsOwnField r source

/-- Two rules that ask their own fields: one shows a reference or nothing, the other a default in place of a
blank nickname. -/
def ownFieldRules : RuleSet where
  configuration :=
    { fields := [⟨{ field := "parentid", includeIf := some (.compare "parentid" .isNotEmpty "") },
                  [{ field := "name", default := some "unknown" }]⟩,
                 ⟨{ field := "nick", includeIf := some (.compare "nick" .isEmpty ""), default := some "none" }, []⟩] }
  maxDepth := 32
  valid := by rfl

/-- A reference with a blank name is there, a blank nickname with a label is not. -/
theorem blank_name_is_present_blank_text_is_not :
    let r := ((({} : Record).insert "parentid" (.lookup { id := ⟨7, by decide⟩, name := some " " })).insert "nick"
      (.text "  ")).withLabel "nick" "Ada"
    (Condition.compare "nick" .isEmpty "").holds r = true ∧
      r.value? "nick" = none ∧ r.value? "parentid" ≠ none ∧
      (Condition.compare "parentid" .isNotEmpty "").holds r =
        !(Condition.compare "parentid" .isEmpty "").holds r ∧
      List.Forall₂ (RuleChain.FollowsOwnField r) ownFieldRules.configuration.fields
        (ownFieldRules.evaluate .none r).contributions ∧
      (ownFieldRules.evaluate .none r).contributions = [⟨"parentid", .primary, " "⟩, ⟨"nick", .default, "none"⟩] := by
  intro r
  obtain ⟨hconditions, hrules⟩ := emptiness_is_one_notion r .none ownFieldRules
  have hnick : r.value? "nick" = none := by decide
  exact ⟨(hconditions "nick" "").1.mpr hnick, hnick, by decide, (hconditions "parentid" "").2.2, hrules, by decide⟩

end RecordNaming
