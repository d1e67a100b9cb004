/-
  RecordNaming.Proofs.Document.Agreement — generic values and their texts give the same
  configurations and the same names.

  A value whose numbers are whole and that opens no more arrays and objects than a text may is
  the document of its compact text, and is read from it as it is read itself
  (`Configuration.ofJsonText_compactText`); so is the record of such a value
  (`Record.ofText_compactText`), its members being in order, as they are in every value that a
  text gives (`Json.ordered_of_parse?`). The first error of a preview is then found by both
  (`preview_agree`). `values_and_texts_agree` puts them together.
-/
import RecordNaming.Loading
import RecordNaming.Proofs.Document.Levels

namespace RecordNaming

open Document

/-! ## Configurations and records -/

/-- The configurations are the same, or neither document has one. -/
inductive SameReading : Except RuleError Configuration → Except RuleError Configuration → Prop
  | read (c : Configuration) : SameReading (.ok c) (.ok c)
  | malformed (source detail detail' : String) :
      SameReading (.error (.malformedDocument source detail)) (.error (.malformedDocument source detail'))

theorem Configuration.ofJsonText_compactText {v : Json} (hw : v.Whole) (hl : height v ≤ Json.maxOpen) :
    SameReading (Configuration.ofJson v) (Configuration.ofJsonText inlineSource v.compactText) := by
  rw [ofJsonText, Json.read?_compactText hw, ofJson]
  rcases configurationOfNode_agrees inlineSource hl with ⟨c, hv, ht⟩ | ⟨detail, detail', hv, ht⟩
  · simp only [hv, ht]
    exact .read c
  · simp only [hv, ht]
    exact .malformed inlineSource detail detail'

theorem Json.ordered_of_parse? {text : String} {j : Json} (h : Json.parse? text = some j) : j.Ordered := by
  obtain ⟨_, -, hn⟩ := Option.bind_eq_some_iff.mp h
  exact ordered_of_toJson? hn

theorem Record.ofText_compactText {r : Json} (hw : r.Whole) (ho : r.Ordered) (hl : height r ≤ Json.maxOpen) :
    Record.ofText r.compactText = Record.ofJson r := by
  rw [ofText, parse?_compactText hw ho hl]

/-! ## Previews -/

/-- A preview starts from its configuration: two that are the same give the same result, and two that
are malformed are reported as such. -/
theorem preview_agree {c c' : Except RuleError Configuration} (h : SameReading c c')
    (r : Except RecordDefect Record) :
    preview c' r = preview c r ∨
      ∃ source detail detail', preview c r = .error (.document (.malformedDocument source detail)) ∧
        preview c' r = .error (.document (.malformedDocument source detail')) := by
  cases h with
  | read c => exact .inl rfl
  | malformed source detail detail' => exact .inr ⟨source, detail, detail', rfl, rfl⟩

/-- Where all numbers are whole and no more arrays and objects are open than a text may open, a value
and its compact text give the same configuration or both give none; and two values, that of the record
in order as all that are parsed, give the same name, or fail in the same way, as their two texts. -/
theorem values_and_texts_agree :
    (∀ v : Json, v.Whole → height v ≤ Json.maxOpen →
      SameReading (Configuration.ofJson v) (Configuration.ofJsonText inlineSource v.compactText)) ∧
    (∀ c r : Json, c.Whole → height c ≤ Json.maxOpen → r.Whole → height r ≤ Json.maxOpen → r.Ordered →
      previewText c.compactText r.compactText = previewJson c r ∨
        ∃ source detail detail', previewJson c r = .error (.document (.malformedDocument source detail)) ∧
          previewText c.compactText r.compactText =
            .error (.document (.malformedDocument source detail'))) ∧
    (∀ (text : String) (j : Json), Json.parse? text = some j → j.Ordered) := by
  refine ⟨fun v => Configuration.ofJsonText_compactText, fun c r hc hcl hr hrl ho => ?_,
    fun text j => Json.ordered_of_parse?⟩
  rw [previewText, previewJson, Record.ofText_compactText hr ho hrl]
  exact preview_agree (Configuration.ofJsonText_compactText hc hcl) (Record.ofJson r)

/-- A rule that contributes in one of two states, one of them written as a number. -/
def stateRules : Json :=
  .object [("fields", .array [.object [("field", .string "name"), ("includeIf", .object [("anyOf", .array [
    .object [("field", .string "state"), ("value", .number (.integer 3 (by decide) (by decide)))],
    .object [("field", .string "state"), ("value", .string "open")]])])]])]

def stateRecord : Json :=
  .object [("name", .string "Ann"), ("state", .number (.integer 3 (by decide) (by decide)))]

theorem state_rules_name_the_record_from_texts :
    stateRules.Whole ∧ height stateRules ≤ Json.maxOpen ∧ stateRecord.Whole ∧
      height stateRecord ≤ Json.maxOpen ∧ stateRecord.Ordered ∧
      SameReading (Configuration.ofJson stateRules)
        (Configuration.ofJsonText inlineSource stateRules.compactText) ∧
      previewText stateRules.compactText stateRecord.compactText = .ok "Ann" := by
  have hc : stateRules.Whole := by simp [stateRules, Json.Whole, Json.WholeMembers, Json.WholeItems]
  have hr : stateRecord.Whole := by simp [stateRecord, Json.Whole, Json.WholeMembers]
  have ho : stateRecord.Ordered := by
    refine ⟨by decide, ?_⟩
    simp [Json.OrderedMembers, Json.Ordered]
  have hcl : height stateRules ≤ Json.maxOpen := by decide
  have hrl : height stateRecord ≤ Json.maxOpen := by decide
  have hn : previewJson stateRules stateRecord = .ok "Ann" := by rfl
  obtain ⟨readings, previews, -⟩ := values_and_texts_agree
  refine ⟨hc, hcl, hr, hrl, ho, readings stateRules hc hcl, ?_⟩
  rcases previews stateRules stateRecord hc hcl hr hrl ho with he | ⟨_, _, _, he, -⟩
  · exact he.trans hn
  · rw [hn] at he
    cases he

end RecordNaming
