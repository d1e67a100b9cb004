/-
  RecordNaming.Rule — how one piece of a name is sourced, formatted and affixed: a rule for
  one field, and the chain of alternates that stand in for it when the field is empty.
-/
import RecordNaming.Condition
import RecordNaming.FieldType
import RecordNaming.Text.Cut

namespace RecordNaming

/-- A rule for one field, its alternate aside. -/
structure FieldRule where
  /-- The field that the rule reads. -/
  field : String
  /-- The declared type; without one the value decides. -/
  type : Option FieldType := none
  /-- The number or date pattern, depending on the type. -/
  format : Option String := none
  /-- The greatest length of the formatted value, its affixes aside. -/
  maxLength : Option UInt64 := none
  truncationIndicator : Option String := none
  /-- The text of an empty field that has no alternate. -/
  default : Option String := none
  /-- The text in front of a text that is not empty. -/
  leading : Option String := none
  /-- The text behind a text that is not empty. -/
  trailing : Option String := none
  /-- Whole hours added to dates before formatting. -/
  offsetHours : Option Int32 := none
  /-- The condition under which the rule contributes. -/
  includeIf : Option Condition := none

/-- The indicator of the rule's cuts. -/
def FieldRule.indicator (r : FieldRule) : String := Text.indicatorOr r.truncationIndicator

/-- A rule and its alternates: each stands in for the one before it when that one's field is
empty. -/
structure RuleChain where
  first : FieldRule
  alternates : List FieldRule := []

/-- The rules of a chain in order. -/
def RuleChain.rules (c : RuleChain) : List FieldRule := c.first :: c.alternates

end RecordNaming
