/-
  RecordNaming.Configuration — a document of rules: what a name is made of and how long it
  may get.
-/
import RecordNaming.Rule

namespace RecordNaming

structure Configuration where
  /-- The type of record that the rules are for. -/
  entity : Option String := none
  /-- The field that holds the name. -/
  targetField : String := "name"
  /-- The greatest length of the name; zero is no limit. -/
  maxLength : Option UInt64 := none
  enableTracing : Option Bool := none
  /-- The rules in the order in which their texts are joined. -/
  fields : List RuleChain := []

namespace Configuration

/-- The limit on the length of the name. -/
def outputLimit (c : Configuration) : Option Nat := (c.maxLength.map UInt64.toNat).filter (0 < ·)

/-- The indicator of the cut of the name: the first one that a top rule sets and that is not
empty. -/
def indicator (c : Configuration) : String :=
  (c.fields.findSome? fun chain => chain.first.truncationIndicator.filter (!·.isEmpty)).getD
    Text.defaultIndicator

def tracingEnabled (c : Configuration) : Bool := c.enableTracing.getD false

end Configuration

end RecordNaming
