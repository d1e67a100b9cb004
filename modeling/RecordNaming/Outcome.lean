/-
  RecordNaming.Outcome — how the rules made a name: what each of them contributed, the texts
  joined, and whether the result was cut.
-/
import RecordNaming.Json.Printer
import RecordNaming.Text.Cut

namespace RecordNaming

/-- Where the text of a rule came from. -/
inductive ContributionSource where
  /-- The field of the rule. -/
  | primary
  /-- An alternate of the rule. -/
  | alternate
  /-- The default text of the rule. -/
  | default
  /-- The condition of the rule does not hold. -/
  | skippedByCondition
  /-- There is no text. -/
  | empty
  deriving DecidableEq, Repr

namespace ContributionSource

/-- The name shown to authors. -/
def name : ContributionSource → String
  | primary => "primary"
  | alternate => "alternate"
  | default => "default"
  | skippedByCondition => "skipped"
  | empty => "empty"

/-- The name in JSON. -/
def jsonName : ContributionSource → String
  | skippedByCondition => "skippedByCondition"
  | source => source.name

end ContributionSource

structure Contribution where
  field : String
  source : ContributionSource
  text : String
  deriving DecidableEq, Repr

structure Outcome where
  value : String := ""
  contributions : List Contribution := []
  truncated : Bool := false
  deriving DecidableEq, Repr

namespace Outcome

/-- The outcome with one more contribution, its text behind the others. -/
def record (o : Outcome) (c : Contribution) : Outcome :=
  { o with value := o.value ++ c.text, contributions := o.contributions ++ [c] }

/-- The fields whose text is not empty. -/
def contributingFields (o : Outcome) : List String :=
  (o.contributions.filter (!·.text.isEmpty)).map Contribution.field

def length (o : Outcome) : Nat := o.value.length

def isEmpty (o : Outcome) : Bool := o.value.isEmpty

/-- The outcome with its value cut to a limit. -/
def limited (o : Outcome) (limit : Option Nat) (indicator : String) : Outcome :=
  match limit with
  | some n =>
    if n < o.length then { o with value := Text.cut o.value n indicator, truncated := true } else o
  | none => o

def contributionJson (c : Contribution) : Json :=
  .object [("field", .string c.field), ("source", .string c.source.jsonName),
    ("text", .string c.text)]

def toJson (o : Outcome) : Json :=
  .object [("value", .string o.value),
    ("contributions", .array (o.contributions.map contributionJson)),
    ("truncated", .bool o.truncated)]

end Outcome

end RecordNaming
