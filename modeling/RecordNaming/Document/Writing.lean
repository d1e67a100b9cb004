/-
  RecordNaming.Document.Writing — configurations as JSON: parts in the order in which they
  are declared, absent ones left out.
-/
import RecordNaming.Configuration
import RecordNaming.Json.Printer

namespace RecordNaming

namespace Document

/-- A part that may be absent. -/
def part {α : Type} (name : String) (value : Option α) (toJson : α → Json) : List (String × Json) :=
  match value with
  | some v => [(name, toJson v)]
  | none => []

end Document

open Document (part)

mutual

/-- A condition as JSON. -/
def Condition.toJson : Condition → Json
  | .group g children => .object [(g.name, .array (Condition.toJsonItems children))]
  | .compare field operator operand =>
    .object [("field", .string field), ("operator", .string operator.name),
      ("value", .string operand)]

def Condition.toJsonItems : List Condition → List Json
  | [] => []
  | c :: rest => c.toJson :: Condition.toJsonItems rest

end

/-- A whole number as JSON. -/
def intJson (n : Int) : Json := ((Json.Number.ofInt? n).map .number).getD .null

/-- The parts of a rule before and behind its alternate. -/
def FieldRule.parts (r : FieldRule) : List (String × Json) × List (String × Json) :=
  ([("field", .string r.field)] ++ part "type" r.type (.string ·.name) ++
    part "format" r.format .string ++ part "maxLength" r.maxLength (intJson ·.toNat) ++
    part "truncationIndicator" r.truncationIndicator .string ++ part "default" r.default .string ++
    part "prefix" r.leading .string ++ part "suffix" r.trailing .string ++
    part "timezoneOffsetHours" r.offsetHours (intJson ·.toInt),
   part "includeIf" r.includeIf Condition.toJson)

/-- A rule with these alternates, each within the one before it. -/
def FieldRule.toJson (r : FieldRule) : List FieldRule → Json
  | [] => .object (r.parts.1 ++ r.parts.2)
  | next :: rest => .object (r.parts.1 ++ ("alternateField", next.toJson rest) :: r.parts.2)

def RuleChain.toJson (c : RuleChain) : Json := c.first.toJson c.alternates

/-- A configuration as JSON. -/
def Configuration.toJson (c : Configuration) : Json :=
  .object (part "entity" c.entity .string ++ [("targetField", .string c.targetField)] ++
    part "maxLength" c.maxLength (intJson ·.toNat) ++ part "enableTracing" c.enableTracing .bool ++
    [("fields", .array (c.fields.map RuleChain.toJson))])

end RecordNaming
