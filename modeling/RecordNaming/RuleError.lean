/-
  RecordNaming.RuleError — what can be wrong with a configuration or a record, and the
  place of a defect within a configuration.
-/
import RecordNaming.Condition
import RecordNaming.Record.Projection

namespace RecordNaming

/-- A step from a part of a configuration to a part of that. -/
inductive PathStep where
  /-- From the document to one of its rules. -/
  | rule (index : Nat)
  /-- From a rule to its alternate. -/
  | alternate
  /-- From a rule to its condition. -/
  | includeIf
  /-- From a group to one of its conditions. -/
  | child (g : Group) (index : Nat)
  deriving DecidableEq, Repr

/-- The way from the document to one of its parts. -/
abbrev DefectPath := List PathStep

def PathStep.text : PathStep → String
  | rule index => "fields[" ++ toString index ++ "]"
  | alternate => "alternateField"
  | includeIf => "includeIf"
  | child g index => g.name ++ "[" ++ toString index ++ "]"

/-- The steps with points between them. -/
def DefectPath.text (path : DefectPath) : String := ".".intercalate (path.map PathStep.text)

inductive RuleError where
  | missingPath (path : String)
  | unreadableFile (path : String)
  | malformedDocument (path message : String)
  | emptyFieldName (path : DefectPath)
  | conflictingCondition (shapes : List String)
  | emptyCondition
  | unknownOperator (name : String)
  | unknownFieldType (name : String)
  | depthExceeded (limit : Nat) (path : DefectPath)
  | invalidRecord (defect : RecordDefect)

def RuleError.message : RuleError → String
  | missingPath path => "configuration path does not exist: " ++ path
  | unreadableFile path => "failed to read configuration from " ++ path
  | malformedDocument path message =>
      "failed to parse configuration from " ++ path ++ ": " ++ message
  | emptyFieldName path => "field rule at " ++ path.text ++ " has an empty field name"
  | conflictingCondition shapes =>
    "condition populates more than one shape: " ++ ", ".intercalate shapes
  | emptyCondition => "condition has no field, anyOf or allOf"
  | unknownOperator name => "unknown condition operator: " ++ name
  | unknownFieldType name => "unknown field type: " ++ name
  | depthExceeded limit path =>
    "nesting deeper than " ++ toString limit ++ " levels at " ++ path.text ++
      "; alternate fields or conditions may be cyclic"
  | invalidRecord defect => "invalid record: " ++ defect.message

end RecordNaming
