/-
  RecordNaming.Document.Configuration — configurations read from documents.

  A document is a configuration or, failing that, a bare list of rules; the error of the
  first attempt is the one reported. A condition has exactly one shape: a field that is
  not blank, "anyOf" or "allOf".
-/
import RecordNaming.Configuration
import RecordNaming.Document.Reading
import RecordNaming.Json.Reader

namespace RecordNaming.Document

/-! ## Conditions -/

/-- The parts of a condition as they are read. -/
structure ConditionDraft where
  field : Option String := none
  operator : Option Operator := none
  operand : Option String := none
  anyOf : Option (List Condition) := none
  allOf : Option (List Condition) := none

def conditionNames : List String := ["field", "operator", "value", "anyOf", "allOf"]

/-- The names of the shapes that are there. -/
def ConditionDraft.shapes (d : ConditionDraft) : List String :=
  (if d.anyOf.isSome then ["anyOf"] else []) ++ (if d.allOf.isSome then ["allOf"] else []) ++
    (if (Text.nonBlank? d.field).isSome then ["field"] else [])

/-- The condition of these parts, if they have one shape. -/
def ConditionDraft.finish (d : ConditionDraft) : Except RuleError Condition :=
  if 1 < d.shapes.length then .error (.conflictingCondition d.shapes)
  else
    match d.anyOf, d.allOf, Text.nonBlank? d.field with
    | some children, _, _ => .ok (.group .anyOf children)
    | _, some children, _ => .ok (.group .allOf children)
    | _, _, some field => .ok (.compare field (d.operator.getD .equals) (d.operand.getD ""))
    | _, _, _ => .error .emptyCondition

def readOperator (n : Node) : Except DocumentError Operator := do
  let name ← n.readText
  ((Operator.ofName? name).map .ok).getD (.error (.rule (.unknownOperator name)))

/-- Sets a part of a condition; `children` reads the conditions of a group. -/
def ConditionDraft.set (levels : Nat) (children : Node → Except DocumentError (List Condition))
    (d : ConditionDraft) (name : String) (value : Node) : Except DocumentError ConditionDraft :=
  match name with
  | "field" => (value.readOptional Node.readText).map fun v => { d with field := v }
  | "operator" => (value.readOptional readOperator).map fun v => { d with operator := v }
  | "value" =>
      (value.readOptional (Node.readOperand levels)).map fun v => { d with operand := v }
  | "anyOf" => (value.readOptional children).map fun v => { d with anyOf := v }
  | "allOf" => (value.readOptional children).map fun v => { d with allOf := v }
  | _ => .ok d

mutual

/-- Reads a condition with at most `levels` arrays and objects open. -/
def readCondition : Nat → Node → Except DocumentError Condition
  | 0, n => .error (n.tooDeep "struct RawCondition")
  | levels + 1, n => do
    let draft ← readStructure "struct RawCondition" conditionNames
      (ConditionDraft.set levels (readConditions levels)) {} n
    match draft.finish with
    | .ok c => .ok c
    | .error e => .error (.rule e)

def readConditions : Nat → Node → Except DocumentError (List Condition)
  | 0, n => .error (n.tooDeep "a sequence")
  | levels + 1, n => readSequence (readCondition levels) n

end

/-! ## Rules -/

/-- The parts of a rule as they are read. -/
structure RuleDraft where
  field : Option String := none
  rule : FieldRule := { field := "" }
  alternate : Option RuleChain := none

def ruleNames : List String :=
  ["field", "type", "format", "maxLength", "truncationIndicator", "default", "prefix", "suffix",
    "timezoneOffsetHours", "alternateField", "includeIf"]

/-- The chain of these parts; the alternate's chain follows the rule. -/
def RuleDraft.finish (d : RuleDraft) (n : Node) : Except DocumentError RuleChain :=
  match d.field, n with
  | some field, _ =>
    .ok ⟨{ d.rule with field }, match d.alternate with
      | some chain => chain.rules
      | none => []⟩
  | none, .sequence items => .error (.tooFewItems items.length "struct FieldRule with 11 elements")
  | none, _ => .error (.missingField "field")

def readFieldType (n : Node) : Except DocumentError FieldType := do
  let name ← n.readText
  ((FieldType.ofName? name).map .ok).getD
    (.error (.rule (.unknownFieldType (FieldType.normalized name))))

/-- Sets a part of a rule; `chain` reads its alternate and `condition` its condition. -/
def RuleDraft.set (chain : Node → Except DocumentError RuleChain)
    (condition : Node → Except DocumentError Condition) (d : RuleDraft) (name : String)
    (value : Node) : Except DocumentError RuleDraft :=
  let text := Node.readOptional Node.readText
  match name with
  | "field" => value.readText.map fun v => { d with field := some v }
  | "type" => (value.readOptional readFieldType).map fun v => { d with rule.type := v }
  | "format" => (text value).map fun v => { d with rule.format := v }
  | "maxLength" =>
      (value.readOptional Node.readUInt64).map fun v => { d with rule.maxLength := v }
  | "truncationIndicator" => (text value).map fun v => { d with rule.truncationIndicator := v }
  | "default" => (text value).map fun v => { d with rule.default := v }
  | "prefix" => (text value).map fun v => { d with rule.leading := v }
  | "suffix" => (text value).map fun v => { d with rule.trailing := v }
  | "timezoneOffsetHours" =>
    (value.readOptional Node.readInt32).map fun v => { d with rule.offsetHours := v }
  | "alternateField" => (value.readOptional chain).map fun v => { d with alternate := v }
  | "includeIf" => (value.readOptional condition).map fun v => { d with rule.includeIf := v }
  | _ => .ok d

/-- Reads a rule and its alternates with at most `levels` arrays and objects open. -/
def readRule : Nat → Node → Except DocumentError RuleChain
  | 0, n => .error (n.tooDeep "struct FieldRule")
  | levels + 1, n => do
    let draft ← readStructure "struct FieldRule" ruleNames
      (RuleDraft.set (readRule levels) (readCondition levels)) {} n
    draft.finish n

def readRules : Nat → Node → Except DocumentError (List RuleChain)
  | 0, n => .error (n.tooDeep "a sequence")
  | levels + 1, n => readSequence (readRule levels) n

/-! ## Configurations -/

def configurationNames : List String :=
  ["entity", "targetField", "maxLength", "enableTracing", "fields"]

/-- Sets a part of a configuration; `rules` reads its rules. -/
def setConfiguration (rules : Node → Except DocumentError (List RuleChain)) (c : Configuration)
    (name : String) (value : Node) : Except DocumentError Configuration :=
  match name with
  | "entity" => (value.readOptional Node.readText).map fun v => { c with entity := v }
  | "targetField" => value.readText.map fun v => { c with targetField := v }
  | "maxLength" => (value.readOptional Node.readUInt64).map fun v => { c with maxLength := v }
  | "enableTracing" =>
      (value.readOptional Node.readBool).map fun v => { c with enableTracing := v }
  | "fields" => (rules value).map fun v => { c with fields := v }
  | _ => .ok c

/-- Reads a configuration with at most `levels` arrays and objects open. -/
def readConfiguration : Nat → Node → Except DocumentError Configuration
  | 0, n => .error (n.tooDeep "struct Configuration")
  | levels + 1, n =>
    readStructure "struct Configuration" configurationNames (setConfiguration (readRules levels)) {} n

/-- What was tried, at the end of a message. -/
def attempts : String := " (tried [\"configuration document\", \"field list\"])"

/-- The configuration of a node. `source` says in messages where it is from. -/
def configurationOfNode (source : String) (inText : Bool) (levels : Nat) (n : Node) :
    Except RuleError Configuration :=
  match readConfiguration levels n with
  | .ok c => .ok c
  | .error e =>
    match readRules levels n with
    | .ok rules => .ok { fields := rules }
    | .error _ => .error (.malformedDocument source (e.message inText ++ attempts))

/-- The error of a text that is not in its format. -/
def malformedText (source : String) : RuleError :=
  .malformedDocument source (DocumentError.malformed.message true ++ attempts)

mutual

/-- The arrays and objects open at once in a value. -/
def height : Json → Nat
  | .array items => 1 + heightOfItems items
  | .object members => 1 + heightOfMembers members
  | _ => 0

def heightOfItems : List Json → Nat
  | [] => 0
  | item :: rest => max (height item) (heightOfItems rest)

def heightOfMembers : List (String × Json) → Nat
  | [] => 0
  | (_, value) :: rest => max (height value) (heightOfMembers rest)

end

end RecordNaming.Document

namespace RecordNaming

open Document

/-- The name of what is not a file. -/
def inlineSource : String := "<inline>"

/-- The configuration of a JSON value. -/
def Configuration.ofJson (value : Json) : Except RuleError Configuration :=
  configurationOfNode inlineSource false (height value) (Node.ofJson value)

/-- The configuration of a JSON text. -/
def Configuration.ofJsonText (source text : String) : Except RuleError Configuration :=
  match Json.read? text.toList with
  | some n => configurationOfNode source true Json.maxOpen n
  | none => .error (malformedText source)

/-- The condition of a JSON value. -/
def Condition.ofJson (value : Json) : Except DocumentError Condition :=
  readCondition (height value) (Node.ofJson value)

/-- The condition of a JSON text. -/
def Condition.ofJsonText (text : String) : Except DocumentError Condition :=
  match Json.read? text.toList with
  | some n => readCondition Json.maxOpen n
  | none => .error .malformed

/-- The rule and its alternates of a JSON value. -/
def RuleChain.ofJson (value : Json) : Except DocumentError RuleChain :=
  readRule (height value) (Node.ofJson value)

end RecordNaming
