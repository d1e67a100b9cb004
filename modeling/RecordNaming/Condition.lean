/-
  RecordNaming.Condition — conditions on a record: comparisons of a field with an operand,
  joined by "any of" and "all of".
-/
import RecordNaming.Text.Blank
import RecordNaming.Text.Casing

namespace RecordNaming

/-- What a comparison asks. -/
inductive Operator where
  | equals
  | notEquals
  | contains
  | notContains
  | isEmpty
  | isNotEmpty
  | greaterThan
  | lessThan
  deriving DecidableEq, Repr

namespace Operator

def all : List Operator :=
  [equals, notEquals, contains, notContains, isEmpty, isNotEmpty, greaterThan, lessThan]

/-- The name of an operator in documents. -/
def name : Operator → String
  | equals => "equals"
  | notEquals => "notEquals"
  | contains => "contains"
  | notContains => "notContains"
  | isEmpty => "isEmpty"
  | isNotEmpty => "isNotEmpty"
  | greaterThan => "greaterThan"
  | lessThan => "lessThan"

/-- A name as it is looked up: no blanks at its ends, no underscores, ASCII letters in lower
case. -/
def normalized (s : String) : String :=
  Text.asciiLower (String.ofList ((Text.trim s.toList).filter (· != '_')))

/-- The operator of this name. -/
def ofName? (s : String) : Option Operator := all.find? (Text.asciiLower ·.name == normalized s)

end Operator

/-- How a group joins its conditions. -/
inductive Group where
  /-- One condition holds at least; an empty group does not hold. -/
  | anyOf
  /-- All conditions hold; an empty group holds. -/
  | allOf
  deriving DecidableEq, Repr

/-- The name of a group in documents. -/
def Group.name : Group → String
  | anyOf => "anyOf"
  | allOf => "allOf"

inductive Condition where
  | group (g : Group) (children : List Condition)
  | compare (field : String) (operator : Operator) (operand : String)

namespace Condition

/-- The comparison for equality. -/
def equals (field operand : String) : Condition := .compare field .equals operand

mutual

/-- The nesting depth; a comparison counts as one. -/
def depth : Condition → Nat
  | .group _ children => 1 + deepest children
  | .compare _ _ _ => 1

/-- The greatest depth among conditions, 0 for none. -/
def deepest : List Condition → Nat
  | [] => 0
  | c :: rest => max c.depth (deepest rest)

end

mutual

/-- The fields that the comparisons read, in order and with repetitions. -/
def fields : Condition → List String
  | .group _ children => fieldsOfAll children
  | .compare field _ _ => [field]

def fieldsOfAll : List Condition → List String
  | [] => []
  | c :: rest => c.fields ++ fieldsOfAll rest

end

end Condition

end RecordNaming
