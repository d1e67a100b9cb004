/-
  RecordNaming.Configuration.Validity — the defects of a configuration: fields without a
  name and nesting beyond a limit. The first one in document order is reported: a rule,
  then its condition, then its alternate; at one place depth before names.
-/
import RecordNaming.Configuration
import RecordNaming.RuleError

namespace RecordNaming

mutual

/-- Checks a condition at a depth. -/
def Condition.check (limit : Nat) (path : DefectPath) (depth : Nat) :
    Condition → Except RuleError Unit
  | .compare field _ _ =>
    if limit < depth then .error (.depthExceeded limit path)
    else if Text.allBlank field then .error .emptyCondition
    else .ok ()
  | .group g children =>
    if limit < depth then .error (.depthExceeded limit path)
    else checkChildren limit path g 0 (depth + 1) children

/-- Checks the conditions of a group from an index on. -/
def Condition.checkChildren (limit : Nat) (path : DefectPath) (g : Group) (index depth : Nat) :
    List Condition → Except RuleError Unit
  | [] => .ok ()
  | c :: rest =>
    match Condition.check limit (path ++ [.child g index]) depth c with
    | .error e => .error e
    | .ok () => checkChildren limit path g (index + 1) depth rest

end

/-- Checks a rule at a depth, its alternates aside. -/
def FieldRule.check (limit : Nat) (path : DefectPath) (depth : Nat) (r : FieldRule) :
    Except RuleError Unit :=
  if limit < depth then .error (.depthExceeded limit path)
  else if Text.allBlank r.field then .error (.emptyFieldName path)
  else
    match r.includeIf with
    | some c => c.check limit (path ++ [.includeIf]) (depth + 1)
    | none => .ok ()

/-- Checks rules that stand in for one another, from a depth on. -/
def FieldRule.checkChain (limit : Nat) (path : DefectPath) (depth : Nat) :
    List FieldRule → Except RuleError Unit
  | [] => .ok ()
  | r :: rest =>
    match r.check limit path depth with
    | .error e => .error e
    | .ok () => checkChain limit (path ++ [.alternate]) (depth + 1) rest

/-- Checks the rules of a document from an index on. -/
def RuleChain.checkAll (limit : Nat) (index : Nat) : List RuleChain → Except RuleError Unit
  | [] => .ok ()
  | chain :: rest =>
    match FieldRule.checkChain limit [.rule index] 1 chain.rules with
    | .error e => .error e
    | .ok () => checkAll limit (index + 1) rest

namespace Configuration

/-- The limit on nesting when none is set. -/
def defaultMaxDepth : Nat := 32

/-- The first defect under a limit on nesting. -/
def validate (c : Configuration) (maxDepth : Nat) : Except RuleError Unit :=
  RuleChain.checkAll maxDepth 0 c.fields

end Configuration

end RecordNaming
