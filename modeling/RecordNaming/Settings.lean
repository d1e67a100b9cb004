/-
  RecordNaming.Settings — the settings of a process, from environment variables whose names
  share a beginning: the runtime environment, the log level and the limit on nesting.
-/
import RecordNaming.Configuration.Validity
import RecordNaming.Text.Digits

namespace RecordNaming

inductive RuntimeEnvironment where
  | development
  | staging
  | production
  deriving DecidableEq, Repr

namespace RuntimeEnvironment

def name : RuntimeEnvironment → String
  | development => "Development"
  | staging => "Staging"
  | production => "Production"

/-- The environment of this name; any other name is development. -/
def ofName (s : String) : RuntimeEnvironment :=
  match Text.asciiLower s with
  | "production" | "prod" => production
  | "staging" | "stage" => staging
  | _ => development

end RuntimeEnvironment

structure Settings where
  environment : RuntimeEnvironment := .development
  logLevel : String := "info"
  maxDepth : Nat := Configuration.defaultMaxDepth
  deriving DecidableEq, Repr

/-- A variable whose value is not one of its values. -/
structure SettingsError where
  name : String
  value : String

def SettingsError.message (e : SettingsError) : String :=
  "invalid value for environment variable " ++ e.name ++ ": " ++ e.value

namespace Settings

/-- A limit on nesting: a whole number of 64 bits that is not zero, blanks around it. -/
def depth? (value : String) : Option Nat :=
  (Text.natUpTo? 18446744073709551615 (Text.trim value.toList)).filter (0 < ·)

/-- The variables that are settings. -/
def names (start : String) : List String := [start ++ "ENV", start ++ "LOG", start ++ "MAX_DEPTH"]

/-- The settings of variables whose names begin with `start`. -/
def ofVariables (start : String) (valueOf? : String → Option String) :
    Except SettingsError Settings := do
  let environment := ((valueOf? (start ++ "ENV")).map RuntimeEnvironment.ofName).getD .development
  let logLevel := (valueOf? (start ++ "LOG")).getD "info"
  let maxDepth ← match valueOf? (start ++ "MAX_DEPTH") with
    | none => .ok Configuration.defaultMaxDepth
    | some value =>
      match depth? value with
      | some n => .ok n
      | none => .error ⟨start ++ "MAX_DEPTH", value⟩
  pure ⟨environment, logLevel, maxDepth⟩

end Settings

end RecordNaming
