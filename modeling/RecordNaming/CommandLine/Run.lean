/-
  RecordNaming.CommandLine.Run — what a command writes, given the variables of the process
  and the files it can see, and how the process ends. Settings are read before the command
  does anything, from the variables and from a file ".env", over which they stand. A failure
  ends the process with 1, arguments that fit no command with 2.
-/
import RecordNaming.CommandLine.Arguments
import RecordNaming.Configuration.References
import RecordNaming.EnvironmentFile
import RecordNaming.Loading

namespace RecordNaming.CommandLine

/-- Why a command fails. -/
inductive CommandError where
  | settings (e : SettingsError)
  | rule (e : RuleError)
  | unreadableRecord (path : String)
  | notANumber (text : String)
  | notAnInstant (text : String)

def CommandError.message : CommandError → String
  | settings _ => "reading engine settings"
  | rule e => e.message
  | unreadableRecord path => "reading record " ++ path
  | notANumber text => "not a number: " ++ text
  | notAnInstant text => "not a date/time: " ++ text

/-- What lies behind a failure, where its message does not say. -/
def CommandError.cause? : CommandError → Option String
  | settings e => some (NamingError.settings e).message
  | _ => none

/-- A failure as it is shown. -/
def CommandError.report (e : CommandError) : String :=
  "Error: " ++ e.message ++ (match e.cause? with
    | some cause => "\n\nCaused by:\n    " ++ cause
    | none => "")

/-- What a command writes to its two streams. -/
structure Output where
  stdout : String := ""
  stderr : String := ""

/-- A line of the standard output. -/
def line (text : String) : Output := { stdout := text ++ "\n" }

/-! ## Texts -/

/-- A text with blanks behind it up to a width. -/
def column (width : Nat) (text : String) : String := String.ofList (text.toList.rightpad width ' ')

def contributionLine (c : Contribution) : String :=
  "  " ++ column 24 c.field ++ " " ++ column 10 c.source.name ++ " " ++ Text.quoted c.text ++ "\n"

/-- What each rule contributed, under a line on the name. -/
def explanation (c : Configuration) (o : Outcome) : String :=
  "✔ Preview for " ++ c.targetField ++ " (" ++ toString o.length ++ " chars" ++
    (if o.truncated then ", truncated" else "") ++ ")\n" ++
    String.join (o.contributions.map contributionLine)

/-- What a preview writes of an outcome. -/
def Display.output (c : Configuration) (o : Outcome) : Display → Output
  | .json => line o.toJson.prettyText
  | .name => line o.value
  | .explained => { line o.value with stderr := explanation c o }

/-- The summary of a valid configuration. -/
def summary (c : Configuration) : String :=
  "✔ Configuration valid: " ++ toString c.fields.length ++ " rule(s), target field " ++
    c.targetField ++
    "\n" ++ (match c.entity with
      | some entity => "  Entity: " ++ entity ++ "\n"
      | none => "") ++
    "  Max length: " ++ (match c.outputLimit with
      | some limit => toString limit
      | none => "unlimited") ++ "\n"

def versionText : String := "NameBuilder v0.1.0"

/-! ## Commands -/

/-- A result about rules as a result of a command. -/
def orFail {α : Type} (r : Except RuleError α) : Except CommandError α :=
  match r with
  | .ok a => .ok a
  | .error e => .error (.rule e)

/-- The record at a path. -/
def readRecord (files : FileLookup) (path : String) : Except CommandError Record :=
  match (files path).bind FileEntry.text? with
  | some text => orFail (recordOr (Record.ofText text))
  | none => .error (.unreadableRecord path)

/-- The symbols given as arguments; the last of a currency stands. -/
def symbolTable (symbols : List (EntityId × String)) : SymbolTable :=
  symbols.foldl (fun t s => t.put s.1 s.2) .empty

def preview (files : FileLookup) (maxDepth : Nat) (configuration record : String)
    (symbols : List (EntityId × String)) (display : Display) : Except CommandError Output := do
  let c ← orFail (Configuration.load files configuration)
  let r ← readRecord files record
  let rules ← orFail (RuleSet.ofConfiguration c maxDepth)
  let outcome := (rules.evaluateCached (.ofTable (symbolTable symbols)) {} r).1
  pure (display.output c outcome)

/-- What a command writes under a limit on nesting. -/
def Command.run (files : FileLookup) (maxDepth : Nat) : Command → Except CommandError Output
  | .preview configuration record symbols display =>
    CommandLine.preview files maxDepth configuration record symbols display
  | .validate configuration => do
    let c ← orFail (Configuration.load files configuration)
    orFail (c.validate maxDepth)
    pure { stdout := summary c }
  | .fields configuration => do
    let c ← orFail (Configuration.load files configuration)
    pure { stdout := String.join (c.referencedFields.map (· ++ "\n")) }
  | .formatNumber value format =>
    match Decimal.parse? value with
    | some d => .ok (line (Numeral.format d (some format)))
    | none => .error (.notANumber value)
  | .formatDate value format offset =>
    match Instant.parse? value with
    | some t => .ok (line (t.format (some format) offset))
    | none => .error (.notAnInstant value)
  | .version => .ok (line versionText)

/-- The paths that a command reads. -/
def Command.paths : Command → List String
  | .preview configuration record _ _ => [configuration, record]
  | .validate configuration => [configuration]
  | .fields configuration => [configuration]
  | _ => []

/-- The file of variables. -/
def environmentPath : String := ".env"

/-- The beginning of the names of the variables that are settings. -/
def settingsStart : String := "NAMEBUILDER_"

/-- The settings of a process with these variables. -/
def settings (files : FileLookup) (vars : List (String × String)) : Except SettingsError Settings :=
  let vars := match (files environmentPath).bind FileEntry.leadingText? with
    | some text => EnvironmentFile.extend vars text
    | none => vars
  Settings.ofVariables settingsStart fun name => (vars.find? (·.1 == name)).map (·.2)

/-- Runs a command with the settings of the process. -/
def execute (files : FileLookup) (vars : List (String × String)) (command : Command) :
    Except CommandError Output :=
  match settings files vars with
  | .ok s => command.run files s.maxDepth
  | .error e => .error (.settings e)

/-! ## Processes -/

/-- How a process ends, and what it has written by then. -/
structure Exit where
  code : UInt32
  output : Output

/-- The end of a run; a failure is reported on the error stream. -/
def Exit.ofResult : Except CommandError Output → Exit
  | .ok output => ⟨0, output⟩
  | .error e => ⟨1, { stderr := e.report ++ "\n" }⟩

def usage : String :=
  "Usage: namebuilder [--log <LOG>] <preview|validate|fields|format|version> [OPTIONS]"

/-- The process of these arguments, with these variables. -/
def process (files : FileLookup) (vars : List (String × String)) (args : List String) : Exit :=
  match Command.ofArguments? args with
  | some command => .ofResult (execute files vars command)
  | none => ⟨2, { stderr := usage ++ "\n" }⟩

end RecordNaming.CommandLine
