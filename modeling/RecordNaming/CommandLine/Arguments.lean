/-
  RecordNaming.CommandLine.Arguments — the commands, and the argument lists that ask for them.
  Options stand anywhere behind their command; a value that begins with a hyphen must be behind
  two hyphens or after an equals sign.
-/
import RecordNaming.EntityId
import RecordNaming.Text.Blank
import RecordNaming.Text.Digits

namespace RecordNaming.CommandLine

/-- How a preview shows its outcome. -/
inductive Display where
  /-- The name alone. -/
  | name
  /-- The name, and what each rule contributed on the error stream. -/
  | explained
  /-- The outcome as JSON. -/
  | json
  deriving DecidableEq, Repr

inductive Command where
  | preview (configuration record : String) (symbols : List (EntityId × String)) (display : Display)
  | validate (configuration : String)
  | fields (configuration : String)
  | formatNumber (value format : String)
  | formatDate (value format : String) (offset : Option Int32)
  | version

/-! ## Options -/

structure OptionSpec where
  name : String
  takesValue : Bool := true
  /-- A value may begin with a hyphen. -/
  hyphens : Bool := false
  /-- The option may be given more than once. -/
  many : Bool := false

/-- The option of the log level, which every command has. -/
def logOption : OptionSpec := { name := "--log" }

/-- An argument that is an option rather than a value. -/
def isOption (arg : String) : Bool := arg.startsWith "-" && arg != "-"

/-- The name of an option and the value attached to it. -/
def splitOption (arg : String) : String × Option String :=
  let cs := arg.toList
  match cs.dropWhile (· != '=') with
  | [] => (arg, none)
  | _ :: value => (String.ofList (cs.takeWhile (· != '=')), some (String.ofList value))

/-- The options and the other arguments of a list. -/
structure Scanned where
  options : List (String × String) := []
  values : List String := []

def Scanned.withOption (s : Scanned) (name value : String) : Scanned :=
  { s with options := (name, value) :: s.options }

def Scanned.withValue (s : Scanned) (value : String) : Scanned :=
  { s with values := value :: s.values }

/-- Splits a list of arguments, if its options are among these. -/
def scan (specs : List OptionSpec) : List String → Option Scanned
  | [] => some {}
  | "--" :: rest => some { values := rest }
  | [arg] =>
    if isOption arg then
      let (name, attached) := splitOption arg
      match specs.find? (·.name == name), attached with
      | some spec, some value =>
          if spec.takesValue then some (Scanned.withOption {} name value)
          else none
      | some spec, none => if spec.takesValue then none else some (Scanned.withOption {} name "")
      | none, _ => none
    else some { values := [arg] }
  | arg :: next :: rest =>
    if isOption arg then
      let (name, attached) := splitOption arg
      match specs.find? (·.name == name), attached with
      | some spec, some value =>
        if spec.takesValue then (scan specs (next :: rest)).map (·.withOption name value) else none
      | some spec, none =>
        if spec.takesValue then
          if isOption next && !spec.hyphens then none
          else (scan specs rest).map (·.withOption name next)
        else (scan specs (next :: rest)).map (·.withOption name "")
      | none, _ => none
    else (scan specs (next :: rest)).map (·.withValue arg)

/-- No option is given twice that may be given once. -/
def Scanned.admits (s : Scanned) (specs : List OptionSpec) : Bool :=
  specs.all fun spec => spec.many || s.options.countP (·.1 == spec.name) ≤ 1

/-- The arguments of a command with these options. -/
def scanned? (specs : List OptionSpec) (args : List String) : Option Scanned :=
  (scan (logOption :: specs) args).filter (·.admits (logOption :: specs))

def Scanned.option? (s : Scanned) (name : String) : Option String :=
  (s.options.find? (·.1 == name)).map (·.2)

def Scanned.has (s : Scanned) (name : String) : Bool := (s.option? name).isSome

/-- The value of an option that names a path; it is required and not empty. -/
def Scanned.path? (s : Scanned) (name : String) : Option String :=
  (s.option? name).filter (!·.isEmpty)

/-! ## Values -/

/-- A currency and its symbol, joined by an equals sign. -/
def symbol? (text : String) : Option (EntityId × String) :=
  let cs := text.toList
  match cs.dropWhile (· != '=') with
  | [] => none
  | _ :: symbol =>
    (EntityId.parse? (String.ofList (Text.trim (cs.takeWhile (· != '='))))).map fun id =>
      (id, String.ofList symbol)

/-- A whole number of 32 bits. -/
def int32? (text : String) : Option Int32 :=
  match text.toList with
  | '-' :: digits =>
    ((Text.nat? digits).filter (· ≤ 2147483648)).map fun n => Int32.ofInt (-(n : Int))
  | cs => (Text.natUpTo? 2147483647 cs).map fun n => Int32.ofInt n

/-! ## Commands -/

def configOption : OptionSpec := { name := "--config" }

def previewOptions : List OptionSpec :=
  [configOption, { name := "--record" }, { name := "--currency", many := true },
    { name := "--explain", takesValue := false }, { name := "--json", takesValue := false }]

def preview? (args : List String) : Option Command := do
  let s ← scanned? previewOptions args
  let configuration ← s.path? "--config"
  let record ← s.path? "--record"
  let symbols ← ((s.options.filter (·.1 == "--currency")).map (·.2)).mapM symbol?
  if !s.values.isEmpty || (s.has "--explain" && s.has "--json") then none
  else
    pure (.preview configuration record symbols
      (if s.has "--explain" then .explained else if s.has "--json" then .json else .name))

def configuration? (args : List String) : Option String := do
  let s ← scanned? [configOption] args
  if s.values.isEmpty then s.path? "--config" else none

/-- The command of the arguments behind "format". -/
def format? (args : List String) : Option Command := do
  match args with
  | "number" :: rest =>
    let s ← scanned? [] rest
    match s.values with
    | [value, format] => pure (.formatNumber value format)
    | _ => none
  | "date" :: rest =>
    let s ← scanned? [{ name := "--offset", hyphens := true }] rest
    let offset ← match s.option? "--offset" with
      | some text => (int32? text).map some
      | none => some none
    match s.values with
    | [value, format] => pure (.formatDate value format offset)
    | _ => none
  | _ => none

/-- The arguments without a log level in front. -/
def skipLog (args : List String) : Option (List String) :=
  match args with
  | [] => some []
  | "--log" :: value :: rest => if isOption value then none else some rest
  | arg :: rest =>
      if (splitOption arg).1 == "--log" then (splitOption arg).2.map fun _ => rest
      else some args

/-- The command that arguments ask for; nothing if they do not fit any. -/
def Command.ofArguments? (args : List String) : Option Command := do
  match ← skipLog args with
  | "preview" :: rest => preview? rest
  | "validate" :: rest => (configuration? rest).map .validate
  | "fields" :: rest => (configuration? rest).map .fields
  | "format" :: rest => format? (← skipLog rest)
  | "version" :: rest =>
    let s ← scanned? [] rest
    if s.values.isEmpty then pure .version else none
  | _ => none

end RecordNaming.CommandLine
