/-
  RecordNaming.Loading — configurations and records from files and texts, and the name that
  a pair of texts gives. A path that ends in "yaml" or "yml" is YAML, any other is JSON.
-/
import RecordNaming.Document.Configuration
import RecordNaming.Files
import RecordNaming.RuleSet
import RecordNaming.Settings
import RecordNaming.Yaml.Reader
import RecordNaming.Yaml.Unfolding

namespace RecordNaming

/-! ## YAML -/

/-- The configuration of a YAML document: it is written out or a bare list of rules. -/
def Configuration.ofYaml? (n : Yaml.Node) : Option Configuration :=
  let written := (n.withoutAliases? .configuration).bind fun n =>
    (Document.readConfiguration (Yaml.maxOpen + 1) n).toOption
  let listed := (n.withoutAliases? .rules).bind fun n =>
    (Document.readRules (Yaml.maxOpen + 1) n).toOption
  written <|> listed.map fun rules => { fields := rules }

/-- The configuration of a YAML text. -/
def Configuration.ofYamlText (source text : String) : Except RuleError Configuration :=
  match (Yaml.read? text.toList).bind ofYaml? with
  | some c => .ok c
  | none => .error (Document.malformedText source)

/-! ## Files -/

/-- The last part of a path. -/
def fileName (path : String) : List Char :=
  (path.toList.reverse.takeWhile (· != '/')).reverse

/-- What is behind the last point of a file name. A point in front starts no extension. -/
def extension? (path : String) : Option String :=
  let name := (fileName path).reverse
  let ending := name.takeWhile (· != '.')
  if ending.length + 1 < name.length && name != ['.', '.'] then some (String.ofList ending.reverse)
  else none

/-- A path that is read as YAML. -/
def isYamlPath (path : String) : Bool :=
  match extension? path with
  | some e => Text.asciiLower e == "yaml" || Text.asciiLower e == "yml"
  | none => false

/-- The configuration at a path. -/
def Configuration.load (files : FileLookup) (path : String) : Except RuleError Configuration :=
  match files path with
  | none => .error (.missingPath path)
  | some .directory => .error (.malformedDocument path "expected a file, found a directory")
  | some entry =>
    match entry.text? with
    | none => .error (.unreadableFile path)
    | some text => if isYamlPath path then ofYamlText path text else ofJsonText path text

/-- The rule set at a path. -/
def RuleSet.load (files : FileLookup) (path : String) (maxDepth : Nat) :
    Except RuleError RuleSet := do
  RuleSet.ofConfiguration (← Configuration.load files path) maxDepth

/-! ## Previews -/

/-- What can be wrong before a name is made, by whose fault it is. -/
inductive NamingError where
  | file (path : String)
  | document (e : RuleError)
  | record (defect : RecordDefect)
  | settings (e : SettingsError)

namespace NamingError

def ofRuleError : RuleError → NamingError
  | .unreadableFile path => file path
  | .invalidRecord defect => record defect
  | e => document e

def message : NamingError → String
  | file path => "I/O error: " ++ path
  | document e => "invalid rule document: " ++ e.message
  | record defect => "invalid record: " ++ defect.message
  | settings e => "settings error: " ++ e.message

end NamingError

/-- The name that a configuration makes of a record, without currency symbols from elsewhere. -/
def nameOf (c : Configuration) (r : Record) : Except RuleError String :=
  (RuleSet.ofConfiguration c Configuration.defaultMaxDepth).map fun rules => rules.build .none r

/-- A record read, as a result about rules. -/
def recordOr (r : Except RecordDefect Record) : Except RuleError Record :=
  match r with
  | .ok r => .ok r
  | .error defect => .error (.invalidRecord defect)

/-- The name for a configuration and a record that have been read, the first error else. -/
def preview (c : Except RuleError Configuration) (r : Except RecordDefect Record) :
    Except NamingError String :=
  match (do nameOf (← c) (← recordOr r)) with
  | .ok name => .ok name
  | .error e => .error (.ofRuleError e)

/-- The name for two JSON texts. -/
def previewText (configuration record : String) : Except NamingError String :=
  preview (Configuration.ofJsonText inlineSource configuration) (Record.ofText record)

/-- The name for two JSON values. -/
def previewJson (configuration record : Json) : Except NamingError String :=
  preview (Configuration.ofJson configuration) (Record.ofJson record)

end RecordNaming
