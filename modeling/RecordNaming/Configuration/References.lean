/-
  RecordNaming.Configuration.References — the fields a configuration reads: those of its
  rules, of their alternates and of the conditions on any of them, and the currency
  reference if a rule is declared as currency. Names that differ in case only are one
  field, spelled as it is met first; the list is in the order of the lower-case names.
-/
import RecordNaming.Configuration
import RecordNaming.Record

namespace RecordNaming

/-- The field of a rule and the fields of its condition. -/
def FieldRule.fields (r : FieldRule) : List String :=
  r.field :: match r.includeIf with
    | some c => c.fields
    | none => []

namespace Configuration

/-- Every rule and alternate in document order. -/
def allRules (c : Configuration) : List FieldRule := c.fields.flatMap RuleChain.rules

/-- The fields read, in document order and with repetitions. -/
def mentionedFields (c : Configuration) : List String :=
  c.allRules.flatMap FieldRule.fields ++
    (if c.allRules.any (·.type == some .currency) then [Record.currencyField] else [])

/-- The names without those that equal an earlier one, case aside. -/
def firstSpellings (seen : List String) : List String → List String
  | [] => []
  | name :: rest =>
    let key := Text.lower name
    if seen.contains key then firstSpellings seen rest
    else name :: firstSpellings (key :: seen) rest

/-- The fields read, each once, in the order of the lower-case names. -/
def referencedFields (c : Configuration) : List String :=
  (firstSpellings [] (c.mentionedFields.filter (!Text.allBlank ·))).mergeSort
    fun a b => !(Text.lower b < Text.lower a)

end Configuration

end RecordNaming
