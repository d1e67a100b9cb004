/-
  RecordNaming.FieldType — the types a rule can declare for its field, and the type a value
  has when the rule declares none.
-/
import RecordNaming.FieldValue
import RecordNaming.Text.Casing

namespace RecordNaming

inductive FieldType where
  | string
  | lookup
  | date
  | dateTime
  | optionSet
  | number
  | currency
  | boolean
  deriving DecidableEq, Repr

namespace FieldType

def all : List FieldType := [string, lookup, date, dateTime, optionSet, number, currency, boolean]

/-- The name of a type in documents. -/
def name : FieldType → String
  | string => "string"
  | lookup => "lookup"
  | date => "date"
  | dateTime => "datetime"
  | optionSet => "optionset"
  | number => "number"
  | currency => "currency"
  | boolean => "boolean"

/-- The name as it is looked up: without blanks at its ends, ASCII letters in lower case. -/
def normalized (s : String) : String := Text.asciiLower (Text.trimmed s)

/-- The type of this name. -/
def ofName? (s : String) : Option FieldType := all.find? (·.name == normalized s)

/-- The type of a value whose rule declares none. -/
def infer : FieldValue → FieldType
  | .text _ => string
  | .whole _ => number
  | .decimal _ => number
  | .boolean _ => boolean
  | .timestamp _ => dateTime
  | .optionSet _ => optionSet
  | .money _ => currency
  | .lookup _ => lookup

/-- The declared type, else the one of the value. -/
def effective (declared : Option FieldType) (value : FieldValue) : FieldType :=
  declared.getD (infer value)

def isTemporal : FieldType → Bool
  | date => true
  | dateTime => true
  | _ => false

end FieldType

end RecordNaming
