/-
  RecordNaming.FieldValue — the values of a record's attributes and what they are read as:
  a number, an instant, a text.
-/
import RecordNaming.Decimal.Numeral
import RecordNaming.EntityId
import RecordNaming.Instant.Pattern
import RecordNaming.Instant.Reading

namespace RecordNaming

/-- A reference to another business object, with the names that came with it. -/
structure EntityReference where
  id : EntityId
  logicalName : Option String := none
  name : Option String := none
  deriving DecidableEq

/-- The value of an attribute. An absent attribute has none. -/
inductive FieldValue where
  | text (s : String)
  | whole (n : Int64)
  | decimal (d : Decimal)
  | boolean (b : Bool)
  | timestamp (t : Instant)
  /-- The code of an option; its label is kept beside the record's attributes. -/
  | optionSet (code : Int32)
  | money (amount : Decimal)
  | lookup (reference : EntityReference)
  deriving DecidableEq

namespace FieldValue

/-- Only blank text is empty. -/
def isEmpty : FieldValue → Bool
  | text s => Text.allBlank s
  | _ => false

/-- The value as a number. -/
def decimal? : FieldValue → Option Decimal
  | text s => Decimal.parse? s
  | whole n => some (.ofInt64 n)
  | decimal d => some d
  | optionSet code => some (.ofInt32 code)
  | money amount => some amount
  | boolean _ => none
  | timestamp _ => none
  | lookup _ => none

/-- The value as an instant. -/
def instant? : FieldValue → Option Instant
  | text s => Instant.parse? s
  | timestamp t => some t
  | _ => none

def intText (n : Int) : String := String.ofList (Text.intDigits n)

/-- The value as a text, when nothing says otherwise. -/
def defaultText : FieldValue → String
  | text s => s
  | whole n => intText n.toInt
  | decimal d => d.text
  | boolean true => "True"
  | boolean false => "False"
  | timestamp t => t.defaultText
  | optionSet code => intText code.toInt
  | money amount => amount.text
  | lookup reference => reference.name.getD reference.id.text

end FieldValue

end RecordNaming
