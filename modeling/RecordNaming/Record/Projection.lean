/-
  RecordNaming.Record.Projection — reading a record from a JSON object.

  The object is the attributes themselves, or an envelope with "attributes",
  "formattedValues" (labels) and "currencySymbol". Plain scalars are text, whole numbers,
  decimals and booleans, null is no attribute; the other kinds are objects with a "$type".
  The label in such an object stands over the one in "formattedValues".
-/
import RecordNaming.Json.Printer
import RecordNaming.Record
import RecordNaming.Text.Casing
import RecordNaming.Text.Quoted

namespace RecordNaming

/-- What can be wrong with a tagged value. -/
inductive TaggedDefect where
  | notANumber
  | numberOutOfRange
  | notAnOption
  | notAnInstant
  | notAnIdentifier
  | unknownTag (tag : String)

def TaggedDefect.message : TaggedDefect → String
  | notANumber => "expected a number"
  | numberOutOfRange => "number out of range"
  | notAnOption => "option set value must be a 32-bit integer"
  | notAnInstant => "timestamp value is not a recognised date/time"
  | notAnIdentifier => "lookup id must be a UUID"
  | unknownTag tag => "unknown value tag " ++ Text.quoted tag

/-- What can be wrong with a record. -/
inductive RecordDefect where
  /-- The text is no JSON. -/
  | malformed
  | notAnObject
  | labelsNotAnObject
  | symbolNotText
  | attributesNotAnObject
  | unsupportedShape (field : String)
  | tagged (field : String) (defect : TaggedDefect)

def RecordDefect.message : RecordDefect → String
  | malformed => "malformed JSON"
  | notAnObject => "record must be a JSON object"
  | labelsNotAnObject => "formattedValues must be a JSON object"
  | symbolNotText => "currencySymbol must be a string"
  | attributesNotAnObject => "attributes must be a JSON object"
  | unsupportedShape field => "attribute " ++ field ++ " has an unsupported shape"
  | tagged field defect => "attribute " ++ field ++ ": " ++ defect.message

namespace Record

/-- A decimal from a JSON number or a numeral in a string. -/
def decimalOf : Json → Except TaggedDefect Decimal
  | .number n => ((Decimal.readNumeral? n.digits).map .ok).getD (.error .numberOutOfRange)
  | .string s =>
      ((Decimal.readNumeral? (Text.trim s.toList)).map .ok).getD (.error .numberOutOfRange)
  | _ => .error .notANumber

/-- A whole number of 32 bits. -/
def int32Of? : Json → Option Int32
  | .number (.integer n _ _) =>
      if -2147483648 ≤ n ∧ n ≤ 2147483647 then some (Int32.ofInt n)
      else none
  | _ => none

/-- The value of an object with a tag. -/
def taggedValue (value : Json) : Except TaggedDefect FieldValue :=
  let tag := Text.asciiLower (((value.member? "$type").bind Json.string?).getD "")
  let payload := (value.member? "value").getD .null
  match tag with
  | "money" => (decimalOf payload).map .money
  | "decimal" => (decimalOf payload).map .decimal
  | "optionset" =>
    match int32Of? payload with
    | some code => .ok (.optionSet code)
    | none => .error .notAnOption
  | "datetime" | "date" =>
    match payload.string?.bind Instant.parse? with
    | some t => .ok (.timestamp t)
    | none => .error .notAnInstant
  | "lookup" =>
    match ((value.member? "id").bind Json.string?).bind EntityId.parse? with
    | some id =>
      .ok (.lookup ⟨id, (value.member? "logicalName").bind Json.string?,
        (value.member? "name").bind Json.string?⟩)
    | none => .error .notAnIdentifier
  | other => .error (.unknownTag other)

/-- The value of an attribute, and its label if a tagged value carries one. Null is no value. -/
def projectValue (field : String) (value : Json) :
    Except RecordDefect (Option (FieldValue × Option String)) :=
  match value with
  | .null => .ok none
  | .string s => .ok (some (.text s, none))
  | .bool b => .ok (some (.boolean b, none))
  | .number n =>
    match n.int64? with
    | some whole => .ok (some (.whole whole, none))
    | none =>
      match decimalOf value with
      | .ok d => .ok (some (.decimal d, none))
      | .error e => .error (.tagged field e)
  | .object _ =>
    if (value.member? "$type").isNone then .error (.unsupportedShape field)
    else
      match taggedValue value with
      | .ok v => .ok (some (v, (value.member? "label").bind Json.string?))
      | .error e => .error (.tagged field e)
  | .array _ => .error (.unsupportedShape field)

/-- Adds the attributes of an object. -/
def addAttributes (r : Record) : List (String × Json) → Except RecordDefect Record
  | [] => .ok r
  | (field, value) :: rest =>
    match projectValue field value with
    | .error e => .error e
    | .ok none => addAttributes r rest
    | .ok (some (v, label)) =>
      let labelled := match label with
        | some l => r.withLabel field l
        | none => r
      addAttributes (labelled.insert field v) rest

/-- The label a value of "formattedValues" stands for: text as it is, null for none, anything else
as its JSON text. -/
def labelOf? : Json → Option String
  | .string s => some s
  | .null => none
  | other => some other.compactText

/-- Adds the labels of an object. -/
def addLabels (r : Record) : List (String × Json) → Record
  | [] => r
  | (field, value) :: rest =>
    match labelOf? value with
    | some l => addLabels (r.withLabel field l) rest
    | none => addLabels r rest

/-- The labels of an envelope. -/
def readLabels (r : Record) : Option Json → Except RecordDefect Record
  | none => .ok r
  | some (.object labels) => .ok (addLabels r labels)
  | some _ => .error .labelsNotAnObject

/-- The currency symbol of an envelope. -/
def readSymbol (r : Record) : Option Json → Except RecordDefect Record
  | none => .ok r
  | some .null => .ok r
  | some (.string s) => .ok (r.withCurrencySymbol s)
  | some _ => .error .symbolNotText

/-- The record of a JSON value. -/
def ofJson (value : Json) : Except RecordDefect Record :=
  match value with
  | .object members =>
    match value.member? "attributes" with
    | none => addAttributes {} members
    | some (.object attributes) => do
      let r ← readLabels {} (value.member? "formattedValues")
      let r ← readSymbol r (value.member? "currencySymbol")
      addAttributes r attributes
    | some _ => .error .attributesNotAnObject
  | _ => .error .notAnObject

/-- The record of a JSON text. -/
def ofText (text : String) : Except RecordDefect Record :=
  match Json.parse? text with
  | some value => ofJson value
  | none => .error .malformed

end Record

end RecordNaming
