/-
  RecordNaming.Condition.Evaluation — whether a condition holds of a record. It always has
  an answer: operands that do not fit a value are compared as text.

  A field is compared by its candidate texts; order is decided by numbers if both sides
  are numbers, else by instants if both are, else by the upper case of the first
  candidate and of the operand.
-/
import RecordNaming.Condition
import RecordNaming.Record

namespace RecordNaming

/-- What a field offers to comparisons. -/
structure Comparand where
  present : Bool := false
  number : Option Decimal := none
  instant : Option Instant := none
  candidates : List String := []

namespace Comparand

/-- What a value offers, given the label of its field unless that is blank. -/
def ofValue (label : Option String) (value : FieldValue) : Comparand :=
  match value with
  | .text s => ⟨true, Decimal.parse? s, Instant.parse? s, [s]⟩
  | .lookup reference =>
    ⟨true, none, none, (Text.nonBlank? reference.name).toList ++ [reference.id.text]⟩
  | .optionSet code =>
    ⟨true, some (.ofInt32 code), none, label.toList ++ [FieldValue.intText code.toInt]⟩
  | .money amount => ⟨true, some amount, none, label.toList ++ [amount.text]⟩
  | .timestamp t => ⟨true, none, some t, [t.roundTripText]⟩
  | .boolean b => ⟨true, some (if b then .one else .zero), none, [if b then "true" else "false"]⟩
  | .whole n => ⟨true, some (.ofInt64 n), none, [value.defaultText]⟩
  | .decimal d => ⟨true, some d, none, [value.defaultText]⟩

/-- What a field of a record offers. -/
def ofField (r : Record) (field : String) : Comparand :=
  match r.get? field with
  | some value => ofValue (r.shownLabel? field) value
  | none => {}

/-- No candidate has anything but blanks. -/
def isEmpty (c : Comparand) : Bool := !c.present || c.candidates.all Text.allBlank

/-- Some candidate passes; an absent field is the empty candidate. -/
def anyCandidate (c : Comparand) (test : String → Bool) : Bool :=
  if c.candidates.isEmpty then test "" else c.candidates.any test

/-- The order of two strings by code points. -/
def textOrder (a b : String) : Ordering := if a < b then .lt else if a = b then .eq else .gt

/-- The order of a field and an operand. -/
def order (c : Comparand) (operand : String) : Ordering :=
  match c.number, Decimal.parse? operand with
  | some n, some target => n.cmp target
  | _, _ =>
    match c.instant, Instant.parse? operand with
    | some t, some target => t.cmp target
    | _, _ => textOrder (Text.upper (c.candidates.headD "")) (Text.upper operand)

/-- Whether a comparison with an operand holds. -/
def satisfies (c : Comparand) (operator : Operator) (operand : String) : Bool :=
  match operator with
  | .equals => c.anyCandidate (Text.eqIgnoringCase · operand)
  | .notEquals => !c.anyCandidate (Text.eqIgnoringCase · operand)
  | .contains => c.anyCandidate (Text.containsIgnoringCase · operand)
  | .notContains => !c.anyCandidate (Text.containsIgnoringCase · operand)
  | .isEmpty => c.isEmpty
  | .isNotEmpty => !c.isEmpty
  | .greaterThan => c.order operand == .gt
  | .lessThan => c.order operand == .lt

end Comparand

namespace Condition

mutual

/-- Whether a condition holds of a record. -/
def holds (r : Record) : Condition → Bool
  | .group .anyOf children => anyHolds r children
  | .group .allOf children => allHold r children
  | .compare field operator operand => (Comparand.ofField r field).satisfies operator operand

def anyHolds (r : Record) : List Condition → Bool
  | [] => false
  | c :: rest => c.holds r || anyHolds r rest

def allHold (r : Record) : List Condition → Bool
  | [] => true
  | c :: rest => c.holds r && allHold r rest

end

end Condition

end RecordNaming
