/-
  RecordNaming.Record — a snapshot of one business object: its attributes, the labels of
  coded attributes and a currency symbol known in advance.
-/
import RecordNaming.FieldValue
import RecordNaming.Table

namespace RecordNaming

structure Record where
  attributes : Table String FieldValue := .empty
  labels : Table String String := .empty
  currencySymbol : Option String := none

namespace Record

/-- The attribute that refers to the currency of the record. -/
def currencyField : String := "transactioncurrencyid"

def get? (r : Record) (field : String) : Option FieldValue := r.attributes.get? field

def label? (r : Record) (field : String) : Option String := r.labels.get? field

/-- The label of a field, if it is not blank. -/
def shownLabel? (r : Record) (field : String) : Option String := Text.nonBlank? (r.label? field)

def size (r : Record) : Nat := r.attributes.size

def insert (r : Record) (field : String) (value : FieldValue) : Record :=
  { r with attributes := r.attributes.put field value }

def withLabel (r : Record) (field label : String) : Record :=
  { r with labels := r.labels.put field label }

def withCurrencySymbol (r : Record) (symbol : String) : Record :=
  { r with currencySymbol := some symbol }

/-- The reference to the currency, the identifier that names nothing aside. -/
def currencyReference? (r : Record) : Option EntityReference :=
  match r.get? currencyField with
  | some (.lookup reference) => if reference.id.isNil then none else some reference
  | _ => none

@[simp] theorem get?_insert_self (r : Record) (field : String) (value : FieldValue) :
    (r.insert field value).get? field = some value :=
  r.attributes.get?_put_self field value

theorem get?_insert_ne (r : Record) {field other : String} (value : FieldValue) (h : other ≠ field) :
    (r.insert field value).get? other = r.get? other :=
  r.attributes.get?_put_ne value h

theorem label?_withLabel (r : Record) (field label other : String) :
    (r.withLabel field label).label? other = if other = field then some label else r.label? other := by
  by_cases e : other = field
  · subst e
    rw [if_pos rfl]
    exact r.labels.get?_put_self other label
  · rw [if_neg e]
    exact r.labels.get?_put_ne label e

end Record

end RecordNaming
