/-
  RecordNaming.Json.Basic — generic JSON values: numbers are whole numbers of 64 bits or
  binary floating-point numbers, the members of an object are in order.
-/
import RecordNaming.Binary64.Shortest

namespace RecordNaming

/-- A JSON number: a whole number that fits 64 bits, signed or unsigned, or a
floating-point number. -/
inductive Json.Number where
  | integer (n : Int) (low : -9223372036854775808 ≤ n) (high : n ≤ 18446744073709551615)
  | float (x : Binary64)
  deriving DecidableEq

/-- A JSON value. -/
inductive Json where
  | null
  | bool (b : Bool)
  | number (n : Json.Number)
  | string (s : String)
  | array (items : List Json)
  | object (members : List (String × Json))

namespace Json

/-- The whole number, if it is in range. -/
def Number.ofInt? (n : Int) : Option Number :=
  if h : -9223372036854775808 ≤ n ∧ n ≤ 18446744073709551615 then some (.integer n h.1 h.2)
  else none

def Number.digits : Number → List Char
  | .integer n _ _ => Text.intDigits n
  | .float x => x.digits

def Number.text (n : Number) : String := String.ofList n.digits

/-- The whole number of 64 bits, if the number is one. -/
def Number.int64? : Number → Option Int64
  | .integer n _ _ => if n ≤ 9223372036854775807 then some (Int64.ofInt n) else none
  | .float _ => none

/-- A number's value as a JSON value. -/
def ofNat (n : Nat) : Json := ((Number.ofInt? n).map .number).getD .null

/-- The value of the member of this name. -/
def member? (j : Json) (name : String) : Option Json :=
  match j with
  | .object members => (members.find? (·.1 == name)).map (·.2)
  | _ => none

def string? : Json → Option String
  | .string s => some s
  | _ => none

/-- Text as a JSON string, no text as null. -/
def ofText? (s : Option String) : Json := (s.map .string).getD .null

end Json

end RecordNaming
