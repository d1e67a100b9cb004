/-
  RecordNaming.Document.Reading — reading the nodes of a document as what is expected
  there: texts, truth values, bounded numbers, optional values, sequences, and structures
  whose parts have names.

  A structure is written as a mapping or, in JSON, as a sequence of its parts in order.
  Names that it does not have are skipped; a name given twice is an error. Only so many
  arrays and objects may be open at once.
-/
import RecordNaming.Document.Scalar
import RecordNaming.RuleError

namespace RecordNaming.Document

/-- What stands where something else is expected. -/
inductive Found where
  | null
  | map
  | sequence
  | string (s : String)
  | boolean (b : Bool)
  | number (n : Json.Number)

def Found.text : Found → String
  | null => "null"
  | map => "map"
  | sequence => "sequence"
  | string s => "string " ++ Text.quoted s
  | boolean b => "boolean \x60" ++ (if b then "true" else "false") ++ "\x60"
  | number (.integer n low high) =>
      "integer \x60" ++ (Json.Number.integer n low high).text ++ "\x60"
  | number (.float x) => "floating point \x60" ++ (Json.Number.float x).text ++ "\x60"

/-- Why a document cannot be read. -/
inductive DocumentError where
  /-- The text is not in the format, or nests too deeply. -/
  | malformed
  | invalidType (found : Found) (expected : String)
  | invalidValue (found : Found) (expected : String)
  | missingField (name : String)
  | duplicateField (name : String)
  /-- A sequence has too few parts for a structure. -/
  | tooFewItems (count : Nat) (expected : String)
  /-- A sequence has too many parts for a structure. -/
  | tooManyItems (count : Nat)
  /-- A comparison operand is neither text nor number nor truth value. -/
  | noOperand
  | rule (e : RuleError)

/-- The wording of an error. In a text, surplus items are met before they are counted. -/
def DocumentError.message (inText : Bool) : DocumentError → String
  | malformed => "malformed document"
  | invalidType found expected => "invalid type: " ++ found.text ++ ", expected " ++ expected
  | invalidValue found expected => "invalid value: " ++ found.text ++ ", expected " ++ expected
  | missingField name => "missing field \x60" ++ name ++ "\x60"
  | duplicateField name => "duplicate field \x60" ++ name ++ "\x60"
  | tooFewItems count expected => "invalid length " ++ toString count ++ ", expected " ++ expected
  | tooManyItems count =>
    if inText then "trailing characters"
    else "invalid length " ++ toString count ++ ", expected fewer elements in array"
  | noOperand => "data did not match any variant of untagged enum Operand"
  | rule e => e.message

namespace Node

/-- The error of a node that is not what is expected. -/
def mistyped (expected : String) : Node → DocumentError
  | .null => .invalidType .null expected
  | .bool b => .invalidType (.boolean b) expected
  | .number n => .invalidType (.number n) expected
  | .string s => .invalidType (.string s) expected
  | .sequence _ => .invalidType .sequence expected
  | .mapping _ => .invalidType .map expected
  | .hugeNumber => .malformed
  | .brokenString => .malformed
  | .scalar _ => .malformed

/-- The error of a node where no array or object may be opened any more. -/
def tooDeep (expected : String) : Node → DocumentError
  | .sequence _ => .malformed
  | .mapping _ => .malformed
  | n => n.mistyped expected

def isNull : Node → Bool
  | .null => true
  | .scalar s => s.isNull
  | _ => false

/-- A scalar that claims to be absent and is not. -/
def isFalseNull : Node → Bool
  | .scalar s => s.isFalseNull
  | _ => false

/-- An empty scalar, which stands for an empty structure or sequence. -/
def isBlank : Node → Bool
  | .scalar s => s.isBlank
  | _ => false

def readText : Node → Except DocumentError String
  | .string s => .ok s
  | .scalar s => .ok s.text
  | n => .error (n.mistyped "a string")

def readBool : Node → Except DocumentError Bool
  | .bool b => .ok b
  | .scalar s => (s.bool?.map .ok).getD (.error .malformed)
  | n => .error (n.mistyped "a boolean")

/-- A whole number between bounds; where none is negative, a scalar has no minus sign either. -/
def readInt (low high : Int) (expected : String) : Node → Except DocumentError Int
  | .number (.integer n l h) =>
    if low ≤ n ∧ n ≤ high then .ok n else .error (.invalidValue (.number (.integer n l h)) expected)
  | .scalar s =>
    let written := if low < 0 then s.int? else s.nat?
    ((written.filter fun n => low ≤ n && n ≤ high).map .ok).getD (.error .malformed)
  | n => .error (n.mistyped expected)

def readUInt64 (n : Node) : Except DocumentError UInt64 :=
  (n.readInt 0 18446744073709551615 "usize").map fun i => UInt64.ofNat i.toNat

def readInt32 (n : Node) : Except DocumentError Int32 :=
  (n.readInt (-2147483648) 2147483647 "i32").map Int32.ofInt

/-- A value that may be absent. -/
def readOptional {α : Type} (read : Node → Except DocumentError α) (n : Node) :
    Except DocumentError (Option α) :=
  if n.isNull then .ok none
  else if n.isFalseNull then .error .malformed
  else (read n).map some

/-- The comparison operand of a node; numbers and truth values count as their texts. -/
def readOperand (levels : Nat) : Node → Except DocumentError String
  | .string s => .ok s
  | .number n => .ok n.text
  | .bool b => .ok (if b then "true" else "false")
  | .scalar s => (s.operand?.map .ok).getD (.error .noOperand)
  | n => .error (if (n.toJson? levels).isSome then .noOperand else .malformed)

/-- The name that a key gives. -/
def keyName : Node → Except DocumentError String
  | .string s => .ok s
  | .scalar s => .ok s.text
  | _ => .error .malformed

end Node

/-- Sets the parts of a structure from the entries of a mapping. -/
def setEntries {σ : Type} (names : List String) (set : σ → String → Node → Except DocumentError σ)
    (seen : List String) (state : σ) : List (Node × Node) → Except DocumentError σ
  | [] => .ok state
  | (key, value) :: rest => do
    let name ← key.keyName
    if names.contains name then
      if seen.contains name then .error (.duplicateField name)
      else
        let state ← set state name value
        setEntries names set (name :: seen) state rest
    else setEntries names set seen state rest

/-- Sets the parts of a structure from the items of a sequence. -/
def setItems {σ : Type} (set : σ → String → Node → Except DocumentError σ) (count : Nat)
    (state : σ) :
    List String → List Node → Except DocumentError σ
  | _, [] => .ok state
  | [], _ :: _ => .error (.tooManyItems count)
  | name :: names, item :: rest => do
    let state ← set state name item
    setItems set count state names rest

/-- Reads a structure with these parts. -/
def readStructure {σ : Type} (expected : String) (names : List String)
    (set : σ → String → Node → Except DocumentError σ) (start : σ) (n : Node) :
    Except DocumentError σ :=
  match n with
  | .mapping entries => setEntries names set [] start entries
  | .sequence items => setItems set items.length start names items
  | n => if n.isBlank then .ok start else .error (n.mistyped expected)

/-- Reads the items of a sequence. -/
def readSequence {α : Type} (read : Node → Except DocumentError α) (n : Node) :
    Except DocumentError (List α) :=
  match n with
  | .sequence items => items.mapM read
  | n => if n.isBlank then .ok [] else .error (n.mistyped "a sequence")

end RecordNaming.Document
