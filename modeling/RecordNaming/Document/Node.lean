/-
  RecordNaming.Document.Node — a document as written, before anything is known of its
  meaning: JSON and YAML texts are both read into this tree, and a generic JSON value is
  one too. The entries of a mapping keep their order and their repeated keys.
-/
import RecordNaming.Json.Basic

namespace RecordNaming.Document

/-- How a YAML scalar was written. Only the first two let its text decide its type. -/
inductive ScalarStyle where
  | plain
  | literal
  | other
  deriving DecidableEq

/-- The tag of a YAML scalar, as far as it matters for its type. -/
inductive Tag where
  | null
  | bool
  | int
  | float
  /-- A tag of one's own, which begins with an exclamation mark. -/
  | own
  /-- A tag of one's own that is no text. -/
  | unreadable
  | other
  deriving DecidableEq

/-- A YAML scalar. Its type is decided by what it is read as. -/
structure Scalar where
  text : String
  style : ScalarStyle
  tag : Option Tag

/-- A node of a document. -/
inductive Node where
  | null
  | bool (b : Bool)
  | number (n : Json.Number)
  /-- A number beyond the finite floating-point numbers. -/
  | hugeNumber
  | string (s : String)
  /-- A string with an escape that names no character. -/
  | brokenString
  | scalar (s : Scalar)
  | sequence (items : List Node)
  | mapping (entries : List (Node × Node))

mutual

/-- A JSON value as a document. -/
def Node.ofJson : Json → Node
  | .null => .null
  | .bool b => .bool b
  | .number n => .number n
  | .string s => .string s
  | .array items => .sequence (Node.ofItems items)
  | .object members => .mapping (Node.ofMembers members)

def Node.ofItems : List Json → List Node
  | [] => []
  | item :: rest => Node.ofJson item :: Node.ofItems rest

def Node.ofMembers : List (String × Json) → List (Node × Node)
  | [] => []
  | (name, value) :: rest => (.string name, Node.ofJson value) :: Node.ofMembers rest

end

/-- A member put where its name belongs in the order of code points; it replaces one of the
same name. -/
def putMember (name : String) (value : Json) : List (String × Json) → List (String × Json)
  | [] => [(name, value)]
  | (other, old) :: rest =>
    if name < other then (name, value) :: (other, old) :: rest
    else if name = other then (name, value) :: rest
    else (other, old) :: putMember name value rest

mutual

/-- The generic JSON value of a node with at most `levels` arrays and objects open at once.
Members are ordered by name, and the last of several with one name stands. -/
def Node.toJson? : Nat → Node → Option Json
  | _, .null => some .null
  | _, .bool b => some (.bool b)
  | _, .number n => some (.number n)
  | _, .string s => some (.string s)
  | levels + 1, .sequence items => (Node.toItems? levels items).map .array
  | levels + 1, .mapping entries => (Node.toMembers? levels [] entries).map .object
  | _, _ => none

def Node.toItems? : Nat → List Node → Option (List Json)
  | _, [] => some []
  | levels, item :: rest => do
    let item ← Node.toJson? levels item
    let rest ← Node.toItems? levels rest
    pure (item :: rest)

def Node.toMembers? :
    Nat → List (String × Json) → List (Node × Node) → Option (List (String × Json))
  | _, members, [] => some members
  | levels, members, (.string name, value) :: rest => do
    let value ← Node.toJson? levels value
    Node.toMembers? levels (putMember name value members) rest
  | _, _, _ :: _ => none

end

end RecordNaming.Document
