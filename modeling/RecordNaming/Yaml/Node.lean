/-
  RecordNaming.Yaml.Node — a YAML document as written, in which aliases still stand for
  what they name.

  Names of anchors do not stay in the tree: each node with an anchor has a slot, and an
  alias has the slot of its name. Two nodes can have one slot; it is then the later one
  that the slot holds, for every alias.
-/
import RecordNaming.Document.Node

namespace RecordNaming.Yaml

/-- A node of a YAML document. -/
inductive Node where
  | scalar (s : Document.Scalar)
  /-- An alias. -/
  | reference (slot : Nat)
  | sequence (items : List Node)
  | mapping (entries : List (Node × Node))
  /-- A node that an alias can name. -/
  | anchored (slot : Nat) (n : Node)

namespace Node

/-- The scalar of nothing. -/
def empty : Node := .scalar ⟨"", .plain, none⟩

/-- A node with the slot of its anchor, if it has one. -/
def inSlot (n : Node) : Option Nat → Node
  | some slot => .anchored slot n
  | none => n

/-- A node without its anchor. -/
def content : Node → Node
  | anchored _ n => n.content
  | n => n

/-! ## Size -/

mutual

/-- The steps of writing a node down: one for a scalar and an alias, one for the start and one for
the end of a collection. -/
def size : Node → Nat
  | scalar _ => 1
  | reference _ => 1
  | sequence items => 2 + sizeOfItems items
  | mapping entries => 2 + sizeOfEntries entries
  | anchored _ n => n.size

def sizeOfItems : List Node → Nat
  | [] => 0
  | item :: rest => item.size + sizeOfItems rest

def sizeOfEntries : List (Node × Node) → Nat
  | [] => 0
  | (key, value) :: rest => key.size + value.size + sizeOfEntries rest

end

/-! ## Slots -/

mutual

/-- The nodes with a slot, in the order in which they begin. -/
def slots : Node → List (Nat × Node)
  | scalar _ => []
  | reference _ => []
  | sequence items => slotsOfItems items
  | mapping entries => slotsOfEntries entries
  | anchored slot n => (slot, n) :: n.slots

def slotsOfItems : List Node → List (Nat × Node)
  | [] => []
  | item :: rest => item.slots ++ slotsOfItems rest

def slotsOfEntries : List (Node × Node) → List (Nat × Node)
  | [] => []
  | (key, value) :: rest => key.slots ++ (value.slots ++ slotsOfEntries rest)

end

/-- What each slot of a document holds: the last node that has it. -/
def slotTable (n : Node) : Array Node :=
  n.slots.foldl (fun table (slot, n) => table.setIfInBounds slot n)
    (Array.replicate n.slots.length empty)

end Node

end RecordNaming.Yaml
