/-
  RecordNaming.Yaml.Unfolding — a YAML document without aliases, as far as a configuration
  has parts: each alias there becomes what its slot holds.

  What is unfolded follows the shape of a configuration, so that the values of unknown names
  cost nothing. Both the depth and the number of aliases followed are bounded, so that a
  document cannot grow without end.
-/
import RecordNaming.Document.Configuration
import RecordNaming.Yaml.Node

namespace RecordNaming.Yaml

/-! ## Shapes -/

/-- What is expected at a place of a configuration. Each may be a scalar too. -/
inductive Shape where
  | scalar
  | configuration
  | rules
  | rule
  | conditions
  | condition
  deriving DecidableEq

namespace Shape

/-- The shape of the items of a sequence; only some shapes are sequences. -/
def item? : Shape → Option Shape
  | rules => some rule
  | conditions => some condition
  | _ => none

/-- The names of the parts of a mapping; only some shapes are mappings. -/
def names? : Shape → Option (List String)
  | configuration => some Document.configurationNames
  | rule => some Document.ruleNames
  | condition => some Document.conditionNames
  | _ => none

/-- The shape of a part by its name. -/
def part : Shape → String → Shape
  | configuration, "fields" => rules
  | rule, "alternateField" => rule
  | rule, "includeIf" => condition
  | condition, "anyOf" => conditions
  | condition, "allOf" => conditions
  | _, _ => scalar

end Shape

/-! ## Aliases -/

/-- A step of unfolding: it may fail, and the state is how many aliases may still be followed. -/
abbrev Unfolding (α : Type) := StateT Nat Option α

/-- What a node stands for. -/
def resolve (table : Array Node) (n : Node) : Unfolding Node := fun left =>
  match n.content with
  | .reference slot => if left = 0 then none else (table[slot]?).map fun n => (n.content, left - 1)
  | n => some (n, left)

/-- The scalar that a node stands for. -/
def resolveScalar (table : Array Node) (n : Node) : Unfolding Document.Scalar := do
  match ← resolve table n with
  | .scalar s => pure s
  | _ => failure

/-! ## Documents -/

/-- A document without aliases, with at most `levels` sequences and mappings open. The entries of
unknown names are left out. -/
def unfold (table : Array Node) : Nat → Shape → Node → Unfolding Document.Node
  | 0, _, n => do pure (.scalar (← resolveScalar table n))
  | levels + 1, shape, n => do
    match ← resolve table n, shape.item?, shape.names? with
    | .scalar s, _, _ => pure (.scalar s)
    | .sequence items, some item, _ => pure (.sequence (← items.mapM (unfold table levels item)))
    | .mapping entries, _, some names =>
      let entries ← entries.filterMapM fun (key, value) => do
        let name ← resolveScalar table key
        if names.contains name.text then
          let value ← unfold table levels (shape.part name.text) value
          pure (some (.scalar name, value))
        else pure none
      pure (.mapping entries)
    | _, _, _ => failure

/-- The greatest number of sequences and mappings open at once. -/
def maxOpen : Nat := 128

/-- How many aliases may be followed for each step of writing a document down. -/
def repetitions : Nat := 100

/-- A document of a shape without aliases. -/
def Node.withoutAliases? (n : Node) (shape : Shape) : Option Document.Node :=
  ((unfold n.slotTable maxOpen shape n).run (repetitions * n.size)).map (·.1)

end RecordNaming.Yaml
