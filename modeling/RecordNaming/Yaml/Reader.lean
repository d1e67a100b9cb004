/-
  RecordNaming.Yaml.Reader — the document of a YAML text: its tokens grouped into nodes. A
  text has one document or none.
-/
import RecordNaming.Yaml.Node
import RecordNaming.Yaml.Token

namespace RecordNaming.Yaml

/-- The state of grouping tokens. -/
structure Grouping where
  tokens : List Token
  /-- The names of anchors so far, each with its slot. -/
  anchors : List (String × Nat) := []
  /-- What the handles of tags stand for. -/
  handles : List (String × List UInt8) := []

namespace Grouping

def next? (s : Grouping) : Option Token := s.tokens.head?

def skip (s : Grouping) : Grouping := { s with tokens := s.tokens.drop 1 }

/-- One of these tokens comes first, or none does. -/
def atAny (s : Grouping) (ts : List Token) : Bool := (s.next?.map ts.contains).getD true

def slot? (s : Grouping) (name : String) : Option Nat :=
  (s.anchors.find? (·.1 == name)).map (·.2)

/-- Gives a name the slot whose number is that of the names so far. A name that is used again
gets a new slot, which the next new name then gets too. -/
def setAnchor (s : Grouping) : Option String → Option Nat × Grouping
  | some name =>
    let slot := s.anchors.length
    let others := s.anchors.filter (·.1 != name)
    (some slot, { s with anchors := (name, slot) :: others })
  | none => (none, s)

/-- What a handle and a suffix mean. A handle with nothing in it leaves the suffix alone. -/
def tag? (s : Grouping) (handle : String) (suffix : List UInt8) : Option Document.Tag :=
  let lead := if handle.isEmpty then some []
    else match s.handles.find? (·.1 == handle) with
      | some (_, lead) => some lead
      | none => standardLead? handle
  lead.map fun lead => tagOfBytes (lead ++ suffix)

/-- An anchor and a tag in either order. -/
def readProperties (s : Grouping) : Option (Option String × Option Document.Tag × Grouping) :=
  match s.tokens with
  | .anchor name :: .tag handle suffix :: rest =>
    (s.tag? handle suffix).map fun tag => (some name, some tag, { s with tokens := rest })
  | .tag handle suffix :: .anchor name :: rest =>
    (s.tag? handle suffix).map fun tag => (some name, some tag, { s with tokens := rest })
  | .anchor name :: rest => some (some name, none, { s with tokens := rest })
  | .tag handle suffix :: rest =>
    (s.tag? handle suffix).map fun tag => (none, some tag, { s with tokens := rest })
  | _ => some (none, none, s)

end Grouping

mutual

/-- Reads a node, in a block or within brackets. `bare` allows a sequence of the same indentation
as the mapping around it. The first argument bounds the calls below. -/
def readNode : Nat → Bool → Bool → Grouping → Option (Node × Grouping)
  | 0, _, _, _ => none
  | fuel + 1, block, bare, s =>
    match s.next? with
    | some (.alias name) => (s.slot? name).map fun slot => (.reference slot, s.skip)
    | _ =>
      match s.readProperties with
      | none => none
      | some (anchor, tag, s) =>
        let (slot, s) := s.setAnchor anchor
        let sequence := fun (items, s) => ((Node.sequence items).inSlot slot, s)
        let mapping := fun (entries, s) => ((Node.mapping entries).inSlot slot, s)
        let scalar := fun text style => (Node.scalar ⟨text, style, tag⟩).inSlot slot
        let empty := if anchor.isSome || tag.isSome then some (scalar "" .plain, s) else none
        match s.next? with
        | some .blockEntry => if bare then (readBare fuel s).map sequence else empty
        | some (.scalar text style) => some (scalar text style, s.skip)
        | some .flowSequenceStart => (readFlowItems fuel true s.skip).map sequence
        | some .flowMappingStart => (readFlowEntries fuel true s.skip).map mapping
        | some .blockSequenceStart => if block then (readItems fuel s.skip).map sequence else none
        | some .blockMappingStart => if block then (readEntries fuel s.skip).map mapping else none
        | _ => empty

/-- Reads a node unless one of these tokens comes first; then it is empty. -/
def readOrEmpty : Nat → Bool → Bool → List Token → Grouping → Option (Node × Grouping)
  | 0, _, _, _, _ => none
  | fuel + 1, block, bare, ends, s =>
    if s.atAny ends then some (.empty, s) else readNode fuel block bare s

/-- Reads the entries of a block sequence. -/
def readItems : Nat → Grouping → Option (List Node × Grouping)
  | 0, _ => none
  | fuel + 1, s =>
    match s.next? with
    | some .blockEntry =>
      match readOrEmpty fuel true false [.blockEntry, .blockEnd] s.skip with
      | none => none
      | some (item, s) => (readItems fuel s).map fun (items, s) => (item :: items, s)
    | some .blockEnd => some ([], s.skip)
    | _ => none

/-- Reads the entries of a sequence without an indentation of its own. -/
def readBare : Nat → Grouping → Option (List Node × Grouping)
  | 0, _ => none
  | fuel + 1, s =>
    match s.next? with
    | some .blockEntry =>
      match readOrEmpty fuel true false [.blockEntry, .key, .value, .blockEnd] s.skip with
      | none => none
      | some (item, s) => (readBare fuel s).map fun (items, s) => (item :: items, s)
    | _ => some ([], s)

/-- Reads the value behind a key, if there is one. -/
def readValue : Nat → Bool → List Token → Grouping → Option (Node × Grouping)
  | 0, _, _, _ => none
  | fuel + 1, block, ends, s =>
    match s.next? with
    | some .value => readOrEmpty fuel block block ends s.skip
    | _ => some (.empty, s)

/-- Reads the entries of a block mapping. -/
def readEntries : Nat → Grouping → Option (List (Node × Node) × Grouping)
  | 0, _ => none
  | fuel + 1, s =>
    match s.next? with
    | some .key =>
      match readOrEmpty fuel true true [.key, .value, .blockEnd] s.skip with
      | none => none
      | some (key, s) =>
        match readValue fuel true [.key, .value, .blockEnd] s with
        | none => none
        | some (value, s) =>
            (readEntries fuel s).map fun (entries, s) => ((key, value) :: entries, s)
    | some .blockEnd => some ([], s.skip)
    | _ => none

/-- Reads a mapping of one entry in brackets, behind the sign of its key. A sign that leaves the
key out is passed over, so that a value needs another colon. -/
def readPair : Nat → Grouping → Option (Node × Grouping)
  | 0, _ => none
  | fuel + 1, s =>
    let pair := fun key (r : Node × Grouping) => (Node.mapping [(key, r.1)], r.2)
    if s.atAny [.value, .flowEntry, .flowSequenceEnd] then
      (readValue fuel false [.flowEntry, .flowSequenceEnd] s.skip).map (pair .empty)
    else
      match readNode fuel false false s with
      | none => none
      | some (key, s) =>
        (readValue fuel false [.flowEntry, .flowSequenceEnd] s).map (pair key)

/-- Reads the items of a sequence in brackets; commas stand between them. -/
def readFlowItems : Nat → Bool → Grouping → Option (List Node × Grouping)
  | 0, _, _ => none
  | fuel + 1, first, s =>
    match s.next? with
    | some .flowSequenceEnd => some ([], s.skip)
    | some t =>
      if !first && t != .flowEntry then none
      else
        let s := if first then s else s.skip
        match s.next? with
        | some .flowSequenceEnd => some ([], s.skip)
        | some .key =>
          match readPair fuel s.skip with
          | none => none
          | some (item, s) => (readFlowItems fuel false s).map fun (items, s) => (item :: items, s)
        | _ =>
          match readNode fuel false false s with
          | none => none
          | some (item, s) => (readFlowItems fuel false s).map fun (items, s) => (item :: items, s)
    | none => none

/-- Reads the entries of a mapping in braces; commas stand between them. -/
def readFlowEntries : Nat → Bool → Grouping → Option (List (Node × Node) × Grouping)
  | 0, _, _ => none
  | fuel + 1, first, s =>
    match s.next? with
    | some .flowMappingEnd => some ([], s.skip)
    | some t =>
      if !first && t != .flowEntry then none
      else
        let s := if first then s else s.skip
        match s.next? with
        | some .flowMappingEnd => some ([], s.skip)
        | some .key =>
          match readOrEmpty fuel false false [.value, .flowEntry, .flowMappingEnd] s.skip with
          | none => none
          | some (key, s) =>
            match readValue fuel false [.flowEntry, .flowMappingEnd] s with
            | none => none
            | some (value, s) =>
              (readFlowEntries fuel false s).map fun (entries, s) => ((key, value) :: entries, s)
        | _ =>
          match readNode fuel false false s with
          | none => none
          | some (key, s) =>
            (readFlowEntries fuel false s).map fun (entries, s) => ((key, .empty) :: entries, s)
    | none => none

end

/-- Reads the directives of a document. A handle is set once, and there is one version. -/
def readDirectives (versions : Nat) (s : Grouping) : List Token → Option Grouping
  | .versionDirective major minor :: rest =>
    if versions = 0 && major == 1 && (minor == 1 || minor == 2) then readDirectives 1 s rest
    else none
  | .tagDirective handle lead :: rest =>
    if s.handles.any (·.1 == handle) then none
    else readDirectives versions { s with handles := (handle, lead) :: s.handles } rest
  | tokens => some { s with tokens }

def isDirective : Token → Bool
  | .versionDirective _ _ => true
  | .tagDirective _ _ => true
  | _ => false

/-- Reads a document whose start is written. It may be empty. -/
def readMarked (fuel : Nat) (s : Grouping) : Option (Node × Grouping) := do
  let s ← readDirectives 0 s s.tokens
  if s.next? == some .documentStart then
    let s := s.skip
    if s.atAny [.documentStart, .documentEnd] || (s.next?.map isDirective).getD false then
      some (.empty, s)
    else readNode fuel true false s
  else none

/-- The document of a text, or nothing if the text is not YAML or has several documents. -/
def read? (cs : List Char) : Option Node := do
  let tokens ← Token.ofText? cs
  if tokens.isEmpty then pure .empty
  else
    let s : Grouping := { tokens }
    let fuel := 4 * tokens.length + 4
    let marked := s.next? == some .documentStart || (s.next?.map isDirective).getD false
    let (n, s) ← if marked then readMarked fuel s else readNode fuel true false s
    if s.tokens.all (· == .documentEnd) then pure n else none

end RecordNaming.Yaml
