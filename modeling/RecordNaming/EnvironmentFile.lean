/-
  RecordNaming.EnvironmentFile — files of variables: lines "NAME=value" with comments, single
  and double quotes, escapes and references to other variables. A quoted value can go on
  over several lines. Reading stops at the first line that is wrong; the lines before it
  count.
-/
import RecordNaming.Text.Alphanumeric
import RecordNaming.Text.Blank
import RecordNaming.Text.Digits

namespace RecordNaming.EnvironmentFile

/-! ## Lines -/

/-- Where the end of a line stands. -/
inductive LineState where
  | complete
  | space
  | escape
  | single
  | singleEscape
  | double
  | doubleEscape
  deriving DecidableEq

/-- The state after a character, outside of comments. -/
def LineState.next (s : LineState) (c : Char) : LineState :=
  match s with
  | .escape => .complete
  | .single => if c == '\\' then .singleEscape else if c == '\x27' then .complete else .single
  | .singleEscape => .single
  | .double => if c == '\\' then .doubleEscape else if c == '\x22' then .complete else .double
  | .doubleEscape => .double
  | _ =>
    if c == '\\' then .escape
    else if c == '\x22' then .double
    else if c == '\x27' then .single
    else if s == .complete && Text.isBlank c && c != '\n' && c != '\r' then .space
    else .complete

/-- Cuts a text into entries, each without its line end and its comment. `state` is where the entry
`entry` (backward) stands; an entry that is never complete is missing. -/
def entries (state : LineState) (entry : List Char) : List Char → List (Option (List Char))
  | [] => if entry.isEmpty then [] else [if state = .complete then some entry.reverse else none]
  | c :: rest =>
    if c == '#' && (state = .space || (state = .complete && entry.all Text.isBlank)) then
      some entry.reverse :: skipComment rest
    else
      let state := state.next c
      if c == '\n' && state = .complete then some entry.reverse :: entries .complete [] rest
      else entries state (c :: entry) rest
where
  /-- Goes to the next line. -/
  skipComment : List Char → List (Option (List Char))
    | [] => []
    | c :: rest => if c == '\n' then entries .complete [] rest else skipComment rest

/-! ## Values -/

/-- How far a reference to a variable got. -/
inductive Reference where
  | none
  | bare
  | braced
  deriving DecidableEq

/-- The state of reading a value; texts are backward. -/
structure ValueState where
  single : Bool := false
  double : Bool := false
  escaped : Bool := false
  ended : Bool := false
  reference : Reference := .none
  name : List Char := []
  output : List Char := []

def ValueState.push (s : ValueState) (c : Char) : ValueState := { s with output := c :: s.output }

/-- The value of the reference put out. -/
def ValueState.apply (s : ValueState) (valueOf? : String → Option String) : ValueState :=
  let value := (valueOf? (String.ofList s.name.reverse)).getD ""
  { s with name := [], output := value.toList.reverse ++ s.output }

/-- Reads a character of a reference. -/
def ValueState.inReference (s : ValueState) (valueOf? : String → Option String) (c : Char) :
    ValueState :=
  if Text.isAlphanumeric c then { s with name := c :: s.name }
  else if s.reference = .braced then
    if c == '\x7d' then { s.apply valueOf? with reference := .none }
    else { s with name := c :: s.name }
  else if c == '\x7b' && s.name.isEmpty then { s with reference := .braced }
  else
    let s := s.apply valueOf?
    if c == '$' then { s with reference := .bare } else { s.push c with reference := .none }

/-- Reads a value. -/
def readValue (valueOf? : String → Option String) (s : ValueState) : List Char → Option (List Char)
  | [] =>
    if s.reference = .braced || s.single || s.double then none
    else some (s.apply valueOf?).output.reverse
  | c :: rest =>
    if s.ended then
      if c == ' ' || c == '\t' then readValue valueOf? s rest
      else if c == '#' then some (s.apply valueOf?).output.reverse
      else none
    else if s.escaped then
      if c == 'n' then readValue valueOf? { s.push '\n' with escaped := false } rest
      else if c == '\\' || c == '\x27' || c == '\x22' || c == '$' || c == ' ' then
        readValue valueOf? { s.push c with escaped := false } rest
      else none
    else if s.single then
      readValue valueOf? (if c == '\x27' then { s with single := false } else s.push c) rest
    else if s.reference ≠ .none then readValue valueOf? (s.inReference valueOf? c) rest
    else if c == '$' then readValue valueOf? { s with reference := .bare } rest
    else if c == '\\' then readValue valueOf? { s with escaped := true } rest
    else if c == '\x22' then readValue valueOf? { s with double := !s.double } rest
    else if s.double then readValue valueOf? (s.push c) rest
    else if c == '\x27' then readValue valueOf? { s with single := true } rest
    else if c == ' ' || c == '\t' then readValue valueOf? { s with ended := true } rest
    else readValue valueOf? (s.push c) rest

/-! ## Entries -/

/-- An ASCII letter or an underscore. -/
def isNameStart (c : Char) : Bool :=
  let n := c.toNat
  (65 ≤ n && n ≤ 90) || (97 ≤ n && n ≤ 122) || c == '_'

def isNameChar (c : Char) : Bool := isNameStart c || Text.isDigit c || c == '.'

def skipBlanks (cs : List Char) : List Char := cs.dropWhile Text.isBlank

/-- A name and what is behind it and the blanks that follow. -/
def readName (cs : List Char) : Option (String × List Char) :=
  if (cs.head?.map isNameStart).getD false then
    some (String.ofList (cs.takeWhile isNameChar), skipBlanks (cs.dropWhile isNameChar))
  else none

def readEqual (cs : List Char) : Option (List Char) :=
  match cs with
  | '=' :: rest => some (skipBlanks rest)
  | _ => none

/-- The name of an entry and its value as written. The word "export" may stand in front. -/
def splitEntry (cs : List Char) : Option (String × List Char) := do
  let (name, rest) ← readName cs
  match readEqual rest with
  | some value => pure (name, value)
  | none =>
    if name == "export" then
      let (name, rest) ← readName rest
      pure (name, ← readEqual rest)
    else none

/-- Adds the variables of entries to those that there are, which stand over them. -/
def addEntries (vars : List (String × String)) : List (Option (List Char)) → List (String × String)
  | [] => vars
  | none :: _ => vars
  | some entry :: rest =>
    let cs := skipBlanks (Text.trim entry)
    if cs.isEmpty || cs.head? = some '#' then addEntries vars rest
    else
      match splitEntry cs with
      | none => vars
      | some (name, written) =>
        let lookup := fun key => (vars.find? (·.1 == key)).map (·.2)
        let value := if written.isEmpty || written.head? = some '#' then some []
          else readValue lookup {} written
        match value with
        | none => vars
        | some value => addEntries (vars ++ [(name, String.ofList value)]) rest

/-- The names that the values of a text may refer to, and perhaps others. -/
def mentioned : List Char → List String
  | '$' :: '\x7b' :: rest => String.ofList (rest.takeWhile (· != '\x7d')) :: mentioned rest
  | '$' :: rest => String.ofList (rest.takeWhile Text.isAlphanumeric) :: mentioned rest
  | _ :: rest => mentioned rest
  | [] => []

/-- The variables of a process and a file: those of the process stand over those of the file. -/
def extend (vars : List (String × String)) (text : String) : List (String × String) :=
  let cs := text.toList
  addEntries vars (entries .complete [] (if cs.head? = some '\uFEFF' then cs.drop 1 else cs))

end RecordNaming.EnvironmentFile
