/-
  RecordNaming.Yaml.Token — the tokens of a YAML text. Indentation opens and closes block
  collections, so that those have tokens of their own; a key that nothing marks gets its
  token when its colon is met.
-/
import RecordNaming.Document.Node
import RecordNaming.Yaml.Content
import RecordNaming.Yaml.Tag

namespace RecordNaming.Yaml

open Document (ScalarStyle)

inductive Token where
  | versionDirective (major minor : Nat)
  | tagDirective (handle : String) (lead : List UInt8)
  | documentStart
  | documentEnd
  | blockSequenceStart
  | blockMappingStart
  | blockEnd
  | flowSequenceStart
  | flowSequenceEnd
  | flowMappingStart
  | flowMappingEnd
  | blockEntry
  | flowEntry
  | key
  | value
  | alias (name : String)
  | anchor (name : String)
  | tag (handle : String) (suffix : List UInt8)
  | scalar (text : String) (style : ScalarStyle)
  deriving DecidableEq

/-- A place that may turn out to be the start of a key. -/
structure KeyPlace where
  /-- The number of tokens before it. -/
  position : Nat
  cursor : Cursor
  /-- It must be a key, as it stands at the indentation of a block collection. -/
  required : Bool

/-- The state of cutting a text into tokens. -/
structure Layout where
  cursor : Cursor
  /-- The tokens so far, the last first. -/
  tokens : List Token := []
  /-- The number of tokens so far. -/
  count : Nat := 0
  /-- The indentation of the innermost block collection, and those around it. -/
  indent : Int := -1
  outer : List Int := []
  /-- A key may begin here. -/
  keyAllowed : Bool := true
  /-- The places of keys, for the innermost brackets first; the last is outside of all. -/
  keys : List (Option KeyPlace) := [none]

namespace Layout

/-- Brackets are open. -/
def inFlow (s : Layout) : Bool := !(s.keys.drop 1).isEmpty

def add (s : Layout) (t : Token) : Layout :=
  { s with tokens := t :: s.tokens, count := s.count + 1 }

/-- Adds a token in front of those from a position on. -/
def insertAt (s : Layout) (position : Nat) (t : Token) : Layout :=
  { s with tokens := s.tokens.insertIdx (s.count - position) t, count := s.count + 1 }

/-- Goes over characters that are a token. -/
def addSign (s : Layout) (t : Token) (count : Nat) : Layout :=
  { s.add t with cursor := s.cursor.advance count }

def setKey (s : Layout) (k : Option KeyPlace) : Layout := { s with keys := k :: s.keys.drop 1 }

def currentKey (s : Layout) : Option KeyPlace := (s.keys.head?).getD none

/-! ## Keys -/

/-- Gives up a place that has turned out to be no key. -/
def dropKey (s : Layout) : Option Layout :=
  match s.currentKey with
  | some k => if k.required then none else some (s.setKey none)
  | none => some s

/-- Notes that a key may begin here. -/
def noteKey (s : Layout) : Option Layout :=
  if s.keyAllowed then
    s.dropKey.map fun s =>
      s.setKey (some ⟨s.count, s.cursor, !s.inFlow && s.indent == s.cursor.column⟩)
  else some s

/-- Gives up a place that is on an earlier line than a cursor or too far behind it. -/
def dropStaleKey (c : Cursor) : Option KeyPlace → Option (Option KeyPlace)
  | none => some none
  | some k =>
    if k.cursor.line < c.line || k.cursor.index + 1024 < c.index then
      if k.required then none else some none
    else some (some k)

/-- Gives up the places that are on an earlier line or too far back. -/
def dropStaleKeys (s : Layout) : Option Layout :=
  (s.keys.mapM (dropStaleKey s.cursor)).map fun keys => { s with keys }

/-! ## Indentation -/

/-- Opens a block collection at a column, if that is deeper. Its token gets a position. -/
def openBlock (s : Layout) (column position : Nat) (t : Token) : Layout :=
  if !s.inFlow && s.indent < column then
    { s.insertAt position t with outer := s.indent :: s.outer, indent := column }
  else s

/-- Closes the block collections that are deeper than a column; `outer` are the indentations
around the innermost one. -/
def closeDeeper (column : Int) (s : Layout) : List Int → Layout
  | [] => { s with outer := [] }
  | next :: outer =>
    if column < s.indent then closeDeeper column { s.add .blockEnd with indent := next } outer
    else { s with outer := next :: outer }

/-- Closes the block collections that are deeper than a column. -/
def closeBlocks (s : Layout) (column : Int) : Layout :=
  if s.inFlow then s else closeDeeper column s s.outer

/-! ## Blanks and comments -/

/-- Goes to the next token. A new line outside of brackets may begin with a key; where a key may
begin, tabs are no blanks. A byte order mark counts as a blank of its line. -/
def skipBlanks : Nat → Layout → Layout
  | 0, s => s
  | fuel + 1, s =>
    let tabs := s.inFlow || !s.keyAllowed
    let c := s.cursor.skipMark.skipWhile fun x => x == ' ' || (tabs && x == '\t')
    let c := if c.next? == some '#' then c.skipWhile (!isBreak ·) else c
    if (c.next?.map isBreak).getD false then
      skipBlanks fuel { s with cursor := c.breakLine, keyAllowed := s.keyAllowed || !s.inFlow }
    else { s with cursor := c }

/-! ## Properties -/

/-- A name behind its sign. -/
def readName (s : Layout) : Option (String × Cursor) :=
  let c := s.cursor.advance 1
  let name := c.rest.takeWhile isNameChar
  let c := c.advance name.length
  let ends := match c.next? with
    | none => true
    | some x => isGapOrBreak x || "?:,]\x7d%@\x60".toList.contains x
  if name.isEmpty || !ends then none else some (String.ofList name, c)

/-- The bytes of a tag without its handle, and what is behind them. -/
def readTagBytes (all : Bool) (c : Cursor) : Option (List UInt8 × Cursor) :=
  (tagBytes? all 0 c.rest).map fun (bytes, count) => (bytes, c.advance count)

/-- A tag behind which a word ends: its handle and its suffix. -/
def readTag (s : Layout) : Option (String × List UInt8 × Cursor) := do
  let c := s.cursor.advance 1
  let name := c.rest.takeWhile isNameChar
  let named := c.advance name.length
  let (handle, suffix, c) ←
    if c.next? == some '<' then do
      let (bytes, c) ← readTagBytes true (c.advance 1)
      if bytes.isEmpty || c.next? != some '>' then none
      else some ("", uptoZero bytes, c.advance 1)
    else if named.next? == some '!' then do
      let (bytes, c) ← readTagBytes false (named.advance 1)
      if bytes.isEmpty then none
      else some (String.ofList ('!' :: name ++ ['!']), uptoZero bytes, c)
    else do
      let (bytes, c) ← readTagBytes false c
      let suffix := uptoZero bytes
      if suffix.isEmpty then some ("", asciiBytes "!", c) else some ("!", suffix, c)
  if endsWord c.rest || (s.inFlow && c.next? == some ',') then pure (handle, suffix, c) else none

/-! ## Directives -/

/-- A number of a version, of at most nine digits. -/
def readVersionNumber (c : Cursor) : Option (Nat × Cursor) :=
  let digits := c.rest.takeWhile Text.isDigit
  if digits.isEmpty || 9 < digits.length then none
  else some (Text.digitsValue digits, c.advance digits.length)

/-- The two numbers of a version. -/
def readVersion (c : Cursor) : Option (Token × Cursor) := do
  let (major, c) ← readVersionNumber (c.skipWhile isGap)
  if c.next? == some '.' then
    let (minor, c) ← readVersionNumber (c.advance 1)
    pure (.versionDirective major minor, c)
  else none

/-- The handle of a tag: a name between exclamation marks, or one such mark. -/
def readHandle (c : Cursor) : Option (String × Cursor) :=
  let name := (c.rest.drop 1).takeWhile isNameChar
  let c' := c.advance (1 + name.length)
  if c.next? != some '!' then none
  else if c'.next? == some '!' then some (String.ofList ('!' :: name ++ ['!']), c'.advance 1)
  else if name.isEmpty then some ("!", c')
  else none

/-- A handle and what it stands for. -/
def readTagDirective (c : Cursor) : Option (Token × Cursor) := do
  let (handle, c) ← readHandle (c.skipWhile isGap)
  if (c.next?.map isGap).getD false then
    let (bytes, c) ← readTagBytes true (c.skipWhile isGap)
    if bytes.isEmpty || !endsWord c.rest then none
    else pure (.tagDirective handle (uptoZero bytes), c)
  else none

/-- A directive on a line of its own. -/
def readDirective (s : Layout) : Option (Token × Cursor) := do
  let c := s.cursor.advance 1
  let name := c.rest.takeWhile isNameChar
  let c := c.advance name.length
  let (t, c) ←
    if !endsWord c.rest then none
    else if name == "YAML".toList then readVersion c
    else if name == "TAG".toList then readTagDirective c
    else none
  pure (t, ← endLine? c)

/-! ## Tokens -/

/-- Adds a token behind which no key may begin at once, but which may be a key itself. -/
def addProperty (s : Layout) (read : Layout → Option (Token × Cursor)) : Option Layout := do
  let s ← s.noteKey
  let (t, c) ← read s
  pure { s.add t with cursor := c, keyAllowed := false }

def openFlow (s : Layout) (t : Token) : Option Layout :=
  s.noteKey.map fun s => { s.addSign t 1 with keys := none :: s.keys, keyAllowed := true }

/-- A closing bracket without an opening one is left to the grammar. -/
def closeFlow (s : Layout) (t : Token) : Option Layout :=
  s.dropKey.map fun s =>
    { s.addSign t 1 with keys := if s.inFlow then s.keys.drop 1 else s.keys, keyAllowed := false }

/-- A sign that begins an entry or a key of a block collection. -/
def addIndicator (s : Layout) (start t : Token) (keyAllowed : Bool) : Option Layout :=
  if !s.inFlow && !s.keyAllowed then none
  else
    (s.openBlock s.cursor.column s.count start).dropKey.map fun s =>
      { s.addSign t 1 with keyAllowed }

/-- A colon: what stands before it on the line is a key, or the key is empty. -/
def addValue (s : Layout) : Option Layout :=
  match s.currentKey with
  | some k =>
    let s := s.insertAt k.position .key
    let s := (s.openBlock k.cursor.column k.position .blockMappingStart).setKey none
    some { s.addSign .value 1 with keyAllowed := false }
  | none =>
    if !s.inFlow && !s.keyAllowed then none
    else
      let s := s.openBlock s.cursor.column s.count .blockMappingStart
      some { s.addSign .value 1 with keyAllowed := !s.inFlow }

/-- A sign or a directive that ends all block collections. -/
def addDocumentLine (s : Layout) (read : Layout → Option (Token × Cursor)) : Option Layout := do
  let s ← (s.closeBlocks (-1)).dropKey
  let (t, c) ← read s
  pure { s.add t with cursor := c, keyAllowed := false }

def addQuoted (fuel : Nat) (s : Layout) (quote : Char) : Option Layout :=
  s.addProperty fun s =>
    (readQuoted quote fuel (s.cursor.advance 1)).map fun r =>
      (.scalar (String.ofList r.text) .other, r.cursor)

def addBlock (s : Layout) (literal : Bool) : Option Layout := do
  let s ← s.dropKey
  let r ← readBlock literal s.indent (s.cursor.advance 1)
  pure { s.add (.scalar (String.ofList r.text) (if literal then .literal else .other)) with
    cursor := r.cursor, keyAllowed := true }

def addPlain (fuel : Nat) (s : Layout) : Option Layout := do
  let s ← s.noteKey
  let r ← readPlain s.inFlow (s.indent + 1).toNat fuel {} s.cursor
  pure { s.add (.scalar (String.ofList r.text) .plain) with
    cursor := r.cursor, keyAllowed := r.newLine }

/-- A plain scalar can begin with these characters. -/
def startsPlain (inFlow : Bool) (c : Char) (rest : List Char) : Bool :=
  if c == '-' then !(rest.head?.map isGap).getD false
  else if c == '?' || c == ':' then !inFlow && !endsWord rest
  else !isGapOrBreak c && !",[]\x7b\x7d#&*!|>\x27\x22%@\x60".toList.contains c

/-- Adds the token that begins with a character. No more than `fuel` characters are left. -/
def addToken (fuel : Nat) (s : Layout) (c : Char) (rest : List Char) : Option Layout :=
  if s.cursor.column == 0 && c == '%' then s.addDocumentLine readDirective
  else if s.cursor.atDocumentLine then
    s.addDocumentLine fun s =>
      some (if c == '-' then .documentStart else .documentEnd, s.cursor.advance 3)
  else if c == '[' then s.openFlow .flowSequenceStart
  else if c == '\x7b' then s.openFlow .flowMappingStart
  else if c == ']' then s.closeFlow .flowSequenceEnd
  else if c == '\x7d' then s.closeFlow .flowMappingEnd
  else if c == ',' then s.dropKey.map fun s => { s.addSign .flowEntry 1 with keyAllowed := true }
  else if c == '-' && endsWord rest then s.addIndicator .blockSequenceStart .blockEntry true
  else if c == '?' && (s.inFlow || endsWord rest) then
    s.addIndicator .blockMappingStart .key (!s.inFlow)
  else if c == ':' && (s.inFlow || endsWord rest) then s.addValue
  else if c == '*' then s.addProperty fun s => s.readName.map fun (name, c) => (.alias name, c)
  else if c == '&' then s.addProperty fun s => s.readName.map fun (name, c) => (.anchor name, c)
  else if c == '!' then
    s.addProperty fun s => s.readTag.map fun (handle, suffix, c) => (.tag handle suffix, c)
  else if c == '|' && !s.inFlow then s.addBlock true
  else if c == '>' && !s.inFlow then s.addBlock false
  else if c == '\x27' || c == '\x22' then addQuoted fuel s c
  else if startsPlain s.inFlow c rest then addPlain fuel s
  else none

/-- Cuts the text into tokens. Each of them has a character at least, so that fewer characters are
left than `fuel`. -/
def run : Nat → Layout → Option (List Token)
  | 0, _ => none
  | fuel + 1, s => do
    let s ← (skipBlanks (fuel + 1) s).dropStaleKeys
    let s := s.closeBlocks s.cursor.column
    match s.cursor.rest with
    | [] => (s.closeBlocks (-1)).dropKey.map fun s => s.tokens.reverse
    | c :: rest => run fuel (← addToken (fuel + 1) s c rest)

end Layout

/-- The tokens of a text, or nothing if it cannot be cut into tokens. -/
def Token.ofText? (cs : List Char) : Option (List Token) :=
  if cs.all isAllowed then Layout.run (cs.length + 1) { cursor := { rest := cs } } else none

end RecordNaming.Yaml
