/-
  RecordNaming.Yaml.Cursor — a place in a YAML text, and the classes of characters that the
  format tells apart.
-/

namespace RecordNaming.Yaml

/-- What is left of a text, and where that begins. Lines and columns count from 0. -/
structure Cursor where
  rest : List Char
  /-- The bytes before it. -/
  index : Nat := 0
  line : Nat := 0
  column : Nat := 0

/-- A space or a tab. -/
def isGap (c : Char) : Bool := c == ' ' || c == '\t'

/-- A line break. -/
def isBreak (c : Char) : Bool :=
  c == '\n' || c == '\r' || c == '\u0085' || c == '\u2028' || c == '\u2029'

def isGapOrBreak (c : Char) : Bool := isGap c || isBreak c

/-- A gap, a break or the end comes first. -/
def endsWord (cs : List Char) : Bool := (cs.head?.map isGapOrBreak).getD true

/-- A break or the end comes first. -/
def endsLine (cs : List Char) : Bool := (cs.head?.map isBreak).getD true

/-- A letter, a digit, a hyphen or an underscore. -/
def isNameChar (c : Char) : Bool :=
  let n := c.toNat
  (48 ≤ n && n ≤ 57) || (65 ≤ n && n ≤ 90) || (97 ≤ n && n ≤ 122) || c == '_' || c == '-'

/-- The characters that a text may have. -/
def isAllowed (c : Char) : Bool :=
  let n := c.toNat
  n == 9 || n == 10 || n == 13 || (0x20 ≤ n && n ≤ 0x7E) || n == 0x85 || (0xA0 ≤ n && n ≤ 0xD7FF) ||
    (0xE000 ≤ n && n ≤ 0xFFFD) || 0x10000 ≤ n

/-- How many characters the line break that comes first has. A carriage return and a line feed are
one break. -/
def breakLength : List Char → Nat
  | '\r' :: '\n' :: _ => 2
  | _ :: _ => 1
  | [] => 0

/-- What the line break that comes first counts as in a text: the separators of Unicode stay what
they are. -/
def breakText : List Char → List Char
  | c :: _ => if c == '\u2028' || c == '\u2029' then [c] else ['\n']
  | [] => []

/-- The line of three signs that begins or ends a document comes first. -/
def startsDocumentLine (cs : List Char) : Bool :=
  (['-', '-', '-'].isPrefixOf cs || ['.', '.', '.'].isPrefixOf cs) && endsWord (cs.drop 3)

/-- The bytes that characters take up. -/
def byteCount (cs : List Char) : Nat := cs.foldl (fun n c => n + c.utf8Size) 0

namespace Cursor

def next? (c : Cursor) : Option Char := c.rest.head?

/-- Goes over characters of the line. -/
def advance (c : Cursor) (count : Nat) : Cursor :=
  { c with
    rest := c.rest.drop count, index := c.index + byteCount (c.rest.take count)
    column := c.column + count }

/-- Goes over the characters of the line that pass. -/
def skipWhile (c : Cursor) (test : Char → Bool) : Cursor := c.advance (c.rest.takeWhile test).length

/-- Goes over a line break. -/
def breakLine (c : Cursor) : Cursor :=
  { c.advance (breakLength c.rest) with line := c.line + 1, column := 0 }

/-- Goes over a byte order mark that begins a line. -/
def skipMark (c : Cursor) : Cursor :=
  if c.column == 0 && c.next? == some '\uFEFF' then c.advance 1 else c

/-- A document line begins here. -/
def atDocumentLine (c : Cursor) : Bool := c.column == 0 && startsDocumentLine c.rest

end Cursor

end RecordNaming.Yaml
