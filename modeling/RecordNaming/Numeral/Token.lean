/-
  RecordNaming.Numeral.Token — custom number patterns: the sections between semicolons
  and the tokens of a section. Both readings agree on what is quoted: a literal runs from
  a quote to the next one of its kind, and a backslash outside literals takes the next
  character literally.
-/
import RecordNaming.FormatError

namespace RecordNaming.Numeral

/-- An element of a section. -/
inductive Token where
  /-- The placeholder that shows a digit even where the number has none. -/
  | zero
  /-- The placeholder that shows a digit only where the number has one. -/
  | hash
  | point
  | comma
  | percent
  | perMille
  | literal (text : List Char)
  deriving DecidableEq, Repr

def Token.isPlaceholder : Token → Bool
  | .zero => true
  | .hash => true
  | _ => false

/-- What a token that is no placeholder shows. -/
def Token.ownText : Token → List Char
  | .percent => ['%']
  | .perMille => ['‰']
  | .literal text => text
  | _ => []

def isQuote (c : Char) : Bool := c == '\x27' || c == '\x22'

/-- A character put before the first section. -/
def consFirst (c : Char) : List (List Char) → List (List Char)
  | [] => [[c]]
  | first :: rest => (c :: first) :: rest

/-- The sections of a pattern, quotes and escapes kept. The first argument is the quote that is
open. -/
def sections : Option Char → List Char → Except FormatError (List (List Char))
  | none, [] => .ok [[]]
  | some _, [] => .error .unterminatedLiteral
  | some quote, c :: rest =>
      (sections (if c = quote then none else some quote) rest).map (consFirst c)
  | none, ['\\'] => .error .trailingEscape
  | none, '\\' :: c :: rest => (sections none rest).map fun s => consFirst '\\' (consFirst c s)
  | none, ';' :: rest => (sections none rest).map ([] :: ·)
  | none, c :: rest => (sections (if isQuote c then some c else none) rest).map (consFirst c)

/-- The token of an unquoted character that has a meaning of its own, else the character. -/
def Token.ofChar (c : Char) : Token :=
  if c == '0' then .zero
  else if c == '#' then .hash
  else if c == '.' then .point
  else if c == ',' then .comma
  else if c == '%' then .percent
  else if c == '‰' then .perMille
  else .literal [c]

/-- An exponent would start at `c` before these characters. -/
def startsExponent (c : Char) (rest : List Char) : Bool :=
  (c == 'e' || c == 'E') && (match rest.head? with
    | some d => d == '0' || d == '+' || d == '-'
    | none => false)

/-- The tokens of a section. The first argument is the literal that is open: its quote and its
characters so far, backward. -/
def tokenize : Option (Char × List Char) → List Char → Except FormatError (List Token)
  | none, [] => .ok []
  | some _, [] => .error .unterminatedLiteral
  | some (quote, literal), c :: rest =>
    if c = quote then (tokenize none rest).map (.literal literal.reverse :: ·)
    else tokenize (some (quote, c :: literal)) rest
  | none, ['\\'] => .error .trailingEscape
  | none, '\\' :: c :: rest => (tokenize none rest).map (.literal [c] :: ·)
  | none, c :: rest =>
    if isQuote c then tokenize (some (c, [])) rest
    else if startsExponent c rest then .error (.unsupportedSpecifier "exponent")
    else (tokenize none rest).map (.ofChar c :: ·)

end RecordNaming.Numeral
