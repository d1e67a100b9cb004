/-
  RecordNaming.Yaml.Content — the texts of scalars: plain and quoted ones, whose lines are
  folded into one, and block scalars, whose lines stand under an indentation.
-/
import RecordNaming.Json.Reader
import RecordNaming.Yaml.Cursor

namespace RecordNaming.Yaml

/-! ## Gaps -/

/-- The gap between two words of a scalar. -/
structure Gap where
  spaces : List Char := []
  broken : Bool := false
  firstBreak : List Char := []
  laterBreaks : List Char := []

/-- What a gap is in the text: one break is a space, more breaks are one less. -/
def Gap.text (g : Gap) : List Char :=
  if !g.broken then g.spaces
  else if g.firstBreak == ['\n'] then (if g.laterBreaks.isEmpty then [' '] else g.laterBreaks)
  else g.firstBreak ++ g.laterBreaks

/-- Reads a gap. No tab may stand left of a column on a new line. -/
def readGap (leastColumn : Nat) : Nat → Gap → Cursor → Option (Gap × Cursor)
  | 0, g, c => some (g, c)
  | fuel + 1, g, c =>
    match c.next? with
    | none => some (g, c)
    | some x =>
      if isGap x then
        if g.broken && x == '\t' && c.column < leastColumn then none
        else
          readGap leastColumn fuel (if g.broken then g else { g with spaces := g.spaces ++ [x] })
            (c.advance 1)
      else if isBreak x then
        let br := breakText c.rest
        let g := if g.broken then { g with laterBreaks := g.laterBreaks ++ br }
          else { g with spaces := [], broken := true, firstBreak := br }
        readGap leastColumn fuel g c.breakLine
      else some (g, c)

/-- A scalar as it was read: its text, where it ends, and whether a new line begins there. -/
structure Content where
  text : List Char
  cursor : Cursor
  newLine : Bool := false

/-- A scalar with more text in front. -/
def Content.behind (lead : List Char) (r : Content) : Content := { r with text := lead ++ r.text }

/-! ## Plain scalars -/

/-- The characters that end a plain scalar within brackets. -/
def isFlowSign (c : Char) : Bool := c == ',' || c == '[' || c == ']' || c == '\x7b' || c == '\x7d'

/-- A word of a plain scalar. A colon ends it before a gap; within brackets it must not stand
before a sign. -/
def plainWord (inFlow : Bool) : List Char → Option (List Char)
  | [] => some []
  | c :: rest =>
    if isGapOrBreak c then some []
    else if inFlow && c == ':' && (rest.head?.map fun d => isFlowSign d || d == '?').getD false
    then none
    else if c == ':' && endsWord rest then some []
    else if inFlow && isFlowSign c then some []
    else (plainWord inFlow rest).map (c :: ·)

/-- Reads what follows a gap of a plain scalar whose later lines begin at a column or behind it. -/
def readPlain (inFlow : Bool) (leastColumn : Nat) : Nat → Gap → Cursor → Option Content
  | 0, gap, c => some ⟨[], c, gap.broken⟩
  | fuel + 1, gap, c =>
    if c.atDocumentLine || c.next? == some '#' then some ⟨[], c, gap.broken⟩
    else
      match plainWord inFlow c.rest with
      | none => none
      | some word =>
        let text := if word.isEmpty then [] else gap.text ++ word
        let gap := if word.isEmpty then gap else {}
        let c := c.advance word.length
        if !(c.next?.map isGapOrBreak).getD false then some ⟨text, c, gap.broken⟩
        else
          match readGap leastColumn (fuel + 1) {} c with
          | none => none
          | some (gap, c) =>
            if !inFlow && c.column < leastColumn then some ⟨text, c, gap.broken⟩
            else (readPlain inFlow leastColumn fuel gap c).map (·.behind text)

/-! ## Quoted scalars -/

/-- The character of a one-letter escape. -/
def escape? (c : Char) : Option Char :=
  match c with
  | '0' => some '\x00'
  | 'a' => some '\x07'
  | 'b' => some '\x08'
  | 't' => some '\t'
  | '\t' => some '\t'
  | 'n' => some '\n'
  | 'v' => some '\x0B'
  | 'f' => some '\x0C'
  | 'r' => some '\r'
  | 'e' => some '\x1B'
  | ' ' => some ' '
  | '\x22' => some '\x22'
  | '/' => some '/'
  | '\\' => some '\\'
  | 'N' => some '\u0085'
  | '_' => some '\u00A0'
  | 'L' => some '\u2028'
  | 'P' => some '\u2029'
  | _ => none

/-- The character of a number, if there is one. -/
def charOf? (n : Nat) : Option Char :=
  if n < 0xD800 || (0xDFFF < n && n ≤ 0x10FFFF) then some (Char.ofNat n) else none

/-- The character of hexadecimal digits. -/
def hexChar? (digits : List Char) : Option Char := do
  let ds ← digits.mapM Json.hex?
  charOf? (ds.foldl (fun n d => n * 16 + d) 0)

/-- A word between single quotes and the number of its characters; two quotes are one. -/
def singleWord : List Char → List Char × Nat
  | '\x27' :: '\x27' :: rest => let (word, count) := singleWord rest; ('\x27' :: word, count + 2)
  | c :: rest =>
    if c == '\x27' || isGapOrBreak c then ([], 0)
    else let (word, count) := singleWord rest; (c :: word, count + 1)
  | [] => ([], 0)

/-- A word between double quotes and the number of its characters. It ends before a backslash that
ends its line. -/
def doubleWord : List Char → Option (List Char × Nat)
  | '\\' :: 'x' :: a :: b :: rest => do
    let c ← hexChar? [a, b]
    let (word, count) ← doubleWord rest
    pure (c :: word, count + 4)
  | '\\' :: 'u' :: a :: b :: c :: d :: rest => do
    let c ← hexChar? [a, b, c, d]
    let (word, count) ← doubleWord rest
    pure (c :: word, count + 6)
  | '\\' :: 'U' :: a :: b :: c :: d :: e :: f :: g :: h :: rest => do
    let c ← hexChar? [a, b, c, d, e, f, g, h]
    let (word, count) ← doubleWord rest
    pure (c :: word, count + 10)
  | '\\' :: c :: rest =>
    if isBreak c then some ([], 0)
    else do
      let e ← escape? c
      let (word, count) ← doubleWord rest
      pure (e :: word, count + 2)
  | c :: rest =>
    if c == '\\' then none
    else if c == '\x22' || isGapOrBreak c then some ([], 0)
    else (doubleWord rest).map fun (word, count) => (c :: word, count + 1)
  | [] => some ([], 0)

/-- Reads what is left of a quoted scalar. -/
def readQuoted (quote : Char) : Nat → Cursor → Option Content
  | 0, _ => none
  | fuel + 1, c =>
    if c.atDocumentLine || c.rest.isEmpty then none
    else
      match if quote == '\x27' then some (singleWord c.rest) else doubleWord c.rest with
      | none => none
      | some (word, count) =>
        let c := c.advance count
        let (gap, c) :=
          if c.next? == some '\\' then (({ broken := true } : Gap), (c.advance 1).breakLine)
          else ({}, c)
        if c.next? == some quote then some ⟨word, c.advance 1, false⟩
        else
          match readGap 0 (fuel + 1) gap c with
          | none => none
          | some (gap, c) => (readQuoted quote fuel c).map (·.behind (word ++ gap.text))

/-! ## Block scalars -/

/-- What happens to the breaks at the end of a block scalar. -/
inductive Chomping where
  | strip
  | clip
  | keep
  deriving DecidableEq

def chomping? (c : Char) : Option Chomping :=
  if c == '+' then some .keep else if c == '-' then some .strip else none

/-- The signs of a header: what happens to the last breaks, and an indentation. -/
def readHeader (c : Cursor) : Option (Chomping × Nat × Cursor) :=
  let digit? := fun (c : Cursor) => c.next?.bind Text.digit?
  match c.next?.bind chomping? with
  | some chomping =>
    match digit? (c.advance 1) with
    | some n => if n = 0 then none else some (chomping, n, c.advance 2)
    | none => some (chomping, 0, c.advance 1)
  | none =>
    match digit? c with
    | some n =>
      if n = 0 then none
      else
        match (c.advance 1).next?.bind chomping? with
        | some chomping => some (chomping, n, c.advance 2)
        | none => some (.clip, n, c.advance 1)
    | none => some (.clip, 0, c)

/-- Goes over a comment and the break of a line that has nothing else. -/
def endLine? (c : Cursor) : Option Cursor :=
  let c := c.skipWhile isGap
  let c := if c.next? == some '#' then c.skipWhile (!isBreak ·) else c
  if !endsLine c.rest then none else some (if c.rest.isEmpty then c else c.breakLine)

/-- Reads empty lines and the indentation of the line behind them; an indentation of 0 is still
unknown. Also gives the greatest column that was reached. -/
def readIndentation (indent : Nat) :
    Nat → Nat → List Char → Cursor → Option (Nat × List Char × Cursor)
  | 0, most, breaks, c => some (most, breaks, c)
  | fuel + 1, most, breaks, c =>
    let spaces := (c.rest.takeWhile (· == ' ')).length
    let c := c.advance (if indent = 0 then spaces else min spaces (indent - c.column))
    let most := max most c.column
    if (indent = 0 || c.column < indent) && c.next? == some '\t' then none
    else if (c.next?.map isBreak).getD false then
      readIndentation indent fuel most (breaks ++ breakText c.rest) c.breakLine
    else some (most, breaks, c)

/-- What is behind a line of a block scalar. -/
structure LineEnd where
  /-- The break behind the line. -/
  lastBreak : List Char := []
  /-- The breaks of the empty lines behind that. -/
  emptyBreaks : List Char
  /-- The line began with a gap. -/
  indented : Bool := false

/-- Reads what follows a line of a block scalar; what is behind the last line decides how the text
ends. -/
def readLines (literal : Bool) (indent : Nat) (chomping : Chomping) :
    Nat → LineEnd → Cursor → Option Content
  | 0, _, _ => none
  | fuel + 1, e, c =>
    if c.column != indent || c.rest.isEmpty then
      some ⟨(if chomping = .strip then [] else e.lastBreak) ++
        (if chomping = .keep then e.emptyBreaks else []), c, false⟩
    else
      let indented := (c.next?.map isGap).getD false
      let folds := !literal && e.lastBreak.head? == some '\n' && !e.indented && !indented
      let joint := if folds then (if e.emptyBreaks.isEmpty then [' '] else []) else e.lastBreak
      let line := c.rest.takeWhile (!isBreak ·)
      let c := c.advance line.length
      let lastBreak := breakText c.rest
      let c := if c.rest.isEmpty then c else c.breakLine
      match readIndentation indent fuel 0 [] c with
      | none => none
      | some (_, emptyBreaks, c) =>
        (readLines literal indent chomping fuel { lastBreak, emptyBreaks, indented } c).map
          (·.behind (joint ++ e.emptyBreaks ++ line))

/-- Reads a block scalar behind its sign, within a collection of an indentation. -/
def readBlock (literal : Bool) (outer : Int) (c : Cursor) : Option Content := do
  let (chomping, increment, c) ← readHeader c
  let c ← endLine? c
  let given := if increment = 0 then 0 else if 0 ≤ outer then outer.toNat + increment else increment
  let fuel := c.rest.length + 1
  let (most, emptyBreaks, c) ← readIndentation given fuel 0 [] c
  let indent := if given = 0 then max most (max (outer + 1).toNat 1) else given
  readLines literal indent chomping fuel { emptyBreaks } c

end RecordNaming.Yaml
