/-
  RecordNaming.Json.Reader — reading JSON text into a document tree.

  The grammar decides what is a text; what a reader of the tree may still refuse is kept
  in it: numbers beyond the floating-point numbers and strings whose escapes name no
  character. A whole number that fits 64 bits is exact. Any other number is read from as
  many leading digits as fit 64 unsigned bits, scaled by a power of ten in binary
  floating-point arithmetic; that can miss the nearest number by a unit.
-/
import RecordNaming.Document.Node

namespace RecordNaming.Json

open Document (Node)

def isSpace (c : Char) : Bool := c == ' ' || c == '\n' || c == '\r' || c == '\t'

def skipSpace (cs : List Char) : List Char := cs.dropWhile isSpace

/-- The number of a hexadecimal digit. -/
def hex? (c : Char) : Option Nat :=
  let n := c.toNat
  if 48 ≤ n && n ≤ 57 then some (n - 48)
  else if 65 ≤ n && n ≤ 70 then some (n - 55)
  else if 97 ≤ n && n ≤ 102 then some (n - 87)
  else none

/-- The number of four hexadecimal digits. -/
def hex4? (a b c d : Char) : Option Nat := do
  pure ((((← hex? a) * 16 + (← hex? b)) * 16 + (← hex? c)) * 16 + (← hex? d))

/-- The character of a one-letter escape. -/
def escape? (c : Char) : Option Char :=
  if c == '\x22' || c == '\\' || c == '/' then some c
  else if c == 'b' then some '\x08'
  else if c == 'f' then some '\x0C'
  else if c == 'n' then some '\n'
  else if c == 'r' then some '\r'
  else if c == 't' then some '\t'
  else none

/-- The part of a string that was read, backward, or nothing once an escape named half of a
character. `lead` is a leading half that waits for the other, 0 if none does. -/
structure StringPart where
  text : Option (List Char) := some []
  lead : Nat := 0

namespace StringPart

/-- Adds a character. A half that still waits is lost. -/
def push (p : StringPart) (c : Char) : StringPart :=
  ⟨if p.lead = 0 then p.text.map (c :: ·) else none, 0⟩

/-- Adds a unit of 16 bits. -/
def pushUnit (p : StringPart) (n : Nat) : StringPart :=
  if 0xDC00 ≤ n && n ≤ 0xDFFF then
    if p.lead = 0 then ⟨none, 0⟩
    else ⟨p.text.map (Char.ofNat (0x10000 + (p.lead - 0xD800) * 0x400 + (n - 0xDC00)) :: ·), 0⟩
  else if 0xD800 ≤ n && n ≤ 0xDBFF then
    if p.lead = 0 then ⟨p.text, n⟩ else ⟨none, 0⟩
  else p.push (Char.ofNat n)

/-- The string, if all its characters are whole. -/
def close (p : StringPart) : Option String :=
  if p.lead = 0 then p.text.map (String.ofList ·.reverse) else none

end StringPart

/-- A string as far as its closing quote, and what follows it. The string is missing if an escape
names half of a character. -/
def readString (p : StringPart) : List Char → Option (Option String × List Char)
  | [] => none
  | '\x22' :: rest => some (p.close, rest)
  | '\\' :: 'u' :: a :: b :: c :: d :: rest =>
    match hex4? a b c d with
    | some n => readString (p.pushUnit n) rest
    | none => none
  | '\\' :: c :: rest =>
    match escape? c with
    | some e => readString (p.push e) rest
    | none => none
  | c :: rest => if c.toNat < 32 || c == '\\' then none else readString (p.push c) rest

/-- Takes digits as long as the number they make fits 64 unsigned bits; the other digits
are left. -/
def absorb (significand : Nat) : List Char → Nat × List Char
  | [] => (significand, [])
  | c :: rest =>
    let next := significand * 10 + (Text.digit? c).getD 0
    if next ≤ 18446744073709551615 then absorb next rest else (significand, c :: rest)

/-- A magnitude scaled by a power of ten: one product or quotient with the nearest power, after
as many quotients by the greatest power as a small exponent needs. Nothing if the
result is infinite. -/
def scale? (x : Binary64) (exponent : Int) : Option Binary64 :=
  if exponent.natAbs ≤ 308 then
    (Binary64.powerOfTen? exponent.natAbs).bind fun p => if 0 ≤ exponent then x.mul? p else x.div? p
  else if x.isZero then some x
  else if 0 ≤ exponent then none
  else (Binary64.powerOfTen? 308).bind fun p => (x.div? p).bind (scale? · (exponent + 308))
  termination_by exponent.natAbs
  decreasing_by omega

/-- The floating-point number of a significand and a power of ten. -/
def floatNode (negative : Bool) (significand : Nat) (exponent : Int) : Node :=
  match (Binary64.nearest? significand 1).bind (scale? · exponent) with
  | some x => .number (.float (x.withSign negative))
  | none => .hugeNumber

/-- The largest exponent that is read digit by digit. -/
def maxExponent : Nat := 2147483647

/-- The number with these whole digits, digits after the point and exponent. -/
def numberNode (negative : Bool) (whole : List Char) (fraction : Option (List Char))
    (exponent : Option (Bool × List Char)) : Node :=
  let (significand, surplus) := absorb 0 whole
  match fraction, exponent with
  | none, none =>
    let n : Int := if negative then -(significand : Int) else significand
    if surplus.isEmpty && !(negative && significand == 0) then
      match Number.ofInt? n with
      | some exact => .number exact
      | none => floatNode negative significand 0
    else floatNode negative significand surplus.length
  | _, _ =>
    let places := fraction.getD []
    let (significand, dropped) := absorb significand places
    let start : Int := (surplus.length : Int) - (places.length - dropped.length : Nat)
    match exponent with
    | none => floatNode negative significand start
    | some (down, word) =>
      let e := Text.digitsValue word
      if maxExponent < e then
        if significand == 0 || down then .number (.float (Binary64.zero.withSign negative))
        else .hugeNumber
      else floatNode negative significand (if down then start - e else start + e)

/-- A numeral, after its minus sign. -/
def readNumber (negative : Bool) (cs : List Char) : Option (Node × List Char) := do
  let whole := cs.takeWhile Text.isDigit
  let rest := cs.dropWhile Text.isDigit
  if whole.isEmpty || (whole.length > 1 && whole.head? == some '0') then none
  else
    let (fraction, rest) ← match rest with
      | '.' :: more =>
        let places := more.takeWhile Text.isDigit
        if places.isEmpty then none else some (some places, more.dropWhile Text.isDigit)
      | _ => some (none, rest)
    let signed? := match rest with
      | c :: more => if c == 'e' || c == 'E' then some more else none
      | [] => none
    match signed? with
    | none => pure (numberNode negative whole fraction none, rest)
    | some more =>
      let (down, more) := match more with
        | '-' :: tail => (true, tail)
        | '+' :: tail => (false, tail)
        | _ => (false, more)
      let word := more.takeWhile Text.isDigit
      if word.isEmpty then none
      else
        pure (numberNode negative whole fraction (some (down, word)), more.dropWhile Text.isDigit)

def stringNode : Option String → Node
  | some s => .string s
  | none => .brokenString

mutual

/-- A value and what follows it. The first argument bounds the calls below. -/
def readValue : Nat → List Char → Option (Node × List Char)
  | 0, _ => none
  | fuel + 1, cs =>
    match skipSpace cs with
    | '\x7b' :: rest =>
      match skipSpace rest with
      | '\x7d' :: rest => some (.mapping [], rest)
      | rest => (readEntries fuel rest).map fun (entries, rest) => (.mapping entries, rest)
    | '[' :: rest =>
      match skipSpace rest with
      | ']' :: rest => some (.sequence [], rest)
      | rest => (readItems fuel rest).map fun (items, rest) => (.sequence items, rest)
    | '\x22' :: rest => (readString {} rest).map fun (s, rest) => (stringNode s, rest)
    | 't' :: 'r' :: 'u' :: 'e' :: rest => some (.bool true, rest)
    | 'f' :: 'a' :: 'l' :: 's' :: 'e' :: rest => some (.bool false, rest)
    | 'n' :: 'u' :: 'l' :: 'l' :: rest => some (.null, rest)
    | '-' :: rest => readNumber true rest
    | rest => readNumber false rest

/-- One item or more, and what follows the closing bracket. -/
def readItems : Nat → List Char → Option (List Node × List Char)
  | 0, _ => none
  | fuel + 1, cs =>
    match readValue fuel cs with
    | none => none
    | some (item, rest) =>
      match skipSpace rest with
      | ']' :: rest => some ([item], rest)
      | ',' :: rest => (readItems fuel rest).map fun (items, rest) => (item :: items, rest)
      | _ => none

/-- One entry or more, and what follows the closing brace. -/
def readEntries : Nat → List Char → Option (List (Node × Node) × List Char)
  | 0, _ => none
  | fuel + 1, cs =>
    match skipSpace cs with
    | '\x22' :: rest =>
      match readString {} rest with
      | none => none
      | some (key, rest) =>
        match skipSpace rest with
        | ':' :: rest =>
          match readValue fuel rest with
          | none => none
          | some (value, rest) =>
            match skipSpace rest with
            | '\x7d' :: rest => some ([(stringNode key, value)], rest)
            | ',' :: rest =>
              (readEntries fuel rest).map fun (entries, rest) =>
                ((stringNode key, value) :: entries, rest)
            | _ => none
        | _ => none
    | _ => none

end

/-- The document of a text, or nothing if the text is no JSON. Each character accounts for two
calls at most. -/
def read? (cs : List Char) : Option Node :=
  match readValue (2 * cs.length + 2) cs with
  | some (node, rest) => if (skipSpace rest).isEmpty then some node else none
  | none => none

/-- The greatest number of arrays and objects open at once in a generic value. -/
def maxOpen : Nat := 127

/-- The generic value of a text. -/
def parse? (s : String) : Option Json := (read? s.toList).bind (Node.toJson? maxOpen)

end RecordNaming.Json
