/-
  RecordNaming.Document.Scalar — what a plain YAML scalar is read as: null, a truth value, a
  whole number, a floating-point number, or the text it is. Digits after a leading zero
  are text.
-/
import RecordNaming.Document.Node
import RecordNaming.Text.Digits

namespace RecordNaming.Document.Scalar

/-! ## Texts -/

def isNullText (s : String) : Bool := ["~", "null", "Null", "NULL"].contains s

def boolOf? (s : String) : Option Bool :=
  if ["true", "True", "TRUE"].contains s then some true
  else if ["false", "False", "FALSE"].contains s then some false
  else none

/-- A sign stands in front. -/
def startsSigned (cs : List Char) : Bool := cs.head? == some '+' || cs.head? == some '-'

def withoutPlus (cs : List Char) : List Char :=
  match cs with
  | '+' :: rest => rest
  | _ => cs

/-- A sign, then a zero and one digit or more, and nothing else. -/
def hasLeadingZero (cs : List Char) : Bool :=
  let body := if startsSigned cs then cs.drop 1 else cs
  body.length > 1 && body.head? == some '0' && body.all Text.isDigit

/-- The digit of a number in a base of at most 16. -/
def digitIn? (base : Nat) (c : Char) : Option Nat :=
  let n := c.toNat
  let value := if 48 ≤ n && n ≤ 57 then n - 48 else if 65 ≤ n && n ≤ 70 then n - 55
    else if 97 ≤ n && n ≤ 102 then n - 87 else base
  if value < base then some value else none

/-- One digit or more in a base. -/
def inBase? (base : Nat) (cs : List Char) : Option Nat :=
  if cs.isEmpty then none
  else (cs.mapM (digitIn? base)).map fun digits => digits.foldl (fun n d => n * base + d) 0

/-- The base that a marker announces, and what follows the marker. -/
def based? (cs : List Char) : Option (Nat × List Char) :=
  match cs with
  | '0' :: 'x' :: rest => some (16, rest)
  | '0' :: 'o' :: rest => some (8, rest)
  | '0' :: 'b' :: rest => some (2, rest)
  | _ => none

/-- A whole number, by a marker in another base. -/
def intOf? (cs : List Char) : Option Int :=
  let (negative, body) := match cs with
    | '-' :: rest => (true, rest)
    | _ => (false, withoutPlus cs)
  let magnitude := match based? body with
    | some (base, rest) => inBase? base rest
    | none => if hasLeadingZero cs then none else inBase? 10 body
  magnitude.map fun n => if negative then -(n : Int) else n

/-- A finite floating-point number: digits with a point among them or at an end, and an
exponent. -/
def floatOf? (cs : List Char) : Option Binary64 := do
  let (negative, body) := match cs with
    | '-' :: rest => (true, rest)
    | _ => (false, withoutPlus cs)
  let whole := body.takeWhile Text.isDigit
  let rest := body.dropWhile Text.isDigit
  let (places, rest) := match rest with
    | '.' :: more => (more.takeWhile Text.isDigit, more.dropWhile Text.isDigit)
    | _ => ([], rest)
  if whole.isEmpty && places.isEmpty then none
  else
    let exponent ← match rest with
      | [] => some (0 : Int)
      | mark :: more =>
        if mark == 'e' || mark == 'E' then
          match more with
          | '-' :: word => (Text.nat? word).map fun n => -(n : Int)
          | _ => (Text.nat? (withoutPlus more)).map fun n => (n : Int)
        else none
    let x ← Binary64.ofDecimal? (Text.digitsValue (whole ++ places)) (exponent - places.length)
    pure (x.withSign negative)

/-- An infinity or what is no number. -/
def isSpecial (s : String) : Bool :=
  [".inf", ".Inf", ".INF", "+.inf", "+.Inf", "+.INF", "-.inf", "-.Inf", "-.INF", ".nan", ".NaN",
    ".NAN"].contains s

/-! ## Scalars -/

/-- Nothing was written. -/
def isBlank (s : Scalar) : Bool := s.text.isEmpty && s.style == .plain

/-- An absent value where one is optional. -/
def isNull (s : Scalar) : Bool :=
  s.style == .plain && (match s.tag with
    | some tag => tag == .null && isNullText s.text
    | none => s.text.isEmpty || isNullText s.text)

/-- A tag calls a plain text null that is not. -/
def isFalseNull (s : Scalar) : Bool :=
  s.style == .plain && s.tag == some .null && !isNullText s.text

/-- The text decides the type, as far as this type goes. -/
def open? (s : Scalar) (tag : Tag) : Option (List Char) :=
  if s.style == .plain || (s.style == .literal && s.tag == some tag) then some s.text.toList
  else none

def bool? (s : Scalar) : Option Bool := (s.open? .bool).bind fun cs => boolOf? (String.ofList cs)

def int? (s : Scalar) : Option Int := (s.open? .int).bind intOf?

/-- A whole number without a minus sign. -/
def nat? (s : Scalar) : Option Int := s.int?.filter fun _ => s.text.toList.head? != some '-'

/-- The text of a floating-point number that is a comparison operand. -/
def floatText? (cs : List Char) : Option String :=
  (floatOf? cs).map fun x => String.ofList x.digits

/-- The text of a whole number that fits 64 bits; nothing for one that does not fit 128. -/
def wholeText? (n : Int) : Option String := (Json.Number.ofInt? n).map Json.Number.text

/-- A whole number of 128 bits, signed or not. -/
def isWhole (n : Int) : Bool :=
  -170141183460469231731687303715884105728 ≤ n && n < 340282366920938463463374607431768211456

/-- The operand that a plain text stands for; nothing for one that no operand can be. -/
def plainOperand? (text : String) : Option String :=
  if text.isEmpty || isNullText text then none
  else
    match boolOf? text with
    | some b => some (if b then "true" else "false")
    | none =>
      match (intOf? text.toList).filter isWhole with
      | some n => wholeText? n
      | none =>
        if isSpecial text then none
        else if hasLeadingZero text.toList then some text
        else some ((floatText? text.toList).getD text)

/-- The operand of a comparison; nothing for what no operand can be. A tag of a standard type asks
for that type, a tag of one's own is none unless it cannot be read. -/
def operand? (s : Scalar) : Option String :=
  let untagged := if s.style == .plain then plainOperand? s.text else some s.text
  match s.tag with
  | none => untagged
  | some .null => none
  | some .bool => (boolOf? s.text).map fun b => if b then "true" else "false"
  | some .int => (intOf? s.text.toList).bind wholeText?
  | some .float => floatText? s.text.toList
  | some .own => none
  | some .unreadable => untagged
  | some .other => some s.text

end RecordNaming.Document.Scalar
