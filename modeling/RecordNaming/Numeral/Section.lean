/-
  RecordNaming.Numeral.Section — a decimal in a custom number pattern.

  The tokens before the first point lay out the whole part, the others the places. The
  number is scaled by the percent signs and the commas that end the whole part, then
  rounded to as many places as there are placeholders for them, a half away from zero.
  Whole digits go to their placeholders from the right; the first placeholder takes all
  that are too many. A second section is for negative numbers, a third for zero and
  whatever rounds to it.
-/
import RecordNaming.Decimal.Arithmetic
import RecordNaming.Numeral.Token

namespace RecordNaming.Numeral

/-- Each digit with the comma after it that groups by three. -/
def chunks (grouping : Bool) : List Char → List (List Char)
  | [] => []
  | d :: rest =>
    (if grouping && !rest.isEmpty && rest.length % 3 == 0 then [d, ','] else [d]) ::
      chunks grouping rest

/-- The digits of a whole number in groups of three. -/
def grouped (digits : List Char) : List Char := (chunks true digits).flatten

/-- The tokens before the first point. -/
def wholeTokens (tokens : List Token) : List Token := tokens.takeWhile (· != .point)

/-- The tokens after the first point. -/
def placeTokens (tokens : List Token) : List Token := (tokens.dropWhile (· != .point)).drop 1

/-- The fewest whole digits shown: the placeholders from the first zero on. -/
def leastWhole (whole : List Token) : Nat :=
  ((whole.filter Token.isPlaceholder).dropWhile (· != .zero)).length

/-- The fewest places shown: the placeholders up to the last zero. -/
def leastPlaces (places : List Token) : Nat :=
  ((places.filter Token.isPlaceholder).reverse.dropWhile (· != .zero)).length

/-- What the commas of the whole part do. -/
structure Commas where
  /-- A comma stands between two placeholders. -/
  grouping : Bool := false
  /-- A placeholder was met. -/
  started : Bool := false
  /-- The commas since the last placeholder, each a division by 1000. -/
  pending : Nat := 0

def Commas.next (s : Commas) : Token → Commas
  | .zero => ⟨s.grouping || (s.started && s.pending != 0), true, 0⟩
  | .hash => ⟨s.grouping || (s.started && s.pending != 0), true, 0⟩
  | .comma => if s.started then { s with pending := s.pending + 1 } else s
  | _ => s

def commas (whole : List Token) : Commas := whole.foldl Commas.next {}

/-- The number scaled by the percent and per mille signs. -/
def scaleUp (d : Decimal) : List Token → Except FormatError Decimal
  | [] => .ok d
  | token :: rest =>
    let factor := match token with
      | .percent => Decimal.ofParts? 100 0
      | .perMille => Decimal.ofParts? 1000 0
      | _ => none
    match factor with
    | none => scaleUp d rest
    | some f =>
      match d.mul? f with
      | some product => scaleUp product rest
      | none => .error .overflow

/-- The number divided by 1000 for each pending comma. -/
def scaleDown (d : Decimal) : Nat → Except FormatError Decimal
  | 0 => .ok d
  | n + 1 =>
    match d.div? 1000 with
    | some q => scaleDown q n
    | none => .error .overflow

/-- The whole part. `slots` counts the placeholders to come; each keeps one digit for every slot
behind it. What is left of the digits is given back. -/
def layWhole : List Token → Nat → List (List Char) → List Char × List (List Char)
  | [], _, digits => ([], digits)
  | token :: rest, slots, digits =>
    match token with
    | .literal text => let (out, left) := layWhole rest slots digits; (text ++ out, left)
    | .percent => let (out, left) := layWhole rest slots digits; ('%' :: out, left)
    | .perMille => let (out, left) := layWhole rest slots digits; ('‰' :: out, left)
    | .comma => layWhole rest slots digits
    | .point => layWhole rest slots digits
    | _ =>
      let count := digits.length - (slots - 1)
      let (out, left) := layWhole rest (slots - 1) (digits.drop count)
      ((digits.take count).flatten ++ out, left)

/-- The places, a digit for each placeholder as long as there are digits. -/
def layPlaces : List Token → List Char → List Char
  | [], _ => []
  | token :: rest, digits =>
    match token with
    | .literal text => text ++ layPlaces rest digits
    | .percent => '%' :: layPlaces rest digits
    | .perMille => '‰' :: layPlaces rest digits
    | .comma => layPlaces rest digits
    | .point => layPlaces rest digits
    | _ => digits.take 1 ++ layPlaces rest (digits.drop 1)

/-- The whole digits shown: none for zero, and zeros in front up to `least`. -/
def wholeDigits (least : Nat) (d : Decimal) : List Char :=
  (if d.magnitude / tenPow d.scale = 0 then [] else d.integerDigits).leftpad least '0'

/-- The places shown: `most`, without the zeros at their end that are beyond `least`. -/
def placeDigits (least most : Nat) (d : Decimal) : List Char :=
  let all := d.fractionDigits.rightpad most '0'
  all.take least ++ ((all.drop least).reverse.dropWhile (· == '0')).reverse

/-- A section's text of a number, and whether the number rounded to zero. -/
structure Rendered where
  text : List Char
  isZero : Bool

/-- The tokens filled with a rounded number. -/
def layOut (tokens : List Token) (d : Decimal) : List Char :=
  let whole := wholeTokens tokens
  let places := placeTokens tokens
  let slots := whole.countP Token.isPlaceholder
  let digits := chunks (commas whole).grouping (wholeDigits (leastWhole whole) d)
  let (out, left) := layWhole whole slots digits
  let shown := slots != 0 || tokens.contains .point
  let behind := placeDigits (leastPlaces places) (places.countP Token.isPlaceholder) d
  out ++ (if shown then left.flatten else []) ++ (if behind.isEmpty then [] else ['.']) ++
    layPlaces places behind

/-- A number that is not negative in a section. The empty section shows it as it is. -/
def renderSection (d : Decimal) (pattern : List Char) : Except FormatError Rendered := do
  let tokens ← tokenize none pattern
  if tokens.isEmpty then pure ⟨d.digits, d.isZero⟩
  else
    let whole := wholeTokens tokens
    let scaled ← scaleDown (← scaleUp d tokens) (commas whole).pending
    let rounded := scaled.round ((placeTokens tokens).countP Token.isPlaceholder)
    pure ⟨layOut tokens rounded, rounded.isZero⟩

/-- The section of this index, if it is there and not empty. -/
def section? (all : List (List Char)) (index : Nat) : Option (List Char) :=
  (all[index]?).filter (!·.isEmpty)

/-- A decimal in a custom pattern. A negative number without a section of its own has a minus
sign, unless it rounds to zero. -/
def formatCustom (d : Decimal) (pattern : List Char) : Except FormatError (List Char) := do
  let all ← sections none pattern
  let first := all.headD []
  let zeroSection := section? all 2
  let (chosen, minus) :=
    if d.isNegative then
      match section? all 1 with
      | some s => (s, false)
      | none => (first, true)
    else if d.isZero then (zeroSection.getD first, false)
    else (first, false)
  let rendered ← renderSection d.abs chosen
  match zeroSection with
  | some s =>
    if rendered.isZero && !d.isZero then return (← renderSection .zero s).text
  | none => pure ()
  pure (if minus && !rendered.isZero then '-' :: rendered.text else rendered.text)

end RecordNaming.Numeral
