/-
  RecordNaming.Numeral.Format — numbers as text by a format: a standard specifier (a
  letter and up to two digits), a custom pattern, either of them with a magnitude letter
  in it. Formatting that fails falls back to the number's own numeral.
-/
import RecordNaming.Numeral.Section
import RecordNaming.Text.Blank

namespace RecordNaming.Numeral

/-! ## Standard specifiers -/

/-- The sign of a number before its text; a text that shows zero has none. -/
def withSign (d : Decimal) (text : List Char) (shownZero : Bool) : List Char :=
  if d.isNegative && !shownZero then '-' :: text else text

/-- The magnitude with exactly `places` places, and whether it rounded to zero. -/
def fixed (d : Decimal) (places : Nat) (grouping : Bool) : Rendered :=
  let rounded := d.abs.round places
  let whole := (chunks grouping rounded.integerDigits).flatten
  let fraction := rounded.fractionDigits.rightpad places '0'
  ⟨whole ++ (if places = 0 then [] else '.' :: fraction), rounded.isZero⟩

def isLetter (c : Char) : Bool :=
  let n := c.toNat
  (65 ≤ n && n ≤ 90) || (97 ≤ n && n ≤ 122)

/-- A letter alone or with one or two digits behind it. -/
def specifier? (pattern : List Char) : Option (Char × Option Nat) :=
  match pattern with
  | [] => none
  | c :: rest =>
    if !isLetter c then none
    else if rest.isEmpty then some (c, none)
    else if rest.length ≤ 2 && rest.all Text.isDigit then some (c, some (Text.digitsValue rest))
    else none

/-- Grouped, fixed, whole, percent and general numerals. -/
def formatStandard (d : Decimal) (letter : Char) (precision : Option Nat) :
    Except FormatError (List Char) :=
  match letter.toUpper with
  | 'N' => let r := fixed d (precision.getD 2) true; .ok (withSign d r.text r.isZero)
  | 'F' => let r := fixed d (precision.getD 2) false; .ok (withSign d r.text r.isZero)
  | 'D' =>
    if d.isIntegral then .ok (withSign d (d.integerDigits.leftpad (precision.getD 0) '0') d.isZero)
    else .error .nonIntegral
  | 'P' =>
    match (Decimal.ofParts? 100 0).bind d.mul? with
    | some percent =>
      let r := fixed percent (precision.getD 2) true
      .ok (withSign d (r.text ++ [' ', '%']) r.isZero)
    | none => .error .overflow
  | 'G' => .ok d.digits
  | other => .error (.unsupportedSpecifier (String.ofList [other]))

/-- A decimal in a pattern without magnitude letters. -/
def applyPattern (d : Decimal) (pattern : List Char) : Except FormatError (List Char) :=
  match specifier? pattern with
  | some (letter, precision) => formatStandard d letter precision
  | none => formatCustom d pattern

/-- A number in groups of three with two places. -/
def groupedTwoPlaces (d : Decimal) : List Char :=
  let r := fixed d 2 true
  withSign d r.text r.isZero

/-! ## Magnitude letters -/

/-- A magnitude letter of a format: what it divides by, the letter as written, and the format
without it. -/
structure Magnitude where
  divisor : Nat
  suffix : Char
  pattern : List Char

/-- Thousands, millions and billions, by their letter in either case. -/
def divisor? (c : Char) : Option Nat :=
  match c.toUpper with
  | 'K' => some 1000
  | 'M' => some 1000000
  | 'B' => some 1000000000
  | _ => none

/-- The first magnitude letter of a format. -/
def magnitude? (format : List Char) : Option Magnitude :=
  match format with
  | [] => none
  | c :: rest =>
    match divisor? c with
    | some divisor => some ⟨divisor, c, rest⟩
    | none => (magnitude? rest).map fun m => { m with pattern := c :: m.pattern }

/-- The pattern of a scaled number when the format has nothing but the letter. -/
def defaultScaledPattern : List Char := ['0', '.', '#', '#']

/-- A decimal in a format. -/
def tryFormat (d : Decimal) (format : List Char) : Except FormatError (List Char) :=
  match magnitude? format with
  | some m =>
    match d.div? m.divisor with
    | some scaled =>
      (applyPattern scaled
        (if m.pattern.all Text.isBlank then defaultScaledPattern else m.pattern)).map
        (· ++ [m.suffix])
    | none => .error .overflow
  | none => applyPattern d format

/-- A decimal in a format, or its own numeral if there is no format or the format fails. -/
def format (d : Decimal) (format : Option String) : String :=
  match Text.nonBlank? format with
  | none => d.text
  | some f =>
    match tryFormat d f.toList with
    | .ok text => String.ofList text
    | .error _ => d.text

end RecordNaming.Numeral
