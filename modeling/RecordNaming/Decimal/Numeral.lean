/-
  RecordNaming.Decimal.Numeral — reading decimals: plain numerals, numerals with an
  exponent, and numbers as people write them, with group separators.

  A numeral has more digits than a decimal can hold in two ways. Whole digits too many
  are an error. The first place too many, for the scale or for the coefficient, ends the
  number: the coefficient is rounded on that digit alone, upward from 5. An underscore in
  that place is a zero, unless the coefficient is long: then it is skipped.
-/
import RecordNaming.Decimal.Arithmetic
import RecordNaming.Text.Blank

namespace RecordNaming.Decimal

/-- Rounds on the first digit that has no room. A coefficient that then grows out of
range gives up one more place. -/
def roundOn (coefficient scale digit : Nat) : Option (Nat × Nat) :=
  if digit < 5 then some (coefficient, scale)
  else if coefficient + 1 ≤ maxCoefficient then some (coefficient + 1, scale)
  else if scale = 0 then none
  else some ((coefficient + 5) / 10, scale - 1)

/-- What may follow the character that was rounded on. -/
def isTail (c : Char) : Bool := Text.isDigit c || c == '_'

/-- The number when it has no room for another place: rounded on the next character alone. An
underscore there stands for the digit 0. -/
def roundNext (coefficient scale : Nat) : List Char → Option (Nat × Nat)
  | [] => some (coefficient, scale)
  | c :: rest =>
    if rest.all isTail then
      match Text.digit? c with
      | some d => roundOn coefficient scale d
      | none => if c == '_' then some (coefficient, scale) else none
    else none

/-- From here on a coefficient is long. One that is not long takes another digit within 64 bits. -/
def longCoefficient : Nat := 18446744073709551615 / 10 - 255

/-- Reads digits, one point and, behind the first digit, underscores, which only divide. When all
places are taken, a coefficient that was long before its last place has one underscore skipped, and
the next character is rounded on. `point` says whether the point was met, `any` whether a digit
was. -/
def readDigits (coefficient scale : Nat) (point any : Bool) : List Char → Option (Nat × Nat)
  | [] => if any then some (coefficient, scale) else none
  | c :: rest =>
    if point && scale == maxScale then
      roundNext coefficient scale
        (if c == '_' && longCoefficient ≤ coefficient / 10 then rest else c :: rest)
    else
      match Text.digit? c with
      | some d =>
        if coefficient * 10 + d ≤ maxCoefficient then
          readDigits (coefficient * 10 + d) (if point then scale + 1 else scale) point true rest
        else if point then roundNext coefficient scale (c :: rest)
        else none
      | none =>
        if c == '.' && !point then readDigits coefficient scale true any rest
        else if c == '_' && any then readDigits coefficient scale point any rest
        else none

/-- Reads a plain numeral: a sign, digits with one point among them or at an end. -/
def readPlain? (cs : List Char) : Option Decimal :=
  let (negative, body) := match cs with
    | '-' :: rest => (true, rest)
    | '+' :: rest => (false, rest)
    | _ => (false, cs)
  (readDigits 0 0 false false body).bind fun p =>
    ofParts? (signed (if negative then -1 else 1) p.1) p.2

/-- Moves the point `e` places to the left. Places beyond the greatest scale are rounded off first;
a negative number that leaves nothing then becomes a zero with a minus sign. -/
def shiftLeft? (d : Decimal) (e : Nat) : Option Decimal :=
  if maxScale < e then none
  else
    let kept := if maxScale < d.scale + e then d.round (maxScale - e) else d
    kept.withScale? (kept.scale + e)

/-- Moves the point `e` places to the right. When the places run out, zeros are added. -/
def shiftRight? (d : Decimal) (e : Nat) : Option Decimal :=
  if e ≤ d.scale then d.withScale? (d.scale - e)
  else if maxScale < e then none
  else ofParts? (d.coefficient * tenPow (e - d.scale)) 0

/-- Reads a plain numeral, an `e` or `E` and an exponent. -/
def readScientific? (cs : List Char) : Option Decimal :=
  let isMark := fun c : Char => c == 'e' || c == 'E'
  match cs.dropWhile (!isMark ·) with
  | [] => none
  | _ :: exponent =>
    (readPlain? (cs.takeWhile (!isMark ·))).bind fun base =>
      match exponent with
      | '-' :: rest => (Text.natUpTo? 4294967295 rest).bind base.shiftLeft?
      | _ => (Text.natUpTo? 4294967295 exponent).bind base.shiftRight?

/-- Reads a numeral, plain or with an exponent. -/
def readNumeral? (cs : List Char) : Option Decimal :=
  (readPlain? cs).or (readScientific? cs)

/-- Reads a number as people write it: blanks around it, group separators anywhere and
one plus sign do not matter. -/
def parse? (s : String) : Option Decimal :=
  let kept := (Text.trim s.toList).filter (· != ',')
  readNumeral? (match kept with
    | '+' :: rest => rest
    | _ => kept)

end RecordNaming.Decimal
