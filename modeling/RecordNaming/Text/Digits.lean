/-
  RecordNaming.Text.Digits — decimal digits: the numeral of a number, the number of a
  numeral, and zero padding. Only the ten ASCII digits count.
-/

namespace RecordNaming.Text

/-- The number an ASCII digit stands for. -/
def digit? (c : Char) : Option Nat :=
  if 48 ≤ c.toNat && c.toNat ≤ 57 then some (c.toNat - 48) else none

def isDigit (c : Char) : Bool := (digit? c).isSome

/-- The numeral of a natural number, without superfluous zeros. -/
def natDigits (n : Nat) : List Char := Nat.toDigits 10 n

/-- The numeral of a natural number, with zeros in front up to `width` digits. -/
def padded (width n : Nat) : List Char := (natDigits n).leftpad width '0'

/-- The numeral of an integer, with a minus sign in front of a negative one. -/
def intDigits (n : Int) : List Char :=
  if n < 0 then '-' :: natDigits n.natAbs else natDigits n.natAbs

/-- The numeral of an integer padded with zeros to `width` characters, the sign counted. -/
def intPadded (width : Nat) (n : Int) : List Char :=
  if n < 0 then '-' :: padded (width - 1) n.natAbs else padded width n.natAbs

/-- The number a word of digits stands for. -/
def digitsValue (cs : List Char) : Nat :=
  cs.foldl (fun n c => n * 10 + (digit? c).getD 0) 0

/-- A word of one or more digits, read as a number. -/
def nat? (cs : List Char) : Option Nat :=
  if cs.isEmpty || !cs.all isDigit then none else some (digitsValue cs)

/-- As `nat?`, with a plus sign allowed in front and no number above `limit`. -/
def natUpTo? (limit : Nat) (cs : List Char) : Option Nat :=
  let digits := match cs with
    | '+' :: rest => rest
    | _ => cs
  (nat? digits).filter (· ≤ limit)

end RecordNaming.Text
