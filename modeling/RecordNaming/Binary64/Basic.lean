/-
  RecordNaming.Binary64.Basic — finite binary floating-point numbers of 64 bits as
  `mantissa * 2 ^ exponent` in whole numbers, the number nearest to a ratio, and products
  and quotients rounded to it.
-/
import RecordNaming.Power

namespace RecordNaming

/-- The first number that is too large for a mantissa, 2 ^ 53. -/
def Binary64.mantissaBound : Nat := 9007199254740992

/-- The least mantissa with all of its bits, 2 ^ 52. -/
def Binary64.leadingBit : Nat := 4503599627370496

/-- The finite number `mantissa * 2 ^ exponent`, with a sign that zero can have too. -/
structure Binary64 where
  negative : Bool
  mantissa : Nat
  exponent : Int
  mantissa_lt : mantissa < Binary64.mantissaBound
  exponent_ge : -1074 ≤ exponent
  exponent_le : exponent ≤ 971
  deriving DecidableEq

namespace Binary64

def zero : Binary64 := ⟨false, 0, -1074, by decide, by decide, by decide⟩

def isZero (x : Binary64) : Bool := x.mantissa == 0

/-- The same magnitude with the given sign. -/
def withSign (x : Binary64) (negative : Bool) : Binary64 := { x with negative }

/-- The magnitude as a ratio of whole numbers. -/
def ratio (x : Binary64) : Nat × Nat :=
  (x.mantissa * twoPow x.exponent.toNat, twoPow (-x.exponent).toNat)

/-- The non-negative number `mantissa * 2 ^ exponent`, if it is in range. -/
def ofParts? (mantissa : Nat) (exponent : Int) : Option Binary64 :=
  if h : mantissa < mantissaBound ∧ -1074 ≤ exponent ∧ exponent ≤ 971 then
    some ⟨false, mantissa, exponent, h.1, h.2.1, h.2.2⟩
  else none

/-- The quotient `num / den` in units of `2 ^ exponent`, as a whole part, the rest and its
divisor. -/
def units (num den : Nat) (exponent : Int) : Nat × Nat × Nat :=
  let n := num * twoPow (-exponent).toNat
  let d := den * twoPow exponent.toNat
  (n / d, n % d, d)

/-- The number nearest to `num / den`, a tie to the even mantissa; nothing beyond the
greatest finite number. -/
def nearest? (num den : Nat) : Option Binary64 :=
  if num = 0 || den = 0 then some zero
  else
    let guess : Int := max ((num.log2 : Int) - den.log2 - 52) (-1074)
    let exponent := if (units num den guess).1 < leadingBit then max (guess - 1) (-1074) else guess
    let (q, r, d) := units num den exponent
    let m := if d < 2 * r || (d == 2 * r && q % 2 == 1) then q + 1 else q
    if m < mantissaBound then ofParts? m exponent else ofParts? (m / 2) (exponent + 1)

def mul? (x y : Binary64) : Option Binary64 :=
  nearest? (x.ratio.1 * y.ratio.1) (x.ratio.2 * y.ratio.2)

def div? (x y : Binary64) : Option Binary64 :=
  nearest? (x.ratio.1 * y.ratio.2) (x.ratio.2 * y.ratio.1)

/-- The number nearest to `10 ^ k`. -/
def powerOfTen? (k : Nat) : Option Binary64 := nearest? (tenPow k) 1

/-- The number nearest to `digits * 10 ^ exponent`, or nothing if that is beyond the finite
numbers. The exponent is first bounded by where every number is infinite or zero. -/
def ofDecimal? (digits : Nat) (exponent : Int) : Option Binary64 :=
  if digits = 0 then some zero
  else
    let place := (Nat.toDigits 10 digits).length + exponent
    if 400 < place then none
    else if place < -400 then some zero
    else nearest? (digits * tenPow exponent.toNat) (tenPow (-exponent).toNat)

end Binary64

end RecordNaming
