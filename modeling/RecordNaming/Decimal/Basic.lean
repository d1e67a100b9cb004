/-
  RecordNaming.Decimal.Basic — decimal numbers: a sign, a magnitude of at most 96 bits and
  a scale of at most 28, by which the magnitude is divided as a power of ten. The type, its
  parts, its printed form and its order.

  Two decimals can be equal in value and differ in scale (1.5 and 1.50), and a zero can have
  a minus sign when a negative number was rounded to it; the printed form shows exactly
  `scale` places and the sign, the order sees the value only.
-/
import RecordNaming.Power
import RecordNaming.Text.Digits

namespace RecordNaming

/-- The greatest coefficient, 2 ^ 96 - 1. -/
def Decimal.maxCoefficient : Nat := 79228162514264337593543950335

/-- The greatest scale. -/
def Decimal.maxScale : Nat := 28

/-- The decimal number `magnitude / 10 ^ scale` with a sign. -/
structure Decimal where
  /-- A minus sign stands in front, also of a zero. -/
  negative : Bool
  magnitude : Nat
  scale : Nat
  magnitude_le : magnitude ≤ Decimal.maxCoefficient
  scale_le : scale ≤ Decimal.maxScale
  deriving DecidableEq

namespace Decimal

/-- The decimal `coefficient / 10 ^ scale`, when its parts are in range. A zero has no sign. -/
def ofParts? (coefficient : Int) (scale : Nat) : Option Decimal :=
  if h : coefficient.natAbs ≤ maxCoefficient ∧ scale ≤ maxScale then
    some ⟨coefficient < 0, coefficient.natAbs, scale, h.1, h.2⟩
  else none

def zero : Decimal := ⟨false, 0, 0, by decide, by decide⟩

def one : Decimal := ⟨false, 1, 0, by decide, by decide⟩

/-- The decimal without places of an integer of 64 bits. -/
def ofInt64 (n : Int64) : Decimal :=
  ⟨n.toInt < 0, n.toInt.natAbs, 0,
    by have h1 := n.le_toInt; have h2 := n.toInt_lt; simp only [maxCoefficient]; omega,
    by decide⟩

/-- The decimal without places of an integer of 32 bits. -/
def ofInt32 (n : Int32) : Decimal :=
  ⟨n.toInt < 0, n.toInt.natAbs, 0,
    by have h1 := n.le_toInt; have h2 := n.toInt_lt; simp only [maxCoefficient]; omega,
    by decide⟩

/-- The magnitude with the sign. -/
def coefficient (d : Decimal) : Int := if d.negative then -(d.magnitude : Int) else d.magnitude

def isZero (d : Decimal) : Bool := d.magnitude == 0

/-- Less than zero. -/
def isNegative (d : Decimal) : Bool := d.negative && !d.isZero

def abs (d : Decimal) : Decimal := { d with negative := false }

/-- The same digits and sign at another scale, when that is in range. -/
def withScale? (d : Decimal) (scale : Nat) : Option Decimal :=
  if h : scale ≤ maxScale then some { d with scale, scale_le := h } else none

/-- The places after the point are all zero. -/
def isIntegral (d : Decimal) : Bool := d.magnitude % tenPow d.scale == 0

/-- The digits before the point, the sign aside. -/
def integerDigits (d : Decimal) : List Char := Text.natDigits (d.magnitude / tenPow d.scale)

/-- The digits after the point, exactly `scale` many. -/
def fractionDigits (d : Decimal) : List Char :=
  if d.scale = 0 then [] else Text.padded d.scale (d.magnitude % tenPow d.scale)

/-- The numeral of a decimal: its sign and all its places. -/
def digits (d : Decimal) : List Char :=
  (if d.negative then ['-'] else []) ++ d.integerDigits ++
    (if d.scale = 0 then [] else '.' :: d.fractionDigits)

def text (d : Decimal) : String := String.ofList d.digits

/-- The order of the values; neither the scale nor the sign of a zero matters. -/
def cmp (a b : Decimal) : Ordering :=
  compare (a.coefficient * tenPow b.scale) (b.coefficient * tenPow a.scale)

end Decimal

end RecordNaming
