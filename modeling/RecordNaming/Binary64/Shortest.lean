/-
  RecordNaming.Binary64.Shortest — the fewest digits that read back as the number, and
  the numeral written with them.

  A digit word reads back if it lies in the interval of reals that round to the number;
  the ends belong to it if the mantissa is even. On the grid of a digit count the value
  has two neighbours: the first grid with a neighbour in the interval wins, and of two
  neighbours the nearer.
-/
import RecordNaming.Binary64.Basic
import RecordNaming.Text.Digits

namespace RecordNaming.Binary64

/-- The number `x` compared with `c * 10 ^ k`, where `x` is given in quarter units of the mantissa:
`quarters * 2 ^ (exponent - 2)`. -/
def cmpGrid (quarters : Nat) (exponent : Int) (c : Nat) (k : Int) : Ordering :=
  let e := exponent - 2
  compare (quarters * twoPow e.toNat * tenPow (-k).toNat) (c * tenPow k.toNat * twoPow (-e).toNat)

/-- The lower end of the interval, in quarter units. Below a power of two it is nearer. -/
def lowerQuarters (x : Binary64) : Nat :=
  if x.mantissa == leadingBit && x.exponent != -1074 then 4 * x.mantissa - 1 else 4 * x.mantissa - 2

/-- The decimal `c * 10 ^ k` reads back as the magnitude of `x`. -/
def readsBack (x : Binary64) (c : Nat) (k : Int) : Bool :=
  let low := cmpGrid x.lowerQuarters x.exponent c k
  let high := cmpGrid (4 * x.mantissa + 2) x.exponent c k
  if x.mantissa % 2 == 0 then low != .gt && high != .lt else low == .lt && high == .gt

/-- The greatest `p` with `10 ^ p` at most the magnitude of a number that is not zero. -/
def leadingPlace (x : Binary64) : Int :=
  let guess := (x.exponent + x.mantissa.log2) * 30103 / 100000
  let reaches := fun p : Int => cmpGrid (4 * x.mantissa) x.exponent 1 p != .lt
  if reaches (guess + 1) then guess + 1 else if reaches guess then guess else guess - 1

/-- The neighbour of `x` on the grid of `10 ^ k` that reads back, the nearer of two. -/
def neighbour? (x : Binary64) (k : Int) : Option (Nat × Int) :=
  let e := x.exponent
  let low := x.mantissa * twoPow e.toNat * tenPow (-k).toNat / (tenPow k.toNat * twoPow (-e).toNat)
  let upper := readsBack x (low + 1) k
  if readsBack x low k then
    let nearer := cmpGrid (8 * x.mantissa) e (2 * low + 1) k
    some (if upper && (nearer == .gt || (nearer == .eq && low % 2 == 1)) then low + 1 else low, k)
  else if upper then some (low + 1, k)
  else none

/-- The fewest digits that read back, as a whole number and the power of ten it counts. -/
def shortest (x : Binary64) : Nat × Int :=
  if x.isZero then (0, 0)
  else
    let p := x.leadingPlace
    ((List.range 17).findSome? fun (n : Nat) => x.neighbour? (p - (n : Int))).getD (0, 0)

/-- A digit word without the zeros at its end, each counted in the power of ten. -/
def dropTrailing (digits : List Char) (k : Int) : List Char × Int :=
  let zeros := (digits.reverse.takeWhile (· == '0')).length
  (digits.take (digits.length - zeros), k + zeros)

/-- The exponents of ten at which a numeral is positional rather than scientific. -/
def positionalFrom : Int := -5

def positionalBelow : Int := 16

/-- The numeral of a digit word times a power of ten. Positional numerals have a point and
a digit behind it; scientific ones have a signed exponent. -/
def numeral (digits : List Char) (k : Int) : List Char :=
  let point := digits.length + k
  let place := point - 1
  if place < positionalFrom || positionalBelow ≤ place then
    let fraction := match digits.drop 1 with
      | [] => []
      | rest => '.' :: rest
    digits.take 1 ++ fraction ++ ['e', if place < 0 then '-' else '+'] ++
      Text.natDigits place.natAbs
  else if 0 ≤ k then digits ++ List.replicate k.toNat '0' ++ ['.', '0']
  else if 0 < point then digits.take point.toNat ++ '.' :: digits.drop point.toNat
  else ['0', '.'] ++ List.replicate (-point).toNat '0' ++ digits

/-- The shortest numeral that reads back. -/
def digits (x : Binary64) : List Char :=
  let sign := if x.negative then ['-'] else []
  if x.isZero then sign ++ ['0', '.', '0']
  else
    let (word, k) := dropTrailing (Text.natDigits x.shortest.1) x.shortest.2
    sign ++ numeral word k

end RecordNaming.Binary64
