/-
  RecordNaming.Decimal.Arithmetic — rounding to a number of places, products and
  quotients.

  A product keeps the sum of the two scales if it can; else it gives up the fewest
  places that make it fit, and a half goes to the even neighbour. A quotient by a
  natural number starts at the scale of the dividend and gains places until it is exact
  or nothing more fits; places gained in vain are given back.
-/
import RecordNaming.Decimal.Basic

namespace RecordNaming.Decimal

/-- The quotient `n / d` rounded to a whole number, a half upward. -/
def halfUp (n d : Nat) : Nat := (n + d / 2) / d

/-- The quotient `n / d` rounded to a whole number, a half to the even neighbour. -/
def halfEven (n d : Nat) : Nat :=
  let q := n / d
  let r := n % d
  if 2 * r > d || (2 * r == d && q % 2 == 1) then q + 1 else q

theorem halfUp_le (n : Nat) {d : Nat} (hd : 0 < d) : halfUp n d ≤ n := by
  have h1 : n ≤ d * n := Nat.le_mul_of_pos_left n hd
  have h2 : n + d / 2 < d * (n + 1) := by
    rw [Nat.mul_add]
    omega
  exact Nat.le_of_lt_succ (Nat.div_lt_of_lt_mul h2)

/-- A number with the sign of `like` and magnitude `n`. -/
def signed (like : Int) (n : Nat) : Int := if like < 0 then -(n : Int) else n

/-- Rounded to `places` places, a half away from zero. Places are never added, and the sign stays
even where nothing else does. -/
def round (d : Decimal) (places : Nat) : Decimal :=
  if h : places < d.scale then
    ⟨d.negative, halfUp d.magnitude (tenPow (d.scale - places)), places,
      Nat.le_trans (halfUp_le _ (tenPow_pos _)) d.magnitude_le,
      Nat.le_trans (Nat.le_of_lt h) d.scale_le⟩
  else d

/-- The number `n / 10 ^ scale` with the sign of `like` and the fewest places given up that make it
fit, a half to the even neighbour; nothing if the whole part is too large. -/
def fit? (like : Int) (n scale : Nat) : Option Decimal :=
  (List.range (scale + 1)).findSome? fun k =>
    ofParts? (signed like (halfEven n (tenPow k))) (scale - k)

/-- The product. A zero factor gives the zero without places. -/
def mul? (a b : Decimal) : Option Decimal :=
  if a.isZero || b.isZero then some zero
  else fit? (a.coefficient * b.coefficient) (a.magnitude * b.magnitude) (a.scale + b.scale)

/-- The greatest `k ≤ most` for which `q * 10 ^ k` is a coefficient, or 0. -/
def room (q : Nat) : Nat → Nat
  | 0 => 0
  | k + 1 => if q * tenPow (k + 1) ≤ maxCoefficient then k + 1 else room q k

theorem room_le (q most : Nat) : room q most ≤ most := by
  induction most with
  | zero => simp [room]
  | succ k ih =>
    unfold room
    split
    · exact Nat.le_refl _
    · omega

/-- The quotient `q + r / divisor` over `10 ^ scale`, carried on to more places while
there is a remainder and room for them; the last digit is then rounded, a half to the
even neighbour. -/
def carryOn (divisor q r scale : Nat) : Option (Nat × Nat) :=
  if r = 0 then some (q, scale)
  else
    let k := room q (min 9 (maxScale - scale))
    if hk : k = 0 then
      let n := halfEven (q * divisor + r) divisor
      if n ≤ maxCoefficient then some (n, scale)
      else if scale = 0 then none else some (halfEven n 10, scale - 1)
    else
      let n := (q * divisor + r) * tenPow k
      if n / divisor ≤ maxCoefficient then carryOn divisor (n / divisor) (n % divisor) (scale + k)
      else some (halfEven n (10 * divisor), scale + k - 1)
  termination_by maxScale - scale
  decreasing_by
    have h := room_le q (min 9 (maxScale - scale))
    omega

/-- A coefficient and scale without `count` places, if those are zeros. -/
def dropPlaces (count : Nat) (p : Nat × Nat) : Nat × Nat :=
  if count ≤ p.2 && p.1 % tenPow count == 0 then (p.1 / tenPow count, p.2 - count) else p

/-- Zero places go by eights while the last 32 bits of the coefficient are clear. -/
def dropEights (c scale : Nat) : Nat × Nat :=
  if 8 ≤ scale ∧ c % 4294967296 = 0 ∧ c % 100000000 = 0 then dropEights (c / 100000000) (scale - 8)
  else (c, scale)
  termination_by scale

/-- Gives back zero places: eights where `dropEights` allows, then four, two and one. -/
def dropZeros (p : Nat × Nat) : Nat × Nat :=
  dropPlaces 1 (dropPlaces 2 (dropPlaces 4 (dropEights p.1 p.2)))

/-- The quotient by a natural number. Zero gives the zero without places, and a quotient
that is exact at the scale of the dividend keeps that scale. -/
def div? (d : Decimal) (divisor : Nat) : Option Decimal :=
  if divisor = 0 then none
  else if d.isZero then some zero
  else if d.magnitude % divisor = 0 then
    ofParts? (signed d.coefficient (d.magnitude / divisor)) d.scale
  else do
    let p ← carryOn divisor (d.magnitude / divisor) (d.magnitude % divisor) d.scale
    let p := dropZeros p
    ofParts? (signed d.coefficient p.1) p.2

end RecordNaming.Decimal
