/-
  RecordNaming.Power — the powers that decimal places and binary exponents stand for.
-/

namespace RecordNaming

/-- Ten to the power `n`. -/
def tenPow (n : Nat) : Nat := Nat.pow 10 n

/-- Two to the power `n`. -/
def twoPow (n : Nat) : Nat := Nat.pow 2 n

theorem tenPow_zero : tenPow 0 = 1 := rfl

theorem tenPow_succ (n : Nat) : tenPow (n + 1) = tenPow n * 10 := rfl

theorem tenPow_pos (n : Nat) : 0 < tenPow n := Nat.pow_pos (by decide)

end RecordNaming
