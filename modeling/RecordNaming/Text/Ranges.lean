/-
  RecordNaming.Text.Ranges — classes of characters as ranges of code points.
-/

namespace RecordNaming.Text

/-- A code point is in one of the ranges, ends included. -/
def inRanges (ranges : List (Nat × Nat)) (n : Nat) : Bool := ranges.any fun r => r.1 ≤ n && n ≤ r.2

end RecordNaming.Text
