/-
  RecordNaming.Text.Blank — blank characters and what is left of a text without those
  at its ends. The blank characters are those of the Unicode property White_Space.
-/

namespace RecordNaming.Text

/-- The characters of the Unicode property White_Space. -/
def isBlank (c : Char) : Bool :=
  let n := c.toNat
  (9 ≤ n && n ≤ 13) || n == 0x20 || n == 0x85 || n == 0xA0 || n == 0x1680 ||
    (0x2000 ≤ n && n ≤ 0x200A) || n == 0x2028 || n == 0x2029 || n == 0x202F || n == 0x205F ||
    n == 0x3000

/-- A text without the blank characters at its two ends. -/
def trim (cs : List Char) : List Char :=
  ((cs.dropWhile isBlank).reverse.dropWhile isBlank).reverse

/-- A string without the blank characters at its two ends. -/
def trimmed (s : String) : String := String.ofList (trim s.toList)

/-- A string of blank characters only; the empty string is one. -/
def allBlank (s : String) : Bool := s.toList.all isBlank

/-- A text that is not blank, or nothing. -/
def nonBlank? (s : Option String) : Option String := s.filter (!allBlank ·)

end RecordNaming.Text
