/-
  RecordNaming.Text.Quoted — text between double quotes as messages show it: the quote,
  the backslash and the common controls are escaped by a letter, other characters that
  would not show by their number in braces.
-/
import RecordNaming.Text.Escaped
import RecordNaming.Text.Ranges

namespace RecordNaming.Text

/-- A character as it stands in quoted text. -/
def quotedChar (c : Char) : List Char :=
  if c == '\x00' then ['\\', '0']
  else if c == '\t' then ['\\', 't']
  else if c == '\r' then ['\\', 'r']
  else if c == '\n' then ['\\', 'n']
  else if c == '\x22' then ['\\', '\x22']
  else if c == '\\' then ['\\', '\\']
  else if inRanges escapedRanges c.toNat then
    ['\\', 'u', '\x7b'] ++ Nat.toDigits 16 c.toNat ++ ['\x7d']
  else [c]

def quotedChars (cs : List Char) : List Char := '\x22' :: cs.flatMap quotedChar ++ ['\x22']

def quoted (s : String) : String := String.ofList (quotedChars s.toList)

end RecordNaming.Text
