/-
  RecordNaming.Text.Casing — lower and upper case by the full mappings of Unicode, and
  comparisons that do not regard case.

  A mapping can give several characters. One lower-case mapping looks at its context: a
  capital sigma that ends a word becomes the final sigma. It ends a word if a cased
  character is before it and none behind it, ignorable characters aside.
-/
import RecordNaming.Text.Casing.Context
import RecordNaming.Text.Casing.Mapping
import RecordNaming.Text.Ranges
import RecordNaming.Text.Search

namespace RecordNaming.Text

open Casing

/-- A character by a table of shifts and one of expansions. -/
def mapChar (shifts : List Shift) (expansions : List (Nat × List Nat)) (c : Char) : List Char :=
  match expansions.find? (·.1 == c.toNat) with
  | some e => e.2.map Char.ofNat
  | none => [Char.ofNat (shifted shifts c.toNat)]

def upperChar (c : Char) : List Char :=
  if c.toNat < 128 then [c.toUpper] else mapChar upperShifts upperExpansions c

/-- The lower case of a character, its context aside. -/
def lowerChar (c : Char) : List Char :=
  if c.toNat < 128 then [c.toLower] else mapChar lowerShifts lowerExpansions c

/-- The first character that is not ignorable is cased. -/
def reachesCased (cs : List Char) : Bool :=
  match cs.dropWhile fun c => inRanges ignorableRanges c.toNat with
  | [] => false
  | c :: _ => inRanges casedRanges c.toNat

/-- The lower case of a text whose earlier characters are `before`, backward. -/
def lowerFrom (before : List Char) : List Char → List Char
  | [] => []
  | c :: rest =>
    let mapped :=
      if c == 'Σ' then (if reachesCased before && !reachesCased rest then ['ς'] else ['σ'])
      else lowerChar c
    mapped ++ lowerFrom (c :: before) rest

def lower (s : String) : String := String.ofList (lowerFrom [] s.toList)

def upper (s : String) : String := String.ofList (s.toList.flatMap upperChar)

/-- The lower case of the ASCII letters only. -/
def asciiLower (s : String) : String := String.ofList (s.toList.map Char.toLower)

/-- Equal in lower case. -/
def eqIgnoringCase (a b : String) : Bool := lower a == lower b

/-- Contained in lower case. -/
def containsIgnoringCase (text part : String) : Bool :=
  occursIn (lower part).toList (lower text).toList

end RecordNaming.Text
