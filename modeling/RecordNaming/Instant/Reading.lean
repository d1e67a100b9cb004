/-
  RecordNaming.Instant.Reading — reading instants: texts with an offset, which become
  universal time, then a list of layouts without one.

  In a layout a number may have blanks in front, a space stands for any blanks or none,
  and the whole text must be used. A second 60 is a leap second.
-/
import RecordNaming.Instant.Basic
import RecordNaming.Text.Blank
import RecordNaming.Text.Digits

namespace RecordNaming.Instant

/-- The numbers read so far. -/
structure Parts where
  year : Int := 0
  month : Nat := 0
  day : Nat := 0
  hour : Nat := 0
  minute : Nat := 0
  second : Nat := 0
  nanosecond : Nat := 0

/-- The instant of these numbers, if there is one. -/
def Parts.instant? (p : Parts) : Option Instant := do
  let date ← Date.ofParts? p.year p.month p.day
  if p.second = 60 then ofParts? date p.hour p.minute 59 (p.nanosecond + 1000000000)
  else ofParts? date p.hour p.minute p.second p.nanosecond

/-- Up to `most` digits and at least one, and what follows them. -/
def digitsUpTo? (most : Nat) (cs : List Char) : Option (Nat × List Char) :=
  let word := (cs.takeWhile Text.isDigit).take most
  if word.isEmpty then none else some (Text.digitsValue word, cs.drop word.length)

/-- Exactly `count` digits. -/
def digitsExactly? (count : Nat) (cs : List Char) : Option (Nat × List Char) :=
  (digitsUpTo? count cs).filter fun _ =>
    (cs.take count).length == count && (cs.take count).all Text.isDigit

/-- The nanoseconds of one digit or more behind a point; the tenth digit and later ones do not
count. -/
def fraction? (cs : List Char) : Option (Nat × List Char) :=
  let word := cs.takeWhile Text.isDigit
  if word.isEmpty then none
  else some (Text.digitsValue ((word.take 9).rightpad 9 '0'), cs.dropWhile Text.isDigit)

/-! ## With an offset -/

/-- The character in front, if it is one of these. -/
def expect? (allowed : List Char) : List Char → Option (List Char)
  | [] => none
  | c :: rest => if allowed.contains c then some rest else none

/-- The offset in minutes at the end of a text. -/
def offset? (cs : List Char) : Option Int :=
  match cs with
  | ['Z'] => some 0
  | ['z'] => some 0
  | sign :: rest => do
    let negative ←
      if sign == '+' then some false
      else if sign == '-' || sign == '\u2212' then some true
      else none
    let (hours, rest) ← digitsExactly? 2 rest
    let rest ← expect? [':'] rest
    let (minutes, rest) ← digitsExactly? 2 rest
    if hours ≤ 23 ∧ minutes ≤ 59 ∧ rest.isEmpty then
      let total : Int := hours * 60 + minutes
      pure (if negative then -total else total)
    else none
  | [] => none

/-- A date and a time of fixed widths with an offset, in universal time. -/
def withOffset? (cs : List Char) : Option Instant := do
  let (year, cs) ← digitsExactly? 4 cs
  let (month, cs) ← digitsExactly? 2 (← expect? ['-'] cs)
  let (day, cs) ← digitsExactly? 2 (← expect? ['-'] cs)
  let (hour, cs) ← digitsExactly? 2 (← expect? ['T', 't', ' '] cs)
  let (minute, cs) ← digitsExactly? 2 (← expect? [':'] cs)
  let (second, cs) ← digitsExactly? 2 (← expect? [':'] cs)
  let (nanosecond, cs) ← match cs with
    | '.' :: rest => fraction? rest
    | _ => some (0, cs)
  let offset ← offset? cs
  let reading ← Parts.instant? ⟨year, month, day, hour, minute, second, nanosecond⟩
  reading.earlier? offset

/-! ## Layouts -/

/-- An element of a layout. -/
inductive LayoutItem where
  | year
  | month
  | day
  | hour
  | minute
  | second
  /-- A point and digits, or nothing. -/
  | fraction
  | space
  | mark (c : Char)

/-- A year: up to four digits, or a sign and any number of them. -/
def year? (cs : List Char) : Option (Int × List Char) :=
  match cs with
  | '-' :: rest => (digitsUpTo? rest.length rest).map fun (n, rest) => (-(n : Int), rest)
  | '+' :: rest => (digitsUpTo? rest.length rest).map fun (n, rest) => ((n : Int), rest)
  | _ => (digitsUpTo? 4 cs).map fun (n, rest) => ((n : Int), rest)

def skipBlanks (cs : List Char) : List Char := cs.dropWhile Text.isBlank

def twoDigits? (cs : List Char) : Option (Nat × List Char) := digitsUpTo? 2 (skipBlanks cs)

/-- Reads one element. -/
def LayoutItem.read? (item : LayoutItem) (p : Parts) (cs : List Char) :
    Option (Parts × List Char) :=
  match item with
  | .year => (year? (skipBlanks cs)).map fun (n, rest) => ({ p with year := n }, rest)
  | .month => (twoDigits? cs).map fun (n, rest) => ({ p with month := n }, rest)
  | .day => (twoDigits? cs).map fun (n, rest) => ({ p with day := n }, rest)
  | .hour => (twoDigits? cs).map fun (n, rest) => ({ p with hour := n }, rest)
  | .minute => (twoDigits? cs).map fun (n, rest) => ({ p with minute := n }, rest)
  | .second => (twoDigits? cs).map fun (n, rest) => ({ p with second := n }, rest)
  | .fraction =>
    match cs with
    | '.' :: rest => (fraction? rest).map fun (n, rest) => ({ p with nanosecond := n }, rest)
    | _ => some (p, cs)
  | .space => some (p, skipBlanks cs)
  | .mark c => (expect? [c] cs).map fun rest => (p, rest)

/-- Reads a whole text by a layout. -/
def readLayout? (p : Parts) : List LayoutItem → List Char → Option Instant
  | [], cs => if cs.isEmpty then p.instant? else none
  | item :: rest, cs => (item.read? p cs).bind fun (p, cs) => readLayout? p rest cs

def isoDate : List LayoutItem := [.year, .mark '-', .month, .mark '-', .day]

def monthFirstDate : List LayoutItem := [.month, .mark '/', .day, .mark '/', .year]

def yearFirstDate : List LayoutItem := [.year, .mark '/', .month, .mark '/', .day]

def hourMinute : List LayoutItem := [.hour, .mark ':', .minute]

def wholeSecond : List LayoutItem := hourMinute ++ [.mark ':', .second]

/-- The layouts in the order in which they are tried; a date alone is its midnight. -/
def layouts : List (List LayoutItem) :=
  [isoDate ++ [.mark 'T'] ++ wholeSecond ++ [.fraction],
   isoDate ++ [.space] ++ wholeSecond ++ [.fraction],
   isoDate ++ [.mark 'T'] ++ hourMinute,
   isoDate ++ [.space] ++ hourMinute,
   monthFirstDate ++ [.space] ++ wholeSecond,
   monthFirstDate ++ [.space] ++ hourMinute,
   isoDate, monthFirstDate, yearFirstDate]

/-- Reads an instant, blanks around it aside. -/
def parse? (s : String) : Option Instant :=
  let cs := Text.trim s.toList
  (withOffset? cs).or (layouts.findSome? (readLayout? {} · cs))

end RecordNaming.Instant
