/-
  RecordNaming.Instant.Pattern — instants as text by a date pattern: custom patterns such
  as "yyyy-MM-dd" and standard ones of a single letter.

  A pattern is read into tokens first; whether it can be read does not depend on the
  instant. A run of one letter is one field, and its length chooses the form.
-/
import RecordNaming.FormatError
import RecordNaming.Instant.Basic
import RecordNaming.Text.Blank
import RecordNaming.Text.Digits

namespace RecordNaming.Instant

/-! ## Tokens -/

/-- What a run of a letter shows. -/
inductive Field where
  | day
  | month
  | year
  | hour12
  | hour24
  | minute
  | second
  | fraction
  /-- The fraction without zeros at its end, and no point before it if nothing is left. -/
  | shortFraction
  | meridiem
  | era
  | offset
  /-- The timezone kind, which these instants do not have. -/
  | kind
  deriving DecidableEq, Repr

namespace Field

/-- The letter of a field. -/
def letter : Field → Char
  | day => 'd'
  | month => 'M'
  | year => 'y'
  | hour12 => 'h'
  | hour24 => 'H'
  | minute => 'm'
  | second => 's'
  | fraction => 'f'
  | shortFraction => 'F'
  | meridiem => 't'
  | era => 'g'
  | offset => 'z'
  | kind => 'K'

def all : List Field :=
  [day, month, year, hour12, hour24, minute, second, fraction, shortFraction, meridiem, era, offset,
    kind]

def ofLetter? (c : Char) : Option Field := all.find? (·.letter == c)

/-- The longest run of a field that has a limit. -/
def longest? : Field → Option Nat
  | fraction => some 7
  | shortFraction => some 7
  | _ => none

end Field

inductive Token where
  | field (f : Field) (run : Nat)
  | literal (text : List Char)
  deriving DecidableEq, Repr

/-- What a pattern leaves open between two characters. -/
inductive Open where
  | nothing
  | run (f : Field) (length : Nat)
  /-- A literal: its quote and its characters so far, backward. -/
  | literal (quote : Char) (text : List Char)
  | escape
  /-- A percent sign, which says that a single letter is a custom pattern. -/
  | percent

/-- What a character opens, or the token that it is. -/
def Open.ofChar (c : Char) : Open × List Token :=
  match Field.ofLetter? c with
  | some f => (.run f 1, [])
  | none =>
    if c == '\x27' || c == '\x22' then (.literal c [], [])
    else if c == '\\' then (.escape, [])
    else if c == '%' then (.percent, [])
    else (.nothing, [.literal [c]])

/-- The field of a run, if the run is not too long. -/
def closeRun (f : Field) (run : Nat) : Except FormatError Token :=
  match f.longest? with
  | some most =>
    if most < run then .error (.unsupportedSpecifier (String.ofList (List.replicate run f.letter)))
    else .ok (.field f run)
  | none => .ok (.field f run)

/-- The tokens of a pattern. -/
def tokenize : Open → List Char → Except FormatError (List Token)
  | .nothing, [] => .ok []
  | .run f n, [] => (closeRun f n).map ([·])
  | .literal _ _, [] => .error .unterminatedLiteral
  | .escape, [] => .error .trailingEscape
  | .percent, [] => .ok []
  | .nothing, c :: rest =>
    let (opened, tokens) := Open.ofChar c
    (tokenize opened rest).map (tokens ++ ·)
  | .run f n, c :: rest =>
    if c = f.letter then tokenize (.run f (n + 1)) rest
    else
      match closeRun f n with
      | .error e => .error e
      | .ok token =>
        let (opened, tokens) := Open.ofChar c
        (tokenize opened rest).map (token :: tokens ++ ·)
  | .literal quote text, c :: rest =>
    if c = quote then (tokenize .nothing rest).map (.literal text.reverse :: ·)
    else tokenize (.literal quote (c :: text)) rest
  | .escape, c :: rest => (tokenize .nothing rest).map (.literal [c] :: ·)
  | .percent, c :: rest =>
    if c = '%' then .error (.unsupportedSpecifier "%%")
    else
      let (opened, tokens) := Open.ofChar c
      (tokenize opened rest).map (tokens ++ ·)

/-! ## Text -/

def monthNames : List String :=
  ["January", "February", "March", "April", "May", "June", "July", "August", "September", "October",
    "November", "December"]

def dayNames : List String :=
  ["Sunday", "Monday", "Tuesday", "Wednesday", "Thursday", "Friday", "Saturday"]

/-- A number in as few digits as it needs for a run of one letter, else in two at least. -/
def oneOrTwo (n run : Nat) : List Char := if run = 1 then Text.natDigits n else Text.padded 2 n

/-- A number in one or two digits, or its name in three letters or in full. -/
def numberOrName (n : Nat) (name : String) (run : Nat) : List Char :=
  match run with
  | 1 => Text.natDigits n
  | 2 => Text.padded 2 n
  | 3 => name.toList.take 3
  | _ => name.toList

/-- The first digits of the fraction of the second. -/
def fractionDigits (t : Instant) (run : Nat) : List Char :=
  (Text.padded 9 (t.nanosecond % 1000000000)).take run

/-- An offset of whole hours. -/
def offsetDigits (hours : Int) (run : Nat) : List Char :=
  (if hours < 0 then '-' else '+') :: match run with
    | 1 => Text.natDigits hours.natAbs
    | 2 => Text.padded 2 hours.natAbs
    | _ => Text.padded 2 hours.natAbs ++ [':', '0', '0']

/-- The text of a field other than the short fraction. -/
def fieldText (t : Instant) (offset : Int) (f : Field) (run : Nat) : List Char :=
  match f with
  | .day => numberOrName t.date.day (dayNames.getD t.date.weekday "") run
  | .month => numberOrName t.date.month (monthNames.getD (t.date.month - 1) "") run
  | .year =>
    match run with
    | 1 => Text.intDigits (t.date.year.tmod 100)
    | 2 => Text.intPadded 2 (t.date.year.tmod 100)
    | width => Text.intPadded width t.date.year
  | .hour12 => oneOrTwo (if t.hour % 12 = 0 then 12 else t.hour % 12) run
  | .hour24 => oneOrTwo t.hour run
  | .minute => oneOrTwo t.minute run
  | .second => oneOrTwo t.second run
  | .fraction => fractionDigits t run
  | .shortFraction => ((fractionDigits t run).reverse.dropWhile (· == '0')).reverse
  | .meridiem => (if t.hour < 12 then ['A', 'M'] else ['P', 'M']).take run
  | .era => ['A', '.', 'D', '.']
  | .offset => offsetDigits offset run
  | .kind => []

/-- The text so far with a token's text behind it. -/
def append (t : Instant) (offset : Int) (out : List Char) : Token → List Char
  | .literal text => out ++ text
  | .field f run =>
    let text := fieldText t offset f run
    if f = .shortFraction && text.isEmpty && out.getLast? == some '.' then out.dropLast
    else out ++ text

def layOut (t : Instant) (offset : Int) (tokens : List Token) : List Char :=
  tokens.foldl (append t offset) []

/-! ## Patterns -/

/-- The pattern of an instant without a format. -/
def defaultPattern : String := "MM/dd/yyyy HH:mm:ss"

/-- The pattern that keeps all of an instant to a tenth of a microsecond. -/
def roundTripPattern : String := "yyyy'-'MM'-'dd'T'HH':'mm':'ss'.'fffffff"

/-- The pattern of a letter that stands alone. -/
def standardPattern? (c : Char) : Option String :=
  match c with
  | 'd' => some "MM/dd/yyyy"
  | 'D' => some "dddd, dd MMMM yyyy"
  | 'f' => some "dddd, dd MMMM yyyy HH:mm"
  | 'F' => some "dddd, dd MMMM yyyy HH:mm:ss"
  | 'g' => some "MM/dd/yyyy HH:mm"
  | 'G' => some defaultPattern
  | 'm' | 'M' => some "MMMM dd"
  | 'o' | 'O' => some roundTripPattern
  | 'r' | 'R' => some "ddd, dd MMM yyyy HH':'mm':'ss 'GMT'"
  | 's' => some "yyyy'-'MM'-'dd'T'HH':'mm':'ss"
  | 't' => some "HH:mm"
  | 'T' => some "HH:mm:ss"
  | 'u' => some "yyyy'-'MM'-'dd HH':'mm':'ss'Z'"
  | 'y' | 'Y' => some "yyyy MMMM"
  | _ => none

/-- The tokens of a pattern, standard or custom. -/
def patternTokens (pattern : List Char) : Except FormatError (List Token) :=
  match pattern with
  | [c] =>
    match standardPattern? c with
    | some expanded => tokenize .nothing expanded.toList
    | none => .error (.unsupportedSpecifier (String.ofList [c]))
  | _ => tokenize .nothing pattern

/-- An instant in a pattern. The offset shows in offset fields only. -/
def render (t : Instant) (pattern : List Char) (offset : Int) : Except FormatError (List Char) :=
  (patternTokens pattern).map (layOut t offset)

/-- An instant in a pattern that can be read. -/
def textBy (pattern : String) (t : Instant) : String :=
  match render t pattern.toList 0 with
  | .ok text => String.ofList text
  | .error _ => ""

def defaultText (t : Instant) : String := textBy defaultPattern t

def roundTripText (t : Instant) : String := textBy roundTripPattern t

/-- An instant shifted by an offset in hours, by a format. Without a format, when the format fails
and when the shift leaves the calendar, the default pattern is used. -/
def format (t : Instant) (format : Option String) (offset : Option Int32) : String :=
  let hours : Int := (offset.map Int32.toInt).getD 0
  match t.shift? hours with
  | none => defaultText t
  | some shifted =>
    match Text.nonBlank? format with
    | none => defaultText shifted
    | some f =>
      match render shifted f.toList hours with
      | .ok text => String.ofList text
      | .error _ => defaultText shifted

/-! ## Presets -/

/-- A whole-hour offset offered to authors of rules. -/
structure OffsetPreset where
  label : String
  hours : Int

/-- Common offsets from universal time; the half hour of India is rounded. -/
def offsetPresets : List OffsetPreset :=
  [⟨"UTC (±0)", 0⟩, ⟨"Pacific (UTC-8)", -8⟩, ⟨"Mountain (UTC-7)", -7⟩, ⟨"Central (UTC-6)", -6⟩,
   ⟨"Eastern (UTC-5)", -5⟩, ⟨"London (UTC+0)", 0⟩, ⟨"CET (UTC+1)", 1⟩, ⟨"EET (UTC+2)", 2⟩,
   ⟨"IST (UTC+5.5)", 6⟩, ⟨"CST China (UTC+8)", 8⟩, ⟨"JST (UTC+9)", 9⟩, ⟨"AEST (UTC+10)", 10⟩]

end RecordNaming.Instant
