/-
  RecordNaming.Instant.Cursor — instants formatted with a cursor into the pattern: a run is counted by index, a literal
  is cut out between its quotes, names and digits are cut by bytes, and a year is padded to the width of its run. Each
  operation has a result only where its arguments allow one.

  A step leaves the cursor behind the element that it reads (`step_advances`), so the loop ends.
-/
import RecordNaming.Access
import RecordNaming.Instant.Pattern
import RecordNaming.Numeral.Token
import RecordNaming.Proofs.Results

namespace RecordNaming.Instant

open Access

/-! ## Fields -/

/-- The name of the weekday. -/
def dayName (t : Instant) : Except Stop (List Char) := (item dayNames t.date.weekday).map String.toList

def monthName (t : Instant) : Except Stop (List Char) := (item monthNames ((t.date.month + 11) % 12)).map String.toList

/-- A number in one or two digits, or its name in three letters or in full. -/
def numberOrNameAt (n : Nat) (name : Except Stop (List Char)) (run : Nat) : Except Stop (List Char) :=
  match run with
  | 1 => pure (Text.natDigits n)
  | 2 => pure (Text.padded 2 n)
  | 3 => do bytesUpTo (← name) 3
  | _ => name

/-- The year of a century in one or two digits, or the year in as many as the run is long. -/
def yearAt (year : Int) (run : Nat) : Except Stop (List Char) :=
  match run with
  | 1 => pure (Text.intDigits (year.tmod 100))
  | 2 => pure (Text.intPadded 2 (year.tmod 100))
  | run => do pure (Text.intPadded (← width run) year)

/-- The first digits of the fraction of the second. -/
def fractionAt (t : Instant) (run : Nat) : Except Stop (List Char) :=
  bytesUpTo (Text.padded 9 (t.nanosecond % 1000000000)) run

/-- The meridiem in one letter or in full. -/
def meridiemAt (meridiem : List Char) (run : Nat) : Except Stop (List Char) :=
  if run = 1 then bytesUpTo meridiem 1 else pure meridiem

/-- The text so far with a short fraction behind it; one without digits takes the point before it away. -/
def pushTrimmed (out trimmed : List Char) : List Char :=
  if trimmed.isEmpty then if out.getLast? == some '.' then out.dropLast else out else out ++ trimmed

/-- The complaint about a run that is too long. -/
def tooLong (f : Field) (run : Nat) : FormatError :=
  .unsupportedSpecifier (String.ofList (List.replicate run f.letter))

/-- The text so far with a field behind it. -/
def appendFieldAt (t : Instant) (offset : Int) (f : Field) (run : Nat) (out : List Char) : Except Stop (List Char) :=
  match f with
  | .day => do pure (out ++ (← numberOrNameAt t.date.day t.dayName run))
  | .month => do pure (out ++ (← numberOrNameAt t.date.month t.monthName run))
  | .year => do pure (out ++ (← yearAt t.date.year run))
  | .fraction => do
    if 7 < run then .error (.failure (tooLong f run))
    pure (out ++ (← t.fractionAt run))
  | .shortFraction => do
    if 7 < run then .error (.failure (tooLong f run))
    pure (pushTrimmed out ((← t.fractionAt run).reverse.dropWhile (· == '0')).reverse)
  | .meridiem => do pure (out ++ (← meridiemAt (if t.hour < 12 then ['A', 'M'] else ['P', 'M']) run))
  | f => pure (out ++ fieldText t offset f run)

/-! ## Steps -/

/-- The length of a run, at least `run` so far. -/
def runFrom (chars : Array Char) (c : Char) (index run : Nat) : Except Stop Nat :=
  if index + run < chars.size then
    match cell chars (index + run) with
    | .error stop => .error stop
    | .ok next => if next = c then runFrom chars c index (run + 1) else .ok run
  else .ok run
termination_by chars.size - (index + run)

/-- The text so far with the element at the cursor behind it, and the cursor behind the element. It starts with `c`,
which goes on for `run` characters; the one behind it is `following`. -/
def element (t : Instant) (offset : Int) (chars : Array Char) (index : Nat) (out : List Char) (c : Char) (run : Nat)
    (following : Option Char) : Except Stop (List Char × Nat) :=
  match Field.ofLetter? c with
  | some f => do pure (← appendFieldAt t offset f run out, index + run)
  | none =>
    if Numeral.isQuote c then do
      match (← dropFrom chars.toList (index + 1)).findIdx? (· == c) with
      | some close => do pure (out ++ (← slice chars.toList (index + 1) (index + 1 + close)), index + close + 2)
      | none => .error (.failure .unterminatedLiteral)
    else if c = '\\' then
      match following with
      | some escaped => pure (out ++ [escaped], index + 2)
      | none => .error (.failure .trailingEscape)
    else if c = '%' then
      if following = some '%' then .error (.failure (.unsupportedSpecifier "%%")) else pure (out, index + 1)
    else pure (out ++ [c], index + 1)

/-- One turn of the loop. -/
def step (t : Instant) (offset : Int) (chars : Array Char) (index : Nat) (out : List Char) :
    Except Stop (List Char × Nat) := do
  let c ← cell chars index
  let run ← runFrom chars c index 1
  element t offset chars index out c run chars[index + 1]?

section

variable {t : Instant} {offset : Int} {chars : Array Char} {c : Char} {index run n next : Nat} {out behind : List Char}

theorem le_of_runFrom (h : runFrom chars c index run = .ok n) : run ≤ n := by
  fun_induction runFrom chars c index run with
  | case1 => cases h
  | case2 _ _ _ ih => exact Nat.le_of_succ_le (ih h)
  | case3 =>
    cases h
    exact Nat.le_refl _
  | case4 =>
    cases h
    exact Nat.le_refl _

theorem element_advances {following : Option Char} (hrun : 0 < run)
    (h : element t offset chars index out c run following = .ok (behind, next)) : index < next := by
  unfold element at h
  split at h
  · obtain ⟨text, -, h⟩ := bind_eq_ok_iff.mp h
    cases h
    omega
  · split at h
    · obtain ⟨rest, -, h⟩ := bind_eq_ok_iff.mp h
      split at h
      · obtain ⟨text, -, h⟩ := bind_eq_ok_iff.mp h
        cases h
        omega
      · cases h
    · repeat' split at h
      all_goals cases h
      all_goals omega

theorem step_advances (h : step t offset chars index out = .ok (behind, next)) : index < next := by
  obtain ⟨c, -, h⟩ := bind_eq_ok_iff.mp h
  obtain ⟨run, hrun, h⟩ := bind_eq_ok_iff.mp h
  exact element_advances (le_of_runFrom hrun) h

end

/-! ## The loop -/

/-- The text so far with what the pattern from the cursor on shows behind it. -/
def renderFrom (t : Instant) (offset : Int) (chars : Array Char) (index : Nat) (out : List Char) :
    Except Stop (List Char) :=
  if _h : index < chars.size then
    match _hstep : step t offset chars index out with
    | .error stop => .error stop
    | .ok (out, next) => renderFrom t offset chars next out
  else .ok out
termination_by chars.size - index
decreasing_by
  have hlt := step_advances _hstep
  omega

/-- An instant in a pattern. A character alone is a standard pattern. -/
def renderAt (t : Instant) (pattern : List Char) (offset : Int) : Except Stop (List Char) :=
  match pattern with
  | [c] =>
    match standardPattern? c with
    | some expanded => renderFrom t offset expanded.toList.toArray 0 []
    | none => .error (.failure (.unsupportedSpecifier (String.ofList [c])))
  | _ => renderFrom t offset pattern.toArray 0 []

/-- The default text; that its pattern fails would be a fault. -/
def defaultTextAt (t : Instant) : Except Stop String := (renderAt t defaultPattern.toList 0).map String.ofList

/-- A span of whole hours, if its milliseconds fit in 64 bits. -/
def span (hours : Int) : Except Stop Int :=
  if (hours * 3600000).natAbs ≤ 9223372036854775807 then .ok hours else .error .outOfRange

/-- An instant that is shifted already, by a format. -/
def shownAt (t : Instant) (format : Option String) (hours : Int) : Except Stop String :=
  match Text.nonBlank? format with
  | none => defaultTextAt t
  | some f => do
    let default ← defaultTextAt t
    orDefault default ((renderAt t f.toList hours).map String.ofList)

/-- An instant shifted by an offset in hours, by a format. -/
def formatAt (t : Instant) (format : Option String) (offset : Option Int32) : Except Stop String :=
  match offset with
  | some hours => do
    match t.shift? (← span hours.toInt) with
    | some shifted => shownAt shifted format hours.toInt
    | none => defaultTextAt t
  | none => shownAt t format 0

end RecordNaming.Instant
