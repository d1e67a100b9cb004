/-
  RecordNaming.Numeral.Cursor — numbers formatted with cursors: digits, tokens and sections are taken by their index,
  what is left is counted down, zeros are put in front up to a width, and a format is cut at the bytes of its
  magnitude letter. Each operation has a result only where its arguments allow one.
-/
import RecordNaming.Access
import RecordNaming.Numeral.Format

namespace RecordNaming.Numeral

open Access

/-! ## Digits in groups -/

/-- The digits from an index on, of `count` in all, with a comma where a multiple of three is to come. -/
def groupFrom (count : Nat) : Nat → List Char → Except Stop (List Char)
  | _, [] => .ok []
  | index, c :: rest => do
    let remaining ← minus (← minus count index) 1
    let behind ← groupFrom count (index + 1) rest
    pure ((if 0 < remaining ∧ remaining % 3 = 0 then [c, ','] else [c]) ++ behind)

/-- The magnitude with exactly `places` places, and whether it rounded to zero. -/
def fixedAt (d : Decimal) (places : Nat) (grouping : Bool) : Except Stop Rendered := do
  let rounded := d.abs.round places
  let digits := rounded.integerDigits
  let whole ← if grouping then groupFrom digits.length 0 digits else pure digits
  let fraction := rounded.fractionDigits.rightpad places '0'
  pure ⟨whole ++ (if places = 0 then [] else '.' :: fraction), rounded.isZero⟩

/-- Grouped, fixed, whole, percent and general numerals. -/
def formatStandardAt (d : Decimal) (letter : Char) (precision : Option Nat) : Except Stop (List Char) :=
  match letter.toUpper with
  | 'N' => do let r ← fixedAt d (precision.getD 2) true; pure (withSign d r.text r.isZero)
  | 'F' => do let r ← fixedAt d (precision.getD 2) false; pure (withSign d r.text r.isZero)
  | 'D' =>
    if d.isIntegral then do
      let digits := d.integerDigits.leftpad (← width (precision.getD 0)) '0'
      pure (withSign d digits d.isZero)
    else .error (.failure .nonIntegral)
  | 'P' =>
    match (Decimal.ofParts? 100 0).bind d.mul? with
    | some percent => do
      let r ← fixedAt percent (precision.getD 2) true
      pure (withSign d (r.text ++ [' ', '%']) r.isZero)
    | none => .error (.failure .overflow)
  | 'G' => pure d.digits
  | other => .error (.failure (.unsupportedSpecifier (String.ofList [other])))

/-! ## Digits in placeholders -/

section

variable (digits : List Char) (grouping : Bool)

/-- The digit at an index with its comma. -/
def digitAt (next : Nat) : Except Stop (List Char) := do
  let digit ← item digits next
  let remaining ← minus digits.length (next + 1)
  pure (if grouping && decide (0 < remaining) && remaining % 3 == 0 then [digit, ','] else [digit])

/-- The digits from the cursor on as long as more are left than are reserved, and the cursor behind them. -/
def pushExcess (reserved : Nat) (out : List Char) (next : Nat) : Except Stop (List Char × Nat) :=
  match _h : minus digits.length next with
  | .error stop => .error stop
  | .ok left =>
    if reserved < left then
      match digitAt digits grouping next with
      | .error stop => .error stop
      | .ok text => pushExcess reserved (out ++ text) (next + 1)
    else .ok (out, next)
termination_by digits.length - next
decreasing_by
  have hleft := (minus_eq_ok_iff.mp _h).2
  omega

/-- All digits from the cursor on. -/
def pushRest (out : List Char) (next : Nat) : Except Stop (List Char) :=
  if next < digits.length then
    match digitAt digits grouping next with
    | .error stop => .error stop
    | .ok text => pushRest (out ++ text) (next + 1)
  else .ok out
termination_by digits.length - next

/-- How far a section is laid out. -/
structure Progress where
  out : List Char
  /-- The cursor into the whole digits. -/
  next : Nat
  /-- The placeholders met. -/
  seen : Nat

/-- A token of the whole part, of `count` placeholders in all. -/
def layToken (count : Nat) (s : Progress) (token : Token) : Except Stop Progress :=
  if token.isPlaceholder then do
    let reserved ← minus count (s.seen + 1)
    let (out, next) ← pushExcess digits grouping reserved s.out s.next
    pure ⟨out, next, s.seen + 1⟩
  else pure { s with out := s.out ++ token.ownText }

end

/-! ## Sections -/

/-- The tokens before the first point and those behind it. -/
def splitAtPoint (tokens : List Token) : Except Stop (List Token × List Token) :=
  match tokens.findIdx? (· == .point) with
  | some i => do pure (← upTo tokens i, ← dropFrom tokens (i + 1))
  | none => do pure (tokens, ← dropFrom tokens tokens.length)

/-- The fewest whole digits shown, of `count` placeholders. -/
def leastWholeAt (whole : List Token) (count : Nat) : Except Stop Nat :=
  match (whole.filter Token.isPlaceholder).findIdx? (· == .zero) with
  | some firstZero => minus count firstZero
  | none => pure 0

/-- The tokens filled with a rounded number. -/
def layOutAt (tokens whole places : List Token) (least : Nat) (d : Decimal) : Except Stop (List Char) := do
  let count := whole.countP Token.isPlaceholder
  let digits := wholeDigits least d
  let behind := placeDigits (leastPlaces places) (places.countP Token.isPlaceholder) d
  let s ← whole.foldlM (layToken digits (commas whole).grouping count) ⟨[], 0, 0⟩
  let out ←
    if count != 0 || tokens.contains .point then pushRest digits (commas whole).grouping s.out s.next
    else pure s.out
  pure (out ++ (if behind.isEmpty then [] else ['.']) ++ layPlaces places behind)

/-- A number that is not negative in a section. -/
def renderSectionAt (d : Decimal) (pattern : List Char) : Except Stop Rendered := do
  let tokens ← lift (tokenize none pattern)
  if tokens.isEmpty then pure ⟨d.digits, d.isZero⟩
  else
    let (whole, places) ← splitAtPoint tokens
    let least ← leastWholeAt whole (whole.countP Token.isPlaceholder)
    let scaled ← lift (scaleUp d tokens >>= fun raised => scaleDown raised (commas whole).pending)
    let rounded := scaled.round (places.countP Token.isPlaceholder)
    let text ← layOutAt tokens whole places least rounded
    pure ⟨text, rounded.isZero⟩

/-- The section of zero is there and not empty. -/
def hasZeroSection (all : List (List Char)) : Except Stop Bool :=
  if 3 ≤ all.length then do pure !(← item all 2).isEmpty else pure false

/-- The section of a number, and whether a minus sign stands for its own. -/
def chooseAt (d : Decimal) (all : List (List Char)) (zeroSection : Bool) : Except Stop (List Char × Bool) :=
  if d.isNegative then
    match section? all 1 with
    | some s => pure (s, false)
    | none => do pure (← item all 0, true)
  else if d.isZero && zeroSection then do pure (← item all 2, false)
  else do pure (← item all 0, false)

/-- A decimal in a custom pattern. -/
def formatCustomAt (d : Decimal) (pattern : List Char) : Except Stop (List Char) := do
  let all ← lift (sections none pattern)
  let zeroSection ← hasZeroSection all
  let (chosen, minus) ← chooseAt d all zeroSection
  let rendered ← renderSectionAt d.abs chosen
  if rendered.isZero && zeroSection && !d.isZero then
    let zero ← renderSectionAt .zero (← item all 2)
    pure zero.text
  else pure (if minus && !rendered.isZero then '-' :: rendered.text else rendered.text)

/-! ## Formats -/

/-- A decimal in a pattern without magnitude letters. -/
def applyPatternAt (d : Decimal) (pattern : List Char) : Except Stop (List Char) :=
  match specifier? pattern with
  | some (letter, precision) => formatStandardAt d letter precision
  | none => formatCustomAt d pattern

/-- The first magnitude letter of a format: the bytes before it, what it divides by and the letter. -/
def letterAt? : Nat → List Char → Option (Nat × Nat × Char)
  | _, [] => none
  | index, c :: rest =>
    match divisor? c with
    | some divisor => some (index, divisor, c)
    | none => letterAt? (index + c.utf8Size) rest

/-- The first magnitude letter, cut out of the format. -/
def magnitudeAt (format : List Char) : Except Stop (Option Magnitude) :=
  match letterAt? 0 format with
  | some (index, divisor, c) => do
    let before ← bytesUpTo format index
    let behind ← bytesFrom format (index + c.utf8Size)
    pure (some ⟨divisor, c, before ++ behind⟩)
  | none => pure none

/-- A decimal in a format. -/
def tryFormatAt (d : Decimal) (format : List Char) : Except Stop (List Char) := do
  match ← magnitudeAt format with
  | some m =>
    match d.div? m.divisor with
    | some scaled =>
      let text ← applyPatternAt scaled (if m.pattern.all Text.isBlank then defaultScaledPattern else m.pattern)
      pure (text ++ [m.suffix])
    | none => .error (.failure .overflow)
  | none => applyPatternAt d format

/-- A decimal in a format, or its own numeral if there is no format or the format fails. -/
def formatAt (d : Decimal) (format : Option String) : Except Stop String :=
  match Text.nonBlank? format with
  | none => pure d.text
  | some f => orDefault d.text ((tryFormatAt d f.toList).map String.ofList)

end RecordNaming.Numeral
