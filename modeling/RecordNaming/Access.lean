/-
  RecordNaming.Access — operations that have a result only where their arguments allow one.

  A count is taken from one that is no smaller, an index is one of the list, a cut lies inside of the list, a cut of a
  text by bytes falls between two characters, and a width is counted in 16 bits. Outside of that an operation has a
  fault, which ends the program and is no failure of a format.
-/
import RecordNaming.FormatError

namespace RecordNaming

/-- Why a computation ends without a result. -/
inductive Stop where
  | failure (e : FormatError)
  /-- An index or a cut outside of a list or a text, or inside of a character. -/
  | outOfRange
  /-- A difference below zero. -/
  | underflow
  /-- A width of more than 16 bits. -/
  | tooWide
  deriving DecidableEq, Repr

namespace Access

/-! ## Operations -/

section

variable {α : Type}

/-- The difference of two counts. -/
def minus (a b : Nat) : Except Stop Nat := if b ≤ a then .ok (a - b) else .error .underflow

/-- The element at an index. -/
def item (xs : List α) (i : Nat) : Except Stop α := if h : i < xs.length then .ok xs[i] else .error .outOfRange

/-- The element of an array at an index. -/
def cell (xs : Array α) (i : Nat) : Except Stop α := if h : i < xs.size then .ok xs[i] else .error .outOfRange

/-- The elements before an index. -/
def upTo (xs : List α) (i : Nat) : Except Stop (List α) :=
  if i ≤ xs.length then .ok (xs.take i) else .error .outOfRange

/-- The elements from an index on. -/
def dropFrom (xs : List α) (i : Nat) : Except Stop (List α) :=
  if i ≤ xs.length then .ok (xs.drop i) else .error .outOfRange

/-- The elements from one index up to another. -/
def slice (xs : List α) (i j : Nat) : Except Stop (List α) :=
  if i ≤ j ∧ j ≤ xs.length then .ok ((xs.drop i).take (j - i)) else .error .outOfRange

/-- A text cut in two behind some of its bytes. -/
def splitBytes : List Char → Nat → Except Stop (List Char × List Char)
  | text, 0 => .ok ([], text)
  | [], _ + 1 => .error .outOfRange
  | c :: rest, n + 1 =>
    if c.utf8Size ≤ n + 1 then (splitBytes rest (n + 1 - c.utf8Size)).map fun p => (c :: p.1, p.2)
    else .error .outOfRange

def bytesUpTo (text : List Char) (n : Nat) : Except Stop (List Char) := (splitBytes text n).map (·.1)

def bytesFrom (text : List Char) (n : Nat) : Except Stop (List Char) := (splitBytes text n).map (·.2)

/-- The widest that a text can be padded to. -/
def widest : Nat := 65535

/-- A width that is only known when the text is made. -/
def width (n : Nat) : Except Stop Nat := if n ≤ widest then .ok n else .error .tooWide

theorem minus_eq_ok_iff {a b c : Nat} : minus a b = .ok c ↔ b ≤ a ∧ a - b = c := by
  unfold minus
  split <;> simp [*]

example : minus 2 3 = .error .underflow := rfl

end

/-! ## Results -/

section

variable {α : Type}

/-- A result that can fail only by the format. -/
def lift (r : Except FormatError α) : Except Stop α := r.mapError .failure

/-- The text of a format, or another one if the format fails. A fault stays one. -/
def orDefault (default : α) : Except Stop α → Except Stop α
  | .error (.failure _) => .ok default
  | result => result

end

end Access

end RecordNaming
