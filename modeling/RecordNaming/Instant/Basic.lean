/-
  RecordNaming.Instant.Basic — wall-clock instants without a timezone, to the nanosecond,
  and their shift by whole hours. A leap second is the second before it with a nanosecond
  count of at least 10 ^ 9; it may follow any second, though one that is read follows
  second 59.
-/
import RecordNaming.Instant.Calendar

namespace RecordNaming

/-- The times of day there are. -/
def Instant.ValidTime (hour minute second nanosecond : Nat) : Prop :=
  hour < 24 ∧ minute < 60 ∧ second < 60 ∧ nanosecond < 2000000000

instance (hour minute second nanosecond : Nat) :
    Decidable (Instant.ValidTime hour minute second nanosecond) := by
  unfold Instant.ValidTime
  infer_instance

structure Instant where
  date : Date
  hour : Nat
  minute : Nat
  second : Nat
  nanosecond : Nat
  valid : Instant.ValidTime hour minute second nanosecond
  deriving DecidableEq

namespace Instant

def ofParts? (date : Date) (hour minute second nanosecond : Nat) : Option Instant :=
  if h : ValidTime hour minute second nanosecond then
    some ⟨date, hour, minute, second, nanosecond, h⟩
  else none

def secondOfDay (t : Instant) : Nat := (t.hour * 60 + t.minute) * 60 + t.second

/-- The instant at a second counted from the start of a day; other days count on. -/
def atSecond? (date : Date) (second : Int) (nanosecond : Nat) : Option Instant := do
  let day ← Date.ofDayNumber? (date.dayNumber + second / 86400)
  let s := (second % 86400).toNat
  ofParts? day (s / 3600) (s / 60 % 60) (s % 60) nanosecond

/-- The instant some whole hours later. A leap second moved forward becomes the second before
it, moved back the second after it; nothing is outside the calendar. -/
def shift? (t : Instant) (hours : Int) : Option Instant :=
  if hours = 0 then some t
  else
    let leap := 1000000000 ≤ t.nanosecond
    let start : Int := if leap ∧ hours < 0 then t.secondOfDay + 1 else t.secondOfDay
    atSecond? t.date (start + hours * 3600)
      (if leap then t.nanosecond - 1000000000 else t.nanosecond)

/-- The instant some minutes earlier; leap seconds stay leap seconds. -/
def earlier? (t : Instant) (minutes : Int) : Option Instant :=
  atSecond? t.date (t.secondOfDay - minutes * 60) t.nanosecond

/-- The order of time. -/
def cmp (a b : Instant) : Ordering :=
  (a.date.cmp b.date).then ((compare a.secondOfDay b.secondOfDay).then
    (compare a.nanosecond b.nanosecond))

end Instant

end RecordNaming
