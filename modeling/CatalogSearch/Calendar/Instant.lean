import CatalogSearch.Calendar.Date
import CatalogSearch.Decimal.Notation

/-!
# Instants

A moment given by a local date and time of day with the offset of the place from UTC, and its
written form in UTC.

- `Instant`: the local reading of a moment.
- `Instant.moment`: the nanoseconds of the moment, whatever offset it is given in.
- `Instant.toUtc?`: the same moment in UTC, unless its year leaves the calendar.
- `Instant.utcText`: the moment as `2024-01-31T08:30:00.5Z`, for years of four digits.
-/

namespace CatalogSearch

/-- A local date and time of day in an offset from UTC. -/
structure Instant where
  date : Date
  /-- The hour of the day, below 24. -/
  hour : Nat
  /-- The minute of the hour, below 60. -/
  minute : Nat
  /-- The second of the minute, below 60. -/
  second : Nat
  /-- The nanosecond of the second, below 10⁹. -/
  nanosecond : Nat
  /-- How many seconds the local clock is ahead of UTC. -/
  offset : Int
  deriving DecidableEq

namespace Instant

/-- The date exists and the clock reads a time of day. -/
def IsValid (i : Instant) : Prop :=
  i.date.IsValid ∧ i.hour < 24 ∧ i.minute < 60 ∧ i.second < 60 ∧ i.nanosecond < Nat.pow 10 9

instance (i : Instant) : Decidable i.IsValid := by
  unfold IsValid
  infer_instance

/-- The seconds of a day. -/
def daySeconds : Int := 86400

/-- The second of the local day. -/
def clock (i : Instant) : Int :=
  (i.hour * 60 + i.minute) * 60 + i.second

/-- The moment as a count of nanoseconds that does not depend on the offset. -/
def moment (i : Instant) : Int :=
  (i.date.ordinal * daySeconds + i.clock - i.offset) * Int.pow 10 9 + i.nanosecond

/-- The same moment read off a clock in UTC. -/
def utc (i : Instant) : Instant :=
  let seconds := i.clock - i.offset
  let clock := (seconds % daySeconds).toNat
  { date := i.date.shift (seconds / daySeconds)
    hour := clock / 3600
    minute := clock / 60 % 60
    second := clock % 60
    nanosecond := i.nanosecond
    offset := 0 }

/-- The years of the calendar reach from minus to plus this one. -/
def lastYear : Int := 9999

/-- The same moment in UTC, if its year is in the calendar. -/
def toUtc? (i : Instant) : Option Instant :=
  if -lastYear ≤ i.utc.date.year ∧ i.utc.date.year ≤ lastYear then some i.utc else none

/-- A number with zeros in front up to `width` digits. -/
def padded (width n : Nat) : List Char :=
  let digits := Decimal.digitChars n
  Decimal.zeros (width - digits.length) ++ digits

/-- The fraction of a second: nothing for none, else a point and the digits up to the last that is
not zero. -/
def fraction (nanosecond : Nat) : List Char :=
  if nanosecond = 0 then []
  else '.' :: ((padded 9 nanosecond).reverse.dropWhile (· = '0')).reverse

/-- The written form of an instant in UTC whose year has at most four digits. -/
def text (i : Instant) : String :=
  String.ofList <|
    padded 4 i.date.year.toNat ++ '-' :: padded 2 i.date.month ++ '-' :: padded 2 i.date.day ++
      'T' :: padded 2 i.hour ++ ':' :: padded 2 i.minute ++ ':' :: padded 2 i.second ++
      fraction i.nanosecond ++ ['Z']

/-- Why a moment has no written form. -/
inductive TextFault where
  /-- Its year in UTC is before year zero. -/
  | unwritableYear
  /-- Its year in UTC is outside the calendar. -/
  | beyondCalendar
  deriving DecidableEq

/-- The written form of a moment. -/
def utcText (i : Instant) : Except TextFault String :=
  match i.toUtc? with
  | none => .error .beyondCalendar
  | some u => if u.date.year < 0 then .error .unwritableYear else .ok u.text

end Instant

end CatalogSearch
