/-!
# Dates of the proleptic Gregorian calendar

- `Date`: a year, a month and a day.
- `Date.IsValid`: the month and the day exist.
- `Date.next`, `Date.previous`: the neighbouring days.
- `Date.shift`: the date a number of days later or earlier.
- `Date.ordinal`: the days counted from the first of January of year zero.
-/

namespace CatalogSearch

/-- A day of the calendar. -/
structure Date where
  /-- The year; year zero precedes year one. -/
  year : Int
  month : Nat
  /-- The day of the month, from one. -/
  day : Nat
  deriving DecidableEq

namespace Date

/-- Every fourth year is a leap year, but of the full centuries only every fourth. -/
def isLeap (year : Int) : Bool :=
  year % 4 = 0 && (year % 100 ≠ 0 || year % 400 = 0)

/-- How many days a month has. -/
def daysInMonth (year : Int) (month : Nat) : Nat :=
  if month = 2 then (if isLeap year then 29 else 28)
  else if month = 4 ∨ month = 6 ∨ month = 9 ∨ month = 11 then 30
  else 31

/-- The month and the day exist. -/
def IsValid (d : Date) : Prop :=
  1 ≤ d.month ∧ d.month ≤ 12 ∧ 1 ≤ d.day ∧ d.day ≤ daysInMonth d.year d.month

instance (d : Date) : Decidable d.IsValid := by
  unfold IsValid
  infer_instance

/-- The day after. -/
def next (d : Date) : Date :=
  if d.day < daysInMonth d.year d.month then { d with day := d.day + 1 }
  else if d.month < 12 then ⟨d.year, d.month + 1, 1⟩
  else ⟨d.year + 1, 1, 1⟩

/-- The day before. -/
def previous (d : Date) : Date :=
  if 1 < d.day then { d with day := d.day - 1 }
  else if 1 < d.month then ⟨d.year, d.month - 1, daysInMonth d.year (d.month - 1)⟩
  else ⟨d.year - 1, 12, 31⟩

/-- The date `days` later, or earlier if negative. -/
def shift (d : Date) : Int → Date
  | .ofNat n => n.repeat next d
  | .negSucc n => (n + 1).repeat previous d

/-- The days of the months before `month`. -/
def daysBefore (year : Int) : Nat → Nat
  | 0 | 1 => 0
  | month + 1 => daysBefore year month + daysInMonth year month

/-- The days from the first of January of year zero to this one. -/
def ordinal (d : Date) : Int :=
  let before := d.year - 1
  365 * d.year + before / 4 - before / 100 + before / 400 + daysBefore d.year d.month + d.day

/-- Every month has at least 28 days. -/
theorem le_daysInMonth (year : Int) (month : Nat) : 28 ≤ daysInMonth year month := by
  unfold daysInMonth
  split
  · split <;> decide
  · split <;> decide

/-- The first of a month between the first and the twelfth is valid. -/
theorem first_isValid {year : Int} {month : Nat} (h₁ : 1 ≤ month) (h₂ : month ≤ 12) :
    (Date.mk year month 1).IsValid :=
  have h : 1 ≤ daysInMonth year month := by have := le_daysInMonth year month; omega
  ⟨h₁, h₂, Nat.le_refl 1, h⟩

/-- The last of a month between the first and the twelfth is valid. -/
theorem last_isValid {year : Int} {month : Nat} (h₁ : 1 ≤ month) (h₂ : month ≤ 12) :
    (Date.mk year month (daysInMonth year month)).IsValid :=
  have h : 1 ≤ daysInMonth year month := by have := le_daysInMonth year month; omega
  ⟨h₁, h₂, h, Nat.le_refl _⟩

/-- The day after a valid date is valid. -/
theorem next_isValid {d : Date} (h : d.IsValid) : d.next.IsValid := by
  obtain ⟨h₁, h₂, h₃, h₄⟩ := h
  unfold next
  split
  · next hd => exact ⟨h₁, h₂, Nat.le_add_left 1 _, hd⟩
  · split
    · next hm => exact first_isValid (Nat.le_add_left 1 _) hm
    · exact first_isValid (Nat.le_refl 1) (by omega)

/-- The day before a valid date is valid. -/
theorem previous_isValid {d : Date} (h : d.IsValid) : d.previous.IsValid := by
  obtain ⟨h₁, h₂, h₃, h₄⟩ := h
  unfold previous
  split
  · next hd =>
    exact ⟨h₁, h₂, Nat.le_sub_of_add_le hd, Nat.le_trans (Nat.sub_le _ _) h₄⟩
  · split
    · next hm =>
      exact last_isValid (Nat.le_sub_of_add_le hm) (Nat.le_trans (Nat.sub_le _ _) h₂)
    · exact last_isValid (by omega : 1 ≤ 12) (Nat.le_refl 12)

end Date

end CatalogSearch
