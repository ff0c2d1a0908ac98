import CatalogSearch.Calendar.Date

/-!
# Days in a row

The days of the calendar are counted without a gap: the day after has the next number, over the ends
of months, of leap years and of centuries.

- `Date.yearStart`: the days before a year; it grows by the days of the year (`yearStart_succ`).
- `Date.ordinal_next`, `Date.ordinal_previous`: one day on, and one day back.
- `Date.ordinal_shift`: any number of days on or back.
- `Date.ordinal_inj`: no two days have one number.
-/

namespace CatalogSearch

namespace Date

variable {d d' : Date}

/-- The number of the last day before a year. -/
def yearStart (year : Int) : Int :=
  365 * year + (year - 1) / 4 - (year - 1) / 100 + (year - 1) / 400

theorem ordinal_eq (d : Date) :
    d.ordinal = yearStart d.year + daysBefore d.year d.month + d.day := rfl

/-! ## The days of a year -/

/-- A month comes after the days of the months before it. -/
theorem daysBefore_succ (year : Int) {month : Nat} (h : 1 ≤ month) :
    daysBefore year (month + 1) = daysBefore year month + daysInMonth year month := by
  obtain ⟨m, rfl⟩ := Nat.exists_eq_add_of_le' h
  rfl

/-- A month ends before every later one. -/
theorem daysBefore_add_le (year : Int) {month later : Nat} (h : 1 ≤ month) (hlt : month < later) :
    daysBefore year month + daysInMonth year month ≤ daysBefore year later := by
  induction later with
  | zero => omega
  | succ later ih =>
    by_cases heq : month = later
    · have hnext := daysBefore_succ year h
      rw [← heq]
      omega
    · have hstep := daysBefore_succ year (by omega : 1 ≤ later)
      have hbefore := ih (by omega)
      omega

/-- The days of a whole year; a thirteenth month would come after them. -/
theorem daysBefore_thirteen (year : Int) :
    daysBefore year 13 = if isLeap year then 366 else 365 := by
  simp only [daysBefore, daysInMonth]
  cases isLeap year <;> rfl

theorem isLeap_iff (year : Int) :
    isLeap year = true ↔ year % 4 = 0 ∧ (year % 100 ≠ 0 ∨ year % 400 = 0) := by
  simp [isLeap]

/-- The next year starts when this one is over. -/
theorem yearStart_succ (year : Int) :
    yearStart (year + 1) = yearStart year + daysBefore year 13 := by
  have hleap := isLeap_iff year
  rw [daysBefore_thirteen]
  unfold yearStart
  by_cases h : isLeap year = true
  · have hyear := hleap.mp h
    rw [if_pos h]
    omega
  · have hyear := mt hleap.mpr h
    rw [if_neg h]
    omega

theorem yearStart_mono {year later : Int} (h : year ≤ later) :
    yearStart year ≤ yearStart later := by
  unfold yearStart
  omega

/-! ## Neighbouring days -/

theorem ordinal_next (h : d.IsValid) : d.next.ordinal = d.ordinal + 1 := by
  obtain ⟨hfirst, hlast, hday, hdays⟩ := h
  have hmonth := daysBefore_succ d.year hfirst
  unfold next
  split
  · simp only [ordinal_eq]
    omega
  · -- the day is the last of its month
    have hend : d.day = daysInMonth d.year d.month := by omega
    split
    · simp only [ordinal_eq]
      omega
    · have hdecember : d.month + 1 = 13 := by omega
      have hyear := yearStart_succ d.year
      have hjanuary : daysBefore (d.year + 1) 1 = 0 := rfl
      rw [hdecember] at hmonth
      simp only [ordinal_eq]
      omega

/-- The day after the day before. -/
theorem next_previous (h : d.IsValid) : d.previous.next = d := by
  obtain ⟨hfirst, hlast, hday, hdays⟩ := h
  obtain ⟨year, month, day⟩ := d
  simp only at hfirst hlast hday hdays
  unfold previous
  split
  · next hlt =>
    have hbefore : day - 1 < daysInMonth year month := by omega
    have hback : day - 1 + 1 = day := by omega
    simp [next, hbefore, hback]
  · -- the day is the first of its month, and the one before is the last of its own
    next hone =>
    obtain rfl : day = 1 := by simp only at hone; omega
    split
    · next hmonth =>
      have hlt : month - 1 < 12 := by omega
      have hback : month - 1 + 1 = month := by simp only at hmonth; omega
      simp [next, hlt, hback]
    · next hmonth =>
      obtain rfl : month = 1 := by simp only at hmonth; omega
      have hdecember : daysInMonth (year - 1) 12 = 31 := rfl
      simp [next, hdecember]

theorem ordinal_previous (h : d.IsValid) : d.previous.ordinal = d.ordinal - 1 := by
  have hnext := ordinal_next (previous_isValid h)
  rw [next_previous h] at hnext
  omega

/-! ## Shifts -/

theorem shift_isValid (h : d.IsValid) (days : Int) : (d.shift days).IsValid := by
  cases days with
  | ofNat n =>
    show (n.repeat next d).IsValid
    induction n with
    | zero => exact h
    | succ n ih => exact next_isValid ih
  | negSucc n =>
    show ((n + 1).repeat previous d).IsValid
    induction n with
    | zero => exact previous_isValid h
    | succ n ih => exact previous_isValid ih

/-- A shift moves the number of a day by its days. -/
theorem ordinal_shift (h : d.IsValid) (days : Int) :
    (d.shift days).ordinal = d.ordinal + days := by
  cases days with
  | ofNat n =>
    induction n with
    | zero => simp [shift, Nat.repeat]
    | succ n ih =>
      have hstep := ordinal_next (shift_isValid h (Int.ofNat n))
      show (d.shift (Int.ofNat n)).next.ordinal = _
      rw [hstep, ih]
      simp only [Int.ofNat_eq_natCast]
      omega
  | negSucc n =>
    induction n with
    | zero => exact ordinal_previous h
    | succ n ih =>
      have hstep := ordinal_previous (shift_isValid h (Int.negSucc n))
      show (d.shift (Int.negSucc n)).previous.ordinal = _
      rw [hstep, ih]
      omega

/-! ## Days and their numbers -/

/-- The days of a year have the numbers after its start, up to the start of the next year. -/
theorem ordinal_bounds (h : d.IsValid) :
    yearStart d.year < d.ordinal ∧ d.ordinal ≤ yearStart (d.year + 1) := by
  obtain ⟨hfirst, hlast, hday, hdays⟩ := h
  have hmonth := daysBefore_add_le d.year hfirst (by omega : d.month < 13)
  rw [yearStart_succ, ordinal_eq]
  omega

/-- A day of an earlier year has a lesser number. -/
theorem ordinal_lt_of_year_lt (h : d.IsValid) (h' : d'.IsValid) (hlt : d.year < d'.year) :
    d.ordinal < d'.ordinal := by
  have hyear := yearStart_mono (Int.add_one_le_of_lt hlt)
  have hbounds := ordinal_bounds h
  have hbounds' := ordinal_bounds h'
  omega

/-- So has a day of an earlier month of the same year. -/
theorem ordinal_lt_of_month_lt (h : d.IsValid) (h' : d'.IsValid) (hyear : d.year = d'.year)
    (hlt : d.month < d'.month) : d.ordinal < d'.ordinal := by
  obtain ⟨hfirst, hlast, hday, hdays⟩ := h
  obtain ⟨hfirst', hlast', hday', hdays'⟩ := h'
  have hmonth := daysBefore_add_le d.year hfirst hlt
  rw [ordinal_eq, ordinal_eq, ← hyear]
  omega

/-- No two days have one number. -/
theorem ordinal_inj (h : d.IsValid) (h' : d'.IsValid) (heq : d.ordinal = d'.ordinal) : d = d' := by
  have hyear : d.year = d'.year := by
    rcases Int.lt_trichotomy d.year d'.year with hlt | hyear | hlt
    · have := ordinal_lt_of_year_lt h h' hlt
      omega
    · exact hyear
    · have := ordinal_lt_of_year_lt h' h hlt
      omega
  have hmonth : d.month = d'.month := by
    rcases Nat.lt_trichotomy d.month d'.month with hlt | hmonth | hlt
    · have := ordinal_lt_of_month_lt h h' hyear hlt
      omega
    · exact hmonth
    · have := ordinal_lt_of_month_lt h' h hyear.symm hlt
      omega
  have hday : d.day = d'.day := by
    rw [ordinal_eq, ordinal_eq, hyear, hmonth] at heq
    omega
  cases d
  cases d'
  simp_all

end Date

end CatalogSearch
