import CatalogSearch.Calendar.Instant
import CatalogSearch.Decimal.Reader

/-!
# Instants in the notation of RFC 3339

A date and a time of day in digits, with a fraction of a second where there is one, and the offset
from UTC: `2024-01-31T09:30:00.5+01:00`, or `Z` for none.

- `Rfc3339.read?`: the instant that a text stands for.
- `Rfc3339.IsUtcText`: the form of instants in UTC, with no more digits than needed.
- `Instant.read?_text`: what is written is read as it was.
- `Instant.text_isUtcText`: and it has this form.
-/

namespace CatalogSearch

/-! ## Reading -/

namespace Rfc3339

/-- The number that a fixed count of digits spells, and what comes after them. -/
def digits? (width : Nat) (cs : List Char) : Option (Nat × List Char) :=
  if (cs.take width).length = width ∧ (cs.take width).all Char.isDigit then
    some (Decimal.digitsValue (cs.take width), cs.drop width)
  else none

/-- The number of two digits after a mark, and what comes after it. -/
def part? (mark : Char) : List Char → Option (Nat × List Char)
  | [] => none
  | c :: cs => if c = mark then digits? 2 cs else none

/-- A year of four digits with a month and a day, and what comes after them. -/
def date? (cs : List Char) : Option (Date × List Char) := do
  let (year, cs) ← digits? 4 cs
  let (month, cs) ← part? '-' cs
  let (day, cs) ← part? '-' cs
  some (⟨year, month, day⟩, cs)

/-- The hour, the minute and the second of a time of day, and what comes after them. -/
def clock? (cs : List Char) : Option ((Nat × Nat × Nat) × List Char) := do
  let (hour, cs) ← part? 'T' cs
  let (minute, cs) ← part? ':' cs
  let (second, cs) ← part? ':' cs
  some ((hour, minute, second), cs)

/-- The nanoseconds of a fraction of at most nine digits, if there is one, and what comes after
it. -/
def fraction? : List Char → Option (Nat × List Char)
  | '.' :: cs =>
    let digits := cs.takeWhile Char.isDigit
    if digits = [] ∨ 9 < digits.length then none
    else some (Decimal.digitsValue (digits ++ Decimal.zeros (9 - digits.length)),
      cs.dropWhile Char.isDigit)
  | cs => some (0, cs)

/-- The seconds of an offset at the end: none for a `Z`, else hours and minutes with a sign. -/
def offset? : List Char → Option Int
  | [] => none
  | ['Z'] => some 0
  | sign :: cs => do
    let (hours, cs) ← digits? 2 cs
    let (minutes, cs) ← part? ':' cs
    let seconds : Int := (hours * 60 + minutes) * 60
    if cs ≠ [] ∨ 23 < hours ∨ 59 < minutes then none
    else if sign = '+' then some seconds
    else if sign = '-' then some (-seconds)
    else none

/-- The instant that a text stands for, if its date exists and its clock reads a time of day. -/
def read? (text : String) : Option Instant := do
  let (date, cs) ← date? text.toList
  let ((hour, minute, second), cs) ← clock? cs
  let (nanosecond, cs) ← fraction? cs
  let offset ← offset? cs
  let instant : Instant :=
    { date := date
      hour := hour
      minute := minute
      second := second
      nanosecond := nanosecond
      offset := offset }
  if instant.IsValid then some instant else none

example : read? "2024-01-31T09:30:00.5+01:00" =
    some ⟨⟨2024, 1, 31⟩, 9, 30, 0, 500000000, 3600⟩ := by decide

/-- The fraction of a second with this many nanoseconds: none without nanoseconds, else a point and
digits, the last of which counts. -/
inductive IsFraction : List Char → Nat → Prop where
  | none : IsFraction [] 0
  | digits {digits : List Char} {nanosecond : Nat} (hpositive : nanosecond ≠ 0)
    (hne : digits ≠ []) (hdigits : ∀ c ∈ digits, c.isDigit = true)
    (hlast : digits.getLast? ≠ some '0') : IsFraction ('.' :: digits) nanosecond

/-- The text is a date with a time of day to the second, then the fraction of a second, then the
sign for UTC. -/
def IsUtcText (text : String) (nanosecond : Nat) : Prop :=
  ∃ front fraction, text.toList = front ++ fraction ++ ['Z'] ∧ front.length = 19 ∧
    IsFraction fraction nanosecond

/-! ## Digits -/

open Instant

theorem isDigit_of_mem_padded {width n : Nat} {c : Char} (h : c ∈ padded width n) :
    c.isDigit = true := by
  rcases List.mem_append.mp h with hzero | hdigit
  · rw [List.eq_of_mem_replicate hzero]
    rfl
  · exact Nat.isDigit_of_mem_toDigits (by decide) (by decide) hdigit

theorem length_padded {width n : Nat} (hwidth : 0 < width) (h : n < Nat.pow 10 width) :
    (padded width n).length = width := by
  have hle : (Decimal.digitChars n).length ≤ width :=
    (Nat.length_toDigits_le_iff (by decide) hwidth).mpr h
  simp only [padded, Decimal.zeros, List.length_append, List.length_replicate]
  omega

/-- Zeros in front do not count. -/
theorem digitsValue_padded (width n : Nat) : Decimal.digitsValue (padded width n) = n := by
  show Nat.ofDigitChars 10 (padded width n) 0 = n
  simp [padded, Decimal.zeros, Decimal.digitChars, Nat.ofDigitChars_append]

/-- A padded number is read up to its width. -/
theorem digits?_padded {width n : Nat} (hwidth : 0 < width) (h : n < Nat.pow 10 width)
    (rest : List Char) : digits? width (padded width n ++ rest) = some (n, rest) := by
  have hlength := length_padded hwidth h
  have htake : (padded width n ++ rest).take width = padded width n := List.take_left' hlength
  have hdrop : (padded width n ++ rest).drop width = rest := List.drop_left' hlength
  have hall : (padded width n).all Char.isDigit = true :=
    List.all_eq_true.mpr fun _ => isDigit_of_mem_padded
  simp [digits?, htake, hdrop, hlength, hall, digitsValue_padded]

/-- So is a number after a mark. -/
theorem part?_padded {n : Nat} (h : n < Nat.pow 10 2) (mark : Char) (rest : List Char) :
    part? mark (mark :: (padded 2 n ++ rest)) = some (n, rest) := by
  rw [part?, if_pos rfl, digits?_padded (by decide) h]

/-! ## Fractions -/

/-- The digits without the zeros at their end. -/
def stripped (cs : List Char) : List Char :=
  (cs.reverse.dropWhile (· = '0')).reverse

/-- With as many zeros the digits are what they were. -/
theorem stripped_append_zeros (cs : List Char) :
    stripped cs ++ Decimal.zeros (cs.length - (stripped cs).length) = cs := by
  have hzeros : cs.reverse.takeWhile (· = '0') =
      Decimal.zeros (cs.reverse.takeWhile (· = '0')).length := by
    refine List.eq_replicate_iff.mpr ⟨rfl, fun c hc => ?_⟩
    simpa using List.all_eq_true.mp List.all_takeWhile c hc
  have hcs : stripped cs ++ Decimal.zeros (cs.reverse.takeWhile (· = '0')).length = cs := by
    calc stripped cs ++ Decimal.zeros (cs.reverse.takeWhile (· = '0')).length
      _ = stripped cs ++ (cs.reverse.takeWhile (· = '0')).reverse := by
        rw [hzeros]
        simp [Decimal.zeros]
      _ = (cs.reverse.takeWhile (· = '0') ++ cs.reverse.dropWhile (· = '0')).reverse := by
        rw [List.reverse_append, stripped]
      _ = cs := by rw [List.takeWhile_append_dropWhile, List.reverse_reverse]
  have hlength := congrArg List.length hcs
  rw [List.length_append, Decimal.zeros, List.length_replicate] at hlength
  have hcount : cs.length - (stripped cs).length =
      (cs.reverse.takeWhile (· = '0')).length := by omega
  rw [hcount, hcs]

theorem mem_of_mem_stripped {cs : List Char} {c : Char} (h : c ∈ stripped cs) : c ∈ cs :=
  List.mem_reverse.mp ((List.dropWhile_sublist _).subset (List.mem_reverse.mp h))

theorem getLast?_stripped (cs : List Char) : (stripped cs).getLast? ≠ some '0' := by
  have hhead := List.head?_dropWhile_not (· = '0') cs.reverse
  rw [stripped, List.getLast?_reverse]
  intro heq
  rw [heq] at hhead
  simp at hhead

/-- Nanoseconds have a digit that is not zero. -/
theorem stripped_padded_ne_nil {width n : Nat} (h : n ≠ 0) : stripped (padded width n) ≠ [] := by
  intro hnil
  have hzeros := stripped_append_zeros (padded width n)
  rw [hnil, List.nil_append] at hzeros
  refine h ?_
  rw [← digitsValue_padded width n, ← hzeros]
  show Nat.ofDigitChars 10 (List.replicate _ '0') 0 = 0
  simp

theorem fraction_eq {nanosecond : Nat} (h : nanosecond ≠ 0) :
    fraction nanosecond = '.' :: stripped (padded 9 nanosecond) := by
  rw [fraction, if_neg h, stripped]

theorem fraction_isFraction (nanosecond : Nat) : IsFraction (fraction nanosecond) nanosecond := by
  by_cases h : nanosecond = 0
  · subst h
    exact .none
  · rw [fraction_eq h]
    refine .digits h (stripped_padded_ne_nil h) (fun c hc => ?_) (getLast?_stripped _)
    exact isDigit_of_mem_padded (mem_of_mem_stripped hc)

/-- A fraction is read up to the sign for UTC. -/
theorem fraction?_fraction {nanosecond : Nat} (h : nanosecond < Nat.pow 10 9) :
    fraction? (fraction nanosecond ++ ['Z']) = some (nanosecond, ['Z']) := by
  by_cases hzero : nanosecond = 0
  · subst hzero
    rfl
  · rw [fraction_eq hzero, List.cons_append]
    have hdigits : ∀ c ∈ stripped (padded 9 nanosecond), c.isDigit = true :=
      fun c hc => isDigit_of_mem_padded (mem_of_mem_stripped hc)
    have htake : (stripped (padded 9 nanosecond) ++ ['Z']).takeWhile Char.isDigit =
        stripped (padded 9 nanosecond) := by
      rw [List.takeWhile_append_of_pos hdigits]
      simp
    have hdrop : (stripped (padded 9 nanosecond) ++ ['Z']).dropWhile Char.isDigit = ['Z'] := by
      rw [List.dropWhile_append_of_pos hdigits]
      rfl
    have hlength := length_padded (by decide : 0 < 9) h
    have hzeros := stripped_append_zeros (padded 9 nanosecond)
    have hle : (stripped (padded 9 nanosecond)).length ≤ 9 := by
      have := congrArg List.length hzeros
      rw [List.length_append] at this
      omega
    rw [hlength] at hzeros
    have hshort : ¬ (stripped (padded 9 nanosecond) = [] ∨
        9 < (stripped (padded 9 nanosecond)).length) := by
      rintro (hnil | hlong)
      · exact stripped_padded_ne_nil hzero hnil
      · omega
    simp only [fraction?, htake, hdrop, if_neg hshort, hzeros, digitsValue_padded]

end Rfc3339

/-! ## Instants in UTC -/

namespace Instant

open Rfc3339

variable {u : Instant}

/-- The date of an instant as it is written. -/
def dateChars (u : Instant) : List Char :=
  padded 4 u.date.year.toNat ++ ('-' :: padded 2 u.date.month) ++ ('-' :: padded 2 u.date.day)

/-- The time of day of an instant, as it is written to the second. -/
def clockChars (u : Instant) : List Char :=
  ('T' :: padded 2 u.hour) ++ (':' :: padded 2 u.minute) ++ (':' :: padded 2 u.second)

theorem toList_text (u : Instant) :
    u.text.toList = u.dateChars ++ (u.clockChars ++ (fraction u.nanosecond ++ ['Z'])) := by
  simp [text, dateChars, clockChars]

theorem date_lt (h : u.date.IsValid) (hyear : u.date.year ≤ 9999) :
    u.date.year.toNat < Nat.pow 10 4 ∧ u.date.month < Nat.pow 10 2 ∧ u.date.day < Nat.pow 10 2 := by
  obtain ⟨hfirst, hmonth, hday, hdays⟩ := h
  have hlong : Date.daysInMonth u.date.year u.date.month ≤ 31 := by
    unfold Date.daysInMonth
    grind
  have hfour : Nat.pow 10 4 = 10000 := rfl
  have htwo : Nat.pow 10 2 = 100 := rfl
  omega

theorem clock_lt (h : u.IsValid) :
    u.hour < Nat.pow 10 2 ∧ u.minute < Nat.pow 10 2 ∧ u.second < Nat.pow 10 2 := by
  obtain ⟨-, hhour, hminute, hsecond, -⟩ := h
  have htwo : Nat.pow 10 2 = 100 := rfl
  omega

theorem length_dateChars (h : u.date.IsValid) (hyear : u.date.year ≤ 9999) :
    u.dateChars.length = 10 := by
  obtain ⟨hyear, hmonth, hday⟩ := date_lt h hyear
  have htwo : 0 < 2 := by decide
  simp only [dateChars, List.length_append, List.length_cons, length_padded (by decide) hyear,
    length_padded htwo hmonth, length_padded htwo hday]

theorem length_clockChars (h : u.IsValid) : u.clockChars.length = 9 := by
  obtain ⟨hhour, hminute, hsecond⟩ := clock_lt h
  have htwo : 0 < 2 := by decide
  simp only [clockChars, List.length_append, List.length_cons, length_padded htwo hhour,
    length_padded htwo hminute, length_padded htwo hsecond]

theorem text_isUtcText (h : u.IsValid) (hyear : u.date.year ≤ 9999) :
    IsUtcText u.text u.nanosecond := by
  refine ⟨u.dateChars ++ u.clockChars, fraction u.nanosecond, ?_, ?_, fraction_isFraction _⟩
  · rw [toList_text, List.append_assoc, List.append_assoc]
  · rw [List.length_append, length_dateChars h.1 hyear, length_clockChars h]

theorem date?_dateChars (h : u.date.IsValid) (hfirst : 0 ≤ u.date.year)
    (hlast : u.date.year ≤ 9999) (rest : List Char) :
    date? (u.dateChars ++ rest) = some (u.date, rest) := by
  obtain ⟨hyear, hmonth, hday⟩ := date_lt h hlast
  have hwhole : (u.date.year.toNat : Int) = u.date.year := Int.toNat_of_nonneg hfirst
  have hchars : u.dateChars ++ rest = padded 4 u.date.year.toNat ++
      '-' :: (padded 2 u.date.month ++ '-' :: (padded 2 u.date.day ++ rest)) := by
    simp [dateChars]
  rw [date?, hchars, digits?_padded (by decide) hyear]
  simp only [Option.bind_eq_bind, Option.bind_some, part?_padded hmonth, part?_padded hday, hwhole]

theorem clock?_clockChars (h : u.IsValid) (rest : List Char) :
    clock? (u.clockChars ++ rest) = some ((u.hour, u.minute, u.second), rest) := by
  obtain ⟨hhour, hminute, hsecond⟩ := clock_lt h
  have hchars : u.clockChars ++ rest = 'T' :: (padded 2 u.hour ++
      ':' :: (padded 2 u.minute ++ ':' :: (padded 2 u.second ++ rest))) := by
    simp [clockChars]
  rw [clock?, hchars, part?_padded hhour]
  simp only [Option.bind_eq_bind, Option.bind_some, part?_padded hminute, part?_padded hsecond]

/-- What is written is read as it was. -/
theorem read?_text (h : u.IsValid) (hoffset : u.offset = 0) (hfirst : 0 ≤ u.date.year)
    (hlast : u.date.year ≤ 9999) : read? u.text = some u := by
  have hnanosecond : u.nanosecond < Nat.pow 10 9 := h.2.2.2.2
  have hoffset? : offset? ['Z'] = some 0 := rfl
  have hinstant : (⟨u.date, u.hour, u.minute, u.second, u.nanosecond, 0⟩ : Instant) = u := by
    rw [← hoffset]
  rw [read?, toList_text, date?_dateChars h.1 hfirst hlast]
  simp only [Option.bind_eq_bind, Option.bind_some, clock?_clockChars h,
    fraction?_fraction hnanosecond, hoffset?]
  rw [hinstant, if_pos h]

end Instant

end CatalogSearch
