import CatalogSearch.Calendar.Instant
import CatalogSearch.Proofs.Calendar.Ordinal

/-!
# Moments in UTC

Every instant has one reading in UTC: the same moment, told by a clock without an offset.

- `Instant.IsUtcOf`: an instant is the reading in UTC of another one.
- `Instant.utc_isUtcOf`: the reading that the library takes is one, whatever day the offset moves
  the clock into.
- `Instant.IsUtcOf.eq_utc`: there is no other one, so it depends on the moment alone.
-/

namespace CatalogSearch

namespace Instant

variable {i j u : Instant}

/-- The instant is the moment of `i`, read off a clock in UTC. -/
structure IsUtcOf (u i : Instant) : Prop where
  valid : u.IsValid
  offset : u.offset = 0
  moment : u.moment = i.moment

/-! ## The reading that is taken -/

/-- The second of the day in UTC. -/
def utcClock (i : Instant) : Nat :=
  ((i.clock - i.offset) % daySeconds).toNat

theorem utcClock_lt (i : Instant) : i.utcClock < 86400 := by
  unfold utcClock daySeconds
  omega

/-- Hours, minutes and seconds make up the second of the day. -/
theorem clock_utc (i : Instant) : i.utc.clock = i.utcClock := by
  show ((i.utcClock / 3600 : Nat) * 60 + (i.utcClock / 60 % 60 : Nat)) * 60 +
    (i.utcClock % 60 : Nat) = (i.utcClock : Int)
  omega

theorem utc_isValid (h : i.IsValid) : i.utc.IsValid := by
  obtain ⟨hdate, -, -, -, hnanosecond⟩ := h
  have hclock := i.utcClock_lt
  refine ⟨Date.shift_isValid hdate _, ?_, ?_, ?_, hnanosecond⟩
  · show i.utcClock / 3600 < 24
    omega
  · show i.utcClock / 60 % 60 < 60
    omega
  · show i.utcClock % 60 < 60
    omega

/-- The seconds that the offset moves over the end of the day are whole days and the clock. -/
theorem days_add_utcClock (i : Instant) :
    (i.clock - i.offset) / daySeconds * daySeconds + i.utcClock = i.clock - i.offset := by
  unfold utcClock daySeconds
  omega

/-- The reading in UTC is the same moment. -/
theorem moment_utc (h : i.IsValid) : i.utc.moment = i.moment := by
  have hdate : i.utc.date.ordinal = i.date.ordinal + (i.clock - i.offset) / daySeconds :=
    Date.ordinal_shift h.1 _
  have hclock := i.clock_utc
  have hdays := i.days_add_utcClock
  have hseconds : i.utc.date.ordinal * daySeconds + i.utc.clock - i.utc.offset =
      i.date.ordinal * daySeconds + i.clock - i.offset := by
    show i.utc.date.ordinal * daySeconds + i.utc.clock - 0 = _
    rw [hdate, hclock, Int.add_mul]
    omega
  unfold moment
  rw [hseconds]
  rfl

theorem utc_isUtcOf (h : i.IsValid) : i.utc.IsUtcOf i :=
  ⟨utc_isValid h, rfl, moment_utc h⟩

/-! ## The only reading -/

/-- The seconds of a moment in UTC, and its nanosecond. -/
theorem moment_of_utc (hoffset : u.offset = 0) :
    u.moment = (u.date.ordinal * 86400 + u.clock) * 1000000000 + u.nanosecond := by
  have hbillion : Int.pow 10 9 = 1000000000 := by decide
  unfold moment daySeconds
  rw [hoffset, hbillion, Int.sub_zero]

theorem clock_bounds (h : u.IsValid) : 0 ≤ u.clock ∧ u.clock < 86400 := by
  obtain ⟨-, hhour, hminute, hsecond, -⟩ := h
  unfold clock
  omega

/-- Two clocks in UTC that show the same moment show the same. -/
theorem eq_of_moment_eq (h : u.IsValid) (h' : j.IsValid) (hoffset : u.offset = 0)
    (hoffset' : j.offset = 0) (heq : u.moment = j.moment) : u = j := by
  have hbillion : Nat.pow 10 9 = 1000000000 := by decide
  have hclock := clock_bounds h
  have hclock' := clock_bounds h'
  obtain ⟨hdate, hhour, hminute, hsecond, hnanosecond⟩ := h
  obtain ⟨hdate', hhour', hminute', hsecond', hnanosecond'⟩ := h'
  rw [moment_of_utc hoffset, moment_of_utc hoffset'] at heq
  rw [hbillion] at hnanosecond hnanosecond'
  -- each part is less than a unit of the one before it
  have hfraction : u.nanosecond = j.nanosecond := by omega
  have hordinal : u.date.ordinal = j.date.ordinal := by omega
  have hclocks : u.clock = j.clock := by omega
  have hdates := Date.ordinal_inj hdate hdate' hordinal
  unfold clock at hclocks
  have hhours : u.hour = j.hour := by omega
  have hminutes : u.minute = j.minute := by omega
  have hseconds : u.second = j.second := by omega
  cases u
  cases j
  simp_all

/-- There is one reading in UTC. -/
theorem IsUtcOf.eq_utc (hu : u.IsUtcOf i) (h : i.IsValid) : u = i.utc :=
  eq_of_moment_eq hu.valid (utc_isValid h) hu.offset rfl (hu.moment.trans (moment_utc h).symm)

/-- So the reading in UTC depends on the moment alone. -/
theorem utc_eq_iff (h : i.IsValid) (h' : j.IsValid) : i.utc = j.utc ↔ i.moment = j.moment := by
  constructor
  · intro heq
    rw [← moment_utc h, heq, moment_utc h']
  · intro heq
    have hutc := utc_isUtcOf h
    exact IsUtcOf.eq_utc ⟨hutc.valid, hutc.offset, hutc.moment.trans heq⟩ h'

end Instant

end CatalogSearch
