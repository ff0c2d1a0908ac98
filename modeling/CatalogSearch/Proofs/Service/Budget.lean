import CatalogSearch.Service.Plan

/-!
# The time of a query

The settings and the request may each bound the time of a query. Zero is no bound on either side,
and the two come in words of different widths.

- `timeBounds`: the bounds that there are.
- `IsBudget`: the time is the least of them, and none only without any.
- `allowedTime_isBudget`: the time of a plan is.
- `IsBudget.range`: it is within what the engine understands.
-/

namespace CatalogSearch

/-- The bounds on the time of a query: that of the settings, and that of its request as far as the
engine understands it. Zero is no bound. -/
def timeBounds (configured : UInt32) (requested : Option UInt64) : List Nat :=
  (configured.toNat :: (requested.map fun time => min time.toNat 2147483647).toList).filter (0 < ·)

/-- The time that a query gets. -/
structure IsBudget (configured : UInt32) (requested : Option UInt64) (budget : Option UInt32) :
    Prop where
  /-- It is unlimited only if neither side bounds it. -/
  unlimited : budget = none ↔ configured = 0 ∧ (requested = none ∨ requested = some 0)
  /-- It is the least of the bounds that there are. -/
  least : budget.map UInt32.toNat = (timeBounds configured requested).min?
  /-- A request cannot loosen the bound of the settings. -/
  tightened : configured ≠ 0 → ∃ time, budget = some time ∧ time ≤ configured

theorem positive?_eq_none_iff {time : UInt32} : positive? time = none ↔ time = 0 := by
  unfold positive?
  split
  · next h => exact iff_of_true rfl h
  · next h => exact iff_of_false nofun h

/-- A bound is kept unless it is zero. -/
theorem toList_positive? (time : UInt32) :
    (positive? time).toList.map UInt32.toNat = [time.toNat].filter (0 < ·) := by
  unfold positive?
  split
  · next h =>
    subst h
    rfl
  · next h =>
    have hpos : 0 < time.toNat := Nat.pos_of_ne_zero fun hzero => h (UInt32.toNat_inj.mp hzero)
    simp [hpos]

theorem toNat_cappedTime (time : UInt64) :
    (cappedTime time).toNat = min time.toNat 2147483647 := by
  unfold cappedTime
  have hmax : Config.maxTime.toUInt64.toNat = 2147483647 := rfl
  split
  · next h =>
    rw [UInt64.le_iff_toNat_le, hmax] at h
    rw [UInt64.toNat_toUInt32]
    omega
  · next h =>
    rw [UInt64.le_iff_toNat_le, hmax] at h
    rw [show Config.maxTime.toNat = 2147483647 from rfl]
    omega

theorem cappedTime_eq_zero_iff {time : UInt64} : cappedTime time = 0 ↔ time = 0 := by
  rw [← UInt32.toNat_inj, ← UInt64.toNat_inj, toNat_cappedTime]
  show min time.toNat 2147483647 = 0 ↔ time.toNat = 0
  omega

theorem toNat_min (a b : UInt32) : (min a b).toNat = min a.toNat b.toNat := by
  show (if a ≤ b then a else b).toNat = _
  split
  · next h =>
    rw [UInt32.le_iff_toNat_le] at h
    omega
  · next h =>
    rw [UInt32.le_iff_toNat_le] at h
    omega

/-- The bound of a request, if it sets one. -/
def requestedTime (requested : Option UInt64) : Option UInt32 :=
  requested.bind fun time => positive? (cappedTime time)

theorem requestedTime_eq_none_iff {requested : Option UInt64} :
    requestedTime requested = none ↔ requested = none ∨ requested = some 0 := by
  unfold requestedTime
  cases requested with
  | none => exact iff_of_true rfl (.inl rfl)
  | some time =>
    show positive? (cappedTime time) = none ↔ _
    rw [positive?_eq_none_iff, cappedTime_eq_zero_iff]
    simp

/-- The bounds are those of the two sides. -/
theorem timeBounds_eq (configured : UInt32) (requested : Option UInt64) :
    timeBounds configured requested =
      ((positive? configured).toList ++ (requestedTime requested).toList).map UInt32.toNat := by
  unfold timeBounds requestedTime
  rw [List.map_append, toList_positive?, ← List.singleton_append, List.filter_append]
  congr 1
  cases requested with
  | none => rfl
  | some time =>
    show [min time.toNat 2147483647].filter _ = (positive? (cappedTime time)).toList.map _
    rw [toList_positive?, toNat_cappedTime]

/-- The time of a plan is such a time. -/
theorem allowedTime_isBudget (configured : UInt32) (requested : Option UInt64) :
    IsBudget configured requested (allowedTime configured requested) := by
  have hconfigured : positive? configured = none ↔ configured = 0 := positive?_eq_none_iff
  have hrequested : requestedTime requested = none ↔ requested = none ∨ requested = some 0 :=
    requestedTime_eq_none_iff
  have hbounds := timeBounds_eq configured requested
  have hsome : ∀ time, positive? configured = some time → time = configured := by
    intro time h
    unfold positive? at h
    split at h
    · cases h
    · exact (Option.some.inj h).symm
  -- each side has a bound or none, which makes four cases
  unfold allowedTime
  rw [show (requested.bind fun time => positive? (cappedTime time)) = requestedTime requested
    from rfl]
  cases hc : positive? configured with
  | none =>
    rw [hc] at hconfigured hbounds
    have hzero : configured = 0 := hconfigured.mp rfl
    refine ⟨?_, ?_, fun hne => absurd hzero hne⟩
    · rw [hrequested]
      exact (and_iff_right hzero).symm
    · rw [hbounds]
      cases requestedTime requested <;> rfl
  | some time =>
    obtain rfl := hsome time hc
    have hne : time ≠ 0 := by
      intro hzero
      rw [hconfigured.mpr hzero] at hc
      cases hc
    rw [hc] at hbounds
    cases hr : requestedTime requested with
    | none =>
      rw [hr] at hbounds
      refine ⟨iff_of_false nofun fun h => hne h.1, ?_, fun _ => ⟨time, rfl, UInt32.le_refl time⟩⟩
      rw [hbounds]
      rfl
    | some other =>
      rw [hr] at hbounds
      refine ⟨iff_of_false nofun fun h => hne h.1, ?_, fun _ => ⟨_, rfl, ?_⟩⟩
      · rw [hbounds]
        exact congrArg some (toNat_min time other)
      · rw [UInt32.le_iff_toNat_le, toNat_min]
        exact Nat.min_le_left _ _

/-- A time is within what the engine understands if that of the settings is. -/
theorem IsBudget.range {configured : UInt32} {requested : Option UInt64} {budget : Option UInt32}
    (h : IsBudget configured requested budget) (hconfigured : configured.toNat ≤ 2147483647)
    {time : UInt32} (htime : budget = some time) :
    1 ≤ time.toNat ∧ time.toNat ≤ 2147483647 := by
  have hleast := h.least
  rw [htime] at hleast
  -- the least bound is one of them, and none of them is zero
  have hmem : time.toNat ∈ timeBounds configured requested := List.min?_mem hleast.symm
  unfold timeBounds at hmem
  obtain ⟨hbound, hpos⟩ := List.mem_filter.mp hmem
  refine ⟨of_decide_eq_true hpos, ?_⟩
  rcases List.mem_cons.mp hbound with heq | hrequested
  · omega
  · obtain ⟨other, -, heq⟩ := Option.map_eq_some_iff.mp (Option.mem_toList.mp hrequested)
    omega

end CatalogSearch
