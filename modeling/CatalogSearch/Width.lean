/-!
# Whole numbers of a fixed width

The machine words of requests and answers, and the checked ways into them: a number that does not
fit gives nothing, so none is ever cut off.

- `toInt64?`, `toUInt64?`, `toUInt32?`: whole numbers that fit.
- `tooLarge`: the words for one that is too large.
-/

namespace CatalogSearch

namespace Width

/-- The 64-bit signed word of a whole number. -/
def toInt64? (i : Int) : Option Int64 :=
  if h : Int64.minValue.toInt ≤ i ∧ i ≤ Int64.maxValue.toInt then some (.ofIntLE i h.1 h.2)
  else none

/-- The 64-bit unsigned word of a whole number. -/
def toUInt64? (i : Int) : Option UInt64 :=
  if h : 0 ≤ i ∧ i < UInt64.size then some (.ofNatLT i.toNat (by omega)) else none

/-- The 32-bit unsigned word of a whole number. -/
def toUInt32? (i : Int) : Option UInt32 :=
  if h : 0 ≤ i ∧ i < UInt32.size then some (.ofNatLT i.toNat (by omega)) else none

/-- What is said of a whole number that is too large to fit. -/
def tooLarge : String := "number too large to fit in target type"

/-- A word that fits is the number itself. -/
theorem toNat_of_toUInt32? {i : Int} {w : UInt32} (h : toUInt32? i = some w) :
    (w.toNat : Int) = i := by
  unfold toUInt32? at h
  split at h
  · next hi =>
    obtain rfl := Option.some.inj h
    rw [UInt32.toNat_ofNatLT]
    exact Int.toNat_of_nonneg hi.1
  · simp at h

/-- A whole number gives no 32-bit word iff it is negative or too large. -/
theorem toUInt32?_eq_none_iff {i : Int} :
    toUInt32? i = none ↔ ¬ (0 ≤ i ∧ i < UInt32.size) := by
  unfold toUInt32?
  split
  · next h => exact iff_of_false (fun hnone => nomatch hnone) fun hno => hno h
  · next h => exact iff_of_true rfl h

/-- A whole number that fits gives the 32-bit word of the same value. -/
theorem exists_toUInt32? {i : Int} (h : 0 ≤ i ∧ i < UInt32.size) :
    ∃ w, toUInt32? i = some w ∧ (w.toNat : Int) = i := by
  cases hw : toUInt32? i with
  | none => exact absurd h (toUInt32?_eq_none_iff.mp hw)
  | some w => exact ⟨w, rfl, toNat_of_toUInt32? hw⟩

/-- A 64-bit signed word is the word of its value. -/
theorem toInt64?_toInt (w : Int64) : toInt64? w.toInt = some w := by
  have hfits : Int64.minValue.toInt ≤ w.toInt ∧ w.toInt ≤ Int64.maxValue.toInt :=
    ⟨Int64.le_iff_toInt_le.mp (Int64.minValue_le w), Int64.le_iff_toInt_le.mp (Int64.le_maxValue w)⟩
  unfold toInt64?
  rw [dif_pos hfits]
  exact congrArg some (Int64.ofIntLE_toInt w)

/-- A 64-bit word is the word of its number. -/
theorem toUInt64?_toNat (w : UInt64) : toUInt64? w.toNat = some w := by
  have hfits : 0 ≤ (w.toNat : Int) ∧ (w.toNat : Int) < UInt64.size :=
    ⟨Int.natCast_nonneg _, Int.ofNat_lt.mpr w.toNat_lt_size⟩
  unfold toUInt64?
  rw [dif_pos hfits]
  exact congrArg some (UInt64.toNat_inj.mp (by rw [UInt64.toNat_ofNatLT, Int.toNat_natCast]))

/-- A 32-bit word is the word of its number. -/
theorem toUInt32?_toNat (w : UInt32) : toUInt32? w.toNat = some w := by
  have hfits : 0 ≤ (w.toNat : Int) ∧ (w.toNat : Int) < UInt32.size :=
    ⟨Int.natCast_nonneg _, Int.ofNat_lt.mpr w.toNat_lt_size⟩
  unfold toUInt32?
  rw [dif_pos hfits]
  exact congrArg some (UInt32.toNat_inj.mp (by rw [UInt32.toNat_ofNatLT, Int.toNat_natCast]))

/-- A count that gives no 32-bit word is too large. -/
theorem le_of_toUInt32?_eq_none {n : Nat} (h : toUInt32? n = none) : UInt32.size ≤ n := by
  rcases Nat.lt_or_ge n UInt32.size with hlt | hle
  · exact absurd ⟨Int.natCast_nonneg n, Int.ofNat_lt.mpr hlt⟩ (toUInt32?_eq_none_iff.mp h)
  · exact hle

end Width

end CatalogSearch
