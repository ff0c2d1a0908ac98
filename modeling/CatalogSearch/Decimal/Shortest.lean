import CatalogSearch.Decimal.Binary64

/-!
# The shortest decimal that reads back

Every finite double owns the interval of reals that round to it, its ends included when its
mantissa is even. The *shortest* decimal of a double is the one with the fewest digits in that
interval, and among those the nearest to the double.

- `Decimal`: a decimal number `digits · 10 ^ exponent`.
- `Tie`: which of two equally near decimals is taken.
- `shortest`: grids of one digit, of two digits, … are tried in turn; on each grid only the two
  neighbours of the value can be hits, and the first grid with a hit wins.
-/

namespace CatalogSearch

/-- The number `digits · 10 ^ exponent`. -/
structure Decimal where
  /-- The digits as one natural number. -/
  digits : Nat
  /-- The power of ten of the last digit. -/
  exponent : Int
  deriving DecidableEq

/-- The choice between two decimals that are equally near. -/
inductive Tie where
  /-- The larger of the two. -/
  | up
  /-- The one whose last digit is even. -/
  | even
  deriving DecidableEq

namespace Decimal

/-- How many digits a natural number has; zero has one. -/
def digitCount (n : Nat) : Nat :=
  (Nat.toDigits 10 n).length

/-- Moves trailing zeros of the digits into the exponent, as far as `fuel` allows. -/
def stripZeros : Nat → Decimal → Decimal
  | 0, d => d
  | fuel + 1, d =>
    if d.digits ≠ 0 ∧ d.digits % 10 = 0 then stripZeros fuel ⟨d.digits / 10, d.exponent + 1⟩ else d

/-- The rounding interval of a double in one unit of measure, a quarter of its last binary place:
the value with both ends, and whether the ends belong to it. -/
structure Interval where
  low : Nat
  value : Nat
  high : Nat
  /-- The power of two of the unit. -/
  exponent : Int
  /-- The ends round to the value too. -/
  closed : Bool

/-- The interval of `mantissa · 2 ^ exponent`: half a place on each side, but a quarter below a
power of two, where the places below are half as wide. -/
def Interval.ofBinary (mantissa : Nat) (exponent : Int) : Interval where
  low :=
    if mantissa = Binary64.leastNormal ∧ exponent ≠ Binary64.leastExponent then 4 * mantissa - 1
    else 4 * mantissa - 2
  value := 4 * mantissa
  high := 4 * mantissa + 2
  exponent := exponent - 2
  closed := mantissa % 2 = 0

namespace Interval

/-- What a unit of the interval weighs against the grid of `10 ^ place`. -/
def unitWeight (i : Interval) (place : Int) : Nat :=
  Nat.pow 2 i.exponent.toNat * Nat.pow 10 (-place).toNat

/-- What a step of the grid of `10 ^ place` weighs against a unit of the interval. -/
def stepWeight (i : Interval) (place : Int) : Nat :=
  Nat.pow 10 place.toNat * Nat.pow 2 (-i.exponent).toNat

/-- The point `n · 10 ^ place` lies in the interval. -/
def holds (i : Interval) (place : Int) (n : Nat) : Bool :=
  let point := n * i.stepWeight place
  let low := i.low * i.unitWeight place
  let high := i.high * i.unitWeight place
  if i.closed then low ≤ point && point ≤ high else low < point && point < high

/-- The grid point below the value, or on it. -/
def below (i : Interval) (place : Int) : Nat :=
  i.value * i.unitWeight place / i.stepWeight place

/-- Of the two grid points around the value, the one in the interval, or the nearer if both are. -/
def nearest? (i : Interval) (tie : Tie) (place : Int) : Option Nat :=
  let n := i.below place
  match i.holds place n, i.holds place (n + 1) with
  | false, false => none
  | true, false => some n
  | false, true => some (n + 1)
  | true, true =>
    let value := i.value * i.unitWeight place
    let toBelow := value - n * i.stepWeight place
    let toAbove := (n + 1) * i.stepWeight place - value
    if toBelow < toAbove then some n
    else if toAbove < toBelow then some (n + 1)
    else match tie with
      | .up => some (n + 1)
      | .even => some (if n % 2 = 0 then n else n + 1)

/-- The number of digits before the decimal point; zero or less counts the zeros after it. -/
def magnitude (i : Interval) : Int :=
  let above := i.value * i.unitWeight 0
  let one := i.stepWeight 0
  if one ≤ above then digitCount (above / one) else 1 - (digitCount (one / above) : Int)

/-- Tries `count` grids, each ten times finer than the one before, from `10 ^ place` on. -/
def search (i : Interval) (tie : Tie) : Nat → Int → Decimal
  | 0, place => ⟨i.below place, place⟩
  | count + 1, place =>
    match i.nearest? tie place with
    | some n => ⟨n, place⟩
    | none => search i tie count (place - 1)

end Interval

/-- Seventeen digits always suffice for a double. -/
def maxDigits : Nat := 17

/-- The shortest decimal of the positive double `mantissa · 2 ^ exponent`; zero is `0`. -/
def shortest (tie : Tie) (mantissa : Nat) (exponent : Int) : Decimal :=
  if mantissa = 0 then ⟨0, 0⟩
  else
    let i := Interval.ofBinary mantissa exponent
    stripZeros maxDigits (i.search tie maxDigits (i.magnitude - 1))

end Decimal

end CatalogSearch
