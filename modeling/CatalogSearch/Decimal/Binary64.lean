/-!
# Binary floating point numbers as exact values

A double is not a number, an infinity, or a sign with the exact magnitude `mantissa · 2 ^ exponent`.

- `Binary64`: the three cases.
- `Binary64.ofFloat`: the case of a double, read from its bits.
-/

namespace CatalogSearch

/-- What a double stands for. -/
inductive Binary64 where
  /-- Not a number. -/
  | notANumber
  /-- An infinity with its sign. -/
  | infinite (negative : Bool)
  /-- The value `mantissa · 2 ^ exponent` with its sign; zero has a sign too. -/
  | finite (negative : Bool) (mantissa : Nat) (exponent : Int)
  deriving DecidableEq

namespace Binary64

/-- The mantissa of the least normal double; normal mantissas lie from it to its double. -/
def leastNormal : Nat := Nat.pow 2 52

/-- The exponent of the smallest doubles. -/
def leastExponent : Int := -1074

/-- Reads sign, exponent and fraction from the 64 bits. -/
def ofBits (bits : Nat) : Binary64 :=
  let negative := decide (bits / Nat.pow 2 63 % 2 = 1)
  let biased : Nat := bits / leastNormal % Nat.pow 2 11
  let fraction := bits % leastNormal
  if biased = Nat.pow 2 11 - 1 then
    if fraction = 0 then infinite negative else notANumber
  else if biased = 0 then finite negative fraction leastExponent
  else finite negative (leastNormal + fraction) (leastExponent + (biased : Int) - 1)

/-- The exact value of a double. -/
def ofFloat (x : Float) : Binary64 :=
  ofBits x.toBits.toNat

end Binary64

end CatalogSearch
