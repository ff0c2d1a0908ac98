/-!
# Reading numbers

- `digitsValue`: the natural number that decimal digits spell.
- `scaled`: the double nearest to `digits · 10 ^ exponent`.
- `number?`: a double in the free written form of numeric fields: a sign, then a word for infinity
  or not-a-number in any case, or digits with an optional point and exponent.
-/

namespace CatalogSearch

namespace Decimal

/-- The digit a character stands for. -/
def digitValue (c : Char) : Nat :=
  c.toNat - '0'.toNat

/-- The natural number that decimal digits spell. -/
def digitsValue (cs : List Char) : Nat :=
  cs.foldl (fun n c => 10 * n + digitValue c) 0

/-- The double nearest to `digits · 10 ^ exponent`: infinity beyond the largest, zero below the
smallest. -/
def scaled (digits : Nat) (exponent : Int) : Float :=
  let top := ((Nat.toDigits 10 digits).length : Int) + exponent
  if digits = 0 then 0
  else if 400 < top then 1 / 0
  else if top < -400 then 0
  else Float.ofScientific digits (exponent < 0) exponent.natAbs

/-- The power of ten after the mantissa: nothing, or `e` with a signed number. -/
def exponentPart? : List Char → Option Int
  | [] => some 0
  | e :: cs =>
    let (negative, ds) := match cs with
      | '-' :: ds => (true, ds)
      | '+' :: ds => (false, ds)
      | ds => (false, ds)
    if (e = 'e' ∨ e = 'E') ∧ ds ≠ [] ∧ ds.all Char.isDigit then
      some (if negative then -digitsValue ds else digitsValue ds)
    else none

/-- Digits with at most one point and at least one digit, then an optional exponent. -/
def unsigned? (cs : List Char) : Option Float :=
  let whole := cs.takeWhile Char.isDigit
  let rest := cs.dropWhile Char.isDigit
  let (fraction, rest) := match rest with
    | '.' :: more => (more.takeWhile Char.isDigit, more.dropWhile Char.isDigit)
    | _ => ([], rest)
  if whole.isEmpty && fraction.isEmpty then none
  else (exponentPart? rest).map fun exponent =>
    scaled (digitsValue (whole ++ fraction)) (exponent - fraction.length)

/-- A double without its sign: one of the words, or digits. -/
def magnitude? (cs : List Char) : Option Float :=
  let word := cs.map Char.toLower
  if word = "inf".toList ∨ word = "infinity".toList then some (1 / 0)
  else if word = "nan".toList then some (0 / 0)
  else unsigned? cs

/-- The double that a text spells in full, without blanks around it. -/
def number? (s : String) : Option Float :=
  match s.toList with
  | '-' :: cs => (magnitude? cs).map (- ·)
  | '+' :: cs => magnitude? cs
  | cs => magnitude? cs

end Decimal

end CatalogSearch
