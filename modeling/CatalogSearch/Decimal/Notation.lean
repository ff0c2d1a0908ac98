import CatalogSearch.Decimal.Shortest

/-!
# Written forms of numbers

- `Decimal.plain`: digits with a decimal point where one is needed, and never an exponent.
- `Decimal.json`: the form inside JSON text, with a fraction always and an exponent far from one.
- `Float.plainText`, `Float.jsonText`: these forms of a double.
- `intText`: a whole number.
-/

namespace CatalogSearch

namespace Decimal

/-- `n` zeros. -/
def zeros (n : Nat) : List Char :=
  List.replicate n '0'

/-- The digits of a natural number. -/
def digitChars (n : Nat) : List Char :=
  Nat.toDigits 10 n

/-- The digits with the decimal point after the first `point` of them, for `0 < point < length`. -/
def withPoint (digits : List Char) (point : Nat) : List Char :=
  digits.take point ++ '.' :: digits.drop point

/-- Positional notation without an exponent; a whole number has no decimal point. -/
def plain (d : Decimal) : List Char :=
  let digits := digitChars d.digits
  let point := (digits.length : Int) + d.exponent
  if 0 ≤ d.exponent then digits ++ zeros d.exponent.toNat
  else if 0 < point then withPoint digits point.toNat
  else '0' :: '.' :: zeros (-point).toNat ++ digits

/-- The power of ten after an `e`, with its sign. -/
def exponentChars (e : Int) : List Char :=
  'e' :: (if e < 0 then '-' else '+') :: digitChars e.natAbs

/-- The form inside JSON text: positional with a fraction from `10⁻⁵` up to `10¹⁶`, else one digit
before the point and an exponent. -/
def json (d : Decimal) : List Char :=
  let digits := digitChars d.digits
  let point := (digits.length : Int) + d.exponent
  if 0 ≤ d.exponent ∧ point ≤ 16 then digits ++ zeros d.exponent.toNat ++ ['.', '0']
  else if 0 < point ∧ point ≤ 16 then withPoint digits point.toNat
  else if -5 < point ∧ point ≤ 0 then '0' :: '.' :: zeros (-point).toNat ++ digits
  else (if digits.length = 1 then digits else withPoint digits 1) ++ exponentChars (point - 1)

end Decimal

/-- A double in plain notation: the shortest digits, a tie going up, and the names `NaN` and
`inf`. -/
def Binary64.plainText : Binary64 → String
  | .notANumber => "NaN"
  | .infinite negative => (if negative then "-" else "") ++ "inf"
  | .finite negative mantissa exponent =>
    (if negative then "-" else "") ++
      String.ofList (Decimal.shortest .up mantissa exponent).plain

/-- A double inside JSON text: the shortest digits, a tie going to the even one; JSON has no word
for the others but `null`. -/
def Binary64.jsonText : Binary64 → String
  | .finite negative mantissa exponent =>
    (if negative then "-" else "") ++
      String.ofList (Decimal.shortest .even mantissa exponent).json
  | _ => "null"

/-- A double in plain notation. -/
def plainText (x : Float) : String :=
  (Binary64.ofFloat x).plainText

/-- A whole number: its digits behind a minus sign if it is negative. -/
def intText (i : Int) : String :=
  (if i < 0 then "-" else "") ++ String.ofList (Decimal.digitChars i.natAbs)

end CatalogSearch
