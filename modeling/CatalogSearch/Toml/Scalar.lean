import CatalogSearch.Calendar.Date
import CatalogSearch.Decimal.Reader
import CatalogSearch.Json.Reader
import CatalogSearch.Toml.Value

/-!
# Numbers, truth values and dates of TOML

- `separated`: underscores stand between digits.
- `wholeIn`: a whole number of base ten, sixteen, eight or two; it has a value within 128 bits.
- `double?`: a double; it has a value unless it is too large for one.
- `number?`: a number of either kind.
- `isDateTime`: a date, a time, or both with an optional offset.
- `scalar?`: the value of a run of characters that is one of these.
-/

namespace CatalogSearch

namespace Toml

/-- A digit of a base up to sixteen. -/
def isDigitIn (base : Nat) (c : Char) : Bool :=
  (Json.hexValue? c).any (· < base)

/-- Every underscore has a digit on either side; `before` says that a digit stands in front. -/
def separated (isDigit : Char → Bool) (before : Bool) : List Char → Bool
  | [] => true
  | c :: cs =>
    if c = '_' then before && cs.head?.any isDigit && separated isDigit false cs
    else separated isDigit (isDigit c) cs

/-- The characters without underscores. -/
def joined (cs : List Char) : List Char :=
  cs.filter (· ≠ '_')

/-- The number that digits of a base spell. -/
def valueIn (base : Nat) (ds : List Char) : Nat :=
  ds.foldl (fun n c => base * n + (Json.hexValue? c).getD 0) 0

/-! ## Whole numbers -/

/-- The whole number that digits of a base spell. It has no value if there are none, if they are
something else, or if it does not fit in 128 bits, signed or unsigned. -/
def wholeIn (base : Nat) (negative : Bool) (ds : List Char) : Value :=
  let i : Int := if negative then -valueIn base ds else valueIn base ds
  if ds ≠ [] ∧ ds.all (isDigitIn base) ∧ -Int.pow 2 127 ≤ i ∧ i < Int.pow 2 128 then
    .plain (.int i)
  else .unreadable

/-- A whole number of a base after its mark. -/
def based? (base : Nat) (cs : List Char) : Option Value :=
  if separated (isDigitIn base) false cs && (joined cs).all (isDigitIn base) then
    some (wholeIn base false (joined cs))
  else none

/-- Characters that begin like a whole number of base ten: they are digits, or the first that is
none is an underscore. What follows that is looked at only for the value. -/
def beginsWhole (body : List Char) : Bool :=
  match body.dropWhile Char.isDigit with
  | [] => !body.isEmpty
  | c :: rest => c = '_' && !rest.contains ' '

/-! ## Doubles -/

/-- The power of ten after the mantissa: nothing, or `e` with a signed number. -/
def exponent? : List Char → Option Int
  | [] => some 0
  | e :: cs =>
    let (negative, ds) := match cs with
      | '-' :: ds => (true, ds)
      | '+' :: ds => (false, ds)
      | ds => (false, ds)
    if (e = 'e' ∨ e = 'E') ∧ ds ≠ [] ∧ ds.all Char.isDigit then
      some (if negative then -(valueIn 10 ds : Int) else valueIn 10 ds)
    else none

/-- The digits after the point, and what follows them; there is at least one. -/
def places? : List Char → Option (List Char × List Char)
  | '.' :: cs =>
    if cs.head?.any Char.isDigit then some (cs.takeWhile Char.isDigit, cs.dropWhile Char.isDigit)
    else none
  | cs => some ([], cs)

/-- A double in digits: a whole part, then a fraction, an exponent or both. -/
def double? (negative : Bool) (cs : List Char) : Option Value := do
  let whole := cs.takeWhile Char.isDigit
  if whole.isEmpty then none
  let (places, rest) ← places? (cs.dropWhile Char.isDigit)
  let x := Decimal.scaled (valueIn 10 (whole ++ places)) ((← exponent? rest) - places.length)
  return if x.isInf then .unreadable else .plain (.float (if negative then -x else x))

/-! ## Numbers of base ten -/

/-- A zero stands in front of more digits. -/
def hasLeadingZero : List Char → Bool
  | '0' :: c :: _ => c.isDigit || c = '_'
  | _ => false

/-- A character that only a double has. -/
def isDoubleMark (c : Char) : Bool :=
  c = '.' || c = 'e' || c = 'E'

/-- The number in base ten after its sign. -/
def unsigned? (negative : Bool) (body : List Char) : Option Value :=
  if body = "inf".toList then some (.plain (.float (if negative then -1 / 0 else 1 / 0)))
  else if body = "nan".toList then some (.plain (.float (0 / 0)))
  else if hasLeadingZero body then none
  else if (body.dropWhile Char.isDigit).any isDoubleMark then
    if separated Char.isDigit false body then double? negative (joined body) else none
  else if beginsWhole body && separated (isDigitIn 16) false body then
    some (wholeIn 10 negative (joined body))
  else none

/-- A number. A mark of its base goes without a sign. -/
def number? : List Char → Option Value
  | '0' :: 'x' :: cs => based? 16 cs
  | '0' :: 'o' :: cs => based? 8 cs
  | '0' :: 'b' :: cs => based? 2 cs
  | '+' :: cs => unsigned? false cs
  | '-' :: cs => unsigned? true cs
  | cs => unsigned? false cs

/-! ## Dates and times -/

/-- The number of exactly `count` digits at the start, and what follows. -/
def fixed? (count : Nat) (cs : List Char) : Option (Nat × List Char) :=
  let ds := cs.take count
  if ds.length = count && ds.all Char.isDigit then some (valueIn 10 ds, cs.drop count) else none

/-- What follows one character at the start. -/
def expect? (c : Char) : List Char → Option (List Char)
  | d :: cs => if d = c then some cs else none
  | [] => none

/-- What follows a date of the calendar. -/
def date? (cs : List Char) : Option (List Char) := do
  let (year, cs) ← fixed? 4 cs
  let (month, cs) ← fixed? 2 (← expect? '-' cs)
  let (day, cs) ← fixed? 2 (← expect? '-' cs)
  if (Date.mk year month day).IsValid then some cs else none

/-- What follows a fraction of a second, if there is one. -/
def fraction? : List Char → Option (List Char)
  | '.' :: cs => if cs.head?.any Char.isDigit then some (cs.dropWhile Char.isDigit) else none
  | cs => some cs

/-- What follows a time of day; its seconds may be missing. -/
def time? (cs : List Char) : Option (List Char) := do
  let (hour, cs) ← fixed? 2 cs
  let (minute, cs) ← fixed? 2 (← expect? ':' cs)
  if 24 ≤ hour || 60 ≤ minute then none
  match cs with
  | ':' :: cs =>
    let (second, cs) ← fixed? 2 cs
    if 60 < second then none
    fraction? cs
  | cs => some cs

/-- An offset from UTC makes up the characters, or there are none. -/
def isOffset : List Char → Bool
  | [] | ['Z'] | ['z'] => true
  | sign :: cs =>
    (sign = '+' || sign = '-') &&
      (do
        let (hour, cs) ← fixed? 2 cs
        let (minute, cs) ← fixed? 2 (← expect? ':' cs)
        if 24 ≤ hour || 60 ≤ minute then none else some cs) == some []

/-- A date, a time of day, or a date with a time and an optional offset. -/
def isDateTime (cs : List Char) : Bool :=
  match date? cs with
  | some [] => true
  | some (mark :: rest) => (mark = 'T' || mark = 't' || mark = ' ') && (time? rest).any isOffset
  | none => time? cs == some []

/-- A date as a value: an object that holds its text. -/
def ofDateTime (cs : List Char) : Value :=
  .plain (.obj [("datetime", .str (String.ofList cs))])

/-- The value of a run of characters without quotes. -/
def scalar? (cs : List Char) : Option Value :=
  if cs = "true".toList then some (.plain (.bool true))
  else if cs = "false".toList then some (.plain (.bool false))
  else if isDateTime cs then some (ofDateTime cs)
  else number? cs

end Toml

end CatalogSearch
