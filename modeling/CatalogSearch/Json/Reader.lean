import CatalogSearch.Json.Basic
import CatalogSearch.Decimal.Reader
import CatalogSearch.KeyMap

/-!
# Reading JSON text

- `Json.number?`: a number; without point and exponent, and within 64 bits, it is whole.
- `Json.string?`: the rest of a string after its opening quote, with its escapes resolved.
- `Json.value?`: one value and what follows it, within a bound on the number of steps.
- `Json.parse?`: a text that is one value; of two members with one name the later is kept.
-/

namespace CatalogSearch

namespace Json

/-- The blanks that may stand between tokens. -/
def isSpace (c : Char) : Bool :=
  c = ' ' || c = '\n' || c = '\r' || c = '\t'

/-- What follows the blanks. -/
def skipSpace (cs : List Char) : List Char :=
  cs.dropWhile isSpace

/-! ## Numbers -/

/-- The characters a number is made of. -/
def isNumberChar (c : Char) : Bool :=
  c.isDigit || c = '-' || c = '+' || c = '.' || c = 'e' || c = 'E'

/-- The digits of a number are not empty, and a zero leads none but itself. -/
def wholePart (ds : List Char) : Bool :=
  !ds.isEmpty && (ds.head? != some '0' || ds.length = 1)

/-- A whole number keeps its exact value while it fits in 64 bits, signed or unsigned; minus zero
and all others become doubles. -/
def ofWhole (negative : Bool) (n : Nat) : Json :=
  if negative then
    if n = 0 ∨ Nat.pow 2 63 < n then float (-Decimal.scaled n 0) else int (-n)
  else if n < Nat.pow 2 64 then int n else float (Decimal.scaled n 0)

/-- The number that the characters spell. -/
def number? (cs : List Char) : Option Json :=
  let (negative, body) := match cs with
    | '-' :: rest => (true, rest)
    | rest => (false, rest)
  let whole := body.takeWhile Char.isDigit
  match body.dropWhile Char.isDigit with
  | [] => if wholePart whole then some (ofWhole negative (Decimal.digitsValue whole)) else none
  | '.' :: rest =>
    if wholePart whole && (rest.head?.any Char.isDigit) then
      (Decimal.unsigned? body).map fun x => float (if negative then -x else x)
    else none
  | _ =>
    if wholePart whole then
      (Decimal.unsigned? body).map fun x => float (if negative then -x else x)
    else none

/-! ## Strings -/

/-- The value of a digit of base sixteen. -/
def hexValue? (c : Char) : Option Nat :=
  if c.isDigit then some (c.toNat - '0'.toNat)
  else if 'a' ≤ c ∧ c ≤ 'f' then some (c.toNat - 'a'.toNat + 10)
  else if 'A' ≤ c ∧ c ≤ 'F' then some (c.toNat - 'A'.toNat + 10)
  else none

/-- The number that four digits of base sixteen spell. -/
def hex4? (a b c d : Char) : Option Nat := do
  return (((← hexValue? a) * 16 + (← hexValue? b)) * 16 + (← hexValue? c)) * 16 + (← hexValue? d)

/-- The character of a code point that is no surrogate. -/
def scalar? (n : Nat) : Option Char :=
  if n.isValidChar then some (Char.ofNat n) else none

/-- The character that a pair of surrogates stands for. -/
def pair? (high low : Nat) : Option Char :=
  if 0xD800 ≤ high ∧ high < 0xDC00 ∧ 0xDC00 ≤ low ∧ low < 0xE000 then
    scalar? (0x10000 + (high - 0xD800) * 0x400 + (low - 0xDC00))
  else none

/-- The character of an escape with one letter. -/
def letterEscape? : Char → Option Char
  | '"' => some '"'
  | '\\' => some '\\'
  | '/' => some '/'
  | 'b' => some '\x08'
  | 'f' => some '\x0c'
  | 'n' => some '\n'
  | 'r' => some '\r'
  | 't' => some '\t'
  | _ => none

/-- The rest of a string up to its closing quote, and what follows; `done` holds the characters
read so far, the last first. -/
def string? (done : List Char) : List Char → Option (String × List Char)
  | [] => none
  | '"' :: cs => some (String.ofList done.reverse, cs)
  | '\\' :: 'u' :: a :: b :: c :: d :: cs =>
    match hex4? a b c d with
    | none => none
    | some n =>
      match scalar? n, cs with
      | some ch, cs => string? (ch :: done) cs
      | none, '\\' :: 'u' :: a' :: b' :: c' :: d' :: cs =>
        match (hex4? a' b' c' d').bind (pair? n) with
        | some ch => string? (ch :: done) cs
        | none => none
      | none, _ => none
  | '\\' :: e :: cs =>
    match letterEscape? e with
    | some ch => string? (ch :: done) cs
    | none => none
  | c :: cs => if c.toNat < 0x20 then none else string? (c :: done) cs

/-! ## Values -/

mutual

/-- One value at the start of the characters, and what follows it. -/
def value? : Nat → List Char → Option (Json × List Char)
  | 0, _ => none
  | fuel + 1, cs =>
    match skipSpace cs with
    | '"' :: cs => (string? [] cs).map fun (s, rest) => (str s, rest)
    | '[' :: cs =>
      match skipSpace cs with
      | ']' :: rest => some (arr [], rest)
      | cs => (items? fuel cs).map fun (items, rest) => (arr items, rest)
    | '{' :: cs =>
      match skipSpace cs with
      | '}' :: rest => some (obj [], rest)
      | cs => (members? fuel cs).map fun (members, rest) => (obj (KeyMap.ofList members).entries, rest)
    | 't' :: 'r' :: 'u' :: 'e' :: rest => some (bool true, rest)
    | 'f' :: 'a' :: 'l' :: 's' :: 'e' :: rest => some (bool false, rest)
    | 'n' :: 'u' :: 'l' :: 'l' :: rest => some (null, rest)
    | cs =>
      (number? (cs.takeWhile isNumberChar)).map fun n => (n, cs.dropWhile isNumberChar)

/-- The values of a list up to its closing bracket. -/
def items? : Nat → List Char → Option (List Json × List Char)
  | 0, _ => none
  | fuel + 1, cs =>
    match value? fuel cs with
    | none => none
    | some (item, rest) =>
      match skipSpace rest with
      | ']' :: rest => some ([item], rest)
      | ',' :: rest => (items? fuel rest).map fun (items, rest) => (item :: items, rest)
      | _ => none

/-- The members of an object up to its closing brace. -/
def members? : Nat → List Char → Option (List (String × Json) × List Char)
  | 0, _ => none
  | fuel + 1, cs =>
    match skipSpace cs with
    | '"' :: cs =>
      match string? [] cs with
      | none => none
      | some (name, rest) =>
        match skipSpace rest with
        | ':' :: rest =>
          match value? fuel rest with
          | none => none
          | some (value, rest) =>
            match skipSpace rest with
            | '}' :: rest => some ([(name, value)], rest)
            | ',' :: rest =>
              (members? fuel rest).map fun (members, rest) => ((name, value) :: members, rest)
            | _ => none
        | _ => none
    | _ => none

end

/-- The value that a text holds, with nothing but blanks around it. Every step of the reading
passes at least one character, so twice their number bounds the steps. -/
def parse? (s : String) : Option Json :=
  let cs := s.toList
  match value? (2 * cs.length + 1) cs with
  | some (value, rest) => if (skipSpace rest).isEmpty then some value else none
  | none => none

end Json

end CatalogSearch
