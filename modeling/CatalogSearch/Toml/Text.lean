import CatalogSearch.Json.Reader

/-!
# Blanks, comments and strings of TOML

- `newline?`, `lineEnd?`, `skipFiller?`: what stands between the parts of a file.
- `basicString?`, `literalString?`: strings of one line, with and without escapes.
- `block?`: strings of several lines, with or without escapes.
-/

namespace CatalogSearch

namespace Toml

/-- A character that may stand in comments and in strings: no control character but the tab. -/
def isPlain (c : Char) : Bool :=
  c = '\t' || (0x20 ≤ c.toNat && c.toNat ≠ 0x7F)

/-- A blank within a line. -/
def isBlank (c : Char) : Bool :=
  c = ' ' || c = '\t'

/-- What follows the blanks of a line. -/
def skipBlank (cs : List Char) : List Char :=
  cs.dropWhile isBlank

/-- What follows the end of a line at the start. -/
def newline? : List Char → Option (List Char)
  | '\n' :: cs => some cs
  | '\r' :: '\n' :: cs => some cs
  | _ => none

/-- What follows a comment at the start, if there is one. -/
def skipComment : List Char → List Char
  | '#' :: cs => cs.dropWhile isPlain
  | cs => cs

/-- What follows the rest of a line that holds nothing more but a comment. -/
def lineEnd? (cs : List Char) : Option (List Char) :=
  match skipComment (skipBlank cs) with
  | [] => some []
  | rest => newline? rest

/-- What follows blanks, comments and ends of lines; `comment` says that a comment has begun. -/
def skipFiller? (comment : Bool) : List Char → Option (List Char)
  | [] => some []
  | '\n' :: cs => skipFiller? false cs
  | '\r' :: '\n' :: cs => skipFiller? false cs
  | c :: cs =>
    if comment then (if isPlain c then skipFiller? true cs else none)
    else if isBlank c then skipFiller? false cs
    else if c = '#' then skipFiller? true cs
    else some (c :: cs)

/-! ## Strings of one line -/

/-- The number that digits of base sixteen spell. -/
def hexNumber? (cs : List Char) : Option Nat :=
  cs.foldlM (fun n c => (Json.hexValue? c).map (16 * n + ·)) 0

/-- The character of a code point in `count` digits, and what follows. -/
def codePoint? (count : Nat) (cs : List Char) : Option (Char × List Char) :=
  if cs.length < count then none
  else ((hexNumber? (cs.take count)).bind Json.scalar?).map fun c => (c, cs.drop count)

/-- The character of an escape after its backslash, and what follows. -/
def escape? : List Char → Option (Char × List Char)
  | 'b' :: cs => some ('\x08', cs)
  | 't' :: cs => some ('\t', cs)
  | 'n' :: cs => some ('\n', cs)
  | 'f' :: cs => some ('\x0c', cs)
  | 'r' :: cs => some ('\r', cs)
  | 'e' :: cs => some ('\x1b', cs)
  | '"' :: cs => some ('"', cs)
  | '\\' :: cs => some ('\\', cs)
  | 'x' :: cs => codePoint? 2 cs
  | 'u' :: cs => codePoint? 4 cs
  | 'U' :: cs => codePoint? 8 cs
  | _ => none

/-- The rest of a string with escapes up to its quote; `done` holds what was read, the last
first. -/
def basicString? (done : List Char) : Nat → List Char → Option (String × List Char)
  | 0, _ => none
  | _ + 1, [] => none
  | _ + 1, '"' :: cs => some (String.ofList done.reverse, cs)
  | fuel + 1, '\\' :: cs =>
    match escape? cs with
    | some (c, rest) => basicString? (c :: done) fuel rest
    | none => none
  | fuel + 1, c :: cs => if isPlain c then basicString? (c :: done) fuel cs else none

/-- The rest of a string without escapes up to its apostrophe. -/
def literalString? (cs : List Char) : Option (String × List Char) :=
  let inside := cs.takeWhile fun c => isPlain c && c != '\''
  match cs.drop inside.length with
  | '\'' :: rest => some (String.ofList inside, rest)
  | _ => none

/-! ## Strings of several lines -/

/-- Whether a run of `count` marks closes a block, and how many of them stand before the three
that do; at most two can. -/
def closing? (count : Nat) : Option Nat :=
  if count < 3 then none else some (min (count - 3) 2)

/-- How many marks stand at the start. -/
def runLength (mark : Char) (cs : List Char) : Nat :=
  (cs.takeWhile (· = mark)).length

/-- A block without the end of line right after its opening marks. -/
def skipFirstLine (cs : List Char) : List Char :=
  (newline? cs).getD cs

/-- What follows blanks and ends of lines. -/
def skipLines : List Char → List Char
  | '\r' :: '\n' :: cs => skipLines cs
  | c :: cs => if isBlank c || c = '\n' then skipLines cs else c :: cs
  | [] => []

/-- What follows a backslash at the end of a line: all blanks and ends of lines are left out. -/
def continued? (cs : List Char) : Option (List Char) :=
  (newline? (skipBlank cs)).map skipLines

/-- The rest of a block up to its three closing marks. Escapes are resolved if `escapes` says
so, and the ends of lines stay as they are. -/
def block? (mark : Char) (escapes : Bool) (done : List Char) :
    Nat → List Char → Option (String × List Char)
  | 0, _ => none
  | _ + 1, [] => none
  | fuel + 1, c :: cs =>
    if c = mark then
      let count := runLength mark (c :: cs)
      match closing? count with
      | some inside =>
        some (String.ofList (done.reverse ++ List.replicate inside mark),
          (c :: cs).drop (inside + 3))
      | none => block? mark escapes (List.replicate count mark ++ done) fuel ((c :: cs).drop count)
    else if escapes && c = '\\' then
      match continued? cs with
      | some rest => block? mark escapes done fuel rest
      | none =>
        match escape? cs with
        | some (e, rest) => block? mark escapes (e :: done) fuel rest
        | none => none
    else if isPlain c || (newline? (c :: cs)).isSome then block? mark escapes (c :: done) fuel cs
    else none

/-- A string of either kind at the start, and what follows it. -/
def string? (blocks : Bool) : List Char → Option (String × List Char)
  | '"' :: '"' :: '"' :: cs =>
    if blocks then block? '"' true [] (cs.length + 1) (skipFirstLine cs) else none
  | '\'' :: '\'' :: '\'' :: cs =>
    if blocks then block? '\'' false [] (cs.length + 1) (skipFirstLine cs) else none
  | '"' :: cs => basicString? [] (cs.length + 1) cs
  | '\'' :: cs => literalString? cs
  | _ => none

end Toml

end CatalogSearch
