import CatalogSearch.Toml.Scalar
import CatalogSearch.Toml.Table
import CatalogSearch.Toml.Text

/-!
# Reading TOML

- `path?`: a path of keys with points between them.
- `scalarRun`: the characters of a scalar.
- `value?`: a string, a list, a table in braces, or a scalar; lists and tables nest to a bound.
- `file?`: the lines of a file.
- `parse?`: the table that a text spells out.
-/

namespace CatalogSearch

namespace Toml

/-! ## Keys -/

/-- A character of a key without quotes. -/
def isKeyChar (c : Char) : Bool :=
  c.isAlphanum || c = '_' || c = '-'

/-- A single key, and what follows it. -/
def key? (cs : List Char) : Option (String × List Char) :=
  match cs with
  | '"' :: _ | '\'' :: _ => string? false cs
  | _ =>
    let word := cs.takeWhile isKeyChar
    if word.isEmpty then none else some (String.ofList word, cs.drop word.length)

/-- Keys with points between them: those before the last, the last, and what follows it. -/
def keys? : Nat → List Char → Option (List String × String × List Char)
  | 0, _ => none
  | fuel + 1, cs =>
    match key? (skipBlank cs) with
    | none => none
    | some (key, rest) =>
      match skipBlank rest with
      | '.' :: rest => (keys? fuel rest).map fun (keys, last, rest) => (key :: keys, last, rest)
      | rest => some ([], key, rest)

/-- How many levels a path of keys may have, and how deep lists and tables in braces may nest. -/
def maxLevels : Nat := 80

/-- A path of keys: those before the last, the last, and what follows it. -/
def path? (cs : List Char) : Option (List String × String × List Char) :=
  match keys? (cs.length + 1) cs with
  | some (keys, last, rest) => if keys.length < maxLevels then some (keys, last, rest) else none
  | none => none

/-! ## Values -/

/-- A character that ends a scalar wherever it stands. -/
def endsScalar (c : Char) : Bool :=
  "=,[]\x7b\x7d#\r\n".toList.contains c

/-- The characters of a scalar. Blanks belong to it if more of it follows them. -/
def scalarRun : List Char → List Char
  | [] => []
  | c :: cs =>
    if endsScalar c then []
    else if isBlank c then
      match skipBlank cs with
      | [] => []
      | d :: _ => if endsScalar d || d = '"' || d = '\'' then [] else c :: scalarRun cs
    else c :: scalarRun cs

/-- The path of a pair in braces with its equals sign, and what follows it. Both sides of the sign
may stand on lines of their own. -/
def pairStart? (cs : List Char) : Option (List String × String × List Char) := do
  let (keys, last, rest) ← path? cs
  return (keys, last, ← skipFiller? false (← expect? '=' (← skipFiller? false rest)))

mutual

/-- A value at the start of the characters, and what follows it; `room` is how deep it may
nest. -/
def value? (room : Nat) : Nat → List Char → Option (Value × List Char)
  | 0, _ => none
  | fuel + 1, cs =>
    match cs, room with
    | '"' :: _, _ | '\'' :: _, _ => (string? true cs).map fun (s, rest) => (.plain (.str s), rest)
    | '[' :: cs, room + 1 =>
      (items? room fuel cs).map fun (items, rest) => (.list items, rest)
    | '{' :: cs, room + 1 =>
      (pairs? room fuel .empty cs).map fun (t, rest) => (t.toValue, rest)
    | '[' :: _, 0 | '{' :: _, 0 => none
    | cs, _ =>
      let run := scalarRun cs
      (scalar? run).map fun v => (v, cs.drop run.length)

/-- The rest of a list up to its closing bracket; a comma may stand before it. -/
def items? (room : Nat) : Nat → List Char → Option (List Value × List Char)
  | 0, _ => none
  | fuel + 1, cs =>
    match skipFiller? false cs with
    | none => none
    | some (']' :: rest) => some ([], rest)
    | some cs =>
      match value? room fuel cs with
      | none => none
      | some (item, rest) =>
        match skipFiller? false rest with
        | some (']' :: rest) => some ([item], rest)
        | some (',' :: rest) =>
          (items? room fuel rest).map fun (items, rest) => (item :: items, rest)
        | _ => none

/-- The rest of a table in braces up to its closing one; a comma may stand before it. -/
def pairs? (room : Nat) : Nat → Table → List Char → Option (Table × List Char)
  | 0, _, _ => none
  | fuel + 1, t, cs =>
    match skipFiller? false cs with
    | none => none
    | some ('}' :: rest) => some (t, rest)
    | some cs =>
      match pairStart? cs with
      | none => none
      | some (keys, last, rest) =>
        match value? room fuel rest with
        | none => none
        | some (v, rest) =>
          match t.put? keys last v, skipFiller? false rest with
          | some t, some ('}' :: rest) => some (t, rest)
          | some t, some (',' :: rest) => pairs? room fuel t rest
          | _, _ => none

end

/-! ## Files -/

/-- A file in progress: its tables, and the path of the last header. -/
structure Progress where
  tables : Table := .empty
  /-- The path of the table that values go to. -/
  current : List String := []

/-- Puts a value into the current table. -/
def Progress.put? (p : Progress) (keys : List String) (last : String) (v : Value) :
    Option Progress :=
  (descend? false (Table.put? keys last v) p.current p.tables).map fun t => { p with tables := t }

/-- The path of a header and what follows its closing brackets. -/
def header? (closing : List Char) (cs : List Char) : Option (List String × String × List Char) :=
  match path? cs with
  | some (keys, last, rest) =>
    if closing.isPrefixOf rest then some (keys, last, rest.drop closing.length) else none
  | none => none

/-- One line that is not blank, and what follows it. -/
def line? (p : Progress) : List Char → Option (Progress × List Char)
  | '[' :: '[' :: cs => do
    let (keys, last, rest) ← header? [']', ']'] cs
    return (⟨← p.tables.append? keys last, keys ++ [last]⟩, ← lineEnd? rest)
  | '[' :: cs => do
    let (keys, last, rest) ← header? [']'] cs
    return (⟨← p.tables.define? keys last, keys ++ [last]⟩, ← lineEnd? rest)
  | cs => do
    let (keys, last, rest) ← path? cs
    let (v, rest) ← value? maxLevels (2 * cs.length + 1) (skipBlank (← expect? '=' rest))
    return (← p.put? keys last v, ← lineEnd? rest)

/-- The lines of a file. -/
def file? : Nat → Progress → List Char → Option Progress
  | 0, _, _ => none
  | fuel + 1, p, cs =>
    match skipFiller? false cs with
    | none => none
    | some [] => some p
    | some cs =>
      match line? p cs with
      | none => none
      | some (p, rest) => file? fuel p rest

/-- A text without the mark of its byte order at the start. -/
def skipMark : List Char → List Char
  | '\ufeff' :: cs => cs
  | cs => cs

/-- The table that a text spells out. Every line passes at least one character. -/
def parse? (s : String) : Option Value :=
  let cs := skipMark s.toList
  (file? (cs.length + 1) {} cs).map fun p => p.tables.toValue

end Toml

end CatalogSearch
