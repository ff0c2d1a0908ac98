/-!
# Parts of a text

Whether a text ends in, or holds, another one, and the cut at its last underscore.

- `endsIn`, `holds`: tests on the characters.
- `cutLast`: the text before the last occurrence of a character, and the rest from it on.
-/

namespace CatalogSearch

namespace Text

/-- The text ends in `tail`. -/
def endsIn (s tail : String) : Bool :=
  tail.toList.isSuffixOf s.toList

/-- `part` stands somewhere in the list. -/
def holdsChars (part : List Char) : List Char → Bool
  | [] => part.isEmpty
  | c :: cs => part.isPrefixOf (c :: cs) || holdsChars part cs

/-- The text holds `part` as a consecutive piece. -/
def holds (s part : String) : Bool :=
  holdsChars part.toList s.toList

/-- The characters before the last `mark` and those from it on, or nothing without a `mark`. -/
def cutLastChars (mark : Char) : List Char → Option (List Char × List Char)
  | [] => none
  | c :: cs =>
    match cutLastChars mark cs with
    | some (front, back) => some (c :: front, back)
    | none => if c = mark then some ([], c :: cs) else none

/-- The text before the last `mark` and the rest from it on. -/
def cutLast (mark : Char) (s : String) : Option (String × String) :=
  (cutLastChars mark s.toList).map fun (front, back) => (String.ofList front, String.ofList back)

end Text

end CatalogSearch
