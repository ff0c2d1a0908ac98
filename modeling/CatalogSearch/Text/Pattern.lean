import CatalogSearch.Text.Blank
import CatalogSearch.Text.Quoted

/-!
# Search patterns

A pattern is the operand of a text test. Its wildcards `*` and `?` stay live, every other
character with a meaning in the query language is escaped, and a pattern of several words becomes
a phrase.

- `reserved`: the characters that a bare pattern escapes.
- `bare`: a pattern of one word.
- `term`: a bare pattern, or a quoted phrase when the pattern holds a blank.
-/

namespace CatalogSearch

namespace Text

/-- The characters of the query language that a bare pattern escapes; `*` and `?` are not among
them. -/
def reserved : List Char :=
  ['\\', '+', '-', '!', '(', ')', ':', '^', '[', ']', '"', '{', '}', '~', '|', '&', '/']

/-- A character of a bare pattern, escaped when it is reserved. -/
def bareChar (c : Char) : List Char :=
  if c ∈ reserved then ['\\', c] else [c]

/-- A pattern of one word, with every reserved character escaped. -/
def bare (pattern : String) : String :=
  String.ofList (pattern.toList.flatMap bareChar)

/-- A pattern as it stands in a clause: a phrase if it holds a blank, bare otherwise
(`text_term`). -/
def term (pattern : String) : String :=
  if hasBlank pattern then quote pattern else bare pattern

end Text

end CatalogSearch
