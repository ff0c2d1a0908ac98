/-!
# Quoted text

Inside double quotes a backslash makes the next character plain, so a quote and a backslash of
the text itself are each written with one backslash in front.

- `escape`: the text between the quotes.
- `quote`: the same with its two quotes.
- `unescape`: the reading, which drops every escaping backslash; `unescape_escape` says that it
  gives the text back.
-/

namespace CatalogSearch

namespace Text

/-- A character of a quoted text as it stands between the quotes. -/
def escapeChar (c : Char) : List Char :=
  if c = '\\' ∨ c = '"' then ['\\', c] else [c]

/-- The characters of a text as they stand between quotes. -/
def escapeChars (cs : List Char) : List Char :=
  cs.flatMap escapeChar

/-- The text as it stands between quotes (`escape_quoted`). -/
def escape (s : String) : String :=
  String.ofList (escapeChars s.toList)

/-- The text with its quotes. -/
def quote (s : String) : String :=
  "\"" ++ escape s ++ "\""

/-- Drops every escaping backslash; a backslash at the very end stands for itself. -/
def unescape : List Char → List Char
  | [] => []
  | ['\\'] => ['\\']
  | '\\' :: c :: cs => c :: unescape cs
  | c :: cs => c :: unescape cs

/-- Reading a quoted text gives the text that was written. -/
theorem unescape_escape (cs : List Char) : unescape (escapeChars cs) = cs := by
  induction cs with
  | nil => rfl
  | cons c cs ih =>
    simp only [escapeChars, List.flatMap_cons] at ih ⊢
    by_cases h : c = '\\' ∨ c = '"'
    · rcases h with rfl | rfl <;> simp [escapeChar, unescape, ih]
    · simp only [escapeChar, h, if_false, List.singleton_append]
      rw [unescape, ih]
      all_goals intros; simp_all

end Text

end CatalogSearch
