import CatalogSearch.Text.Pattern

/-!
# Texts with escapes

A writer puts a backslash before some characters, itself among them. So the text can be read
back: from left to right, a backslash makes the next character plain.

- `Text.readEscapes`: the characters of an escaped text, each with whether it is escaped.
- `Text.readEscapes_flatMap`: what is read of any text that was written like that.
- `Text.Spells`, `Text.SpellsBare`: what a quoted text and a bare pattern stand for.
- `Text.escapeChars_eq_passes`: quotes and backslashes may be escaped in two passes.
- `Text.escape_spells`, `Text.bare_spells`: they stand for what was written.
- `Text.isQuoted_term_iff`, `Text.term_injective`: phrases and bare patterns can be told apart, so a
  pattern can be told from its written form.
-/

namespace CatalogSearch

namespace Text

/-! ## Reading -/

/-- The characters of an escaped text, each with whether a backslash escapes it. A backslash at the
very end escapes nothing, and is not escaped. -/
def readEscapes : List Char → List (Char × Bool)
  | [] => []
  | '\\' :: c :: cs => (c, true) :: readEscapes cs
  | c :: cs => (c, false) :: readEscapes cs

theorem readEscapes_escape (c : Char) (cs : List Char) :
    readEscapes ('\\' :: c :: cs) = (c, true) :: readEscapes cs := by
  rw [readEscapes]

theorem readEscapes_plain {c : Char} (h : c ≠ '\\') (cs : List Char) :
    readEscapes (c :: cs) = (c, false) :: readEscapes cs := by
  rw [readEscapes]
  intro d ds hc _
  exact h hc

/-- The characters are those that are left when every escaping backslash is dropped. -/
theorem map_readEscapes (cs : List Char) : (readEscapes cs).map (·.1) = unescape cs := by
  fun_induction unescape cs with
  | case1 => rfl
  | case2 => rfl
  | case3 c cs ih => rw [readEscapes_escape, List.map_cons, ih]
  | case4 c cs _ hne ih =>
    rw [readEscapes, List.map_cons, ih]
    exact hne

/-- Of a text whose characters were escaped by a rule, exactly these are read as escaped, provided
that the rule covers the backslash. -/
theorem readEscapes_flatMap {p : Char → Prop} [DecidablePred p] (hslash : p '\\')
    (cs : List Char) :
    readEscapes (cs.flatMap fun c => if p c then ['\\', c] else [c]) =
      cs.map fun c => (c, decide (p c)) := by
  induction cs with
  | nil => rfl
  | cons c cs ih =>
    rw [List.flatMap_cons, List.map_cons]
    by_cases h : p c
    · rw [if_pos h, List.cons_append, List.singleton_append, readEscapes_escape, ih]
      simp [h]
    · have hne : c ≠ '\\' := fun heq => h (heq ▸ hslash)
      rw [if_neg h, List.singleton_append, readEscapes_plain hne, ih]
      simp [h]

/-- Without backslashes nothing is escaped. -/
theorem readEscapes_of_notMem {cs : List Char} (h : '\\' ∉ cs) :
    readEscapes cs = cs.map fun c => (c, false) := by
  induction cs with
  | nil => rfl
  | cons c cs ih =>
    obtain ⟨hc, hcs⟩ := not_or.mp (mt List.mem_cons.mpr h)
    rw [readEscapes_plain (Ne.symm hc), ih hcs, List.map_cons]

/-! ## Quoted texts -/

/-- Between quotes the text neither ends early nor runs on: every quote in it is escaped, and so is
every backslash that does not escape. -/
def IsEnclosed (body : String) : Prop :=
  ∀ r ∈ readEscapes body.toList, r.1 = '"' ∨ r.1 = '\\' → r.2 = true

/-- Between quotes the one text stands for the other. -/
structure Spells (body text : String) : Prop where
  enclosed : IsEnclosed body
  reading : unescape body.toList = text.toList

/-- The text stands between quotes. -/
def IsQuoted (s : String) : Prop :=
  ∃ body, s = "\"" ++ body ++ "\"" ∧ IsEnclosed body

/-- The characters with a backslash before every one that is the given one. -/
def escapeOnly (escaped : Char) (cs : List Char) : List Char :=
  cs.flatMap fun c => if c = escaped then ['\\', c] else [c]

/-- Escaping at once is what two passes do, the backslashes first and the quotes then. The other way
round the backslashes before the quotes would be escaped, too. -/
theorem escapeChars_eq_passes (cs : List Char) :
    escapeChars cs = escapeOnly '"' (escapeOnly '\\' cs) := by
  have hchar : ∀ c, escapeChar c = escapeOnly '"' (if c = '\\' then ['\\', c] else [c]) := by
    intro c
    unfold escapeChar
    by_cases hslash : c = '\\'
    · subst hslash
      rfl
    · by_cases hquote : c = '"' <;> simp [escapeOnly, hslash, hquote]
  simp only [escapeOnly, List.flatMap_assoc, escapeChars] at hchar ⊢
  rw [funext hchar]

theorem readEscapes_escapeChars (cs : List Char) :
    readEscapes (escapeChars cs) = cs.map fun c => (c, decide (c = '\\' ∨ c = '"')) :=
  readEscapes_flatMap (p := fun c => c = '\\' ∨ c = '"') (.inl rfl) cs

/-- A text stands between quotes for what was escaped. -/
theorem escape_spells (s : String) : Spells (escape s) s := by
  constructor
  · intro r hr hquote
    rw [escape, String.toList_ofList, readEscapes_escapeChars] at hr
    obtain ⟨c, -, rfl⟩ := List.mem_map.mp hr
    exact decide_eq_true hquote.symm
  · rw [escape, String.toList_ofList, unescape_escape]

theorem isQuoted_quote (s : String) : IsQuoted (quote s) :=
  ⟨escape s, rfl, (escape_spells s).enclosed⟩

/-- Different texts are quoted differently. -/
theorem quote_injective {s s' : String} (h : quote s = quote s') : s = s' := by
  have htext := congrArg String.toList h
  simp only [quote, String.toList_append] at htext
  have hbody : (escape s).toList = (escape s').toList :=
    List.append_cancel_left (List.append_cancel_right htext)
  apply String.toList_inj.mp
  rw [← (escape_spells s).reading, hbody, (escape_spells s').reading]

/-! ## Bare patterns -/

/-- The characters that stand for other characters. -/
def isWildcard (c : Char) : Bool :=
  c = '*' || c = '?'

/-- The wildcards of an escaped text that no backslash makes plain. -/
def liveWildcards (body : String) : List Char :=
  ((readEscapes body.toList).filter fun r => isWildcard r.1 && !r.2).map (·.1)

/-- The text stands for a pattern without quotes around it: just the reserved characters are
escaped, each of them once, and the wildcards are those of the pattern. -/
structure SpellsBare (body pattern : String) : Prop where
  reading : unescape body.toList = pattern.toList
  escaped : ∀ r ∈ readEscapes body.toList, r.2 = true ↔ r.1 ∈ reserved
  wildcards : liveWildcards body = pattern.toList.filter isWildcard

/-- The text stands without quotes: it is one word, and every reserved character in it is
escaped. -/
structure IsBare (s : String) : Prop where
  word : ∀ c ∈ s.toList, isBlank c = false
  escaped : ∀ r ∈ readEscapes s.toList, r.1 ∈ reserved → r.2 = true

theorem readEscapes_bare (pattern : String) :
    readEscapes (bare pattern).toList =
      pattern.toList.map fun c => (c, decide (c ∈ reserved)) := by
  rw [bare, String.toList_ofList]
  exact readEscapes_flatMap (p := (· ∈ reserved)) (by decide) pattern.toList

theorem isWildcard_notMem_reserved {c : Char} (h : isWildcard c = true) : c ∉ reserved := by
  have hall : reserved.all (fun c => !isWildcard c) = true := by decide
  intro hmem
  simpa [h] using List.all_eq_true.mp hall c hmem

/-- A bare pattern stands for what was written. -/
theorem bare_spells (pattern : String) : SpellsBare (bare pattern) pattern := by
  have hread := readEscapes_bare pattern
  refine ⟨?_, fun r hr => ?_, ?_⟩
  · rw [← map_readEscapes, hread, List.map_map]
    exact List.map_id _
  · rw [hread] at hr
    obtain ⟨c, -, rfl⟩ := List.mem_map.mp hr
    exact decide_eq_true_iff
  · rw [liveWildcards, hread, List.filter_map, List.map_map]
    refine (List.map_id _).trans (List.filter_congr fun c _ => ?_)
    cases hwild : isWildcard c with
    | false => simp [hwild]
    | true => simp [hwild, isWildcard_notMem_reserved hwild]

/-- A pattern without blanks is written as one word. -/
theorem isBare_bare {pattern : String} (h : hasBlank pattern = false) : IsBare (bare pattern) := by
  constructor
  · intro c hc
    rw [bare, String.toList_ofList] at hc
    obtain ⟨d, hd, hc⟩ := List.mem_flatMap.mp hc
    have hblank : isBlank d = false := by
      simpa using List.any_eq_false.mp h d hd
    unfold bareChar at hc
    split at hc
    · rcases List.mem_cons.mp hc with rfl | hc
      · decide
      · rwa [List.mem_singleton.mp hc]
    · rwa [List.mem_singleton.mp hc]
  · exact fun r hr => ((bare_spells pattern).escaped r hr).mpr

/-- No bare pattern starts with a quote. -/
theorem bare_ne_quoted (pattern body : String) : bare pattern ≠ "\"" ++ body := by
  intro heq
  have hread := readEscapes_bare pattern
  have hquote : ("\"" ++ body).toList = '"' :: body.toList := by simp
  rw [heq, hquote, readEscapes_plain (by decide)] at hread
  cases hcs : pattern.toList with
  | nil =>
    rw [hcs] at hread
    cases hread
  | cons c cs =>
    rw [hcs] at hread
    have hfirst := (List.cons.inj hread).1
    have hc : c = '"' := (congrArg Prod.fst hfirst).symm
    have hflag : decide (c ∈ reserved) = false := (congrArg Prod.snd hfirst).symm
    subst hc
    exact absurd hflag (by decide)

/-! ## Patterns -/

/-- A pattern becomes a phrase just if it has a blank. -/
theorem isQuoted_term_iff (pattern : String) :
    IsQuoted (term pattern) ↔ hasBlank pattern = true := by
  unfold term
  cases hblank : hasBlank pattern with
  | true => simp [isQuoted_quote]
  | false =>
    refine iff_of_false ?_ (by decide)
    rintro ⟨body, heq, -⟩
    exact bare_ne_quoted pattern (body ++ "\"") (by simpa [String.append_assoc] using heq)

/-- Different patterns are written differently. -/
theorem term_injective {pattern pattern' : String} (h : term pattern = term pattern') :
    pattern = pattern' := by
  have hquoted : hasBlank pattern = true ↔ hasBlank pattern' = true := by
    rw [← isQuoted_term_iff, ← isQuoted_term_iff, h]
  unfold term at h
  cases hblank : hasBlank pattern with
  | true =>
    rw [hblank, hquoted.mp hblank] at h
    exact quote_injective h
  | false =>
    have hblank' : hasBlank pattern' = false := by
      cases hblank' : hasBlank pattern' with
      | false => rfl
      | true =>
        rw [hquoted.mpr hblank'] at hblank
        cases hblank
    rw [hblank, hblank'] at h
    apply String.toList_inj.mp
    rw [← (bare_spells pattern).reading, ← (bare_spells pattern').reading]
    exact congrArg (fun s : String => unescape s.toList) h

end Text

end CatalogSearch
