import CatalogSearch.Filter.Written
import Mathlib.Data.List.Forall2

/-!
# What an outcome went through

A computation of two parts succeeds only if both do, and fails if one of them does.

- `exists_of_bind_eq_ok`, `bind_eq_error`: for plain results.
- `mapM_eq_ok_iff`, `mapM_eq_error_iff`: for a list of them, which fails with its first failure.
- `bind_run_of_ok`, `bind_run_of_error`, `bind_run_eq_error`: for results beside a state, as in the
  writing of clauses and of documents.
- `ClauseM.exists_of_bind_run`, `ClauseM.bind_run_eq_ok_iff`: for the writing of clauses, with
  what was noted in between.
-/

namespace CatalogSearch

theorem exists_of_bind_eq_ok {ε α β : Type} {first : Except ε α} {next : α → Except ε β} {y : β}
    (h : first.bind next = .ok y) : ∃ x, first = .ok x ∧ next x = .ok y := by
  match first, h with
  | .ok x, h => exact ⟨x, rfl, h⟩

/-- A failure comes from the first part, or from the second part after a first one that
succeeded. -/
theorem bind_eq_error {ε α β : Type} {first : Except ε α} {next : α → Except ε β} {e : ε}
    (h : first.bind next = .error e) :
    first = .error e ∨ ∃ x, first = .ok x ∧ next x = .error e := by
  match first, h with
  | .error _, h => exact .inl (congrArg Except.error (Except.error.inj h))
  | .ok x, h => exact .inr ⟨x, rfl, h⟩

/-! ## Lists of results -/

section Lists

variable {ε α β : Type} {f : α → Except ε β}

theorem mapM_cons_of_error {x : α} {e : ε} (h : f x = .error e) (xs : List α) :
    (x :: xs).mapM f = .error e := by
  rw [List.mapM_cons, h]
  rfl

theorem mapM_cons_of_ok {x : α} {y : β} (h : f x = .ok y) (xs : List α) :
    (x :: xs).mapM f = (xs.mapM f).map (y :: ·) := by
  rw [List.mapM_cons, h]
  cases xs.mapM f <;> rfl

/-- All results of a list are there iff each of them is. -/
theorem mapM_eq_ok_iff {xs : List α} {ys : List β} :
    xs.mapM f = .ok ys ↔ List.Forall₂ (fun x y => f x = .ok y) xs ys := by
  induction xs generalizing ys with
  | nil =>
    rw [List.forall₂_nil_left_iff]
    exact ⟨fun h => (Except.ok.inj h).symm, fun h => h ▸ rfl⟩
  | cons x xs ih =>
    rw [List.forall₂_cons_left_iff]
    cases hx : f x with
    | error e =>
      rw [mapM_cons_of_error hx]
      exact iff_of_false nofun fun ⟨_, _, h, _⟩ => nomatch h
    | ok y =>
      rw [mapM_cons_of_ok hx]
      constructor
      · intro h
        cases hxs : xs.mapM f with
        | error e =>
          rw [hxs] at h
          cases h
        | ok rest =>
          rw [hxs] at h
          exact ⟨y, rest, rfl, ih.mp hxs, (Except.ok.inj h).symm⟩
      · rintro ⟨_, rest, h, hrest, rfl⟩
        obtain rfl := Except.ok.inj h
        rw [ih.mpr hrest]
        rfl

/-- The first failure of a list is its failure. -/
theorem mapM_eq_error_iff {xs : List α} {e : ε} :
    xs.mapM f = .error e ↔ ∃ before x after, xs = before ++ x :: after ∧
      (∀ y ∈ before, ∃ z, f y = .ok z) ∧ f x = .error e := by
  induction xs with
  | nil => exact iff_of_false nofun fun ⟨before, _, _, h, _⟩ => by cases before <;> cases h
  | cons first xs ih =>
    cases hfirst : f first with
    | error e' =>
      rw [mapM_cons_of_error hfirst]
      constructor
      · intro h
        cases h
        exact ⟨[], first, xs, rfl, nofun, hfirst⟩
      · rintro ⟨_ | ⟨_, before⟩, x, after, hsplit, hbefore, hx⟩
        · cases hsplit
          exact congrArg Except.error (Except.error.inj (hfirst.symm.trans hx))
        · cases hsplit
          obtain ⟨z, hz⟩ := hbefore first List.mem_cons_self
          cases hfirst.symm.trans hz
    | ok y =>
      have hrest : (first :: xs).mapM f = .error e ↔ xs.mapM f = .error e := by
        rw [mapM_cons_of_ok hfirst]
        cases xs.mapM f <;> simp [Except.map]
      rw [hrest, ih]
      constructor
      · rintro ⟨before, x, after, rfl, hbefore, hx⟩
        exact ⟨first :: before, x, after, rfl, List.forall_mem_cons.mpr ⟨⟨y, hfirst⟩, hbefore⟩, hx⟩
      · rintro ⟨_ | ⟨_, before⟩, x, after, hsplit, hbefore, hx⟩
        · cases hsplit
          cases hfirst.symm.trans hx
        · cases hsplit
          exact ⟨before, x, after, rfl, (List.forall_mem_cons.mp hbefore).2, hx⟩

end Lists

/-! ## Results beside a state -/

/-- After a first part that succeeds, the second part goes on with what it left. -/
theorem bind_run_of_ok {ε σ α β : Type} {first : ExceptT ε (StateM σ) α}
    {next : α → ExceptT ε (StateM σ) β} {x : α} {before between : σ}
    (h : first.run before = (.ok x, between)) :
    (first >>= next).run before = (next x).run between := by
  have hbind : (first >>= next).run before =
      ExceptT.bindCont next (first.run before).1 (first.run before).2 := rfl
  rw [hbind, h]
  rfl

/-- After a first part that fails, nothing more is done. -/
theorem bind_run_of_error {ε σ α β : Type} {first : ExceptT ε (StateM σ) α}
    {next : α → ExceptT ε (StateM σ) β} {e : ε} {before between : σ}
    (h : first.run before = (.error e, between)) :
    (first >>= next).run before = (.error e, between) := by
  have hbind : (first >>= next).run before =
      ExceptT.bindCont next (first.run before).1 (first.run before).2 := rfl
  rw [hbind, h]
  rfl

theorem bind_run_eq_error {ε σ α β : Type} {first : ExceptT ε (StateM σ) α}
    {next : α → ExceptT ε (StateM σ) β} {e : ε} {before after : σ}
    (h : (first >>= next).run before = (.error e, after)) :
    first.run before = (.error e, after) ∨
      ∃ x between, first.run before = (.ok x, between) ∧
        (next x).run between = (.error e, after) := by
  match hfirst : first.run before with
  | (.error e', between) =>
    rw [bind_run_of_error hfirst] at h
    cases h
    exact .inl rfl
  | (.ok x, between) =>
    rw [bind_run_of_ok hfirst] at h
    exact .inr ⟨x, between, rfl, h⟩

theorem ClauseM.exists_of_bind_run {α β : Type} {first : ClauseM α} {next : α → ClauseM β}
    {y : β} {found after : Findings} (h : (first >>= next).run found = (.ok y, after)) :
    ∃ x between, first.run found = (.ok x, between) ∧ (next x).run between = (.ok y, after) := by
  have hbind : (first >>= next).run found =
      ExceptT.bindCont next (first.run found).1 (first.run found).2 := rfl
  rw [hbind] at h
  match hfirst : first.run found, h with
  | (.ok x, between), h => exact ⟨x, between, rfl, h⟩

/-- Writing succeeds exactly if its first part does and its second part does after it. -/
theorem ClauseM.bind_run_eq_ok_iff {α β : Type} {first : ClauseM α} {next : α → ClauseM β}
    {y : β} {found after : Findings} :
    (first >>= next).run found = (.ok y, after) ↔
      ∃ x between, first.run found = (.ok x, between) ∧
        (next x).run between = (.ok y, after) := by
  refine ⟨exists_of_bind_run, ?_⟩
  rintro ⟨x, between, hfirst, hnext⟩
  rw [bind_run_of_ok hfirst]
  exact hnext

end CatalogSearch
