import CatalogSearch.Failure
import CatalogSearch.Filter.Basic

/-!
# Readings of filters

A reading answers a filter node by node: every test by itself, and every other node from the
answers of its children, which are all read before it, from left to right.

- `Node`: a node of a filter with answers in the place of its children.
- `Reading`: an answer for every node, with effects.
- `Reading.read`: the answer for a whole filter; a node below level `maxFilterDepth` fails.
-/

namespace CatalogSearch

universe u

/-- A node of a filter with answers in the place of its children. -/
inductive Node (α : Type) where
  /-- A conjunction. -/
  | all (answers : List α)
  /-- A disjunction. -/
  | any (answers : List α)
  /-- A negation. -/
  | not (answer : α)
  /-- A test on a property. -/
  | test (property : String) (test : Test)

/-- An answer for every node (`FilterDelegate`). -/
abbrev Reading (m : Type → Type u) (α : Type) := Node α → m α

namespace Reading

variable {m : Type → Type u} {α : Type} [Monad m] [MonadExcept Failure m]

/-- Fails at a level that no filter may have. -/
def guardLevel (level : Nat) : m Unit :=
  if maxFilterDepth < level then throw (.invalidRequest .filterTooDeep) else pure ()

mutual

/-- The answer for a filter whose root is at `level` (`adapt_at`). -/
def readAt (r : Reading m α) (level : Nat) : Filter → m α
  | .all children => do
    guardLevel level
    let answers ← readAllAt r (level + 1) children
    r (.all answers)
  | .any children => do
    guardLevel level
    let answers ← readAllAt r (level + 1) children
    r (.any answers)
  | .not child => do
    guardLevel level
    let answer ← readAt r (level + 1) child
    r (.not answer)
  | .test property test => do
    guardLevel level
    r (.test property test)

/-- The answers for several filters at one level, from left to right (`adapt_children`). -/
def readAllAt (r : Reading m α) (level : Nat) : List Filter → m (List α)
  | [] => pure []
  | f :: fs => do
    let answer ← readAt r level f
    let answers ← readAllAt r level fs
    return answer :: answers

end

/-- The answer for a filter; its root is at level one (`adapt`). -/
def read (r : Reading m α) (f : Filter) : m α :=
  readAt r 1 f

end Reading

end CatalogSearch
