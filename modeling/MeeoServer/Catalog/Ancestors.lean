/-
# The ancestors of a category

`isDescendantOf` of `catalog/services/categoryHierarchy.service.ts` on a table that nobody changes
while the loop runs.  The table may be anything: the parents may go round, and a parent need not
be there.

An identifier is a UUID, so the only value that ends the loop as falsy is `null`.
-/
import MeeoServer.Catalog.Categories
import MeeoServer.Process.Transaction

namespace MeeoServer.Catalog.Categories.Ancestors

open Proc
open Table (ChildOf seek climbs)
open Relation

/-- Helper to detect if `potentialDescendantId` is currently a descendant of
`potentialAncestorId`, in at most so many turns of the loop. -/
def isDescendantOf (categories : List Category) (turns : ℕ)
    (potentialDescendantId potentialAncestorId : CategoryId) : Option Bool :=
  seek (parentOf categories) potentialAncestorId turns [] (some potentialDescendantId)

/-- The check that the category service makes, while nobody else runs: a query more than it may
make is an error there. -/
lemma perform_isDescendantOf {s : Tables} {id : CategoryId} {steps : ℕ}
    {visited : List CategoryId} {current : Option CategoryId} :
    (Categories.isDescendantOf id steps visited current).perform Commit.apply s =
      ((seek (parentOf s.categories) id steps visited current).elim
        (Except.error default) Except.ok, s) := by
  induction steps generalizing visited current with
  | zero => cases current <;> rfl
  | succ steps ih =>
    cases current with
    | none => rfl
    | some a =>
      rw [Categories.isDescendantOf, seek]
      split_ifs with ha hmem
      · rfl
      · rfl
      · rw [perform_read]
        exact ih

/-- Lamps below furniture, and two categories that are below each other. -/
def tangled : List Category := [
  ⟨0, none, none, "Furniture", "furniture", none, none, .active, 0⟩,
  ⟨1, some 0, none, "Lamps", "lamps", none, none, .active, 1⟩,
  ⟨2, some 3, none, "Chairs", "chairs", none, none, .active, 2⟩,
  ⟨3, some 2, none, "Stools", "stools", none, none, .active, 3⟩]

example : isDescendantOf tangled 5 2 0 = some false := by decide

end MeeoServer.Catalog.Categories.Ancestors
