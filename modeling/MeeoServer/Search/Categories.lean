/-
# The categories of a search

`getAllChildCategoryIds` of `search/services/searchAggregation.service.ts`, and how
`searchProducts` of `search/services/search.service.ts` gets to the categories in which it looks.
The loop over the queue has no bound in the source; here it has a number of turns.

A category tree is a forest as long as nobody gives a category a parent that it is above of
(`Catalog/Categories`), and in a forest the loop ends.  On a cycle of active categories it does
not.
-/
import MeeoServer.Catalog.Categories
import MeeoServer.Table.Grouping
import MeeoServer.Table.Traversal

namespace MeeoServer.Search

open Catalog Catalog.Categories
open Relation (TransGen)
open Table (ChildOf Reaches Acyclic Lists adjust expand)

abbrev CategoryId := Categories.CategoryId

/-- `prisma.category.findMany({ where: { status: "ACTIVE" } })` -/
def activeCategories (s : Tables) : List Category :=
  s.categories.filter (·.status = .active)

/-- The map of the children, filled row by row. -/
def childrenMap (allCategories : List Category) : List (CategoryId × List CategoryId) :=
  allCategories.foldl (fun m cat => match cat.parentId with
    | none => m
    | some p => adjust p (fun list => list.getD [] ++ [cat.id]) m) []

def childrenOf (m : List (CategoryId × List CategoryId)) (currentId : CategoryId) :
    List CategoryId :=
  (m.lookup currentId).getD []

/-- Resolves all descendant category IDs, in at most so many turns of the loop. -/
def getAllChildCategoryIds (s : Tables) (turns : ℕ) (parentId : CategoryId) :
    Option (List CategoryId) :=
  expand (childrenOf (childrenMap (activeCategories s))) turns [parentId] [parentId]

/-- The categories that `searchProducts` looks in; an inner `none` is all of them. -/
def targetCategoryIds (s : Tables) (turns : ℕ) (categorySlug : Option String)
    (categoryId : Option CategoryId) : Option (Option (List CategoryId)) :=
  match categorySlug.filter (· ≠ "") with
  | some slug =>
    match s.categories.find? (·.slug = slug) with
    | some cat => (getAllChildCategoryIds s turns cat.id).map some
    | none => some (some [])
  | none =>
    match categoryId with
    | some id => (getAllChildCategoryIds s turns id).map some
    | none => some none

/-- The parent of an active category. -/
def activeParent (s : Tables) : CategoryId → Option CategoryId := parentOf (activeCategories s)

/-! ## The map -/

lemma childrenOf_childrenMap (rows : List Category) (p : CategoryId) :
    childrenOf (childrenMap rows) p =
      (rows.filter (·.parentId = some p)).map Category.id := by
  -- the loop runs from the first row, the induction from the last
  induction rows using List.reverseRecOn with
  | nil => rfl
  | append_singleton rows cat ih =>
    rw [childrenMap, List.foldl_append, List.foldl_cons, List.foldl_nil, List.filter_append,
      List.map_append, ← ih]
    cases hparent : cat.parentId with
    | none => simp [hparent, childrenMap]
    | some q =>
      by_cases hq : p = q
      · subst hq
        simp [hparent, childrenOf, childrenMap, Table.lookup_adjust]
      · simp [hparent, childrenOf, childrenMap, Table.lookup_adjust, hq, Ne.symm hq]

variable {s : Tables} {a : CategoryId}

lemma nodup_activeCategories (s : Tables) : ((activeCategories s).map Category.id).Nodup :=
  s.valid.ids_nodup.sublist (List.filter_sublist.map Category.id)

lemma lists_childrenMap (s : Tables) :
    Lists (activeParent s) (childrenOf (childrenMap (activeCategories s))) := by
  intro p x
  have hids := nodup_activeCategories s
  have hnodup : (((activeCategories s).filter (·.parentId = some p)).map Category.id).Nodup :=
    hids.sublist (List.filter_sublist.map Category.id)
  have hmem : x ∈ ((activeCategories s).filter (·.parentId = some p)).map Category.id ↔
      activeParent s x = some p := by
    rw [activeParent, parentOf_eq_some_iff hids]
    simp [and_assoc, and_comm]
  rw [childrenOf_childrenMap, hnodup.count]
  exact if_congr hmem rfl rfl

lemma acyclic_activeParent (h : Acyclic (parentOf s.categories)) : Acyclic (activeParent s) := by
  refine h.mono fun a p hparent => ?_
  obtain ⟨row, hrow, hid, hp⟩ := (parentOf_eq_some_iff (nodup_activeCategories s)).mp hparent
  exact (parentOf_eq_some_iff s.valid.ids_nodup).mpr ⟨row, List.mem_of_mem_filter hrow, hid, hp⟩

/-! ## What is found -/

/-- **The expansion of a category** ends, with the category and what is below it through active
categories, each of them once, exactly if the category is not below itself. -/
theorem getAllChildCategoryIds_iff (s : Tables) (parentId : CategoryId) :
    (∃ turns ids, getAllChildCategoryIds s turns parentId = some ids ∧ ids.Nodup ∧
      ∀ x, x ∈ ids ↔ Reaches (activeParent s) x parentId) ↔
      ¬TransGen (ChildOf (activeParent s)) parentId parentId :=
  (lists_childrenMap s).expand_iff ((activeCategories s).map Category.id)
    fun _ hx => mem_ids_of_parentOf hx

/-- Two active categories, each the parent of the other. -/
def circle : Tables where
  categories := [
    ⟨0, some 1, none, "Furniture", "furniture", none, none, .active, 0⟩,
    ⟨1, some 0, none, "Lighting", "lighting", none, none, .active, 0⟩]
  valid := by decide
  products _ := 0

/-- A search in one of them does not end. -/
theorem getAllChildCategoryIds_circle : ¬∀ (s : Tables) (parentId : CategoryId),
    ∃ turns ids, getAllChildCategoryIds s turns parentId = some ids ∧ ids.Nodup ∧
      ∀ x, x ∈ ids ↔ Reaches (activeParent s) x parentId := by
  intro h
  obtain ⟨turns, ids, hids, -⟩ := h circle 0
  have hcycle : TransGen (ChildOf (activeParent circle)) 0 0 :=
    .head (b := 1) (by decide : activeParent circle 0 = some 1)
      (.single (by decide : activeParent circle 1 = some 0))
  have hnone : getAllChildCategoryIds circle turns 0 = none :=
    (lists_childrenMap circle).expand_cycle hcycle
  rw [hnone] at hids
  cases hids

/-- In a forest every search gets to its categories. -/
theorem exists_targetCategoryIds (h : Acyclic (parentOf s.categories))
    (categorySlug : Option String) (categoryId : Option CategoryId) :
    ∃ turns, (targetCategoryIds s turns categorySlug categoryId).isSome := by
  have hexpand : ∀ id, ∃ turns, (getAllChildCategoryIds s turns id).isSome := by
    intro id
    obtain ⟨ids, hids, -⟩ := (lists_childrenMap s).expand_isSome_start
      (acyclic_activeParent h id) fun _ hx => mem_ids_of_parentOf hx
    exact ⟨_, Option.isSome_iff_exists.mpr ⟨ids, hids⟩⟩
  unfold targetCategoryIds
  split
  · split
    · rename_i cat _
      simpa using hexpand cat.id
    · exact ⟨0, rfl⟩
  · split
    · rename_i id
      simpa using hexpand id
    · exact ⟨0, rfl⟩

end MeeoServer.Search
