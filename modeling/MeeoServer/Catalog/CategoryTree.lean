/-
# The category tree as a customer sees it

`getCategoryTree` of `catalog/services/categoryHierarchy.service.ts`.  The nodes are objects in a
map, which refer to their children: one pass over the categories makes the nodes, a second one
puts each of them under its parent, or among the roots if the map does not have the parent.  A
reference is the key of its node here, and what a customer gets is the tree that is read along
the references.

The times of creation and update are left out.
-/
import MeeoServer.Catalog.Categories
import MeeoServer.Table.Forest
import MeeoServer.Table.Grouping

namespace MeeoServer.Catalog.Categories

open Table (adjust lookup_adjust Acyclic RowTree childrenIn rootsIn parentIn unfoldAll Arranges)

/-- A node before its children are read. -/
structure CategoryNode where
  category : Category
  children : List CategoryId
deriving DecidableEq

/-- The map of the nodes, and the roots. -/
structure CategoryNodes where
  categoryMap : List (CategoryId × CategoryNode)
  rootNodes : List CategoryId
deriving DecidableEq

abbrev CategoryTreeNode := RowTree Category

/-- The first pass. -/
def makeNodes (categories : List Category) : List (CategoryId × CategoryNode) :=
  categories.foldl (fun categoryMap cat => adjust cat.id (fun _ => ⟨cat, []⟩) categoryMap) []

/-- One turn of the second pass. -/
def placeNode (nodes : CategoryNodes) (cat : Category) : CategoryNodes :=
  match cat.parentId.filter fun p => (nodes.categoryMap.lookup p).isSome with
  | some p => { nodes with
      categoryMap := nodes.categoryMap.map fun entry =>
        if entry.1 = p then (p, { entry.2 with children := entry.2.children ++ [cat.id] })
        else entry }
  | none => { nodes with rootNodes := nodes.rootNodes ++ [cat.id] }

/-- The nodes of `getCategoryTree`; `cached` is what the cache has, and `findMany` what the
database answers. -/
def getCategoryTree (cached : Option CategoryNodes)
    (findMany : Option ProductStatus → List Category) (statusFilter : Option ProductStatus) :
    CategoryNodes :=
  cached.getD <|
    let categories := findMany statusFilter
    categories.foldl placeNode ⟨makeNodes categories, []⟩

/-- What a reference leads to. -/
def CategoryNodes.node (nodes : CategoryNodes) (id : CategoryId) :
    Option (Category × List CategoryId) :=
  (nodes.categoryMap.lookup id).map fun node => (node.category, node.children)

/-- The trees of the roots, down to a depth. -/
def CategoryNodes.read (nodes : CategoryNodes) (depth : ℕ) : Option (List CategoryTreeNode) :=
  unfoldAll nodes.node depth nodes.rootNodes

/-! ## The passes -/

variable {categories : List Category} {cat : Category} {id : CategoryId}

lemma lookup_makeNodes (hids : (categories.map Category.id).Nodup) :
    (makeNodes categories).lookup id =
      (categories.find? (·.id = id)).map fun cat => ⟨cat, []⟩ := by
  -- the pass goes from the first row, the induction from the last
  induction categories using List.reverseRecOn with
  | nil => rfl
  | append_singleton rows cat ih =>
    rw [List.map_append, List.nodup_append'] at hids
    obtain ⟨hrows, -, hdisjoint⟩ := hids
    rw [makeNodes, List.foldl_append, List.foldl_cons, List.foldl_nil, lookup_adjust,
      List.find?_append, ← makeNodes, ih hrows]
    by_cases hid : id = cat.id
    · have hnone : rows.find? (·.id = id) = none := by
        refine List.find?_eq_none.mpr fun row hrow heq => ?_
        have hrowId : row.id = cat.id := (of_decide_eq_true heq).trans hid
        exact hdisjoint (List.mem_map_of_mem hrow) (by simp [hrowId])
      rw [if_pos hid, hnone]
      simp [hid]
    · rw [if_neg hid]
      cases rows.find? (·.id = id) with
      | none => simp [Ne.symm hid]
      | some row => rfl

/-- The second pass has placed the rows in `done`. -/
structure Placed (categories done : List Category) (nodes : CategoryNodes) : Prop where
  lookup : ∀ id, nodes.categoryMap.lookup id = (categories.find? (·.id = id)).map fun cat =>
    ⟨cat, (childrenIn Category.parentId done id).map Category.id⟩
  roots : nodes.rootNodes =
    (done.filter fun row => ∀ p ∈ row.parentId, p ∉ categories.map Category.id).map Category.id

lemma lookup_map_ite {m : List (CategoryId × CategoryNode)} {p : CategoryId}
    {f : CategoryNode → CategoryNode} :
    (m.map fun entry => if entry.1 = p then (p, f entry.2) else entry).lookup id =
      if id = p then (m.lookup id).map f else m.lookup id := by
  induction m with
  | nil => simp
  | cons y m ih =>
    obtain ⟨k, node⟩ := y
    rw [List.map_cons]
    dsimp only
    by_cases hk : k = p
    · subst hk
      rw [if_pos rfl, Table.lookup_cons_ite, Table.lookup_cons_ite, ih]
      split <;> rfl
    · rw [if_neg hk, Table.lookup_cons_ite, Table.lookup_cons_ite, ih]
      by_cases hid : id = k
      · rw [if_pos hid, if_pos hid, if_neg (fun h => hk (hid.symm.trans h))]
      · rw [if_neg hid, if_neg hid]

lemma Placed.start (hids : (categories.map Category.id).Nodup) :
    Placed categories [] ⟨makeNodes categories, []⟩ :=
  ⟨fun _ => lookup_makeNodes hids, rfl⟩

/-- One turn puts a row under its parent, or among the roots. -/
lemma Placed.step {done : List Category} {nodes : CategoryNodes}
    (h : Placed categories done nodes) :
    Placed categories (done ++ [cat]) (placeNode nodes cat) := by
  have hhas : ∀ p, (nodes.categoryMap.lookup p).isSome ↔ p ∈ categories.map Category.id := by
    intro p
    rw [h.lookup, Option.isSome_map, List.find?_isSome]
    simp
  unfold placeNode
  cases hparent : cat.parentId.filter fun p => (nodes.categoryMap.lookup p).isSome with
  | none =>
    have hroot : ∀ p ∈ cat.parentId, p ∉ categories.map Category.id := by
      intro p hp hmem
      rw [Option.filter_eq_none_iff] at hparent
      exact hparent p hp ((hhas p).mpr hmem)
    constructor
    · intro id
      have hchildren : childrenIn Category.parentId (done ++ [cat]) id =
          childrenIn Category.parentId done id ∨ id ∉ categories.map Category.id := by
        by_cases hp : cat.parentId = some id
        · exact .inr (hroot id hp)
        · refine .inl ?_
          simp [childrenIn, hp]
      rw [h.lookup]
      rcases hchildren with hchildren | hmem
      · rw [hchildren]
      · have hnone : categories.find? (·.id = id) = none := by
          rw [← Option.not_isSome_iff_eq_none, List.find?_isSome]
          simpa using hmem
        rw [hnone]
        rfl
    · show nodes.rootNodes ++ [cat.id] = _
      rw [h.roots, List.filter_append, List.map_append]
      have hkept : [cat].filter (fun row => ∀ p ∈ row.parentId, p ∉ categories.map Category.id) =
          [cat] :=
        List.filter_eq_self.mpr fun row hrow =>
          decide_eq_true (by rwa [List.mem_singleton.mp hrow])
      rw [hkept]
      rfl
  | some p =>
    obtain ⟨hp, hsome⟩ := Option.filter_eq_some_iff.mp hparent
    have hmem := (hhas p).mp hsome
    constructor
    · intro id
      show (List.map _ nodes.categoryMap).lookup id = _
      rw [lookup_map_ite (f := fun node => { node with children := node.children ++ [cat.id] }),
        h.lookup]
      by_cases hid : id = p
      · subst hid
        rw [if_pos rfl, Option.map_map]
        simp [childrenIn, hp, Function.comp_def]
      · rw [if_neg hid]
        have hne : ¬cat.parentId = some id := by
          rw [hp]
          exact fun heq => hid (Option.some.inj heq).symm
        simp [childrenIn, hne]
    · show nodes.rootNodes = _
      rw [h.roots, List.filter_append, List.map_append]
      have hdropped :
          [cat].filter (fun row => ∀ p ∈ row.parentId, p ∉ categories.map Category.id) = [] := by
        refine List.filter_eq_nil_iff.mpr fun row hrow hroot => ?_
        rw [List.mem_singleton.mp hrow] at hroot
        exact of_decide_eq_true hroot p hp hmem
      rw [hdropped, List.map_nil, List.append_nil]

lemma placed_foldl (hids : (categories.map Category.id).Nodup) :
    Placed categories categories (categories.foldl placeNode ⟨makeNodes categories, []⟩) := by
  suffices h : ∀ done rest nodes, Placed categories done nodes →
      Placed categories (done ++ rest) (rest.foldl placeNode nodes) from
    h [] categories _ (.start hids)
  intro done rest
  induction rest generalizing done with
  | nil =>
    intro nodes h
    rwa [List.append_nil]
  | cons cat rest ih =>
    intro nodes h
    have hrest := ih (done ++ [cat]) _ h.step
    rwa [List.append_assoc] at hrest

/-- **The tree that a customer sees** is the forest of the categories: each of them once, under
its parent if the list has it and at the root otherwise, with the siblings in the order of the
list. -/
theorem getCategoryTree_arranges (findMany : Option ProductStatus → List Category)
    (statusFilter : Option ProductStatus)
    (hids : ((findMany statusFilter).map Category.id).Nodup)
    (hacyclic : Acyclic (parentIn Category.id Category.parentId (findMany statusFilter))) :
    ∃ depth forest, (getCategoryTree none findMany statusFilter).read depth = some forest ∧
      Arranges Category.id Category.parentId (findMany statusFilter) forest := by
  have hplaced := placed_foldl hids
  have hnode : ∀ row ∈ findMany statusFilter,
      (getCategoryTree none findMany statusFilter).node row.id =
        some (row, (childrenIn Category.parentId (findMany statusFilter) row.id).map
          Category.id) := by
    intro row hrow
    rw [CategoryNodes.node, getCategoryTree, Option.getD_none, hplaced.lookup,
      Table.find?_key hids hrow]
    rfl
  have hroots : (getCategoryTree none findMany statusFilter).rootNodes =
      (rootsIn Category.id Category.parentId (findMany statusFilter)).map Category.id :=
    hplaced.roots
  unfold CategoryNodes.read
  rw [hroots]
  exact Table.exists_arranges hnode hids hacyclic

/-- Shelves under lamps under furniture, the lowest first, and a category whose parent is not in
the list. -/
def shuffled (_ : Option ProductStatus) : List Category := [
  ⟨3, some 2, none, "Shelf lamps", "shelf-lamps", none, none, .active, 0⟩,
  ⟨2, some 1, none, "Lamps", "lamps", none, none, .active, 1⟩,
  ⟨4, some 0, none, "Chairs", "chairs", none, none, .active, 2⟩,
  ⟨1, none, none, "Furniture", "furniture", none, none, .active, 3⟩]

theorem getCategoryTree_arranges_shuffled : ∃ depth forest,
    (getCategoryTree none shuffled none).read depth = some forest ∧
      Arranges Category.id Category.parentId (shuffled none) forest := by
  have hacyclic : Acyclic (parentIn Category.id Category.parentId (shuffled none)) := by
    refine @Table.acyclic_of_lt _ _ id fun a p h => ?_
    obtain ⟨row, hrow, rfl, hp⟩ := Table.exists_of_parentIn h
    have hless : ∀ row ∈ shuffled none, ∀ p ∈ row.parentId, p < row.id := by decide
    exact hless row hrow p hp
  exact getCategoryTree_arranges shuffled none (by decide) hacyclic

example : ((getCategoryTree none shuffled none).read 3).map (fun forest =>
    forest.map fun t => (RowTree.values [t]).map Category.name) =
      some [["Chairs"], ["Furniture", "Lamps", "Shelf lamps"]] := by decide

end MeeoServer.Catalog.Categories
