/-
# The category tree

`catalog/services/category.service.ts` and `isDescendantOf` of
`catalog/services/categoryHierarchy.service.ts`.  A category gets a new parent after the service
has climbed from that parent to a root, one query for each step, without meeting the category;
and when a category is deleted, its children go to the parent that it had when it was read.

The climb has no bound in the source.  Here it stops after `steps` queries, which an
argument of the call says: every moment of a climb is the end of a shorter one.  The transaction
of `deleteCategory` is one batch.  The caches, and the times of creation and update, are left out.
-/
import MeeoServer.Catalog.Variants
import MeeoServer.Process.Sequential
import MeeoServer.Table.Hierarchy
import MeeoServer.Table.Updates

namespace MeeoServer.Catalog.Categories

open Proc
open ContextCache (AuthorizationContext)
open Table (Reaches Acyclic moved removed climbs)

abbrev CategoryId := ℕ

/-! ## The tables -/

structure Category where
  id : CategoryId
  parentId : Option CategoryId
  createdById : Option UserId
  name : String
  slug : String
  description : Option String
  imageUrl : Option String
  status : ProductStatus
  sortOrder : ℕ
deriving DecidableEq

/-- The parent of a category; a missing row has none. -/
def parentOf (rows : List Category) (id : CategoryId) : Option CategoryId :=
  (rows.find? (·.id = id)).bind Category.parentId

/-- The constraints of the table. -/
structure Valid (rows : List Category) : Prop where
  ids_nodup : (rows.map Category.id).Nodup
  slugs_nodup : (rows.map Category.slug).Nodup
  parents : ∀ row ∈ rows, ∀ p ∈ row.parentId, p ∈ rows.map Category.id

lemma valid_iff {rows : List Category} : Valid rows ↔
    (rows.map Category.id).Nodup ∧ (rows.map Category.slug).Nodup ∧
      ∀ row ∈ rows, ∀ p ∈ row.parentId, p ∈ rows.map Category.id :=
  ⟨fun h => ⟨h.ids_nodup, h.slugs_nodup, h.parents⟩, fun h => ⟨h.1, h.2.1, h.2.2⟩⟩

instance (rows : List Category) : Decidable (Valid rows) := decidable_of_iff' _ valid_iff

/-- The categories, and how many products each of them has. -/
structure Tables where
  categories : List Category
  valid : Valid categories
  products : CategoryId → ℕ

structure CreateCategoryInput where
  name : String
  slug : Option String
  parentId : Option CategoryId
  description : Option String
  imageUrl : Option String
  status : ProductStatus
  sortOrder : ℕ

/-- An outer `none` is a field that the request does not name. -/
structure UpdateCategoryInput where
  name : Option String
  slug : Option String
  parentId : Option (Option CategoryId)
  description : Option (Option String)
  imageUrl : Option (Option String)
  status : Option ProductStatus
  sortOrder : Option ℕ

/-- The row after `update`. -/
def Category.updated (category : Category) (slug : String) (input : UpdateCategoryInput) :
    Category :=
  { category with
    slug := slug
    name := input.name.getD category.name
    description := input.description.getD category.description
    imageUrl := input.imageUrl.getD category.imageUrl
    status := input.status.getD category.status
    sortOrder := input.sortOrder.getD category.sortOrder
    parentId := input.parentId.getD category.parentId }

inductive Commit where
  | create (row : Category)
  | update (id : CategoryId) (slug : String) (input : UpdateCategoryInput)
  /-- The children are given the parent in `reassign`, if there is one, before the row goes. -/
  | delete (id : CategoryId) (reassign : Option (Option CategoryId))

/-- `updateMany({ where: { parentId: id }, data: { parentId } })` -/
def reassignChildren (id : CategoryId) (parentId : Option CategoryId) (rows : List Category) :
    List Category :=
  rows.map fun row => if row.parentId = some id then { row with parentId := parentId } else row

/-- `delete`, with `onDelete: SetNull`. -/
def deleteRow (id : CategoryId) (rows : List Category) : List Category :=
  reassignChildren id none (rows.filter (·.id ≠ id))

/-- The rows after a batch, before the constraints are checked; `none` if a row is missing.  The
identifier of a new row is drawn by the database, so nobody has named it before. -/
def Commit.change : Commit → List Category → Option (List Category)
  | .create row, rows => if row.parentId = some row.id then none else some (rows ++ [row])
  | .update id slug input, rows =>
    if id ∈ rows.map Category.id then
      some (rows.map fun row => if row.id = id then row.updated slug input else row)
    else none
  | .delete id reassign, rows =>
    if id ∈ rows.map Category.id then
      some (deleteRow id (reassign.elim rows fun parentId => reassignChildren id parentId rows))
    else none

def Commit.apply (c : Commit) (s : Tables) : Option Tables :=
  (c.change s.categories).bind fun rows =>
    if h : Valid rows then some { s with categories := rows, valid := h } else none

/-! ## The services -/

abbrev Service := Proc Tables Commit AppError

/-- The check of `catalog-auth.helper.ts`, where more than one permission will do. -/
def verifyCatalogOwnershipOrPermission (createdById : Option UserId)
    (user : Option AuthorizationContext) (requiredPermissions : List String) :
    Except AppError Unit :=
  match user with
  | none => .error ⟨"Authentication required", 401⟩
  | some user =>
    if "system:manage" ∈ user.permissions then .ok ()
    else if createdById = some user.id then .ok ()
    else if requiredPermissions.any (· ∈ user.permissions) then .ok ()
    else .error ⟨"You do not have permission to modify or delete this resource", 403⟩

/-- The check of a new variant is the one for a single permission. -/
lemma verifyCatalogOwnershipOrPermission_singleton (createdById : Option UserId)
    (user : Option AuthorizationContext) (requiredPermission : String) :
    verifyCatalogOwnershipOrPermission createdById user [requiredPermission] =
      Catalog.verifyCatalogOwnershipOrPermission createdById user requiredPermission := by
  unfold verifyCatalogOwnershipOrPermission Catalog.verifyCatalogOwnershipOrPermission
  cases user with
  | none => rfl
  | some user => simp

/-- Helper to detect if `currentId` is currently a descendant of `potentialAncestorId`; the
categories in `visited` have been passed. -/
def isDescendantOf (potentialAncestorId : CategoryId) :
    ℕ → List CategoryId → Option CategoryId → Service Bool
  | _, _, none => pure false
  | 0, _, some _ => throw default
  | steps + 1, visited, some currentId =>
    if currentId = potentialAncestorId then pure true
    else if currentId ∈ visited then pure false
    else do
      let s ← Proc.read
      isDescendantOf potentialAncestorId steps (currentId :: visited)
        (parentOf s.categories currentId)

/-- `input.slug || slugify(input.name)` -/
def slugOr (slug : Option String) (generated : String) : String :=
  (slug.filter (· ≠ "")).getD generated

def findParent : Option CategoryId → Service Unit
  | none => pure ()
  | some parentId => do
    let s ← Proc.read
    if parentId ∈ s.categories.map Category.id then pure ()
    else throw ⟨"Parent category not found", 404⟩

section

variable (slugify : String → String)

/-- Creates a new category; the database draws `id`. -/
def createCategory (input : CreateCategoryInput) (creatorId : Option UserId) (id : CategoryId) :
    Service Category := do
  let slug := slugOr input.slug (slugify input.name)
  if slug = "" then
    throw ⟨"Category name must contain valid alphanumeric characters for slug generation", 400⟩
  else
    let s ← Proc.read
    if slug ∈ s.categories.map Category.slug then
      throw ⟨s!"A category with slug '{slug}' already exists", 409⟩
    else
      findParent input.parentId
      let row : Category :=
        ⟨id, input.parentId, creatorId, input.name, slug, input.description, input.imageUrl,
          input.status, input.sortOrder⟩
      let _ ← Proc.commit (.create row)
      pure row

/-- The slug that an update writes. -/
def updatedSlug (id : CategoryId) (input : UpdateCategoryInput) (existing : Category) :
    Service String :=
  let named := ∃ name ∈ input.name, name ≠ "" ∧ name ≠ existing.name
  if input.slug.getD "" ≠ "" ∨ named then
    let candidateSlug := slugOr input.slug (slugify (input.name.getD ""))
    if candidateSlug = existing.slug then pure existing.slug
    else do
      let s ← Proc.read
      if s.categories.any fun row => row.slug = candidateSlug ∧ row.id ≠ id then
        throw ⟨s!"A category with slug '{candidateSlug}' already exists", 409⟩
      else
        pure candidateSlug
  else pure existing.slug

/-- The checks of a new parent. -/
def checkParent (id : CategoryId) (existing : Category) (steps : ℕ) :
    Option (Option CategoryId) → Service Unit
  | none => pure ()
  | some parentId =>
    if parentId = existing.parentId then pure ()
    else if parentId = some id then throw ⟨"A category cannot be its own parent", 400⟩
    else
      match parentId with
      | none => pure ()
      | some parentId => do
        findParent (some parentId)
        let isDescendant ← isDescendantOf id steps [] (some parentId)
        if isDescendant then
          throw ⟨"Cannot set a descendant category as the parent " ++
            "(circular hierarchy detected)", 400⟩
        else pure ()

/-- Updates an existing category. -/
def updateCategory (id : CategoryId) (input : UpdateCategoryInput)
    (user : Option AuthorizationContext) (steps : ℕ) : Service (Option Category) := do
  let s ← Proc.read
  match s.categories.find? (·.id = id) with
  | none => throw ⟨"Category not found", 404⟩
  | some existing =>
    Proc.done (verifyCatalogOwnershipOrPermission existing.createdById user
      ["category:update", "product:update"])
    let slug ← updatedSlug slugify id input existing
    checkParent id existing steps input.parentId
    let s ← Proc.commit (.update id slug input)
    pure (s.categories.find? (·.id = id))

/-- Deletes a category and reassigns children to parent. -/
def deleteCategory (id : CategoryId) (user : Option AuthorizationContext) :
    Service (CategoryId × String) := do
  let s ← Proc.read
  match s.categories.find? (·.id = id) with
  | none => throw ⟨"Category not found", 404⟩
  | some existing =>
    let children := s.categories.countP (·.parentId = some id)
    Proc.done (verifyCatalogOwnershipOrPermission existing.createdById user
      ["category:delete", "product:delete"])
    if 0 < s.products id then
      throw ⟨s!"Cannot delete category with {s.products id} associated product(s). " ++
        "Please reassign or delete the products first.", 400⟩
    else
      let _ ← Proc.commit (.delete id (if 0 < children then some existing.parentId else none))
      pure (id, existing.name)

inductive Call where
  | createCategory (input : CreateCategoryInput) (creatorId : Option UserId) (id : CategoryId)
  | updateCategory (id : CategoryId) (input : UpdateCategoryInput)
      (user : Option AuthorizationContext) (steps : ℕ)
  | deleteCategory (id : CategoryId) (user : Option AuthorizationContext)

def Call.proc : Call → Service Unit
  | .createCategory input creatorId id => do
    let _ ← Categories.createCategory slugify input creatorId id
    pure ()
  | .updateCategory id input user steps => do
    let _ ← Categories.updateCategory slugify id input user steps
    pure ()
  | .deleteCategory id user => do
    let _ ← Categories.deleteCategory id user
    pure ()

/-- The category service; products come and go, so the environment sets how many there are. -/
def categoryService : Machine Tables Commit AppError Call (CategoryId → ℕ) where
  apply := Commit.apply
  proc := Call.proc slugify
  environ products s := { s with products := products }

end

/-! ## The parents after a batch -/

section Parents

variable {rows : List Category} {id : CategoryId}

lemma parentOf_map {g : Category → Category} (hg : ∀ row, (g row).id = row.id)
    (a : CategoryId) : parentOf (rows.map g) a =
      (rows.find? (·.id = a)).bind fun row => (g row).parentId := by
  have hid : (fun row : Category => decide (row.id = a)) ∘ g = fun row => decide (row.id = a) := by
    funext row
    rw [Function.comp_apply, hg]
  rw [parentOf, List.find?_map, hid, Option.bind_map]
  rfl

lemma mem_ids_of_parentOf {a : CategoryId} (h : parentOf rows a ≠ none) :
    a ∈ rows.map Category.id := by
  cases hfind : rows.find? (·.id = a) with
  | none => exact absurd (by rw [parentOf, hfind, Option.bind_none]) h
  | some row =>
    have hid : row.id = a := by simpa using List.find?_some hfind
    exact hid ▸ List.mem_map_of_mem (List.mem_of_find?_eq_some hfind)

lemma exists_row_of_mem_ids (h : id ∈ rows.map Category.id) :
    ∃ row, rows.find? (·.id = id) = some row ∧ row.id = id := by
  obtain ⟨row, hrow, rfl⟩ := List.mem_map.mp h
  have hsome : (rows.find? (·.id = row.id)).isSome := by
    rw [List.find?_isSome]
    exact ⟨row, hrow, by simp⟩
  obtain ⟨found, hfound⟩ := Option.isSome_iff_exists.mp hsome
  exact ⟨found, hfound, by simpa using List.find?_some hfound⟩

/-- The children, as the parents tell them. -/
lemma parentOf_eq_some_iff (hids : (rows.map Category.id).Nodup) {a p : CategoryId} :
    parentOf rows a = some p ↔ ∃ row ∈ rows, row.id = a ∧ row.parentId = some p := by
  constructor
  · intro h
    obtain ⟨row, hfind, hparent⟩ := Option.bind_eq_some_iff.mp h
    exact ⟨row, List.mem_of_find?_eq_some hfind, by simpa using List.find?_some hfind, hparent⟩
  · rintro ⟨row, hrow, rfl, hparent⟩
    obtain ⟨found, hfound, hid⟩ := exists_row_of_mem_ids (List.mem_map_of_mem hrow)
    obtain rfl : found = row := List.inj_on_of_nodup_map hids
      (List.mem_of_find?_eq_some hfound) hrow hid
    rw [parentOf, hfound, Option.bind_some, hparent]

lemma parentOf_append {row : Category} (hnew : row.id ∉ rows.map Category.id) :
    parentOf (rows ++ [row]) = moved (parentOf rows) (· = row.id) row.parentId := by
  funext a
  show parentOf (rows ++ [row]) a = if a = row.id then row.parentId else parentOf rows a
  rw [parentOf, List.find?_append]
  by_cases ha : a = row.id
  · have hnone : rows.find? (·.id = a) = none := by
      rw [List.find?_eq_none]
      intro other hother
      have hne : other.id ≠ a := fun heq => hnew (ha ▸ heq ▸ List.mem_map_of_mem hother)
      simpa using hne
    rw [hnone, if_pos ha, Option.none_or, List.find?_cons_of_pos (by simp [ha]), Option.bind_some]
  · have hnone : [row].find? (·.id = a) = none := by simp [Ne.symm ha]
    rw [hnone, if_neg ha, Option.or_none, parentOf]

lemma parentOf_updated {slug : String} {input : UpdateCategoryInput}
    (hid : id ∈ rows.map Category.id) :
    parentOf (rows.map fun row => if row.id = id then row.updated slug input else row) =
      match input.parentId with
      | none => parentOf rows
      | some parentId => moved (parentOf rows) (· = id) parentId := by
  funext a
  rw [parentOf_map fun row => by split <;> rfl]
  by_cases ha : a = id
  · obtain ⟨row, hfind, hrow⟩ := exists_row_of_mem_ids hid
    subst ha
    rw [hfind, Option.bind_some, if_pos hrow]
    cases hparent : input.parentId with
    | none => simp [Category.updated, hparent, parentOf, hfind]
    | some parentId =>
      show (row.updated slug input).parentId = if a = a then parentId else parentOf rows a
      rw [if_pos rfl, Category.updated, hparent, Option.getD_some]
  · have hother : ∀ row, rows.find? (·.id = a) = some row → row.id ≠ id := by
      intro row hfind heq
      have hrow : row.id = a := by simpa using List.find?_some hfind
      exact ha (hrow.symm.trans heq)
    have hsame : ((rows.find? (·.id = a)).bind fun row =>
        (if row.id = id then row.updated slug input else row).parentId) = parentOf rows a := by
      unfold parentOf
      cases hfind : rows.find? (·.id = a) with
      | none => rfl
      | some row => rw [Option.bind_some, Option.bind_some, if_neg (hother row hfind)]
    rw [hsame]
    cases input.parentId with
    | none => rfl
    | some parentId => exact (if_neg ha).symm

lemma parentOf_reassignChildren (parentId : Option CategoryId) :
    parentOf (reassignChildren id parentId rows) =
      moved (parentOf rows) (fun a => parentOf rows a = some id) parentId := by
  funext a
  show _ = if parentOf rows a = some id then parentId else parentOf rows a
  rw [reassignChildren, parentOf_map fun row => by split <;> rfl]
  cases hfind : rows.find? (·.id = a) with
  | none =>
    have hnone : parentOf rows a = none := by rw [parentOf, hfind, Option.bind_none]
    rw [hnone, if_neg (Option.some_ne_none id).symm, Option.bind_none]
  | some row =>
    have hsome : parentOf rows a = row.parentId := by rw [parentOf, hfind, Option.bind_some]
    rw [hsome, Option.bind_some]
    exact apply_ite Category.parentId _ _ _

lemma parentOf_filter (a : CategoryId) :
    parentOf (rows.filter (·.id ≠ id)) a = if a = id then none else parentOf rows a := by
  unfold parentOf
  by_cases ha : a = id
  · have hnone : (rows.filter (·.id ≠ id)).find? (·.id = a) = none := by
      rw [List.find?_eq_none]
      intro row hrow
      have hne : row.id ≠ id := by simpa using (List.mem_filter.mp hrow).2
      simpa [ha] using hne
    rw [hnone, if_pos ha, Option.bind_none]
  · rw [if_neg ha, Table.find?_filter_of]
    intro row _ hrow
    have hid : row.id = a := by simpa using hrow
    simpa [hid] using ha

lemma parentOf_deleteRow : parentOf (deleteRow id rows) = removed (parentOf rows) id := by
  funext a
  rw [deleteRow, parentOf_reassignChildren]
  show (if parentOf (rows.filter (·.id ≠ id)) a = some id then none
    else parentOf (rows.filter (·.id ≠ id)) a) = removed (parentOf rows) id a
  rw [parentOf_filter, removed]
  by_cases ha : a = id
  · simp [ha]
  · rw [if_neg ha, if_neg ha]
    cases parentOf rows a with
    | none => rfl
    | some p =>
      rw [Option.filter_some]
      by_cases hp : p = id <;> simp [hp]

end Parents

instance (rows : List Category) (a b : CategoryId) : Decidable (Reaches (parentOf rows) a b) :=
  decidable_of_iff _ (Table.climbs_iff fun _ h => mem_ids_of_parentOf h)

/-! ## The forest -/

/-- When a batch is written, the new parent of a category does not reach it: neither the parent
of an update, nor the parent that a deletion gives to the children. -/
def KeepsForest (s : Tables) : Commit → Prop
  | .create _ => True
  | .update id _ input => ∀ p ∈ input.parentId.join, ¬Reaches (parentOf s.categories) p id
  | .delete id reassign => ∀ p ∈ reassign.join, ∀ row ∈ s.categories, row.parentId = some id →
      ¬Reaches (parentOf s.categories) p row.id

instance (s : Tables) : (c : Commit) → Decidable (KeepsForest s c)
  | .create _ => .isTrue trivial
  | .update _ _ _ => by unfold KeepsForest; infer_instance
  | .delete _ _ => by unfold KeepsForest; infer_instance

section Forest

variable {s s' : Tables} {c : Commit}

lemma categories_of_apply (happ : c.apply s = some s') :
    c.change s.categories = some s'.categories := by
  obtain ⟨rows, hrows, hvalid⟩ := Option.bind_eq_some_iff.mp happ
  obtain ⟨_, hs'⟩ := Option.dite_none_right_eq_some.mp hvalid
  obtain rfl := Option.some.inj hs'
  exact hrows

/-- Nobody has a new category among its ancestors. -/
lemma not_reaches_new {rows : List Category} {row : Category} {p : CategoryId}
    (hvalid : Valid rows) (hnew : row.id ∉ rows.map Category.id) (hp : p ≠ row.id) :
    ¬Reaches (parentOf rows) p row.id := by
  intro h
  rcases Relation.ReflTransGen.cases_tail h with heq | ⟨a, -, hstep⟩
  · exact hp heq.symm
  · obtain ⟨child, hchild, -, hparent⟩ := (parentOf_eq_some_iff hvalid.ids_nodup).mp hstep
    exact hnew (hvalid.parents child hchild _ hparent)

/-- **One batch** keeps the forest exactly if no category gets a parent that it is above of. -/
theorem acyclic_iff_keepsForest (h : Acyclic (parentOf s.categories))
    (happ : c.apply s = some s') :
    Acyclic (parentOf s'.categories) ↔ KeepsForest s c := by
  have hchange := categories_of_apply happ
  cases c with
  | create row =>
    obtain ⟨hself, heq⟩ := Option.ite_none_left_eq_some.mp hchange
    have hids := s'.valid.ids_nodup
    rw [← Option.some.inj heq, List.map_append] at hids
    have hnew : row.id ∉ s.categories.map Category.id := by
      intro hmem
      exact List.disjoint_of_nodup_append hids hmem (by simp)
    rw [← Option.some.inj heq, parentOf_append hnew, Table.acyclic_moved_iff _ _ h]
    refine iff_of_true ?_ trivial
    rintro p hp _ rfl
    exact not_reaches_new s.valid hnew fun heq => hself (heq ▸ hp)
  | update id slug input =>
    obtain ⟨hid, heq⟩ := Option.ite_none_right_eq_some.mp hchange
    rw [← Option.some.inj heq, parentOf_updated hid, KeepsForest]
    cases input.parentId with
    | none => exact iff_of_true h (by simp)
    | some parentId =>
      dsimp only
      rw [Table.acyclic_moved_iff _ _ h]
      simp
  | delete id reassign =>
    obtain ⟨-, heq⟩ := Option.ite_none_right_eq_some.mp hchange
    rw [← Option.some.inj heq, parentOf_deleteRow, KeepsForest]
    cases reassign with
    | none => exact iff_of_true (h.removed id) (by simp)
    | some parentId =>
      rw [Option.elim_some, parentOf_reassignChildren, Option.join_some]
      have hchildren : (∀ p ∈ parentId, ∀ row ∈ s.categories, row.parentId = some id →
            ¬Reaches (parentOf s.categories) p row.id) ↔
          ∀ p, parentId = some p → ∀ a, parentOf s.categories a = some id →
            ¬Reaches (parentOf s.categories) p a := by
        refine forall₂_congr fun p _ => ?_
        constructor
        · intro hrows a ha
          obtain ⟨row, hrow, rfl, hparent⟩ := (parentOf_eq_some_iff s.valid.ids_nodup).mp ha
          exact hrows row hrow hparent
        · intro hall row hrow hparent
          exact hall row.id ((parentOf_eq_some_iff s.valid.ids_nodup).mpr ⟨row, hrow, rfl, hparent⟩)
      rw [hchildren, ← Table.acyclic_moved_iff _ _ h]
      by_cases hself : parentId = some id
      · -- the children stay where they are, and have no parent when the row has gone
        have hmoved := (Table.acyclic_moved_iff (fun a => parentOf s.categories a = some id)
          parentId h).mpr ?_
        · exact iff_of_true (hmoved.removed id) hmoved
        · rintro p hp a ha
          obtain rfl := Option.some.inj (hp.symm.trans hself)
          exact h.not_reaches ha
      · refine Table.acyclic_removed_iff fun a ha => ?_
        by_cases hchild : parentOf s.categories a = some id
        · exact hself ((if_pos hchild).symm.trans ha)
        · exact hchild ((if_neg hchild).symm.trans ha)

end Forest

/-! ## Runs -/

/-! ## One call after another -/

section Sequential

variable {slugify : String → String} {Spec : Tables → Commit → Prop} {s : Tables}

/-- A climb that nobody disturbs, and that ends without the category, has passed all ancestors. -/
lemma isDescendantOf_emits {id : CategoryId} (steps : ℕ) (visited : List CategoryId)
    (current : Option CategoryId)
    (hvisited : ∀ v ∈ visited, ∀ a ∈ current,
      Relation.TransGen (Table.ChildOf (parentOf s.categories)) v a) :
    (isDescendantOf id steps visited current).Emits Commit.apply Eq (fun _ _ => True) Spec
      (fun r s' => ∀ found, r = .ok found → s' = s ∧
        (Acyclic (parentOf s.categories) → found = false →
          ∀ a ∈ current, ¬Reaches (parentOf s.categories) a id)) s := by
  induction steps generalizing visited current with
  | zero =>
    cases current with
    | none => exact fun _ _ => ⟨rfl, fun _ _ _ ha => nomatch ha⟩
    | some a => exact fun _ hfound => nomatch hfound
  | succ steps ih =>
    cases current with
    | none => exact fun _ _ => ⟨rfl, fun _ _ _ ha => nomatch ha⟩
    | some a =>
      rw [isDescendantOf]
      split
      · rintro _ ⟨⟩
        exact ⟨rfl, fun _ hfalse => nomatch hfalse⟩
      · rename_i hne
        split
        · -- the climb has gone round a cycle
          rename_i hmem
          exact fun _ _ => ⟨rfl, fun h => absurd (hvisited a hmem a rfl) (h a)⟩
        · refine emits_read_post (fun _ _ hfound => nomatch hfound) ?_
          rintro _ rfl
          refine (ih (a :: visited) (parentOf s.categories a) ?_).mono ?_
          · rintro v hv b hb
            rcases List.mem_cons.mp hv with rfl | hv
            · exact .single hb
            · exact (hvisited v hv a rfl).tail hb
          · intro r s' hr found hfound
            obtain ⟨hsame, hnone⟩ := hr found hfound
            refine ⟨hsame, fun h hfalse b hb hreaches => ?_⟩
            obtain rfl := Option.some.inj hb
            rcases Relation.ReflTransGen.cases_head hreaches with heq | ⟨c, hstep, hup⟩
            · exact hne heq
            · exact hnone h hfalse c hstep hup

lemma findParent_emits (parentId : Option CategoryId) :
    (findParent parentId).Emits Commit.apply Eq (fun _ _ => True) Spec
      (fun r s' => ∀ u, r = .ok u → s' = s) s := by
  cases parentId with
  | none => exact fun _ _ => rfl
  | some p =>
    refine emits_read_post (fun _ _ hu => nomatch hu) ?_
    rintro _ rfl
    split
    · exact fun _ _ => rfl
    · exact fun _ hu => nomatch hu

lemma updatedSlug_emits {id : CategoryId} {input : UpdateCategoryInput} {existing : Category} :
    (updatedSlug slugify id input existing).Emits Commit.apply Eq (fun _ _ => True) Spec
      (fun r s' => ∀ slug, r = .ok slug → s' = s) s := by
  unfold updatedSlug
  dsimp only
  split
  · split
    · exact fun _ _ => rfl
    · refine emits_read_post (fun _ _ hslug => nomatch hslug) ?_
      rintro _ rfl
      split
      · exact fun _ hslug => nomatch hslug
      · exact fun _ _ => rfl
  · exact fun _ _ => rfl

/-- A parent that passes the checks does not reach the category. -/
lemma checkParent_emits {id : CategoryId} {existing : Category} {steps : ℕ}
    (hexisting : parentOf s.categories id = existing.parentId)
    (parentId : Option (Option CategoryId)) :
    (checkParent id existing steps parentId).Emits Commit.apply Eq (fun _ _ => True) Spec
      (fun r s' => ∀ u, r = .ok u → s' = s ∧ (Acyclic (parentOf s.categories) →
        ∀ p ∈ parentId.join, ¬Reaches (parentOf s.categories) p id)) s := by
  rcases parentId with _ | parentId
  · exact fun _ _ => ⟨rfl, fun _ _ hp => nomatch hp⟩
  unfold checkParent
  dsimp only
  split
  · rename_i hsame
    refine fun _ _ => ⟨rfl, fun h p hp => h.not_reaches ?_⟩
    exact hexisting.trans (hsame.symm.trans hp)
  · split
    · exact fun _ hu => nomatch hu
    · rcases parentId with _ | parentId
      · exact fun _ _ => ⟨rfl, fun _ _ hp => nomatch hp⟩
      · refine Emits.bind ((findParent_emits (some parentId)).mono fun r s' hr => ?_)
        cases r with
        | error e => exact fun _ hu => nomatch hu
        | ok u =>
          obtain rfl := hr u rfl
          refine Emits.bind ((isDescendantOf_emits steps [] (some parentId) (by simp)).mono ?_)
          intro r s' hr
          cases r with
          | error e => exact fun _ hu => nomatch hu
          | ok found =>
            obtain ⟨rfl, hnone⟩ := hr found rfl
            cases found with
            | true => exact fun _ hu => nomatch hu
            | false => exact fun _ _ => ⟨rfl, fun h => hnone h rfl⟩

/-- While nobody else runs, no call gives a category a parent that it is above of. -/
lemma categories_solo (slugify : String → String) (Allowed : Call → Prop) :
    Solo (categoryService slugify) Allowed Eq fun _ s c =>
      Acyclic (parentOf s.categories) → KeepsForest s c where
  refl _ := rfl
  emits x s _ := by
    cases x with
    | createCategory input creatorId id =>
      refine Emits.andThen ?_ fun _ _ => emits_pure
      unfold createCategory
      dsimp only
      split
      · exact emits_throw
      · refine emits_read fun s _ => ?_
        split
        · exact emits_throw
        · refine Emits.andThen ((findParent_emits _).mono fun _ _ _ => trivial) fun _ _ => ?_
          exact emits_commit (fun _ _ _ => trivial) fun _ _ _ _ _ => emits_pure
    | updateCategory id input user steps =>
      refine Emits.andThen ?_ fun _ _ => emits_pure
      refine emits_read fun s hs => ?_
      obtain rfl := hs
      split
      · exact emits_throw
      · rename_i existing hfind
        have hexisting : parentOf s.categories id = existing.parentId := by
          rw [parentOf, hfind, Option.bind_some]
        cases verifyCatalogOwnershipOrPermission existing.createdById user
          ["category:update", "product:update"] with
        | error e => exact emits_throw
        | ok _ =>
          show Emits _ _ _ _ (updatedSlug slugify id input existing >>= _) _ _
          refine Emits.bind (updatedSlug_emits.mono fun r s' hr => ?_)
          cases r with
          | error e => trivial
          | ok slug =>
            obtain rfl := hr slug rfl
            refine Emits.bind ((checkParent_emits hexisting input.parentId).mono fun r s' hr => ?_)
            cases r with
            | error e => trivial
            | ok u =>
              obtain ⟨rfl, hnone⟩ := hr u rfl
              refine emits_commit ?_ fun _ _ _ _ _ => emits_pure
              rintro _ rfl
              exact hnone
    | deleteCategory id user =>
      refine Emits.andThen ?_ fun _ _ => emits_pure
      refine emits_read fun s hs => ?_
      obtain rfl := hs
      split
      · exact emits_throw
      · rename_i existing hfind
        dsimp only
        cases verifyCatalogOwnershipOrPermission existing.createdById user
          ["category:delete", "product:delete"] with
        | error e => exact emits_throw
        | ok _ =>
          show Emits _ _ _ _ (if 0 < s.products id then _ else _) _ _
          split
          · exact emits_throw
          · refine emits_commit ?_ fun _ _ _ _ _ => emits_pure
            rintro _ rfl h p hp row hrow hchild hreaches
            split at hp
            · -- from the child over the category to its parent, and back
              have hup : parentOf s.categories id = some p := by
                rw [parentOf, hfind, Option.bind_some]
                exact hp
              have hrowParent : parentOf s.categories row.id = some id :=
                (parentOf_eq_some_iff s.valid.ids_nodup).mpr ⟨row, hrow, rfl, hchild⟩
              exact h id (Relation.TransGen.head' hup (hreaches.tail hrowParent))
            · exact nomatch hp

/-- One call after another, the category tree stays a forest. -/
theorem categories_forest_sequential {slugify : String → String} {Allowed : Call → Prop}
    {s₀ s : Tables} (h₀ : Acyclic (parentOf s₀.categories))
    (hr : (categoryService slugify).SeqReachable Allowed Free s₀ s) :
    Acyclic (parentOf s.categories) := by
  refine (categories_solo slugify Allowed).invariant
    (P := fun s : Tables => Acyclic (parentOf s.categories)) hr h₀ (fun _ _ hs => hs) ?_
  intro x s c s' _ hspec _ happ hs
  exact (acyclic_iff_keepsForest hs happ).mpr (hspec hs)

end Sequential

/-! ## Runs -/

section Runs

/-- **The category tree stays a forest** in every run whose batches give no category a parent that
it is above of. -/
theorem categories_forest (slugify : String → String) {Allowed : Call → Prop} {s₀ : Tables}
    {cfg : Config Tables Commit AppError} (h₀ : Acyclic (parentOf s₀.categories))
    (hr : (categoryService slugify).Reachable Allowed KeepsForest s₀ cfg) :
    Acyclic (parentOf cfg.store.categories) := by
  refine (Rely.of_any _ _ _).invariant (P := fun s : Tables => Acyclic (parentOf s.categories)) hr
    h₀ (fun _ _ hs => hs) ?_
  intro x s c s' _ _ hcond happ hs
  exact (acyclic_iff_keepsForest hs happ).mpr hcond

/-- Two categories side by side, with an administrator who may move them. -/
def shelves : Tables where
  categories := [
    ⟨0, none, none, "Furniture", "furniture", none, none, .active, 0⟩,
    ⟨1, none, none, "Lighting", "lighting", none, none, .active, 0⟩]
  valid := by decide
  products _ := 0

def moveBelow (id parentId : CategoryId) : Call :=
  .updateCategory id ⟨none, none, some (some parentId), none, none, none, none⟩
    (some ⟨7, 7, [], ["system:manage"], none⟩) 5

lemma acyclic_shelves : Acyclic (parentOf shelves.categories) := by
  intro a hcycle
  obtain ⟨b, -, hstep⟩ := Relation.TransGen.tail'_iff.mp hcycle
  obtain ⟨row, hrow, -, hparent⟩ := (parentOf_eq_some_iff shelves.valid.ids_nodup).mp hstep
  have hnone : ∀ row ∈ shelves.categories, row.parentId = none := by decide
  rw [hnone row hrow] at hparent
  exact nomatch hparent

/-- Lighting is moved below furniture, and lamps are created below it; then lighting is deleted,
and the lamps go to furniture. -/
theorem categories_forest_lamps : ∃ cfg : Config Tables Commit AppError,
    (categoryService id).Reachable (fun _ => True) KeepsForest shelves cfg ∧
      cfg.store.categories.map (fun row => (row.id, row.parentId)) = [(0, none), (2, some 0)] ∧
      Acyclic (parentOf cfg.store.categories) := by
  obtain ⟨cfg, hr, hrows⟩ := (categoryService id).exists_reachable_of_exec (fun _ => True)
    KeepsForest
    ([.call (moveBelow 1 0), .step 0 .ok, .step 0 .ok, .step 0 .ok, .step 0 .ok,
      .call (.createCategory ⟨"Lamps", some "lamps", some 1, none, none, .active, 0⟩ (some 7) 2),
      .step 1 .ok, .step 1 .ok, .step 1 .ok,
      .call (.deleteCategory 1 (some ⟨7, 7, [], ["system:manage"], none⟩)),
      .step 2 .ok, .step 2 .ok])
    shelves (fun s : Tables => s.categories.map fun row => (row.id, row.parentId))
    [(0, none), (2, some 0)] (by decide +kernel)
  exact ⟨cfg, hr, hrows, categories_forest id acyclic_shelves hr⟩

/-- Each of two categories is moved below the other one: both climbs end before either is
written. -/
theorem categories_cycle : ¬∀ (slugify : String → String) (s₀ : Tables)
    (cfg : Config Tables Commit AppError), Acyclic (parentOf s₀.categories) →
    (categoryService slugify).Reachable (fun _ => True) Free s₀ cfg →
    Acyclic (parentOf cfg.store.categories) := by
  intro h
  obtain ⟨cfg, hr, hparents⟩ := (categoryService id).exists_reachable_of_exec (fun _ => True) Free
    ([.call (moveBelow 0 1), .call (moveBelow 1 0),
      .step 0 .ok, .step 0 .ok, .step 0 .ok, .step 1 .ok, .step 1 .ok, .step 1 .ok,
      .step 0 .ok, .step 1 .ok])
    shelves (fun s : Tables => (parentOf s.categories 0, parentOf s.categories 1))
    (some 1, some 0) (by decide +kernel)
  obtain ⟨hzero, hone⟩ := Prod.ext_iff.mp hparents
  exact (h id shelves cfg acyclic_shelves hr).not_reaches hzero (.single hone)

end Runs

end MeeoServer.Catalog.Categories
