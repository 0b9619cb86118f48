/-
# Narrower searches

A client narrows a search step by step: it goes down to a category or picks a brand, moves the
limits of the price, asks for better ratings or for what is in stock.  Each step takes items away
and leaves the others in their order, on whatever pages they are shown.
-/
import MeeoServer.Search.Facets
import MeeoServer.Table.Forest
import MeeoServer.Table.Sorting
import Mathlib.Data.Prod.Lex

namespace MeeoServer.Search

open Catalog Catalog.Categories
open Table (Reaches insertionSort_congr insertionSort_sublist pairwise_insertionSort_stable)

/-! ## The order of the items -/

/-- What the items are sorted by, the smallest first. -/
def rank (e : Engine) (query : ProductSearchServiceInput) (item : SearchProductItem) : ℚ ×ₗ ℚ :=
  toLex <| match query.sortBy.getD .relevance with
    | .priceAsc => (item.startingPrice, 0)
    | .priceDesc => (-item.startingPrice, 0)
    | .ratingDesc => (-item.averageRating, -item.reviewCount)
    | .popularity => (-item.reviewCount, 0)
    | .relevance => ((query.q.filter (· ≠ "")).elim 0 fun q =>
        -(exactness e (e.toLowerCase q) item : ℚ), 0)
    | .newest => (0, 0)

instance rank_isTrans (e : Engine) (query : ProductSearchServiceInput) :
    IsTrans SearchProductItem fun a b => rank e query a ≤ rank e query b :=
  ⟨fun _ _ _ => le_trans⟩

instance rank_total (e : Engine) (query : ProductSearchServiceInput) :
    Std.Total fun a b : SearchProductItem => rank e query a ≤ rank e query b :=
  ⟨fun a b => le_total (rank e query a) (rank e query b)⟩

instance newest_isTrans : IsTrans Product fun a b => b.createdAt ≤ a.createdAt :=
  ⟨fun _ _ _ h h' => le_trans h' h⟩

instance newest_total : Std.Total fun a b : Product => b.createdAt ≤ a.createdAt :=
  ⟨fun a b => le_total b.createdAt a.createdAt⟩

/-- The items are sorted by their rank, and the newest come first among those of one rank. -/
def InOrder (e : Engine) (query : ProductSearchServiceInput) (items : List SearchProductItem) :
    Prop :=
  items.Pairwise fun a b =>
    rank e query a ≤ rank e query b ∧ (rank e query b ≤ rank e query a → b.createdAt ≤ a.createdAt)

/-! ## The conditions -/

/-- The category in whose part of the tree a search looks; an inner `none` is one that the table
does not have. -/
def startCategory (s : Categories.Tables) (query : ProductSearchServiceInput) :
    Option (Option CategoryId) :=
  match query.categorySlug.filter (· ≠ "") with
  | some slug => some ((s.categories.find? (·.slug = slug)).map Category.id)
  | none => query.categoryId.map some

/-- Each condition of a search is one of a narrower search too, and the items are sorted alike. -/
structure ProductSearchServiceInput.Narrows (db : Catalogue) (query wide : ProductSearchServiceInput) : Prop where
  sortBy : query.sortBy.getD .relevance = wide.sortBy.getD .relevance
  q : query.q = wide.q ∨ searchTerm wide = none ∧ wide.sortBy.getD .relevance ≠ .relevance
  category : ∀ start ∈ startCategory db.categories wide,
    ∃ below ∈ startCategory db.categories query, ∀ c ∈ below,
      ∃ p ∈ start, Reaches (activeParent db.categories) c p
  brand : ∀ id ∈ targetBrandId db.brands wide, id ∈ targetBrandId db.brands query
  isFeatured : ∀ isFeatured ∈ wide.isFeatured, isFeatured ∈ query.isFeatured
  minPrice : ∀ price ∈ wide.minPrice, ∃ higher ∈ query.minPrice, price ≤ higher
  maxPrice : ∀ price ∈ wide.maxPrice, ∃ lower ∈ query.maxPrice, lower ≤ price
  minRating : ∀ rating ∈ wide.minRating, ∃ higher ∈ query.minRating, rating ≤ higher
  inStockOnly : wide.inStockOnly = some true → query.inStockOnly = some true

/-! ## The sort -/

section Order

variable {e : Engine} {query wide : ProductSearchServiceInput} {items items' : List SearchProductItem}

lemma toLex_zero_le {x y : ℚ} : toLex (x, (0 : ℚ)) ≤ toLex (y, 0) ↔ x ≤ y := by
  simp [Prod.Lex.toLex_le_toLex, ← le_iff_lt_or_eq]

/-- What `sortItems` compares by. -/
lemma sortItems_eq : sortItems e query items =
    items.insertionSort fun a b => rank e query a ≤ rank e query b := by
  unfold sortItems
  cases hsortBy : query.sortBy.getD .relevance with
  | relevance =>
    cases hq : query.q.filter (· ≠ "") with
    | none =>
      refine (List.Pairwise.insertionSort_eq (List.pairwise_of_forall fun a b => ?_)).symm
      simp only [rank, hsortBy, hq, Option.elim, le_refl]
    | some q =>
      refine insertionSort_congr (fun a b => ?_) items
      simp only [rank, hsortBy, hq, Option.elim, toLex_zero_le, neg_le_neg_iff, Nat.cast_le]
  | priceAsc =>
    refine insertionSort_congr (fun a b => ?_) items
    simp only [rank, hsortBy, toLex_zero_le]
  | priceDesc =>
    refine insertionSort_congr (fun a b => ?_) items
    simp only [rank, hsortBy, toLex_zero_le, neg_le_neg_iff]
  | ratingDesc =>
    refine insertionSort_congr (fun a b => ?_) items
    simp [rank, hsortBy, Prod.Lex.toLex_le_toLex, eq_comm]
  | popularity =>
    refine insertionSort_congr (fun a b => ?_) items
    simp only [rank, hsortBy, toLex_zero_le, neg_le_neg_iff, Nat.cast_le]
  | newest =>
    refine (List.Pairwise.insertionSort_eq (List.pairwise_of_forall fun a b => ?_)).symm
    simp only [rank, hsortBy, le_refl]

lemma ProductSearchServiceInput.Narrows.rank_eq {db : Catalogue} (h : query.Narrows db wide) :
    rank e query = rank e wide := by
  funext item
  rw [rank, rank, h.sortBy]
  rcases h.q with hq | ⟨-, hsortBy⟩
  · rw [hq]
  · cases hwide : wide.sortBy.getD .relevance with
    | relevance => exact absurd hwide hsortBy
    | priceAsc | priceDesc | ratingDesc | popularity | newest => rfl

/-- What is found is in order, whatever the tables are. -/
lemma foundItems_inOrder (db : Catalogue) (targets : Option (List CategoryId)) :
    InOrder e query (foundItems e db targets query) := by
  unfold InOrder foundItems
  rw [sortItems_eq]
  refine pairwise_insertionSort_stable (List.Pairwise.filter _ ?_)
  exact List.pairwise_map.mpr (List.pairwise_insertionSort _ _)

end Order

/-! ## The conditions of a narrower search -/

section Narrower

variable {e : Engine} {db : Catalogue} {query wide : ProductSearchServiceInput}
  {targets targets' : Option (List CategoryId)} {turns turns' : ℕ}

lemma targetCategoryIds_eq (s : Categories.Tables) (turns : ℕ) (query : ProductSearchServiceInput) :
    targetCategoryIds s turns query.categorySlug query.categoryId =
      match startCategory s query with
      | none => some none
      | some none => some (some [])
      | some (some id) => (getAllChildCategoryIds s turns id).map some := by
  unfold targetCategoryIds startCategory
  cases query.categorySlug.filter (· ≠ "") with
  | some slug =>
    dsimp only
    cases s.categories.find? (·.slug = slug) <;> rfl
  | none => cases query.categoryId <;> rfl

/-- The categories of a search are those below the one it starts from. -/
lemma mem_targetCategoryIds {ids : List CategoryId}
    (htargets : targetCategoryIds db.categories turns query.categorySlug query.categoryId =
      some (some ids)) :
    ∃ start, startCategory db.categories query = some start ∧
      ∀ c, c ∈ ids ↔ ∃ p ∈ start, Reaches (activeParent db.categories) c p := by
  rw [targetCategoryIds_eq] at htargets
  cases hstart : startCategory db.categories query with
  | none =>
    rw [hstart] at htargets
    exact nomatch htargets
  | some start =>
    rw [hstart] at htargets
    refine ⟨start, rfl, fun c => ?_⟩
    cases start with
    | none =>
      obtain rfl := Option.some.inj (Option.some.inj htargets)
      simp
    | some p =>
      obtain ⟨ids', hids, hsome⟩ := Option.map_eq_some_iff.mp htargets
      obtain rfl := Option.some.inj hsome
      simpa using (lists_childrenMap db.categories).mem_expand_iff hids

lemma startCategory_eq_none
    (htargets : targetCategoryIds db.categories turns query.categorySlug query.categoryId =
      some none) : startCategory db.categories query = none := by
  rw [targetCategoryIds_eq] at htargets
  cases hstart : startCategory db.categories query with
  | none => rfl
  | some start =>
    rw [hstart] at htargets
    cases start with
    | none => exact nomatch htargets
    | some p =>
      obtain ⟨ids, -, hsome⟩ := Option.map_eq_some_iff.mp htargets
      exact nomatch hsome

variable (h : query.Narrows db wide)

include h

lemma ProductSearchServiceInput.Narrows.targets_subset
    (htargets : targetCategoryIds db.categories turns query.categorySlug query.categoryId =
      some targets)
    (htargets' : targetCategoryIds db.categories turns' wide.categorySlug wide.categoryId =
      some targets') :
    ∀ ids' ∈ targets', ∃ ids ∈ targets, ids ⊆ ids' := by
  rintro ids' rfl
  obtain ⟨start, hstart, hids'⟩ := mem_targetCategoryIds htargets'
  obtain ⟨below, hbelow, hdown⟩ := h.category start hstart
  cases targets with
  | none => exact absurd (startCategory_eq_none htargets) (by rw [hbelow]; simp)
  | some ids =>
    refine ⟨ids, rfl, fun c hc => (hids' c).mpr ?_⟩
    obtain ⟨start', hstart', hids⟩ := mem_targetCategoryIds htargets
    obtain rfl : below = start' := Option.some.inj (hbelow.symm.trans hstart')
    obtain ⟨p, hp, hcp⟩ := (hids c).mp hc
    obtain ⟨q, hq, hpq⟩ := hdown p hp
    exact ⟨q, hq, hcp.trans hpq⟩

lemma ProductSearchServiceInput.Narrows.matchesVariant {variant : Variant}
    (hvariant : matchesVariant query variant = true) : matchesVariant wide variant = true := by
  simp only [Search.matchesVariant, Bool.and_eq_true, decide_eq_true_eq, Bool.or_eq_true,
    Option.all_eq_true] at hvariant ⊢
  obtain ⟨⟨⟨hstatus, hmin⟩, hmax⟩, hstock⟩ := hvariant
  refine ⟨⟨⟨hstatus, fun price hprice => ?_⟩, fun price hprice => ?_⟩, ?_⟩
  · obtain ⟨higher, hhigher, hle⟩ := h.minPrice price hprice
    exact hle.trans (hmin higher hhigher)
  · obtain ⟨lower, hlower, hle⟩ := h.maxPrice price hprice
    exact (hmax lower hlower).trans hle
  · exact hstock.imp_left fun hne hsome => hne (h.inStockOnly hsome)

lemma ProductSearchServiceInput.Narrows.searchTerm :
    ∀ term ∈ searchTerm wide, term ∈ searchTerm query := by
  intro term hterm
  rcases h.q with hq | ⟨hnone, -⟩
  · rwa [Search.searchTerm, hq]
  · exact nomatch hnone.symm.trans hterm

lemma ProductSearchServiceInput.Narrows.matchesWhere {product : Product}
    (htargets : ∀ ids' ∈ targets', ∃ ids ∈ targets, ids ⊆ ids')
    (hproduct : matchesWhere e targets (targetBrandId db.brands query) query product = true) :
    matchesWhere e targets' (targetBrandId db.brands wide) wide product = true := by
  simp only [Search.matchesWhere, Bool.and_eq_true, decide_eq_true_eq, Option.all_eq_true,
    Option.any_eq_true, List.any_eq_true] at hproduct ⊢
  obtain ⟨⟨⟨⟨⟨hstatus, hcategory⟩, hbrand⟩, hfeatured⟩, htext⟩, hvariants⟩ := hproduct
  refine ⟨⟨⟨⟨⟨hstatus, fun ids' hids' => ?_⟩, fun id hid => hbrand id (h.brand id hid)⟩,
    fun b hb => hfeatured b (h.isFeatured b hb)⟩, fun term hterm =>
      htext term (h.searchTerm term hterm)⟩, ?_⟩
  · obtain ⟨ids, hids, hsub⟩ := htargets ids' hids'
    obtain ⟨category, hcat, hmem⟩ := hcategory ids hids
    exact ⟨category, hcat, hsub hmem⟩
  · obtain ⟨variant, hvariant, hmatches⟩ := hvariants
    exact ⟨variant, hvariant, h.matchesVariant hmatches⟩

lemma ProductSearchServiceInput.Narrows.keepsItem {item : SearchProductItem}
    (hitem : keepsItem query item = true) : keepsItem wide item = true := by
  simp only [Search.keepsItem, Bool.and_eq_true, decide_eq_true_eq, Bool.or_eq_true] at hitem ⊢
  refine ⟨hitem.1.imp_left fun hne hsome => hne (h.inStockOnly hsome), ?_⟩
  cases hwide : wide.minRating with
  | none => rfl
  | some rating =>
    obtain ⟨higher, hhigher, hle⟩ := h.minRating rating hwide
    have hleast := hitem.2
    rw [show query.minRating = some higher from hhigher] at hleast
    have hhigher' : (higher : ℚ) ≤ item.averageRating := of_decide_eq_true hleast
    exact decide_eq_true (le_trans (Nat.cast_le.mpr hle) hhigher')

/-- The items of a narrower search, among those of the wider one. -/
lemma ProductSearchServiceInput.Narrows.foundItems_sublist
    (htargets : ∀ ids' ∈ targets', ∃ ids ∈ targets, ids ⊆ ids') :
    (foundItems e db targets query).Sublist (foundItems e db targets' wide) := by
  have hmatches : ∀ product,
      Search.matchesWhere e targets (targetBrandId db.brands query) query product = true →
        Search.matchesWhere e targets' (targetBrandId db.brands wide) wide product = true :=
    fun _ => h.matchesWhere htargets
  have hrows := List.monotone_filter_right db.products hmatches
  have hitems := (insertionSort_sublist (r := fun a b => b.createdAt ≤ a.createdAt) hrows).map
    (toItem e)
  unfold foundItems
  rw [sortItems_eq, sortItems_eq, h.rank_eq]
  refine insertionSort_sublist ?_
  exact (hitems.filter _).trans
    (List.monotone_filter_right _ fun item hitem => h.keepsItem hitem)

end Narrower

/-- **Narrowing a search** only takes items away. -/
theorem narrower_pages (e : Engine) {db : Catalogue} {query wide : ProductSearchServiceInput}
    (hforest : Table.Acyclic (parentOf db.categories.categories)) (h : query.Narrows db wide) :
    (∃ turns, (allPages e db turns query).isSome) ∧ (∃ turns, (allPages e db turns wide).isSome) ∧
    ∀ turns turns' shown shown', allPages e db turns query = some shown →
      allPages e db turns' wide = some shown' →
        shown.Sublist shown' ∧ InOrder e query shown ∧ InOrder e wide shown' := by
  have hreturns : ∀ query : ProductSearchServiceInput,
      ∃ turns, (allPages e db turns query).isSome := by
    intro query
    obtain ⟨turns, hsome⟩ := exists_targetCategoryIds hforest query.categorySlug query.categoryId
    obtain ⟨targets, htargets⟩ := Option.isSome_iff_exists.mp hsome
    exact ⟨turns, by rw [allPages_eq htargets]; rfl⟩
  have hpages : ∀ {turns shown} {query : ProductSearchServiceInput},
      allPages e db turns query = some shown → ∃ targets, targetCategoryIds db.categories turns
        query.categorySlug query.categoryId = some targets ∧
          shown = foundItems e db targets query := by
    intro turns shown query hshown
    cases htargets : targetCategoryIds db.categories turns query.categorySlug query.categoryId with
    | none =>
      rw [allPages, searchProducts, htargets] at hshown
      cases hshown
    | some targets =>
      rw [allPages_eq htargets] at hshown
      exact ⟨targets, rfl, (Option.some.inj hshown).symm⟩
  refine ⟨hreturns query, hreturns wide, fun turns turns' shown shown' hshown hshown' => ?_⟩
  obtain ⟨targets, htargets, rfl⟩ := hpages hshown
  obtain ⟨targets', htargets', rfl⟩ := hpages hshown'
  exact ⟨h.foundItems_sublist (h.targets_subset htargets htargets'), foundItems_inOrder db targets,
    foundItems_inOrder db targets'⟩

/-- Floor lamps and desk lamps below lighting, and a chair that is in neither. -/
def lighting : Catalogue where
  categories := {
    categories := [
      ⟨0, none, none, "Lighting", "lighting", none, none, .active, 0⟩,
      ⟨1, some 0, none, "Lamps", "lamps", none, none, .active, 0⟩]
    valid := by decide
    products := fun _ => 0 }
  brands := []
  products := [
    lamp 10 "Floor lamp" 90 ⟨1, "Lamps", "lamps"⟩ 4,
    lamp 11 "Desk lamp" 40 ⟨1, "Lamps", "lamps"⟩ 5,
    lamp 12 "Ceiling light" 60 ⟨0, "Lighting", "lighting"⟩ 6,
    lamp 13 "Arc lamp" 70 ⟨1, "Lamps", "lamps"⟩ 7]
where
  lamp (id : ProductId) (name : String) (price : ℚ) (category : Label CategoryId)
      (createdAt : ℕ) : Product :=
    ⟨id, name, name, none, none, none, false, .active, createdAt, [], some category, none,
      [⟨name, price, none, .active, some 1⟩], []⟩

/-- From all lights by their price down to the lamps from 50 on. -/
theorem narrower_pages_lighting : ∃ shown shown',
    allPages ⟨fun _ _ => false, id, fun _ => 0⟩ lighting 3 { everything with
      categoryId := some 1, minPrice := some 50, sortBy := some .priceAsc, limit := some 1 } =
        some shown ∧
    allPages ⟨fun _ _ => false, id, fun _ => 0⟩ lighting 3 { everything with
      categorySlug := some "lighting", sortBy := some .priceAsc, limit := some 2 } =
        some shown' ∧
    shown.map SearchProductItem.id = [13, 10] ∧ shown'.map SearchProductItem.id = [11, 12, 13, 10] ∧
    shown.Sublist shown' := by
  have hforest : Table.Acyclic (parentOf lighting.categories.categories) := by
    refine @Table.acyclic_of_lt _ _ id fun a p hparent => ?_
    obtain ⟨row, hrow, rfl, hp⟩ :=
      (parentOf_eq_some_iff lighting.categories.valid.ids_nodup).mp hparent
    have hless : ∀ row ∈ lighting.categories.categories, ∀ p ∈ row.parentId, p < row.id := by
      decide
    exact hless row hrow p hp
  have hnarrows : ProductSearchServiceInput.Narrows lighting { everything with
      categoryId := some 1, minPrice := some 50, sortBy := some .priceAsc, limit := some 1 }
      { everything with
        categorySlug := some "lighting", sortBy := some .priceAsc, limit := some 2 } := by
    refine ⟨rfl, .inl rfl, ?_, ?_, ?_, ?_, ?_, ?_, ?_⟩
    · intro start hstart
      obtain rfl : some 0 = start := Option.some.inj hstart
      refine ⟨some 1, rfl, ?_⟩
      rintro c ⟨⟩
      exact ⟨0, rfl, .single (by decide : activeParent lighting.categories 1 = some 0)⟩
    all_goals simp [everything, targetBrandId]
  refine ⟨_, _, rfl, rfl, by decide +kernel, by decide +kernel, ?_⟩
  exact ((narrower_pages ⟨fun _ _ => false, id, fun _ => 0⟩ hforest hnarrows).2.2 3 3 _ _ rfl
    rfl).1

end MeeoServer.Search
