/-
# The facets of a search

`getFacetedFilters` of `search/services/search.service.ts` and `buildFacetedFilters` of
`search/services/searchAggregation.service.ts`.  The facets describe the first page of a search
with a limit of 1000 items, and so all that the search lists as long as it does not find more.
-/
import MeeoServer.Search.Products

namespace MeeoServer.Search

open Table (adjust lookup_adjust forall_adjust)

/-! ## The counts -/

/-- A brand or a category with the number of its items. -/
structure Facet (ι : Type) extends Label ι where
  count : ℕ
deriving DecidableEq

section Counts

variable {ι : Type} [DecidableEq ι]

/-- One more item with the label. -/
def countLabel (counts : List (ι × Facet ι)) : Option (Label ι) → List (ι × Facet ι)
  | none => counts
  | some label => adjust label.id (fun facet =>
      let facet := facet.getD { label with count := 0 }
      { facet with count := facet.count + 1 }) counts

/-- `Object.values(counts)`, the largest count first. -/
def facetsOf (counts : List (ι × Facet ι)) : List (Facet ι) :=
  (counts.map Prod.snd).insertionSort fun a b => b.count ≤ a.count

/-- The facets name each identifier that has items, with the number of them. -/
structure Counts (labels : List (Option (Label ι))) (facets : List (Facet ι)) : Prop where
  nodup : (facets.map fun facet => facet.id).Nodup
  mem_iff : ∀ id, id ∈ facets.map (fun facet => facet.id) ↔ ∃ label, some label ∈ labels ∧
    label.id = id
  count : ∀ facet ∈ facets, facet.count = labels.countP fun label =>
    label.any fun label => label.id = facet.id

/-- The map of the counts, while it is filled. -/
structure Counting (labels : List (Option (Label ι))) (counts : List (ι × Facet ι)) : Prop where
  keys : ∀ entry ∈ counts, entry.2.id = entry.1
  nodup : (counts.map Prod.fst).Nodup
  lookup : ∀ id, ((counts.lookup id).elim 0 Facet.count) =
    labels.countP fun label => label.any fun label => label.id = id
  isSome : ∀ id, (counts.lookup id).isSome ↔ ∃ label, some label ∈ labels ∧ label.id = id

end Counts

/-! ## The loop -/

/-- The variables of the loop. -/
structure FacetLoop where
  brandCounts : List (BrandId × Facet BrandId)
  categoryCounts : List (CategoryId × Facet CategoryId)
  minPrice : ℚ
  maxPrice : ℚ
deriving DecidableEq

def FacetLoop.step (loop : FacetLoop) (item : SearchProductItem) : FacetLoop where
  brandCounts := countLabel loop.brandCounts item.brand
  categoryCounts := countLabel loop.categoryCounts item.category
  minPrice := if item.startingPrice < loop.minPrice then item.startingPrice else loop.minPrice
  maxPrice := if loop.maxPrice < item.maxPrice then item.maxPrice else loop.maxPrice

structure FacetedFilters where
  totalMatching : ℕ
  priceRange : ℚ × ℚ
  brands : List (Facet BrandId)
  categories : List (Facet CategoryId)
deriving DecidableEq

/-- Aggregates faceted filter options for a list of items. -/
def buildFacetedFilters (items : List SearchProductItem) : FacetedFilters :=
  let start : FacetLoop := ⟨[], [], (items.head?.map SearchProductItem.startingPrice).getD 0,
    (items.head?.map SearchProductItem.maxPrice).getD 0⟩
  let loop := items.foldl FacetLoop.step start
  { totalMatching := items.length
    priceRange := (loop.minPrice, loop.maxPrice)
    brands := facetsOf loop.brandCounts
    categories := facetsOf loop.categoryCounts }

/-- Aggregates faceted filter options for the current search context. -/
def getFacetedFilters (e : Engine) (db : Catalogue) (turns : ℕ)
    (query : ProductSearchServiceInput) : Option FacetedFilters := do
  let result ← searchProducts e db turns
    { query with page := some ⟨1, Nat.one_pos⟩, limit := some 1000 }
  some (buildFacetedFilters result.items)

/-- The range of the prices; without items it is nothing. -/
def PriceRange (items : List SearchProductItem) (range : ℚ × ℚ) : Prop :=
  if items = [] then range = (0, 0)
  else (range.1 ∈ items.map SearchProductItem.startingPrice ∧
      ∀ item ∈ items, range.1 ≤ item.startingPrice) ∧
    range.2 ∈ items.map SearchProductItem.maxPrice ∧ ∀ item ∈ items, item.maxPrice ≤ range.2

/-- The facets are those of the items. -/
structure Describes (facets : FacetedFilters) (items : List SearchProductItem) : Prop where
  brands : Counts (items.map SearchProductItem.brand) facets.brands
  categories : Counts (items.map SearchProductItem.category) facets.categories
  priceRange : PriceRange items facets.priceRange

/-! ## What the loop computes -/

section Counting

variable {ι : Type} [DecidableEq ι] {labels : List (Option (Label ι))}
  {counts : List (ι × Facet ι)}

lemma Counting.start : Counting ([] : List (Option (Label ι))) [] :=
  ⟨by simp, List.nodup_nil, by simp, by simp⟩

lemma keys_adjust {k : ι} {f : Option (Facet ι) → Facet ι} :
    (adjust k f counts).map Prod.fst =
      if k ∈ counts.map Prod.fst then counts.map Prod.fst else counts.map Prod.fst ++ [k] := by
  induction counts with
  | nil => rfl
  | cons entry counts ih =>
    unfold adjust
    by_cases hk : entry.1 = k
    · simp [hk]
    · rw [if_neg hk, List.map_cons, ih, List.map_cons]
      by_cases hmem : k ∈ counts.map Prod.fst
      · rw [if_pos hmem, if_pos (List.mem_cons_of_mem _ hmem)]
      · have hnot : k ∉ entry.1 :: counts.map Prod.fst := by
          rw [List.mem_cons]
          exact not_or.mpr ⟨Ne.symm hk, hmem⟩
        rw [if_neg hmem, if_neg hnot, List.cons_append]

lemma Counting.step (h : Counting labels counts) (label : Option (Label ι)) :
    Counting (labels ++ [label]) (countLabel counts label) := by
  cases label with
  | none =>
    refine ⟨h.keys, h.nodup, fun id => ?_, fun id => ?_⟩
    · rw [countLabel, h.lookup]
      simp
    · rw [countLabel, h.isSome]
      simp
  | some label =>
    refine ⟨?_, ?_, fun id => ?_, fun id => ?_⟩
    · refine forall_adjust h.keys fun o ho => ?_
      cases o with
      | none => rfl
      | some facet => exact ho facet rfl
    · rw [countLabel, keys_adjust]
      split
      · exact h.nodup
      · rename_i hk
        refine List.nodup_append.mpr
          ⟨h.nodup, List.nodup_singleton _, fun id hid other hother => ?_⟩
        rw [List.mem_singleton.mp hother]
        exact fun heq => hk (heq ▸ hid)
    · rw [countLabel, lookup_adjust, List.countP_append, ← h.lookup]
      by_cases hid : id = label.id
      · subst hid
        rw [if_pos rfl]
        cases counts.lookup label.id <;> simp
      · rw [if_neg hid]
        simp [Ne.symm hid]
    · rw [countLabel, lookup_adjust]
      by_cases hid : id = label.id
      · subst hid
        simp
      · rw [if_neg hid, h.isSome]
        simp [Ne.symm hid]

/-- An entry is what its key leads to. -/
lemma Counting.lookup_of_mem (h : Counting labels counts) {entry : ι × Facet ι}
    (hentry : entry ∈ counts) : counts.lookup entry.1 = some entry.2 := by
  have hnodup := h.nodup
  clear h
  induction counts with
  | nil => exact absurd hentry List.not_mem_nil
  | cons first counts ih =>
    rw [List.map_cons, List.nodup_cons] at hnodup
    rw [Table.lookup_cons_ite]
    rcases List.mem_cons.mp hentry with rfl | hmem
    · rw [if_pos rfl]
    · have hne : entry.1 ≠ first.1 := fun heq => hnodup.1 (heq ▸ List.mem_map_of_mem hmem)
      rw [if_neg hne, ih hmem hnodup.2]

/-- The values of the map are the facets. -/
lemma Counting.finish (h : Counting labels counts) : Counts labels (facetsOf counts) := by
  have hperm : (facetsOf counts).Perm (counts.map Prod.snd) := List.perm_insertionSort _ _
  have hids : ((counts.map Prod.snd).map fun facet => facet.id) = counts.map Prod.fst := by
    rw [List.map_map]
    exact List.map_congr_left h.keys
  have hidsPerm : ((facetsOf counts).map fun facet => facet.id).Perm (counts.map Prod.fst) :=
    (hperm.map _).trans (List.Perm.of_eq hids)
  refine ⟨hidsPerm.nodup_iff.mpr h.nodup, fun id => ?_, fun facet hfacet => ?_⟩
  · rw [hidsPerm.mem_iff, ← h.isSome]
    constructor
    · intro hmem
      obtain ⟨entry, hentry, rfl⟩ := List.mem_map.mp hmem
      rw [h.lookup_of_mem hentry]
      rfl
    · intro hsome
      obtain ⟨facet, hlookup⟩ := Option.isSome_iff_exists.mp hsome
      obtain ⟨before, after, rfl, -⟩ := List.lookup_eq_some_iff.mp hlookup
      simp
  · obtain ⟨entry, hentry, rfl⟩ := List.mem_map.mp (hperm.mem_iff.mp hfacet)
    rw [h.keys entry hentry, ← h.lookup, h.lookup_of_mem hentry]
    rfl

end Counting

section Loop

variable {items : List SearchProductItem} {item : SearchProductItem} {loop : FacetLoop}

/-- What the loop has made of the items so far, from the prices of the first one on. -/
structure Looped (first : SearchProductItem) (items : List SearchProductItem)
    (loop : FacetLoop) : Prop where
  brands : Counting (items.map SearchProductItem.brand) loop.brandCounts
  categories : Counting (items.map SearchProductItem.category) loop.categoryCounts
  minPrice : loop.minPrice ∈ (first :: items).map SearchProductItem.startingPrice ∧
    ∀ item ∈ first :: items, loop.minPrice ≤ item.startingPrice
  maxPrice : loop.maxPrice ∈ (first :: items).map SearchProductItem.maxPrice ∧
    ∀ item ∈ first :: items, item.maxPrice ≤ loop.maxPrice

/-- A bound that is replaced by a better one. -/
lemma least_append {β : Type} [LinearOrder β] {f : SearchProductItem → β}
    {l : List SearchProductItem} {least : β}
    (h : least ∈ l.map f ∧ ∀ x ∈ l, least ≤ f x) :
    (if f item < least then f item else least) ∈ (l ++ [item]).map f ∧
      ∀ x ∈ l ++ [item], (if f item < least then f item else least) ≤ f x := by
  obtain ⟨hmem, hle⟩ := h
  rw [List.map_append]
  split
  · rename_i hless
    refine ⟨List.mem_append_right _ (List.mem_singleton_self _), fun x hx => ?_⟩
    rcases List.mem_append.mp hx with hx | hx
    · exact hless.le.trans (hle x hx)
    · rw [List.mem_singleton.mp hx]
  · rename_i hmore
    refine ⟨List.mem_append_left _ hmem, fun x hx => ?_⟩
    rcases List.mem_append.mp hx with hx | hx
    · exact hle x hx
    · rw [List.mem_singleton.mp hx]
      exact not_lt.mp hmore

lemma Looped.step {first : SearchProductItem} (h : Looped first items loop)
    (item : SearchProductItem) : Looped first (items ++ [item]) (loop.step item) where
  brands := by
    rw [List.map_append]
    exact h.brands.step item.brand
  categories := by
    rw [List.map_append]
    exact h.categories.step item.category
  minPrice := least_append h.minPrice
  maxPrice := least_append (β := ℚᵒᵈ) h.maxPrice

lemma looped_foldl (first : SearchProductItem) (items : List SearchProductItem) :
    Looped first items
      (items.foldl FacetLoop.step ⟨[], [], first.startingPrice, first.maxPrice⟩) := by
  induction items using List.reverseRecOn with
  | nil => exact ⟨.start, .start, by simp, by simp⟩
  | append_singleton items item ih =>
    rw [List.foldl_append]
    exact ih.step item

/-- **The facets** that are built for a list of items are those of the items. -/
theorem buildFacetedFilters_describes (items : List SearchProductItem) :
    Describes (buildFacetedFilters items) items := by
  cases items with
  | nil =>
    refine ⟨Counting.start.finish, Counting.start.finish, ?_⟩
    rw [PriceRange, if_pos rfl]
    rfl
  | cons first rest =>
    have h := looped_foldl first (first :: rest)
    refine ⟨h.brands.finish, h.categories.finish, ?_⟩
    obtain ⟨hmin, hminLe⟩ := h.minPrice
    obtain ⟨hmax, hmaxLe⟩ := h.maxPrice
    rw [PriceRange, if_neg (List.cons_ne_nil first rest)]
    refine ⟨⟨?_, fun item hitem => hminLe item (List.mem_cons_of_mem first hitem)⟩, ?_,
      fun item hitem => hmaxLe item (List.mem_cons_of_mem first hitem)⟩
    · exact (List.mem_cons.mp hmin).elim (fun heq => List.mem_cons.mpr (.inl heq)) id
    · exact (List.mem_cons.mp hmax).elim (fun heq => List.mem_cons.mpr (.inl heq)) id

end Loop

/-! ## The pages -/

/-- The items of the pages of a search, page after page. -/
def allPages (e : Engine) (db : Catalogue) (turns : ℕ) (query : ProductSearchServiceInput) :
    Option (List SearchProductItem) := do
  let result ← searchProducts e db turns query
  let pages ← (List.range result.pagination.totalPages).mapM fun i =>
    searchProducts e db turns { query with page := some i.succPNat }
  some (pages.flatMap SearchResult.items)

/-- The products that a search finds. -/
def matching (e : Engine) (db : Catalogue) (targetCategoryIds : Option (List CategoryId))
    (query : ProductSearchServiceInput) : List Product :=
  db.products.filter fun product =>
    keepsItem query (toItem e product) &&
      matchesWhere e targetCategoryIds (targetBrandId db.brands query) query product

/-- **The facets agree with the search**: the total is the one that the search reports, and the
rest is that of the items on all its pages. -/
def FacetsAgree (e : Engine) (db : Catalogue) (query : ProductSearchServiceInput) : Prop :=
  ∀ turns, (targetCategoryIds db.categories turns query.categorySlug query.categoryId).isSome →
    ∃ facets result listed, getFacetedFilters e db turns query = some facets ∧
      searchProducts e db turns query = some result ∧ allPages e db turns query = some listed ∧
      facets.totalMatching = result.pagination.total ∧ Describes facets listed

section Pages

variable {e : Engine} {db : Catalogue} {targets : Option (List CategoryId)} {turns : ℕ}
  {query : ProductSearchServiceInput} {items : List SearchProductItem}

lemma sortItems_perm : (sortItems e query items).Perm items := by
  unfold sortItems
  cases query.sortBy.getD .relevance with
  | relevance =>
    dsimp only
    cases query.q.filter (· ≠ "") with
    | none => exact .refl _
    | some q => exact List.perm_insertionSort _ _
  | priceAsc | priceDesc | ratingDesc | popularity => exact List.perm_insertionSort _ _
  | newest => exact .refl _

/-- The items are the figures of the products that the search finds. -/
lemma foundItems_perm :
    (foundItems e db targets query).Perm ((matching e db targets query).map (toItem e)) := by
  unfold foundItems matching
  refine sortItems_perm.trans ?_
  rw [List.filter_map, ← List.filter_filter]
  exact ((List.perm_insertionSort _ _).filter _).map _

/-- The pages together are the whole list. -/
lemma flatMap_take (l : List SearchProductItem) (n k : ℕ) :
    ((List.range n).flatMap fun i => (l.drop (i * k)).take k) = l.take (n * k) := by
  induction n with
  | zero => simp
  | succ n ih =>
    rw [List.range_succ, List.flatMap_append, ih, List.flatMap_singleton, Nat.succ_mul,
      List.take_add]

/-- There are enough pages. -/
lemma length_le_pages (total : ℕ) (limit : ℕ+) :
    total ≤ max 1 ((total + limit - 1) / limit) * limit := by
  have hpos : 0 < (limit : ℕ) := limit.pos
  have hdiv := Nat.div_add_mod (total + limit - 1) limit
  have hmod := Nat.mod_lt (total + limit - 1) hpos
  calc total ≤ limit * ((total + limit - 1) / limit) := by omega
    _ = (total + limit - 1) / limit * limit := Nat.mul_comm _ _
    _ ≤ max 1 ((total + limit - 1) / limit) * limit :=
      Nat.mul_le_mul_right _ (le_max_right _ _)

lemma searchProducts_eq (h : targetCategoryIds db.categories turns query.categorySlug
    query.categoryId = some targets) (page limit : Option ℕ+) :
    searchProducts e db turns { query with page := page, limit := limit } =
      some (paginate (foundItems e db targets query) (page.getD 1) (limit.getD 20)) := by
  rw [searchProducts, h]
  rfl

/-- Over all pages of a search all items are listed. -/
lemma allPages_eq (h : targetCategoryIds db.categories turns query.categorySlug
    query.categoryId = some targets) :
    allPages e db turns query = some (foundItems e db targets query) := by
  set items := foundItems e db targets query with hitems
  set limit := query.limit.getD 20 with hlimit
  have hpage : ∀ page, searchProducts e db turns { query with page := page } =
      some (paginate items (page.getD 1) limit) := fun page => searchProducts_eq h page query.limit
  set totalPages := max 1 ((items.length + limit - 1) / limit) with htotal
  have hpages : ((List.range totalPages).mapM fun i =>
      searchProducts e db turns { query with page := some i.succPNat }) =
      some ((List.range totalPages).map fun i => paginate items i.succPNat limit) := by
    rw [show (fun i : ℕ => searchProducts e db turns { query with page := some i.succPNat }) =
      fun i => pure (paginate items i.succPNat limit) from funext fun i => hpage _]
    exact List.mapM_pure
  have hfirst : searchProducts e db turns query = some (paginate items (query.page.getD 1) limit) :=
    hpage query.page
  rw [allPages, hfirst]
  show Option.bind (List.mapM _ (List.range totalPages)) _ = _
  rw [hpages, Option.bind_some, List.flatMap_map]
  have hcut : ∀ i, (paginate items i.succPNat limit).items = (items.drop (i * limit)).take limit :=
    fun i => rfl
  simp only [hcut]
  rw [flatMap_take, List.take_of_length_le (length_le_pages items.length limit)]

/-- The facets are built from the first 1000 items. -/
lemma getFacetedFilters_eq (h : targetCategoryIds db.categories turns query.categorySlug
    query.categoryId = some targets) :
    getFacetedFilters e db turns query =
      some (buildFacetedFilters ((foundItems e db targets query).take 1000)) := by
  rw [getFacetedFilters, searchProducts_eq h]
  rfl

/-- If the search ends, the facets agree with it exactly if it finds at most 1000 products. -/
lemma facetsAgree_turns_iff (h : targetCategoryIds db.categories turns query.categorySlug
    query.categoryId = some targets) :
    (∃ facets result listed, getFacetedFilters e db turns query = some facets ∧
      searchProducts e db turns query = some result ∧ allPages e db turns query = some listed ∧
      facets.totalMatching = result.pagination.total ∧ Describes facets listed) ↔
      (matching e db targets query).length ≤ 1000 := by
  have hlength : (matching e db targets query).length = (foundItems e db targets query).length := by
    rw [foundItems_perm.length_eq, List.length_map]
  have hsearch : searchProducts e db turns query =
      some (paginate (foundItems e db targets query) (query.page.getD 1) (query.limit.getD 20)) :=
    searchProducts_eq h query.page query.limit
  rw [hlength]
  constructor
  · rintro ⟨facets, result, -, hfacets, hresult, -, htotal, -⟩
    obtain rfl := Option.some.inj ((getFacetedFilters_eq h).symm.trans hfacets)
    obtain rfl := Option.some.inj (hsearch.symm.trans hresult)
    have hmin : min 1000 (foundItems e db targets query).length =
        (foundItems e db targets query).length := List.length_take.symm.trans htotal
    exact min_eq_right_iff.mp hmin
  · intro hle
    refine ⟨_, _, _, getFacetedFilters_eq h, hsearch, allPages_eq h, ?_⟩
    rw [List.take_of_length_le hle]
    exact ⟨rfl, buildFacetedFilters_describes _⟩

/-- **The facets agree with the search** exactly if the search finds at most 1000 products. -/
theorem facetsAgree_iff (e : Engine) (db : Catalogue) (query : ProductSearchServiceInput) :
    FacetsAgree e db query ↔ ∀ turns targets, targetCategoryIds db.categories turns
      query.categorySlug query.categoryId = some targets →
        (matching e db targets query).length ≤ 1000 := by
  constructor
  · intro h turns targets htargets
    refine (facetsAgree_turns_iff htargets).mp (h turns ?_)
    rw [htargets]
    rfl
  · intro h turns hsome
    obtain ⟨targets, htargets⟩ := Option.isSome_iff_exists.mp hsome
    exact (facetsAgree_turns_iff htargets).mpr (h turns targets htargets)

end Pages

/-- Lamps that are alike, and no categories. -/
def lampShop (lamps : ℕ) : Catalogue where
  categories := ⟨[], by decide, fun _ => 0⟩
  brands := []
  products := (List.range lamps).map fun id =>
    { id := id, name := "Lamp", slug := s!"lamp-{id}", description := none, seoTitle := none
      seoDescription := none, isFeatured := false, status := .active, createdAt := 0, images := []
      category := none, brand := none, variants := [⟨"L", 100, none, .active, some 1⟩]
      reviews := [] }

/-- A search without conditions. -/
def everything : ProductSearchServiceInput where
  q := none
  categoryId := none
  categorySlug := none
  brandId := none
  brandSlug := none
  minPrice := none
  maxPrice := none
  minRating := none
  inStockOnly := none
  isFeatured := none
  sortBy := none
  page := none
  limit := none

lemma length_matching_lampShop (e : Engine) (lamps : ℕ) :
    (matching e (lampShop lamps) none everything).length = lamps := by
  have hall : ∀ product ∈ (lampShop lamps).products, (keepsItem everything (toItem e product) &&
      matchesWhere e none (targetBrandId (lampShop lamps).brands everything) everything
        product) = true := by
    intro product hproduct
    obtain ⟨id, -, rfl⟩ := List.mem_map.mp hproduct
    rfl
  rw [matching, List.filter_eq_self.mpr hall, lampShop, List.length_map, List.length_range]

/-- Among 1001 lamps the facets count 1000. -/
theorem facets_of_many : ¬∀ (e : Engine) (db : Catalogue) (query : ProductSearchServiceInput),
    FacetsAgree e db query := by
  intro h
  have hagree := h ⟨fun _ _ => false, id, fun _ => 0⟩ (lampShop 1001) everything 0 rfl
  have htargets : targetCategoryIds (lampShop 1001).categories 0 everything.categorySlug
      everything.categoryId = some none := rfl
  have hle := (facetsAgree_turns_iff htargets).mp hagree
  rw [length_matching_lampShop] at hle
  omega

end MeeoServer.Search
