/-
# The search for products

`searchProducts` of `search/services/search.service.ts`: the condition that the database checks,
the figures of each product, the conditions that are checked on the figures, the order, and the
page.  The expansion of a category is in `Search/Categories`, and has a number of turns.

Prices are what `Number` makes of a decimal column.  Rows of equal age come in the order of the
table.
-/
import MeeoServer.Search.Categories
import MeeoServer.Storefront.Tables
import MeeoServer.Text.JsString
import Mathlib.Data.List.Sort
import Mathlib.Data.PNat.Notation
import Mathlib.Data.Rat.Cast.Order

namespace MeeoServer.Search

open Catalog hiding ProductStatus
open Storefront (ProductStatus)

/-! ## The tables -/

abbrev BrandId := String

/-- A brand or a category, as a product names it. -/
structure Label (ι : Type) where
  id : ι
  name : String
  slug : String
deriving DecidableEq

structure Image where
  url : String
  sortOrder : ℕ
deriving DecidableEq

structure Variant where
  sku : String
  price : ℚ
  compareAtPrice : Option ℚ
  status : ProductStatus
  inventory : Option ℤ
deriving DecidableEq

inductive ReviewStatus where
  | pending | approved | rejected
deriving DecidableEq

structure Review where
  status : ReviewStatus
  rating : ℕ
deriving DecidableEq

structure Product where
  id : ProductId
  name : String
  slug : String
  description : Option String
  seoTitle : Option String
  seoDescription : Option String
  isFeatured : Bool
  status : ProductStatus
  createdAt : ℕ
  images : List Image
  category : Option (Label CategoryId)
  brand : Option (Label BrandId)
  variants : List Variant
  reviews : List Review
deriving DecidableEq

structure Catalogue where
  categories : Categories.Tables
  brands : List (Label BrandId)
  products : List Product

/-- What the database and the floating-point numbers do: `contains` with `mode: "insensitive"`,
`toLowerCase`, and the mean of ratings to one decimal. -/
structure Engine where
  contains : String → String → Bool
  toLowerCase : String → String
  averageRating : List ℕ → ℚ

/-! ## The query -/

inductive SortBy where
  | relevance | priceAsc | priceDesc | newest | ratingDesc | popularity
deriving DecidableEq

structure ProductSearchServiceInput where
  q : Option String
  categoryId : Option CategoryId
  categorySlug : Option String
  brandId : Option BrandId
  brandSlug : Option String
  minPrice : Option ℚ
  maxPrice : Option ℚ
  minRating : Option ℕ
  inStockOnly : Option Bool
  isFeatured : Option Bool
  sortBy : Option SortBy
  page : Option ℕ+
  limit : Option ℕ+
deriving DecidableEq

/-- The brand that `searchProducts` looks for; an unknown slug becomes an identifier that no brand
has. -/
def targetBrandId (brands : List (Label BrandId)) (query : ProductSearchServiceInput) :
    Option BrandId :=
  match query.brandSlug.filter (· ≠ "") with
  | some slug =>
    match brands.find? (·.slug = slug) with
    | some brand => some brand.id
    | none => some "00000000-0000-0000-0000-000000000000"
  | none => query.brandId

/-- The text that is looked for, if it is not blank. -/
def searchTerm (query : ProductSearchServiceInput) : Option String :=
  (query.q.map fun q => String.ofList (JsString.trim q.toList)).filter (· ≠ "")

/-- The alternatives of `where.OR`. -/
def matchesText (e : Engine) (term : String) (product : Product) : Bool :=
  e.contains product.name term ||
    product.description.any (e.contains · term) ||
    product.seoTitle.any (e.contains · term) ||
    product.seoDescription.any (e.contains · term) ||
    product.brand.any (fun brand => e.contains brand.name term) ||
    product.category.any (fun category => e.contains category.name term) ||
    product.variants.any fun variant => e.contains variant.sku term

/-- `variantWhere` -/
def matchesVariant (query : ProductSearchServiceInput) (variant : Variant) : Bool :=
  variant.status = .active &&
    query.minPrice.all (fun minPrice => minPrice ≤ variant.price) &&
    query.maxPrice.all (fun maxPrice => variant.price ≤ maxPrice) &&
    (query.inStockOnly ≠ some true || variant.inventory.any (0 < ·))

/-- `where` -/
def matchesWhere (e : Engine) (targetCategoryIds : Option (List CategoryId))
    (targetBrandId : Option BrandId) (query : ProductSearchServiceInput) (product : Product) :
    Bool :=
  product.status = .active &&
    targetCategoryIds.all (fun ids => product.category.any fun category => category.id ∈ ids) &&
    targetBrandId.all (fun id => product.brand.any fun brand => brand.id = id) &&
    query.isFeatured.all (fun isFeatured => product.isFeatured = isFeatured) &&
    (searchTerm query).all (fun term => matchesText e term product) &&
    product.variants.any (matchesVariant query)

/-! ## The items -/

structure SearchProductItem where
  id : ProductId
  name : String
  slug : String
  description : Option String
  isFeatured : Bool
  thumbnail : Option String
  category : Option (Label CategoryId)
  brand : Option (Label BrandId)
  startingPrice : ℚ
  maxPrice : ℚ
  compareAtPrice : Option ℚ
  totalStock : ℤ
  inStock : Bool
  averageRating : ℚ
  reviewCount : ℕ
  createdAt : ℕ
deriving DecidableEq

/-- The figures of a product. -/
def toItem (e : Engine) (p : Product) : SearchProductItem :=
  let activeVariants := p.variants.filter (·.status = .active)
  let prices := activeVariants.map Variant.price
  let comparePrices := activeVariants.filterMap Variant.compareAtPrice
  let totalStock := (activeVariants.map fun v => v.inventory.getD 0).sum
  let ratings := (p.reviews.filter (·.status = .approved)).map Review.rating
  { id := p.id
    name := p.name
    slug := p.slug
    description := p.description
    isFeatured := p.isFeatured
    thumbnail := ((p.images.insertionSort fun a b => a.sortOrder ≤ b.sortOrder).head?).map Image.url
    category := p.category
    brand := p.brand
    startingPrice := prices.min?.getD 0
    maxPrice := prices.max?.getD 0
    compareAtPrice := comparePrices.max?
    totalStock := totalStock
    inStock := 0 < totalStock
    averageRating := if 0 < ratings.length then e.averageRating ratings else 0
    reviewCount := ratings.length
    createdAt := p.createdAt }

/-- The conditions that are checked on the figures. -/
def keepsItem (query : ProductSearchServiceInput) (item : SearchProductItem) : Bool :=
  (query.inStockOnly ≠ some true || item.inStock) &&
    query.minRating.all fun minRating => minRating ≤ item.averageRating

/-- Is the name what is looked for, or does it begin with it? -/
def exactness (e : Engine) (lowerQ : String) (item : SearchProductItem) : ℕ :=
  let name := e.toLowerCase item.name
  if name = lowerQ then 2 else if name.startsWith lowerQ then 1 else 0

/-- The order of the items; `sort` is stable. -/
def sortItems (e : Engine) (query : ProductSearchServiceInput) (items : List SearchProductItem) :
    List SearchProductItem :=
  match query.sortBy.getD .relevance with
  | .priceAsc => items.insertionSort fun a b => a.startingPrice ≤ b.startingPrice
  | .priceDesc => items.insertionSort fun a b => b.startingPrice ≤ a.startingPrice
  | .ratingDesc => items.insertionSort fun a b => b.averageRating < a.averageRating ∨
      b.averageRating = a.averageRating ∧ b.reviewCount ≤ a.reviewCount
  | .popularity => items.insertionSort fun a b => b.reviewCount ≤ a.reviewCount
  | .relevance =>
    match query.q.filter (· ≠ "") with
    | some q =>
      let lowerQ := e.toLowerCase q
      items.insertionSort fun a b => exactness e lowerQ b ≤ exactness e lowerQ a
    | none => items
  | .newest => items

structure Pagination where
  page : ℕ
  limit : ℕ
  total : ℕ
  totalPages : ℕ
  hasNextPage : Bool
  hasPrevPage : Bool
deriving DecidableEq

structure SearchResult where
  items : List SearchProductItem
  pagination : Pagination
deriving DecidableEq

/-- All items of a search, before they are cut into pages. -/
def foundItems (e : Engine) (db : Catalogue) (targetCategoryIds : Option (List CategoryId))
    (query : ProductSearchServiceInput) : List SearchProductItem :=
  let rawProducts := (db.products.filter
    (matchesWhere e targetCategoryIds (targetBrandId db.brands query) query)).insertionSort
      fun a b => b.createdAt ≤ a.createdAt
  sortItems e query ((rawProducts.map (toItem e)).filter (keepsItem query))

/-- The page of a list of items. -/
def paginate (items : List SearchProductItem) (page limit : ℕ+) : SearchResult :=
  let total := items.length
  let totalPages := max 1 ((total + limit - 1) / limit)
  { items := (items.drop ((page - 1) * limit)).take limit
    pagination := ⟨page, limit, total, totalPages, page < totalPages, 1 < (page : ℕ)⟩ }

/-- Executes multi-field product search, with so many turns for the categories. -/
def searchProducts (e : Engine) (db : Catalogue) (turns : ℕ)
    (query : ProductSearchServiceInput) : Option SearchResult := do
  let targetCategoryIds ← targetCategoryIds db.categories turns query.categorySlug
    query.categoryId
  let items := foundItems e db targetCategoryIds query
  some (paginate items (query.page.getD 1) (query.limit.getD 20))

end MeeoServer.Search
