/-
# The cache of product details

`common/cache/cache.service.ts`, as far as `getProductById` and `getProductBySlug` of
`catalog/services/productQuery.service.ts` use it, with the operations that change the details of
a product: `updateProduct`, `publishProduct`, `draftProduct` and `archiveProduct` of
`catalog/services/product.service.ts`, and `updateVariant` of
`catalog/services/productVariant.service.ts`.

The details of a product are cached under its identifier and under its slug, in the memory of the
process and in Redis, for an hour.  What is written to Redis is not waited for.  A program passes
the numbers of its own changes on to the statements that clear the cache for them.
-/
import MeeoServer.Catalog.Variants
import MeeoServer.Process.Lookaside
import MeeoServer.Table.Updates

namespace MeeoServer.Catalog.ProductCache

open Proc
open ContextCache (AuthorizationContext)

abbrev CategoryId := ℕ
abbrev BrandId := ℕ

/-- In hundredths. -/
abbrev Price := ℕ

/-! ## The tables -/

structure ProductRow where
  id : ProductId
  name : String
  slug : String
  status : ProductStatus
  categoryId : Option CategoryId
  brandId : Option BrandId
  createdById : Option UserId

structure VariantRow where
  id : VariantId
  productId : ProductId
  sku : String
  price : Price
  compareAtPrice : Option Price
  status : ProductStatus

structure Tables where
  products : List ProductRow
  variants : List VariantRow
  categories : List CategoryId
  brands : List BrandId

/-- `CACHE_KEYS.PRODUCT` -/
inductive CacheKey where
  | byId (id : ProductId)
  | bySlug (slug : String)
deriving DecidableEq

structure VariantDetails where
  id : VariantId
  sku : String
  price : Price
  compareAtPrice : Option Price
  status : ProductStatus
deriving DecidableEq

/-- `productDetailsSelect` -/
structure ProductDetails where
  id : ProductId
  name : String
  slug : String
  status : ProductStatus
  variants : List VariantDetails
deriving DecidableEq

namespace Tables

variable (db : Tables)

def findById (id : ProductId) : Option ProductRow := db.products.find? fun row => row.id = id

def findBySlug (slug : String) : Option ProductRow := db.products.find? fun row => row.slug = slug

def find : CacheKey → Option ProductRow
  | .byId id => db.findById id
  | .bySlug slug => db.findBySlug slug

def variantDetails (row : VariantRow) : VariantDetails :=
  ⟨row.id, row.sku, row.price, row.compareAtPrice, row.status⟩

def productDetails (row : ProductRow) : ProductDetails where
  id := row.id
  name := row.name
  slug := row.slug
  status := row.status
  variants := (db.variants.filter fun v => v.productId = row.id).map variantDetails

/-- What a reader finds under a key. -/
def details (key : CacheKey) : Option ProductDetails := (db.find key).map db.productDetails

/-- The keys that something can be found under. -/
def keys : List CacheKey := db.products.flatMap fun row => [.byId row.id, .bySlug row.slug]

end Tables

/-! ## Changes -/

/-- The columns of an update; a column that is missing keeps its value. -/
structure ProductData where
  slug : Option String
  name : Option String
  status : Option ProductStatus
  categoryId : Option (Option CategoryId)
  brandId : Option (Option BrandId)
deriving DecidableEq

structure VariantData where
  sku : Option String
  price : Option Price
  compareAtPrice : Option (Option Price)
  status : Option ProductStatus
deriving DecidableEq

def ProductData.update (data : ProductData) (row : ProductRow) : ProductRow where
  id := row.id
  name := data.name.getD row.name
  slug := data.slug.getD row.slug
  status := data.status.getD row.status
  categoryId := data.categoryId.getD row.categoryId
  brandId := data.brandId.getD row.brandId
  createdById := row.createdById

def VariantData.update (data : VariantData) (row : VariantRow) : VariantRow where
  id := row.id
  productId := row.productId
  sku := data.sku.getD row.sku
  price := data.price.getD row.price
  compareAtPrice := data.compareAtPrice.getD row.compareAtPrice
  status := data.status.getD row.status

inductive Change where
  | updateProduct (id : ProductId) (data : ProductData)
  | updateVariant (id : VariantId) (data : VariantData)
  /-- `updateMany` with the condition that the product is ACTIVE. -/
  | draftIfActive (id : ProductId)
deriving DecidableEq

/-- The rows that an `updateMany` changes. -/
def Change.affected (db : Tables) : Change → ℕ
  | draftIfActive id => db.products.countP fun row => row.id = id ∧ row.status = .active
  | _ => 1

/-- An update fails without its row, and if it would give two rows the same slug or SKU. -/
def Change.apply (db : Tables) : Change → Option Tables
  | updateProduct id data =>
    if (db.products.any fun row => row.id = id) ∧
        ∀ row ∈ db.products, row.id ≠ id → data.slug ≠ some row.slug then
      some { db with
        products := Table.updateWhere (fun row => row.id = id) data.update db.products }
    else none
  | updateVariant id data =>
    if (db.variants.any fun row => row.id = id) ∧
        ∀ row ∈ db.variants, row.id ≠ id → data.sku ≠ some row.sku then
      some { db with
        variants := Table.updateWhere (fun row => row.id = id) data.update db.variants }
    else none
  | draftIfActive id =>
    some { db with
      products := Table.updateWhere (fun row => row.id = id ∧ row.status = .active)
        (fun row => { row with status := .draft }) db.products }

/-! ## The server -/

inductive CacheLevel where
  | memory
  | redis
deriving DecidableEq

structure Store extends Lookaside.Store Tables CacheLevel CacheKey ProductDetails where
  /-- The rows that the last change has changed. -/
  affected : ℕ

inductive Commit where
  | change (change : Change)
  /-- Ask a level for a key; the memory forgets an entry that has expired. -/
  | lookup (level : CacheLevel) (key : CacheKey)
  | memorySet (key : CacheKey) (value : ProductDetails) (expiresAt : ℕ)
  | redisSet (key : CacheKey) (value : ProductDetails) (ttlSeconds : ℕ)
  /-- Delete some keys of a level, after the changes `vs`. -/
  | delete (level : CacheLevel) (keys : List CacheKey) (vs : List ℕ)
  /-- The operation that made the change `v` returns; if `cleared`, it has deleted the keys on both
  levels. -/
  | settle (v : ℕ) (keys : List CacheKey) (cleared : Bool)
  | answer (a : Lookaside.Answer CacheKey ProductDetails)
deriving DecidableEq

def Commit.apply (c : Commit) (s : Store) : Option Store :=
  match c with
  | .change c => (c.apply s.db).map fun db => ⟨s.record db, c.affected s.db⟩
  | lookup .memory key => some ⟨(s.toStore.lookup .memory key).forget .memory key, s.affected⟩
  | lookup .redis key => some ⟨s.toStore.lookup .redis key, s.affected⟩
  | memorySet key value expiresAt => some ⟨s.put .memory key value expiresAt, s.affected⟩
  | redisSet key value ttlSeconds =>
    some ⟨s.put .redis key value (s.clock + ttlSeconds * 1000), s.affected⟩
  | delete level keys vs => some ⟨s.clear level keys vs, s.affected⟩
  | settle v _ _ =>
    if hv : v ≤ s.history.version then some ⟨s.toStore.settle v hv, s.affected⟩ else none
  | answer a => some ⟨s.toStore.answer a, s.affected⟩

abbrev Service (α : Type) := Proc Store Commit AppError α

/-! ## Readers -/

def ONE_HOUR : ℕ := 3600

/-- The Redis part of `get`; what is found is copied to the memory for 60 seconds. -/
def getRedis (key : CacheKey) (now : ℕ) : Service (Option ProductDetails) := do
  let s ← Proc.commit (.lookup .redis key)
  match s.live .redis key with
  | none => pure none
  | some parsed => do
    let _ ← Proc.commit (.memorySet key parsed (now + 60000))
    pure (some parsed)

/-- Retrieves a cached item. Checks L1 in-memory cache first (in non-test env), then L2 Redis. -/
def get (isTest : Bool) (key : CacheKey) : Service (Option ProductDetails) := do
  if isTest then
    let s ← Proc.read
    Proc.tryCatch (getRedis key s.clock) fun _ => pure none
  else
    let s ← Proc.commit (.lookup .memory key)
    match s.live .memory key with
    | some mem => pure (some mem)
    | none => Proc.tryCatch (getRedis key s.clock) fun _ => pure none

/-- The answer of a reader that started on the store `start`. -/
def answerOf (start : Store) (key : CacheKey) (value : ProductDetails) :
    Lookaside.Answer CacheKey ProductDetails :=
  ⟨key, value, start.history.version, start.history.settled⟩

/-- `getOrSet` with the query for the details of a product. -/
def getProduct (isTest : Bool) (key : CacheKey) : Service Unit := do
  let start ← Proc.read
  match ← get isTest key with
  | some cached => do
    let _ ← Proc.commit (.answer (answerOf start key cached))
    pure ()
  | none => do
    let s ← Proc.read
    match s.db.details key with
    | none => throw ⟨"Product not found", 404⟩
    | some product => do
      let s ← Proc.read
      let _ ← Proc.commit (.memorySet key product (s.clock + ONE_HOUR * 1000))
      let _ ← Proc.commit (.answer (answerOf start key product))
      -- asynchronously attempt to set the cache
      Proc.attempt (.redisSet key product ONE_HOUR)

def getProductById (isTest : Bool) (id : ProductId) : Service Unit := getProduct isTest (.byId id)

def getProductBySlug (isTest : Bool) (slug : String) : Service Unit :=
  getProduct isTest (.bySlug slug)

/-! ## Operations -/

/-- The keys of a product; an empty slug has none. -/
def productKeys (id : ProductId) (slug : String) : List CacheKey :=
  .byId id :: if slug = "" then [] else [.bySlug slug]

/-- The Redis part of `del`. -/
def delRedis (vs : List ℕ) (key : CacheKey) : Service Unit := do
  let _ ← Proc.commit (.delete .redis [key] vs)
  pure ()

/-- Each `del` clears the memory before it waits for Redis, and swallows the exceptions of Redis. -/
def invalidateProductCache (id : ProductId) (slug : String) (vs : List ℕ) : Service Bool := do
  let _ ← Proc.commit (.delete .memory (productKeys id slug) vs)
  Proc.tryAll (delRedis vs) (productKeys id slug)

/-- The operation that made the change `v` returns. -/
def returnFrom (v : ℕ) (keys : List CacheKey) (cleared : Bool) : Service Unit := do
  let _ ← Proc.commit (.settle v keys cleared)
  pure ()

/-- The product that an operation is about, if the user may change it. -/
def existingProduct (id : ProductId) (user : Option AuthorizationContext) :
    Service ProductRow := do
  let s ← Proc.read
  match s.db.findById id with
  | none => throw ⟨"Product not found", 404⟩
  | some existing => do
    Proc.done (verifyCatalogOwnershipOrPermission existing.createdById user "product:update")
    pure existing

/-- What `publishProduct`, `draftProduct` and `archiveProduct` have in common. -/
def setStatus (status : ProductStatus) (id : ProductId) (user : Option AuthorizationContext) :
    Service Unit := do
  let existing ← existingProduct id user
  let t ← Proc.commit (.change (.updateProduct id ⟨none, none, some status, none, none⟩))
  let v := t.history.version
  let cleared ← invalidateProductCache id existing.slug [v]
  returnFrom v (productKeys id existing.slug) cleared

/-- Publishes a product (transitions status to ACTIVE). -/
def publishProduct : ProductId → Option AuthorizationContext → Service Unit := setStatus .active

/-- Moves a product to DRAFT status. -/
def draftProduct : ProductId → Option AuthorizationContext → Service Unit := setStatus .draft

/-- Moves a product to ARCHIVED status. -/
def archiveProduct : ProductId → Option AuthorizationContext → Service Unit := setStatus .archived

structure UpdateProductInput where
  name : Option String
  slug : Option String
  status : Option ProductStatus
  categoryId : Option (Option CategoryId)
  brandId : Option (Option BrandId)
deriving DecidableEq

/-- A text that is there and not empty. -/
def given (text : Option String) : Option String := text.filter (· ≠ "")

/-- The slug that is asked for, if it is another one. -/
def candidateSlug (slugify : String → String) (existing : ProductRow) (input : UpdateProductInput) :
    Option String :=
  let candidate :=
    match given input.slug with
    | some slug => some slug
    | none => ((given input.name).filter (· ≠ existing.name)).map slugify
  candidate.filter (· ≠ existing.slug)

/-- The slug that the product will have. -/
def resolveSlug (slugify : String → String) (existing : ProductRow) (input : UpdateProductInput) :
    Service String :=
  match candidateSlug slugify existing input with
  | none => pure existing.slug
  | some candidate => do
    let s ← Proc.read
    match (s.db.findBySlug candidate).filter fun row => row.id ≠ existing.id with
    | some _ => throw ⟨s!"A product with slug '{candidate}' already exists", 409⟩
    | none => pure candidate

/-- A category or a brand that is asked for, and that the product does not have, must exist. -/
def checkExists (rows : Tables → List ℕ) (current : Option ℕ) (asked : Option (Option ℕ))
    (message : String) : Service Unit :=
  match asked.join.filter fun id => some id ≠ current with
  | none => pure ()
  | some id => do
    let s ← Proc.read
    if id ∈ rows s.db then pure () else throw ⟨message, 404⟩

/-- Updates an existing product's details. -/
def updateProduct (slugify : String → String) (id : ProductId) (input : UpdateProductInput)
    (user : Option AuthorizationContext) : Service Unit := do
  let existing ← existingProduct id user
  let slug ← resolveSlug slugify existing input
  checkExists Tables.categories existing.categoryId input.categoryId "Category not found"
  checkExists Tables.brands existing.brandId input.brandId "Brand not found"
  let t ← Proc.commit (.change (.updateProduct id
    ⟨some slug, input.name, input.status, input.categoryId, input.brandId⟩))
  let v := t.history.version
  let cleared ← invalidateProductCache id existing.slug [v]
  if slug ≠ existing.slug then do
    let cleared' ← invalidateProductCache id slug [v]
    returnFrom v (productKeys id existing.slug ++ productKeys id slug) (cleared && cleared')
  else returnFrom v (productKeys id existing.slug) cleared

/-- If the product is currently ACTIVE, revert it to DRAFT and invalidate its cache; then the
update of the variant, which is the change `v`, returns. -/
def draftProductIfActive (productId : ProductId) (productSlug : String) (v : ℕ) :
    Service Unit := do
  let t ← Proc.commit (.change (.draftIfActive productId))
  let w := t.history.version
  if 0 < t.affected then do
    let keys := productKeys productId productSlug
    let cleared ← invalidateProductCache productId productSlug [v, w]
    returnFrom v keys cleared
    returnFrom w keys cleared
  else do
    returnFrom v [] false
    returnFrom w [] false

/-- The variant with its product. -/
def Tables.variantWithProduct (db : Tables) (variantId : VariantId) :
    Option (VariantRow × ProductRow) :=
  (db.variants.find? fun row => row.id = variantId).bind fun variant =>
    (db.findById variant.productId).map fun product => (variant, product)

/-- A SKU that is asked for, and that the variant does not have, must be free. -/
def checkSku (variant : VariantRow) (asked : Option String) : Service Unit :=
  match (given asked).filter (· ≠ variant.sku) with
  | none => pure ()
  | some sku => do
    let s ← Proc.read
    let existingSku := s.db.variants.find? fun row => row.sku = sku
    match existingSku.filter fun row => row.id ≠ variant.id with
    | some _ => throw ⟨s!"A product variant with SKU '{sku}' already exists", 409⟩
    | none => pure ()

/-- Updates an existing product variant. -/
def updateVariant (variantId : VariantId) (input : VariantData)
    (user : Option AuthorizationContext) : Service Unit := do
  let s ← Proc.read
  match s.db.variantWithProduct variantId with
  | none => throw ⟨"Product variant not found", 404⟩
  | some (variant, product) => do
    Proc.done (verifyCatalogOwnershipOrPermission product.createdById user "product:update")
    checkSku variant input.sku
    let t ← Proc.commit (.change (.updateVariant variantId input))
    -- changing a variant on an ACTIVE product requires re-publishing
    draftProductIfActive product.id product.slug t.history.version

/-! ## All together -/

inductive Call where
  | getProductById (id : ProductId)
  | getProductBySlug (slug : String)
  | updateProduct (id : ProductId) (input : UpdateProductInput) (user : Option AuthorizationContext)
  | publishProduct (id : ProductId) (user : Option AuthorizationContext)
  | draftProduct (id : ProductId) (user : Option AuthorizationContext)
  | archiveProduct (id : ProductId) (user : Option AuthorizationContext)
  | updateVariant (id : VariantId) (input : VariantData) (user : Option AuthorizationContext)

/-- One process with its memory, its Redis and the database; besides, time passes. -/
def catalogServer (slugify : String → String) (isTest : Bool) :
    Machine Store Commit AppError Call ℕ where
  apply := Commit.apply
  proc
    | .getProductById id => ProductCache.getProductById isTest id
    | .getProductBySlug slug => ProductCache.getProductBySlug isTest slug
    | .updateProduct id input user => ProductCache.updateProduct slugify id input user
    | .publishProduct id user => ProductCache.publishProduct id user
    | .draftProduct id user => ProductCache.draftProduct id user
    | .archiveProduct id user => ProductCache.archiveProduct id user
    | .updateVariant id input user => ProductCache.updateVariant id input user
  environ elapsed s := ⟨s.tick elapsed, s.affected⟩

/-- A server that has just been started on the tables `db`. -/
def Store.start (clock : ℕ) (db : Tables) : Store := ⟨Lookaside.Store.start clock db, 0⟩

end MeeoServer.Catalog.ProductCache
