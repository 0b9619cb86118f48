/-
# Products that are listed

The life cycle of a product, in two columns: `status` and `deletedAt`.  A search lists the
products that are ACTIVE (`search/services/search.service.ts`), and a checkout wants them not to be
deleted besides (`orders/services/orderValidation.service.ts`).

Six operations write the columns: `createProduct`, `updateProduct`, `publishProduct`,
`draftProduct` and `archiveProduct` of `catalog/services/product.service.ts`, and
`draftProductIfActive` of `catalog/services/productVariant.service.ts`, after a change of variants.
Left out are the caches, which are in `Catalog/Coherence`, and the columns that neither a checkout
nor one of these operations reads.
-/
import MeeoServer.Catalog.Variants
import MeeoServer.Storefront.Validation
import MeeoServer.Table.Updates

namespace MeeoServer.Listing

open Proc
open ContextCache (AuthorizationContext)
open Catalog (verifyCatalogOwnershipOrPermission)
open Storefront (ProductStatus)

/-! ## The tables -/

structure ProductRow extends Storefront.Product where
  slug : String
  isFeatured : Bool
  createdById : Option UserId
deriving DecidableEq

structure Store where
  clock : Millis
  products : List ProductRow
  categories : List CategoryId
  brands : List BrandId

def Store.findById (s : Store) (id : ProductId) : Option ProductRow :=
  s.products.find? fun row => row.id = id

def Store.findBySlug (s : Store) (slug : String) : Option ProductRow :=
  s.products.find? fun row => row.slug = slug

/-- The columns of an update; a column that is missing keeps its value. -/
structure ProductData where
  slug : Option String
  name : Option String
  categoryId : Option (Option CategoryId)
  brandId : Option (Option BrandId)
  status : Option ProductStatus
  isFeatured : Option Bool
  taxRate : Option ℚ≥0
  hsnCode : Option (Option String)
  deletedAt : Option (Option Millis)
deriving DecidableEq

def ProductData.update (data : ProductData) (row : ProductRow) : ProductRow where
  id := row.id
  slug := data.slug.getD row.slug
  name := data.name.getD row.name
  categoryId := data.categoryId.getD row.categoryId
  brandId := data.brandId.getD row.brandId
  status := data.status.getD row.status
  isFeatured := data.isFeatured.getD row.isFeatured
  taxRate := data.taxRate.getD row.taxRate
  hsnCode := data.hsnCode.getD row.hsnCode
  deletedAt := data.deletedAt.getD row.deletedAt
  createdById := row.createdById

inductive Commit where
  | create (row : ProductRow)
  | update (id : ProductId) (data : ProductData)
  /-- `updateMany` with the condition that the product is ACTIVE. -/
  | draftIfActive (id : ProductId)
deriving DecidableEq

/-- A statement fails without its row, and if it would give two rows the same identifier or
slug. -/
def Commit.apply (c : Commit) (s : Store) : Option Store :=
  match c with
  | create row =>
    if s.products.any fun other => other.id = row.id ∨ other.slug = row.slug then none
    else some { s with products := s.products ++ [row] }
  | update id data =>
    if (s.products.any fun row => row.id = id) ∧
        ∀ row ∈ s.products, row.id ≠ id → data.slug ≠ some row.slug then
      some { s with products := Table.updateWhere (fun row => row.id = id) data.update s.products }
    else none
  | draftIfActive id =>
    some { s with
      products := Table.updateWhere (fun row => row.id = id ∧ row.status = .active)
        (fun row => { row with status := .draft }) s.products }

abbrev Service (α : Type) := Proc Store Commit AppError α

/-! ## The operations -/

/-- A column `Decimal(5, 2)`. -/
def storedRate (rate : ℚ≥0) : ℚ≥0 := (fixedTwo rate).toNNRat

structure CreateProductInput where
  name : String
  slug : Option String
  categoryId : Option CategoryId
  brandId : Option BrandId
  status : ProductStatus
  isFeatured : Bool
  taxRate : Option ℚ≥0
  hsnCode : Option String
deriving DecidableEq

structure UpdateProductInput where
  name : Option String
  slug : Option String
  categoryId : Option (Option CategoryId)
  brandId : Option (Option BrandId)
  status : Option ProductStatus
  isFeatured : Option Bool
  taxRate : Option ℚ≥0
  hsnCode : Option (Option String)
deriving DecidableEq

/-- A text that is there and not empty. -/
def given (text : Option String) : Option String := text.filter (· ≠ "")

/-- A category or a brand that is asked for must exist. -/
def checkExists (rows : Store → List ℕ) (message : String) : Option ℕ → Service Unit
  | none => pure ()
  | some id => do
    let s ← Proc.read
    if id ∈ rows s then pure () else throw ⟨message, 404⟩

/-- Creates a new product, defaulting to DRAFT status; the database draws its identifier, and the
tax rate is 18 if the input has none. -/
def createProduct (slugify : String → String) (input : CreateProductInput)
    (creatorId : Option UserId) (id : ProductId) : Service Unit := do
  let slug := (given input.slug).getD (slugify input.name)
  if slug = "" then
    throw ⟨"Product name must contain valid alphanumeric characters for slug generation", 400⟩
  else do
    let s ← Proc.read
    match s.findBySlug slug with
    | some _ => throw ⟨s!"A product with slug '{slug}' already exists", 409⟩
    | none => do
      checkExists Store.categories "Category not found" input.categoryId
      checkExists Store.brands "Brand not found" input.brandId
      let _ ← Proc.commit (.create {
        id := id
        slug := slug
        name := input.name
        categoryId := input.categoryId
        brandId := input.brandId
        status := input.status
        isFeatured := input.isFeatured
        taxRate := (input.taxRate.map storedRate).getD ((18 : ℕ) : ℚ≥0)
        hsnCode := input.hsnCode
        deletedAt := none
        createdById := creatorId })
      pure ()

/-- The product that an operation is about, if the user may change it. -/
def existingProduct (id : ProductId) (user : Option AuthorizationContext) :
    Service ProductRow := do
  let s ← Proc.read
  match s.findById id with
  | none => throw ⟨"Product not found", 404⟩
  | some existing => do
    Proc.done (verifyCatalogOwnershipOrPermission existing.createdById user "product:update")
    pure existing

/-- The slug that the product will have. -/
def resolveSlug (slugify : String → String) (existing : ProductRow) (input : UpdateProductInput) :
    Service String :=
  let candidate :=
    match given input.slug with
    | some slug => some slug
    | none => ((given input.name).filter (· ≠ existing.name)).map slugify
  match candidate.filter (· ≠ existing.slug) with
  | none => pure existing.slug
  | some candidate => do
    let s ← Proc.read
    match (s.findBySlug candidate).filter fun row => row.id ≠ existing.id with
    | some _ => throw ⟨s!"A product with slug '{candidate}' already exists", 409⟩
    | none => pure candidate

/-- Updates an existing product's details; `deletedAt` is not among them. -/
def updateProduct (slugify : String → String) (id : ProductId) (input : UpdateProductInput)
    (user : Option AuthorizationContext) : Service Unit := do
  let existing ← existingProduct id user
  let slug ← resolveSlug slugify existing input
  checkExists Store.categories "Category not found"
    (input.categoryId.join.filter fun id => some id ≠ existing.categoryId)
  checkExists Store.brands "Brand not found"
    (input.brandId.join.filter fun id => some id ≠ existing.brandId)
  let _ ← Proc.commit (.update id {
    slug := some slug
    name := input.name
    categoryId := input.categoryId
    brandId := input.brandId
    status := input.status
    isFeatured := input.isFeatured
    taxRate := input.taxRate.map storedRate
    hsnCode := input.hsnCode
    deletedAt := none })
  pure ()

/-- What `publishProduct`, `draftProduct` and `archiveProduct` have in common: they write the
status, and some of them `deletedAt`. -/
def setStatus (status : ProductStatus) (deletedAt : Millis → Option (Option Millis))
    (id : ProductId) (user : Option AuthorizationContext) : Service Unit := do
  let _ ← existingProduct id user
  let s ← Proc.read
  let _ ← Proc.commit (.update id
    ⟨none, none, none, none, some status, none, none, none, deletedAt s.clock⟩)
  pure ()

/-- Publishes a product (transitions status to ACTIVE). -/
def publishProduct : ProductId → Option AuthorizationContext → Service Unit :=
  setStatus .active fun _ => some none

/-- Moves a product to DRAFT status. -/
def draftProduct : ProductId → Option AuthorizationContext → Service Unit :=
  setStatus .draft fun _ => none

/-- Moves a product to ARCHIVED status. -/
def archiveProduct : ProductId → Option AuthorizationContext → Service Unit :=
  setStatus .archived fun now => some (some now)

/-- If the product is currently ACTIVE, revert it to DRAFT. -/
def draftProductIfActive (productId : ProductId) : Service Unit := do
  let _ ← Proc.commit (.draftIfActive productId)
  pure ()

inductive Call where
  | createProduct (input : CreateProductInput) (creatorId : Option UserId) (id : ProductId)
  | updateProduct (id : ProductId) (input : UpdateProductInput)
      (user : Option AuthorizationContext)
  | publishProduct (id : ProductId) (user : Option AuthorizationContext)
  | draftProduct (id : ProductId) (user : Option AuthorizationContext)
  | archiveProduct (id : ProductId) (user : Option AuthorizationContext)
  /-- The end of an operation on the variants of a product. -/
  | draftProductIfActive (productId : ProductId)

/-- What happens besides: time passes, categories and brands come and go, and products are
deleted for good. -/
inductive Outside where
  | tick (elapsed : ℕ)
  | categories (rows : List CategoryId)
  | brands (rows : List BrandId)
  | deleteProduct (id : ProductId)

def Outside.apply (s : Store) : Outside → Store
  | tick elapsed => { s with clock := s.clock + elapsed }
  | categories rows => { s with categories := rows }
  | brands rows => { s with brands := rows }
  | deleteProduct id => { s with products := s.products.filter fun row => row.id ≠ id }

def productService (slugify : String → String) : Machine Store Commit AppError Call Outside where
  apply := Commit.apply
  proc
    | .createProduct input creatorId id => Listing.createProduct slugify input creatorId id
    | .updateProduct id input user => Listing.updateProduct slugify id input user
    | .publishProduct id user => Listing.publishProduct id user
    | .draftProduct id user => Listing.draftProduct id user
    | .archiveProduct id user => Listing.archiveProduct id user
    | .draftProductIfActive productId => Listing.draftProductIfActive productId
  environ e s := e.apply s

/-! ## Listed and purchasable -/

/-- The condition of a search; `filters` is what it asks for besides the status. -/
def searchProducts (filters : ProductRow → Bool) (s : Store) : List ProductRow :=
  s.products.filter fun row => row.status = .active && filters row

/-- The condition of a checkout. -/
def Purchasable (product : Storefront.Product) : Prop :=
  ¬(product.status ≠ .active ∨ product.deletedAt.isSome)

instance (product : Storefront.Product) : Decidable (Purchasable product) := by
  unfold Purchasable
  infer_instance

/-- An item of a cart is accepted if its product is purchasable, its variant is active and in
stock, and its tax can be resolved. -/
theorem validateCartItem_of_purchasable {tables : Storefront.Tables} {now : Millis}
    {item : Storefront.CartItem} {variant : Storefront.ProductVariant}
    {product : Storefront.Product} {tax : Storefront.TaxDetails}
    (hvariant : tables.variant item.variantId = some variant)
    (hproduct : tables.product variant.productId = some product) (h : Purchasable product)
    (hactive : variant.status = .active)
    (hstock : (item.quantity : ℤ) ≤ tables.stock.available variant.id)
    (htax : Storefront.resolveTaxDetailsFromProduct tables product now = .ok tax) :
    ∃ validated, Storefront.validateCartItem tables now item = .ok validated := by
  unfold Storefront.validateCartItem
  rw [hvariant]
  dsimp only
  rw [hproduct]
  dsimp only
  rw [if_neg h, if_neg (not_not.mpr hactive), if_neg (not_lt.mpr hstock), htax]
  exact ⟨_, rfl⟩

/-- A product that is ACTIVE is not deleted. -/
def Consistent (products : List ProductRow) : Prop :=
  ∀ row ∈ products, row.status = .active → row.deletedAt = none

instance (products : List ProductRow) : Decidable (Consistent products) := by
  unfold Consistent
  infer_instance

lemma consistent_iff {s : Store} : Consistent s.products ↔
    ∀ filters, ∀ row ∈ searchProducts filters s, Purchasable row.toProduct := by
  constructor
  · intro h filters row hrow
    obtain ⟨hmem, hlisted⟩ := List.mem_filter.mp hrow
    have hactive : row.status = .active := of_decide_eq_true (Bool.and_eq_true_iff.mp hlisted).1
    rintro (hother | hdeleted)
    · exact hother hactive
    · rw [h row hmem hactive] at hdeleted
      exact nomatch hdeleted
  · intro h row hrow hactive
    have hlisted : row ∈ searchProducts (fun _ => true) s :=
      List.mem_filter.mpr ⟨hrow, by simp [hactive]⟩
    have hnone : ¬row.deletedAt.isSome := fun hsome => h _ row hlisted (.inr hsome)
    exact Option.not_isSome_iff_eq_none.mp hnone

/-- An update that makes a product ACTIVE and does not write `deletedAt` meets only a row that is
not deleted. -/
def MeetsUndeleted (s : Store) : Commit → Prop
  | .update id data => data.status = some .active → data.deletedAt = none →
      ∀ row ∈ s.products, row.id = id → row.deletedAt = none
  | _ => True

instance (s : Store) (c : Commit) : Decidable (MeetsUndeleted s c) := by
  unfold MeetsUndeleted
  split <;> infer_instance

/-- What the operations commit: `deletedAt` is written together with the status, or not at all. -/
def Emitted : Commit → Prop
  | .create row => row.deletedAt = none
  | .update _ data => data.deletedAt = none ∨
      (data.status = some .active ∧ data.deletedAt = some none) ∨
      (data.status = some .archived ∧ data.deletedAt.isSome)
  | .draftIfActive _ => True

section Emits

variable {slugify : String → String} {G : Store → Store → Prop} {s : Store}

lemma existingProduct_emits (id : ProductId) (user : Option AuthorizationContext) :
    (existingProduct id user).Emits Commit.apply (fun _ _ => True) G (fun _ c => Emitted c)
      Proc.Any s := by
  refine emits_read fun s _ => ?_
  split
  · exact emits_throw
  · rename_i existing _
    cases verifyCatalogOwnershipOrPermission existing.createdById user "product:update" with
    | error e => exact emits_throw
    | ok u => exact emits_pure

lemma checkExists_emits (rows : Store → List ℕ) (message : String) (asked : Option ℕ) :
    (checkExists rows message asked).Emits Commit.apply (fun _ _ => True) G
      (fun _ c => Emitted c) Proc.Any s := by
  cases asked with
  | none => exact emits_pure
  | some id =>
    refine emits_read fun s _ => ?_
    split
    · exact emits_pure
    · exact emits_throw

lemma resolveSlug_emits (existing : ProductRow) (input : UpdateProductInput) :
    (resolveSlug slugify existing input).Emits Commit.apply (fun _ _ => True) G
      (fun _ c => Emitted c) Proc.Any s := by
  unfold resolveSlug
  dsimp only
  split
  · exact emits_pure
  · refine emits_read fun s _ => ?_
    split
    · exact emits_throw
    · exact emits_pure

lemma createProduct_emits (input : CreateProductInput) (creatorId : Option UserId)
    (id : ProductId) :
    (createProduct slugify input creatorId id).Emits Commit.apply (fun _ _ => True) G
      (fun _ c => Emitted c) Proc.Any s := by
  unfold createProduct
  dsimp only
  split
  · exact emits_throw
  · refine emits_read fun s _ => ?_
    split
    · exact emits_throw
    · refine Emits.andThen (checkExists_emits _ _ _) fun _ _ => ?_
      refine Emits.andThen (checkExists_emits _ _ _) fun _ _ => ?_
      exact emits_commit (fun _ _ => rfl) fun _ _ _ _ _ => emits_pure

lemma updateProduct_emits (id : ProductId) (input : UpdateProductInput)
    (user : Option AuthorizationContext) :
    (updateProduct slugify id input user).Emits Commit.apply (fun _ _ => True) G
      (fun _ c => Emitted c) Proc.Any s := by
  refine Emits.andThen (existingProduct_emits id user) fun existing _ => ?_
  refine Emits.andThen (resolveSlug_emits existing input) fun slug _ => ?_
  refine Emits.andThen (checkExists_emits _ _ _) fun _ _ => ?_
  refine Emits.andThen (checkExists_emits _ _ _) fun _ _ => ?_
  exact emits_commit (fun _ _ => .inl rfl) fun _ _ _ _ _ => emits_pure

lemma setStatus_emits {status : ProductStatus} {deletedAt : Millis → Option (Option Millis)}
    (h : ∀ now, deletedAt now = none ∨ (status = .active ∧ deletedAt now = some none) ∨
      (status = .archived ∧ (deletedAt now).isSome))
    (id : ProductId) (user : Option AuthorizationContext) :
    (setStatus status deletedAt id user).Emits Commit.apply (fun _ _ => True) G
      (fun _ c => Emitted c) Proc.Any s := by
  refine Emits.andThen (existingProduct_emits id user) fun existing _ => ?_
  refine emits_read fun s _ => emits_commit (fun _ _ => ?_) fun _ _ _ _ _ => emits_pure
  rcases h s.clock with hnone | ⟨rfl, hnull⟩ | ⟨rfl, hsome⟩
  · exact .inl hnone
  · exact .inr (.inl ⟨rfl, hnull⟩)
  · exact .inr (.inr ⟨rfl, hsome⟩)

/-- All of them commit what `Emitted` says. -/
lemma productService_rely (slugify : String → String) (Allowed : Call → Prop)
    (Cond : Store → Commit → Prop) :
    Rely (productService slugify) Allowed Cond (fun _ _ => True) fun _ _ => Emitted where
  refl _ := trivial
  trans _ _ := trivial
  env _ _ := trivial
  commit _ _ _ _ := trivial
  emits x s _ := by
    cases x with
    | createProduct input creatorId id => exact createProduct_emits input creatorId id
    | updateProduct id input user => exact updateProduct_emits id input user
    | publishProduct id user => exact setStatus_emits (fun _ => .inr (.inl ⟨rfl, rfl⟩)) id user
    | draftProduct id user => exact setStatus_emits (fun _ => .inl rfl) id user
    | archiveProduct id user =>
      exact setStatus_emits (fun now => .inr (.inr ⟨rfl, Option.isSome_some⟩)) id user
    | draftProductIfActive productId =>
      exact emits_commit (fun _ _ => trivial) fun _ _ _ _ _ => emits_pure

end Emits

/-! ## Runs -/

section Runs

variable {s s' : Store} {c : Commit}

lemma consistent_update_iff {id : ProductId} {data : ProductData} (hs : Consistent s.products)
    (h : Emitted (.update id data)) :
    Consistent (Table.updateWhere (fun row => row.id = id) data.update s.products) ↔
      MeetsUndeleted s (.update id data) := by
  refine (Table.forall_mem_updateWhere_iff (P := fun row : ProductRow =>
    row.status = .active → row.deletedAt = none) hs).trans ?_
  simp only [decide_eq_true_eq]
  rcases h with hnone | ⟨-, hnull⟩ | ⟨harchived, -⟩
  · -- `updateProduct` and `draftProduct`: the row keeps its `deletedAt`
    constructor
    · intro h hactive _ row hrow hid
      have hrow' := h row hrow hid (by rw [ProductData.update, hactive, Option.getD_some])
      rwa [ProductData.update, hnone, Option.getD_none] at hrow'
    · intro h row hrow hid hactive
      rw [ProductData.update, hnone, Option.getD_none]
      cases hstatus : data.status with
      | none =>
        refine hs row hrow ?_
        rwa [ProductData.update, hstatus, Option.getD_none] at hactive
      | some status =>
        rw [ProductData.update, hstatus, Option.getD_some] at hactive
        exact h (hstatus.trans (congrArg some hactive)) hnone row hrow hid
  · -- `publishProduct`: the row is not deleted any more
    refine iff_of_true (fun row _ _ _ => ?_) fun _ hnone => ?_
    · rw [ProductData.update, hnull, Option.getD_some]
    · rw [hnull] at hnone
      exact nomatch hnone
  · -- `archiveProduct`: the row is not ACTIVE
    refine iff_of_true (fun row _ _ hactive => ?_) fun hactive => ?_
    · rw [ProductData.update, harchived, Option.getD_some] at hactive
      exact nomatch hactive
    · rw [harchived] at hactive
      exact nomatch hactive

/-- **A statement keeps what is listed purchasable** exactly if it makes no deleted product
ACTIVE. -/
theorem consistent_iff_meetsUndeleted (hs : Consistent s.products) (h : Emitted c)
    (happ : c.apply s = some s') : Consistent s'.products ↔ MeetsUndeleted s c := by
  cases c with
  | create row =>
    obtain ⟨-, heq⟩ := Option.ite_none_left_eq_some.mp happ
    obtain rfl := Option.some.inj heq
    refine iff_of_true (fun other hother hactive => ?_) trivial
    rcases List.mem_append.mp hother with hother | hother
    · exact hs other hother hactive
    · rw [List.mem_singleton.mp hother]
      exact h
  | update id data =>
    obtain ⟨-, heq⟩ := Option.ite_none_right_eq_some.mp happ
    obtain rfl := Option.some.inj heq
    exact consistent_update_iff hs h
  | draftIfActive id =>
    obtain rfl := Option.some.inj happ
    refine iff_of_true ((Table.forall_mem_updateWhere_iff (P := fun row : ProductRow =>
      row.status = .active → row.deletedAt = none) hs).mpr fun row _ _ hactive => ?_) trivial
    exact nomatch hactive

/-- **What a search lists can be bought** in every run whose statements make no deleted product
ACTIVE. -/
theorem listed_purchasable (slugify : String → String) {Allowed : Call → Prop} {s₀ : Store}
    {cfg : Config Store Commit AppError} (h₀ : Consistent s₀.products)
    (hr : (productService slugify).Reachable Allowed MeetsUndeleted s₀ cfg) :
    (∀ row ∈ cfg.store.products, row.status = .active → row.deletedAt = none) ∧
      ∀ filters, ∀ row ∈ searchProducts filters cfg.store, Purchasable row.toProduct := by
  have hconsistent : Consistent cfg.store.products := by
    refine (productService_rely slugify Allowed MeetsUndeleted).invariant
      (P := fun s : Store => Consistent s.products) hr h₀ ?_ ?_
    · intro e s hs
      cases e with
      | deleteProduct id => exact fun row hrow => hs row (List.mem_of_mem_filter hrow)
      | tick elapsed => exact hs
      | categories rows => exact hs
      | brands rows => exact hs
    · intro x s c s' _ hspec hcond happ hs
      exact (consistent_iff_meetsUndeleted hs hspec happ).mpr hcond
  exact ⟨hconsistent, consistent_iff.mp hconsistent⟩

/-- The environment of a shop with an administrator. -/
def openShop : Store := ⟨0, [], [], []⟩

def administrator : Option AuthorizationContext := some ⟨7, 7, [], ["system:manage"], none⟩

def newLamp : Call := .createProduct
  ⟨"Lamp", some "lamp", none, none, .active, false, none, none⟩ (some 7) 0

def activate : Call :=
  .updateProduct 0 ⟨none, none, none, none, some .active, none, none, none⟩ administrator

/-- A lamp is archived and published again, and then drafted and activated. -/
theorem listed_purchasable_lamp : ∃ cfg : Config Store Commit AppError,
    (productService id).Reachable (fun _ => True) MeetsUndeleted openShop cfg ∧
      cfg.store.products.map (fun row => (row.status, row.deletedAt)) = [(.active, none)] ∧
      ((∀ row ∈ cfg.store.products, row.status = .active → row.deletedAt = none) ∧
        ∀ filters, ∀ row ∈ searchProducts filters cfg.store, Purchasable row.toProduct) := by
  obtain ⟨cfg, hr, hrows⟩ := (productService id).exists_reachable_of_exec (fun _ => True)
    MeetsUndeleted
    [.call newLamp, .step 0 .ok, .step 0 .ok,
      .call (.archiveProduct 0 administrator), .step 1 .ok, .step 1 .ok, .step 1 .ok,
      .call (.publishProduct 0 administrator), .step 2 .ok, .step 2 .ok, .step 2 .ok,
      .call (.draftProduct 0 administrator), .step 3 .ok, .step 3 .ok, .step 3 .ok,
      .call activate, .step 4 .ok, .step 4 .ok]
    openShop (fun s : Store => s.products.map fun row => (row.status, row.deletedAt))
    [(.active, none)] (by decide +kernel)
  exact ⟨cfg, hr, hrows, listed_purchasable id (by decide) hr⟩

/-- A lamp is archived and activated by an update: it is listed and cannot be bought. -/
theorem archived_listed : ¬∀ (slugify : String → String) (s₀ : Store)
    (cfg : Config Store Commit AppError), Consistent s₀.products →
    (productService slugify).Reachable (fun _ => True) Free s₀ cfg →
    (∀ row ∈ cfg.store.products, row.status = .active → row.deletedAt = none) ∧
      ∀ filters, ∀ row ∈ searchProducts filters cfg.store, Purchasable row.toProduct := by
  intro h
  obtain ⟨cfg, hr, hrows⟩ := (productService id).exists_reachable_of_exec (fun _ => True) Free
    [.call newLamp, .step 0 .ok, .step 0 .ok,
      .call (.archiveProduct 0 administrator), .step 1 .ok, .step 1 .ok, .step 1 .ok,
      .call activate, .step 2 .ok, .step 2 .ok]
    openShop (fun s : Store => s.products.map fun row => (row.status, row.deletedAt))
    [(.active, some 0)] (by decide +kernel)
  obtain ⟨row, hrow, hcolumns⟩ := List.mem_map.mp (hrows ▸ List.mem_singleton.mpr rfl)
  obtain ⟨hactive, hdeleted⟩ := Prod.ext_iff.mp hcolumns
  exact nomatch hdeleted.symm.trans ((h id openShop cfg (by decide) hr).1 row hrow hactive)

end Runs

end MeeoServer.Listing
