/-
# New variants

`createVariant` of `catalog/services/productVariant.service.ts` and `batchCreateVariants` of
`catalog/services/productVariantBatch.service.ts`, next to the services of the other modules.  A
new variant gets its inventory row in the transaction that creates it.

What the rest of the catalogue does to the products, the SKUs and the attribute values is left
to the environment.  The identifiers of the new rows, which the database draws, are arguments.
-/
import MeeoServer.Auth.ContextCache
import MeeoServer.Server.Calls

namespace MeeoServer.Catalog

open Proc
open ContextCache (AuthorizationContext)

abbrev ProductId := ℕ
abbrev AttributeValueId := ℕ

/-! ## The tables -/

inductive ProductStatus where
  | draft
  | active
  | inactive
  | archived
deriving DecidableEq, Repr

structure Product where
  createdById : Option UserId
  status : ProductStatus

structure CreateProductVariantInput where
  sku : String
  attributeValueIds : List AttributeValueId
  initialStock : Option ℕ
  reorderLevel : Option ℕ
deriving DecidableEq

/-- The tables of the catalogue, as far as a new variant depends on them. -/
structure Catalogue where
  products : ProductId → Option Product
  /-- The SKUs of all variants. -/
  skus : List String
  attributeValues : List AttributeValueId

structure Shop extends Catalogue where
  db : Database

inductive Commit where
  /-- A batch of one of the other services. -/
  | service (c : MeeoServer.Commit)
  | createVariants (productId : ProductId) (variants : List (VariantId × CreateProductVariantInput))
  | draftProductIfActive (productId : ProductId)

/-- The statements that create a variant; `sku`, the variant of an inventory row, and a variant
with an attribute value are unique, and an attribute value must exist. -/
def insertVariant (s : Shop) (variant : VariantId × CreateProductVariantInput) : Option Shop :=
  let (id, input) := variant
  if input.sku ∈ s.skus ∨ s.db.stock.variants id = true ∨ (s.db.stock.inventory id).isSome ∨
      ¬input.attributeValueIds.Nodup ∨ ∃ a ∈ input.attributeValueIds, a ∉ s.attributeValues then
    none
  else
    some { s with
      skus := s.skus ++ [input.sku]
      db := { s.db with
        stock := { s.db.stock with
          variants := Function.update s.db.stock.variants id true
          inventory := Function.update s.db.stock.inventory id
            (some ⟨input.initialStock.getD 0, 0, input.reorderLevel⟩) } } }

def Commit.apply : Commit → Shop → Option Shop
  | .service c, s => (c.apply s.db).map fun db => { s with db := db }
  | .createVariants productId variants, s =>
    if (s.products productId).isSome then variants.foldlM insertVariant s else none
  | .draftProductIfActive productId, s =>
    some { s with
      products := Function.update s.products productId ((s.products productId).map fun p =>
        if p.status = .active then { p with status := .draft } else p) }

/-! ## The services -/

abbrev Service := Proc Shop Commit AppError

/-- Validates whether the authenticated user is authorized to modify or delete a catalog
resource. -/
def verifyCatalogOwnershipOrPermission (createdById : Option UserId)
    (user : Option AuthorizationContext) (requiredPermission : String) : Except AppError Unit :=
  match user with
  | none => .error ⟨"Authentication required", 401⟩
  | some user =>
    if "system:manage" ∈ user.permissions then .ok ()
    else if createdById = some user.id then .ok ()
    else if requiredPermission ∈ user.permissions then .ok ()
    else .error ⟨"You do not have permission to modify or delete this resource", 403⟩

/-- Creates a new purchasable product variant with initial inventory. -/
def createVariant (productId : ProductId) (input : CreateProductVariantInput)
    (user : Option AuthorizationContext) (id : VariantId) : Service Unit := do
  let s ← Proc.read
  match s.products productId with
  | none => throw ⟨"Product not found", 404⟩
  | some product =>
    Proc.done (verifyCatalogOwnershipOrPermission product.createdById user "product:update")
    let s ← Proc.read
    if input.sku ∈ s.skus then
      throw ⟨s!"A product variant with SKU '{input.sku}' already exists", 409⟩
    else
      let s ← Proc.read
      if input.attributeValueIds ≠ [] ∧
          (s.attributeValues.filter (· ∈ input.attributeValueIds)).length ≠
            input.attributeValueIds.length then
        throw ⟨"One or more attribute value IDs do not exist", 400⟩
      else
        let _ ← Proc.commit (.createVariants productId [(id, input)])
        -- adding a variant to an ACTIVE product requires re-publishing
        let _ ← Proc.commit (.draftProductIfActive productId)
        pure ()

/-- Batch creates multiple variants for a product transactionally. -/
def batchCreateVariants (productId : ProductId)
    (variants : List (VariantId × CreateProductVariantInput))
    (user : Option AuthorizationContext) : Service Unit := do
  let s ← Proc.read
  match s.products productId with
  | none => throw ⟨"Product not found", 404⟩
  | some product =>
    Proc.done (verifyCatalogOwnershipOrPermission product.createdById user "product:update")
    let inputSkus := variants.map fun variant => variant.2.sku
    if ¬inputSkus.Nodup then
      throw ⟨"Duplicate SKUs detected in batch creation list", 400⟩
    else
      let s ← Proc.read
      let existing := s.skus.filter (· ∈ inputSkus)
      if existing ≠ [] then
        let dupes := String.intercalate ", " existing
        throw ⟨s!"The following SKUs already exist in database: {dupes}", 409⟩
      else
        let _ ← Proc.commit (.createVariants productId variants)
        let s ← Proc.read
        if (s.products productId).isSome then
          let _ ← Proc.commit (.draftProductIfActive productId)
          pure ()
        else pure ()

inductive Call where
  | service (x : MeeoServer.Call)
  | createVariant (productId : ProductId) (input : CreateProductVariantInput)
      (user : Option AuthorizationContext) (id : VariantId)
  | batchCreateVariants (productId : ProductId)
      (variants : List (VariantId × CreateProductVariantInput))
      (user : Option AuthorizationContext)

/-- What happens besides these calls. -/
inductive Environ where
  | server (e : MeeoServer.Environ)
  | catalogue (change : Catalogue → Catalogue)

def Environ.apply : Environ → Shop → Shop
  | .server e, s => { s with db := e.apply s.db }
  | .catalogue change, s => { s with toCatalogue := change s.toCatalogue }

/-- The server with the services of the catalogue. -/
def shopServer (config : GatewayConfig) : Machine Shop Commit AppError Call Environ where
  apply := Commit.apply
  proc
    | .service x => (x.proc config).zoom Shop.db Commit.service
    | .createVariant productId input user id => createVariant productId input user id
    | .batchCreateVariants productId variants user => batchCreateVariants productId variants user
  environ := Environ.apply

end MeeoServer.Catalog
