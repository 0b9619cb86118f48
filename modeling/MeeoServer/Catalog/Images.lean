/-
# The images of the catalogue

`catalog/services/productImage.service.ts` and `catalog/services/productVariantImage.service.ts`,
which do the same for the gallery of a product and for that of a variant, and what the services of
products and variants do with images.  The tables are those of the images, and of the products and
variants as far as they say who may change them; a file at ImageKit is its identifier.

What these services do besides, with the other columns and with the cache, is in the other modules
on the catalogue.  The images of reviews are other rows of the table of images, but their files are
at ImageKit too, and go with the review.
-/
import MeeoServer.Catalog.Variants
import MeeoServer.Table.Serial
import Mathlib.Data.List.Sort

namespace MeeoServer.Catalog.Galleries

open ContextCache (AuthorizationContext)
open Table (Serial)

abbrev ImageId := ℕ
abbrev FileId := String

/-! ## The tables -/

structure Product where
  createdById : Option UserId
deriving DecidableEq

structure Variant where
  productId : ProductId
deriving DecidableEq

/-- `productId` or `productVariantId` of an image. -/
inductive Gallery where
  | product (id : ProductId)
  | variant (id : VariantId)
deriving DecidableEq

structure ImageData where
  fileId : Option FileId
  url : String
  thumbnailUrl : Option String
  altText : Option String
  sortOrder : ℕ
  width : Option ℕ
  height : Option ℕ
  size : Option ℕ
deriving DecidableEq

structure Image extends ImageData where
  gallery : Gallery
deriving DecidableEq

structure Store where
  products : Serial Product
  variants : Serial Variant
  images : Serial Image
  /-- The files at ImageKit. -/
  files : List FileId
  /-- The identifiers that ImageKit has given. -/
  issued : List FileId
  /-- The galleries that a file was ever uploaded or recorded for. -/
  named : List (Gallery × FileId)
  images_named : ∀ row ∈ images.rows, ∀ f ∈ row.val.fileId, (row.val.gallery, f) ∈ named

namespace Store

variable (s : Store)

/-- Who has created the product of a gallery, if it is there. -/
def owner? : Gallery → Option (Option UserId)
  | .product id => (s.products.get? id).map Product.createdById
  | .variant id => (s.variants.get? id).bind fun variant =>
    (s.products.get? variant.productId).map Product.createdById

/-- The images of a gallery, in the order of the table. -/
def imagesOf (gallery : Gallery) : List (Row Image) :=
  s.images.rows.filter fun row => row.val.gallery = gallery

/-- `image.createMany` -/
def createImages (images : List Image) : Store :=
  { s with
    images := s.images.insertAll images
    named := s.named ++ images.flatMap fun image => image.fileId.toList.map (image.gallery, ·)
    images_named := by
      intro row hrow f hf
      rcases Serial.mem_insertAll hrow with hrow | ⟨-, hmem⟩
      · exact List.mem_append_left _ (s.images_named row hrow f hf)
      · refine List.mem_append_right _ (List.mem_flatMap.mpr ⟨row.val, hmem, ?_⟩)
        exact List.mem_map.mpr ⟨f, Option.mem_toList.mpr hf, rfl⟩ }

/-- `image.deleteMany`, and the cascades. -/
def deleteImages (p : Row Image → Bool) : Store :=
  { s with
    images := s.images.delete p
    images_named := fun row hrow => s.images_named row (List.mem_filter.mp hrow).1 }

/-- `image.update({ where: { id }, data: { sortOrder } })` -/
def sortImage (id : ImageId) (sortOrder : ℕ) : Store :=
  { s with
    images := s.images.modify (·.id = id) fun image => { image with sortOrder := sortOrder }
    images_named := by
      intro row hrow
      obtain ⟨row', hrow', heq⟩ := Table.mem_updateWhere hrow
      rcases heq with rfl | rfl
      · exact s.images_named row hrow'
      · exact s.images_named row' hrow' }

/-- The file is recorded for the gallery. -/
def upload (gallery : Gallery) (fileId : FileId) : Store :=
  { s with
    files := s.files ++ [fileId]
    issued := s.issued ++ [fileId]
    named := s.named ++ [(gallery, fileId)]
    images_named := fun row hrow f hf => List.mem_append_left _ (s.images_named row hrow f hf) }

end Store

/-! ## Batches -/

structure ImageOrder where
  id : ImageId
  sortOrder : ℕ
deriving DecidableEq

inductive Commit where
  | createImage (gallery : Gallery) (data : ImageData)
  | deleteImage (id : ImageId)
  /-- The transaction of the new orders. -/
  | reorder (images : List ImageOrder)
  /-- The image part of the transaction of `updateVariant`. -/
  | replaceImages (id : VariantId) (images : List ImageData)
  | createProduct (product : Product) (images : List ImageData)
  | createVariants (productId : ProductId) (variants : List (List ImageData))
  | deleteProduct (id : ProductId)
  | deleteVariant (id : VariantId)
  /-- ImageKit takes a file, under an identifier that it has not given before. -/
  | upload (gallery : Gallery) (fileId : FileId)
  /-- ImageKit deletes a file. -/
  | deleteFile (fileId : FileId)

def toImages (gallery : Gallery) (images : List ImageData) : List Image :=
  images.map fun data => ⟨data, gallery⟩

/-- One of the variants of a batch. -/
def Store.createVariant (productId : ProductId) (s : Store) (images : List ImageData) : Store :=
  { s with variants := s.variants.insert ⟨productId⟩ }.createImages
    (toImages (.variant s.variants.next) images)

/-- One of the updates of a transaction; the row must be there. -/
def Store.reorderOne (s : Store) (order : ImageOrder) : Option Store :=
  if (s.images.get? order.id).isSome then some (s.sortImage order.id order.sortOrder) else none

def apply : Commit → Store → Option Store
  | .createImage gallery data, s =>
    if (s.owner? gallery).isSome then some (s.createImages [⟨data, gallery⟩]) else none
  | .deleteImage id, s =>
    if (s.images.get? id).isSome then some (s.deleteImages (·.id = id)) else none
  | .reorder images, s => images.foldlM Store.reorderOne s
  | .replaceImages id images, s =>
    if (s.variants.get? id).isSome then
      some ((s.deleteImages (·.val.gallery = .variant id)).createImages
        (toImages (.variant id) images))
    else none
  | .createProduct product images, s =>
    some ({ s with products := s.products.insert product }.createImages
      (toImages (.product s.products.next) images))
  | .createVariants productId variants, s =>
    if (s.products.get? productId).isSome then
      some (variants.foldl (Store.createVariant productId) s)
    else none
  | .deleteProduct id, s =>
    if (s.products.get? id).isSome then
      some { s.deleteImages (fun row => row.val.gallery = .product id ∨
          ∃ variant ∈ s.variants.rows, variant.val.productId = id ∧
            row.val.gallery = .variant variant.id) with
        products := s.products.delete (·.id = id)
        variants := s.variants.delete (·.val.productId = id) }
    else none
  | .deleteVariant id, s =>
    if (s.variants.get? id).isSome then
      some { s.deleteImages (·.val.gallery = .variant id) with
        variants := s.variants.delete (·.id = id) }
    else none
  | .upload gallery fileId, s =>
    if fileId ∈ s.issued then none else some (s.upload gallery fileId)
  | .deleteFile fileId, s => some { s with files := s.files.filter (· ≠ fileId) }

abbrev Service := Proc Store Commit AppError

/-! ## What both services do -/

/-- A text that is there and not empty. -/
def given (text : Option String) : Option String := text.filter (· ≠ "")

/-- The tables, if the user may change the gallery. -/
def existingGallery (gallery : Gallery) (missing : String) (permission : String)
    (user : Option AuthorizationContext) : Service Store := do
  let s ← Proc.read
  match s.owner? gallery with
  | none => throw ⟨missing, 404⟩
  | some createdById => do
    Proc.done (verifyCatalogOwnershipOrPermission createdById user permission)
    pure s

/-- Behind the last image of the gallery, if nothing else is asked for. -/
def nextSortOrder (s : Store) (gallery : Gallery) (sortOrder : Option ℕ) : ℕ :=
  sortOrder.getD
    (((s.imagesOf gallery).map fun row => row.val.sortOrder).max?.elim 0 (· + 1))

structure AddImageInput where
  fileId : Option FileId
  url : String
  thumbnailUrl : Option String
  altText : Option String
  sortOrder : Option ℕ
  width : Option ℕ
  height : Option ℕ
  size : Option ℕ
deriving DecidableEq

/-- What ImageKit says of a file. -/
structure UploadResult where
  fileId : FileId
  url : String
  thumbnailUrl : Option String
  width : Option ℕ
  height : Option ℕ
  size : Option ℕ
deriving DecidableEq

def addTo (gallery : Gallery) (missing : String) (input : AddImageInput)
    (user : Option AuthorizationContext) : Service Unit := do
  let s ← existingGallery gallery missing "product:update" user
  let _ ← Proc.commit (.createImage gallery
    { fileId := input.fileId
      url := input.url
      thumbnailUrl := input.thumbnailUrl
      altText := input.altText
      sortOrder := nextSortOrder s gallery input.sortOrder
      width := input.width
      height := input.height
      size := input.size })
  pure ()

/-- Without a private key nothing is uploaded. -/
def uploadToImageKit (privateKey : Bool) (gallery : Gallery) (fileId : FileId) : Service Unit :=
  if privateKey then do
    let _ ← Proc.commit (.upload gallery fileId)
    pure ()
  else throw ⟨"ImageKit private key is not configured on the server", 500⟩

/-- Deletes a file from ImageKit; an exception is only logged. -/
def deleteFromImageKit (privateKey : Bool) (fileId : FileId) : Service Unit :=
  if privateKey then Proc.attempt (.deleteFile fileId) else pure ()

def uploadInto (privateKey : Bool) (gallery : Gallery) (missing : String)
    (uploadResult : UploadResult) (altText : Option String) (sortOrder : Option ℕ)
    (user : Option AuthorizationContext) : Service Unit := do
  let s ← existingGallery gallery missing "product:update" user
  uploadToImageKit privateKey gallery uploadResult.fileId
  let _ ← Proc.commit (.createImage gallery
    { fileId := given (some uploadResult.fileId)
      url := uploadResult.url
      thumbnailUrl := given uploadResult.thumbnailUrl
      altText := altText
      sortOrder := nextSortOrder s gallery sortOrder
      width := uploadResult.width
      height := uploadResult.height
      size := uploadResult.size })
  pure ()

def deleteFrom (privateKey : Bool) (gallery : Gallery) (missing missingImage : String)
    (imageId : ImageId) (user : Option AuthorizationContext) : Service Unit := do
  let _ ← existingGallery gallery missing "product:update" user
  let s ← Proc.read
  match (s.imagesOf gallery).find? (·.id = imageId) with
  | none => throw ⟨missingImage, 404⟩
  | some image => do
    (match given image.val.fileId with
      | some fileId => deleteFromImageKit privateKey fileId
      | none => pure () : Service Unit)
    let _ ← Proc.commit (.deleteImage imageId)
    pure ()

/-- The new order of the images is what is returned. -/
def reorderIn (gallery : Gallery) (missing foreign : String) (images : List ImageOrder)
    (user : Option AuthorizationContext) : Service (List (Row Image)) := do
  let _ ← existingGallery gallery missing "product:update" user
  let s ← Proc.read
  let imageIds := images.map ImageOrder.id
  let existingImages := (s.imagesOf gallery).filter (·.id ∈ imageIds)
  if existingImages.length ≠ imageIds.length then
    throw ⟨foreign, 400⟩
  else do
    let _ ← Proc.commit (.reorder images)
    let s ← Proc.read
    pure ((s.imagesOf gallery).insertionSort fun a b => a.val.sortOrder ≤ b.val.sortOrder)

/-! ## The images of products -/

/-- Adds an image record by URL to a product, auto-assigning sortOrder if omitted. -/
def addImage (productId : ProductId) (input : AddImageInput) (user : Option AuthorizationContext) :
    Service Unit :=
  addTo (.product productId) "Product not found" input user

/-- Uploads an image to ImageKit and stores the resulting image record. -/
def uploadImage (privateKey : Bool) (productId : ProductId) (uploadResult : UploadResult)
    (altText : Option String) (sortOrder : Option ℕ) (user : Option AuthorizationContext) :
    Service Unit :=
  uploadInto privateKey (.product productId) "Product not found" uploadResult altText sortOrder user

/-- Deletes a specific image from a product, and purges it from ImageKit if tracked. -/
def deleteImage (privateKey : Bool) (productId : ProductId) (imageId : ImageId)
    (user : Option AuthorizationContext) : Service Unit :=
  deleteFrom privateKey (.product productId) "Product not found" "Product image not found" imageId
    user

/-- Batch reorders images for a product within a transaction. -/
def reorderImages (productId : ProductId) (images : List ImageOrder)
    (user : Option AuthorizationContext) : Service (List (Row Image)) :=
  reorderIn (.product productId) "Product not found"
    "One or more images do not belong to this product or do not exist" images user

/-! ## The images of variants -/

/-- Adds an image to a product variant by URL. -/
def addVariantImage (variantId : VariantId) (input : AddImageInput)
    (user : Option AuthorizationContext) : Service Unit :=
  addTo (.variant variantId) "Product variant not found" input user

/-- Uploads an image file or payload to ImageKit and attaches to the product variant. -/
def uploadVariantImage (privateKey : Bool) (variantId : VariantId) (uploadResult : UploadResult)
    (altText : Option String) (sortOrder : Option ℕ) (user : Option AuthorizationContext) :
    Service Unit :=
  uploadInto privateKey (.variant variantId) "Product variant not found" uploadResult altText
    sortOrder user

/-- Deletes a specific image from a product variant. -/
def deleteVariantImage (privateKey : Bool) (variantId : VariantId) (imageId : ImageId)
    (user : Option AuthorizationContext) : Service Unit :=
  deleteFrom privateKey (.variant variantId) "Product variant not found" "Variant image not found"
    imageId user

/-- Reorders images for a product variant. -/
def reorderVariantImages (variantId : VariantId) (images : List ImageOrder)
    (user : Option AuthorizationContext) : Service (List (Row Image)) :=
  reorderIn (.variant variantId) "Product variant not found"
    "One or more images do not belong to this variant or do not exist" images user

/-! ## Products and variants with their images -/

/-- An image of a new product or variant; its place is its order, if it has no other. -/
def toImageData (images : List AddImageInput) : List ImageData :=
  images.zipIdx.map fun (img, index) =>
    { fileId := img.fileId
      url := img.url
      thumbnailUrl := img.thumbnailUrl
      altText := img.altText
      sortOrder := img.sortOrder.getD index
      width := img.width
      height := img.height
      size := img.size }

def createProduct (images : List AddImageInput) (creatorId : Option UserId) : Service Unit := do
  let _ ← Proc.commit (.createProduct ⟨creatorId⟩ (toImageData images))
  pure ()

/-- The images whose files ImageKit has are deleted one by one, as far as the user may, and the
others with the product. -/
def deleteProduct (privateKey : Bool) (id : ProductId) (user : Option AuthorizationContext) :
    Service Unit := do
  let s ← existingGallery (.product id) "Product not found" "product:delete" user
  let _ ← Proc.tryAll (fun image : Row Image => deleteImage privateKey id image.id user)
    ((s.imagesOf (.product id)).filter fun image => (given image.val.fileId).isSome)
  let _ ← Proc.commit (.deleteProduct id)
  pure ()

/-- `createVariant` and `batchCreateVariants`, with the images of each variant. -/
def createVariants (productId : ProductId) (variants : List (List AddImageInput))
    (user : Option AuthorizationContext) : Service Unit := do
  let _ ← existingGallery (.product productId) "Product not found" "product:update" user
  let _ ← Proc.commit (.createVariants productId (variants.map toImageData))
  pure ()

def updateVariant (variantId : VariantId) (images : Option (List AddImageInput))
    (user : Option AuthorizationContext) : Service Unit := do
  let _ ← existingGallery (.variant variantId) "Product variant not found" "product:update" user
  match images with
  | some images => do
    let _ ← Proc.commit (.replaceImages variantId (toImageData images))
    pure ()
  | none => pure ()

/-- Deletes a product variant from the catalog. -/
def deleteVariant (variantId : VariantId) (user : Option AuthorizationContext) :
    Service Unit := do
  let _ ← existingGallery (.variant variantId) "Product variant not found" "product:delete" user
  let _ ← Proc.commit (.deleteVariant variantId)
  pure ()

/-! ## The machine -/

inductive Call where
  | addImage (gallery : Gallery) (input : AddImageInput) (user : Option AuthorizationContext)
  | uploadImage (gallery : Gallery) (uploadResult : UploadResult) (altText : Option String)
      (sortOrder : Option ℕ) (user : Option AuthorizationContext)
  | deleteImage (gallery : Gallery) (imageId : ImageId) (user : Option AuthorizationContext)
  | reorderImages (gallery : Gallery) (images : List ImageOrder)
      (user : Option AuthorizationContext)
  | createProduct (images : List AddImageInput) (creatorId : Option UserId)
  | deleteProduct (id : ProductId) (user : Option AuthorizationContext)
  | createVariants (productId : ProductId) (variants : List (List AddImageInput))
      (user : Option AuthorizationContext)
  | updateVariant (variantId : VariantId) (images : Option (List AddImageInput))
      (user : Option AuthorizationContext)
  | deleteVariant (variantId : VariantId) (user : Option AuthorizationContext)
  /-- The review whose images have these files is deleted. -/
  | deleteReview (fileIds : List FileId)

def Call.proc (privateKey : Bool) : Call → Service Unit
  | .addImage (.product id) input user => Galleries.addImage id input user
  | .addImage (.variant id) input user => addVariantImage id input user
  | .uploadImage (.product id) uploadResult altText sortOrder user =>
    Galleries.uploadImage privateKey id uploadResult altText sortOrder user
  | .uploadImage (.variant id) uploadResult altText sortOrder user =>
    uploadVariantImage privateKey id uploadResult altText sortOrder user
  | .deleteImage (.product id) imageId user => Galleries.deleteImage privateKey id imageId user
  | .deleteImage (.variant id) imageId user => deleteVariantImage privateKey id imageId user
  | .reorderImages (.product id) images user => do
    let _ ← Galleries.reorderImages id images user
    pure ()
  | .reorderImages (.variant id) images user => do
    let _ ← reorderVariantImages id images user
    pure ()
  | .createProduct images creatorId => Galleries.createProduct images creatorId
  | .deleteProduct id user => Galleries.deleteProduct privateKey id user
  | .createVariants productId variants user => Galleries.createVariants productId variants user
  | .updateVariant variantId images user => Galleries.updateVariant variantId images user
  | .deleteVariant variantId user => Galleries.deleteVariant variantId user
  | .deleteReview fileIds => do
    let _ ← Proc.tryAll (deleteFromImageKit privateKey) fileIds
    pure ()

/-- The user of a request, if it is checked here. -/
def Call.user : Call → Option AuthorizationContext
  | .addImage _ _ user | .uploadImage _ _ _ _ user | .deleteImage _ _ user
  | .reorderImages _ _ user | .deleteProduct _ user | .createVariants _ _ user
  | .updateVariant _ _ user | .deleteVariant _ user => user
  | .createProduct _ _ | .deleteReview _ => none

/-- The files that a request names. -/
def Call.fileIds : Call → List FileId
  | .addImage _ input _ => input.fileId.toList
  | .createProduct images _ | .updateVariant _ (some images) _ =>
    images.filterMap AddImageInput.fileId
  | .createVariants _ variants _ => variants.flatten.filterMap AddImageInput.fileId
  | .deleteReview fileIds => fileIds
  | .uploadImage _ _ _ _ _ | .deleteImage _ _ _ | .reorderImages _ _ _ | .deleteProduct _ _
  | .updateVariant _ none _ | .deleteVariant _ _ => []

/-- A client uploads a file to ImageKit itself. -/
structure ClientUpload where
  fileId : FileId

def ClientUpload.apply (e : ClientUpload) (s : Store) : Store :=
  if e.fileId ∈ s.issued then s
  else { s with files := s.files ++ [e.fileId], issued := s.issued ++ [e.fileId] }

def galleryServer (privateKey : Bool) : Machine Store Commit AppError Call ClientUpload where
  apply := apply
  proc := Call.proc privateKey
  environ := ClientUpload.apply

end MeeoServer.Catalog.Galleries
