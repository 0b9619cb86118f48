/-
# Who can change a gallery

Between the look at a gallery, with the check of the user, and the write, other requests are
served: the gallery may be gone by then, and its images may have been deleted.  But identifiers are
not used twice, and an image stays in its gallery.  So whatever is written to after a check is what
was checked, and the galleries of a product are as the users left them who may change the product.

The files are less well kept: a request may name any file, and an image that names a file takes the
file along when it is deleted.
-/
import MeeoServer.Catalog.Images
import Mathlib.Data.List.Perm.Subperm

namespace MeeoServer.Catalog.Galleries

open Proc
open Table (Serial)
open Table.Serial (Later)
open ContextCache (AuthorizationContext)

variable {s s' s'' : Store} {gallery : Gallery} {user : Option AuthorizationContext} {x : Call}

/-! ## The rely -/

/-- What every step does: no row changes but in its order, and no name is forgotten. -/
structure Within (s s' : Store) : Prop where
  products : Later id s.products s'.products
  variants : Later id s.variants s'.variants
  images : Later Image.gallery s.images s'.images
  named : s.named ⊆ s'.named

namespace Within

lemma refl (s : Store) : Within s s := ⟨.refl _ _, .refl _ _, .refl _ _, fun _ h => h⟩

lemma trans (h : Within s s') (h' : Within s' s'') : Within s s'' :=
  ⟨h.products.trans h'.products, h.variants.trans h'.variants, h.images.trans h'.images,
    fun _ hmem => h'.named (h.named hmem)⟩

/-- A gallery that is still there belongs to the same product. -/
lemma owner_eq (h : Within s s') {c c' : Option UserId} (hc : s.owner? gallery = some c)
    (hc' : s'.owner? gallery = some c') : c' = c := by
  have hproduct : ∀ {id : ProductId} {p p' : Product}, s.products.get? id = some p →
      s'.products.get? id = some p' → p' = p := fun hp hp' =>
    h.products.eq (Serial.get?_eq_some_iff.mp hp) (Serial.get?_eq_some_iff.mp hp')
  cases gallery with
  | product id =>
    obtain ⟨p, hp, rfl⟩ := Option.map_eq_some_iff.mp hc
    obtain ⟨p', hp', rfl⟩ := Option.map_eq_some_iff.mp hc'
    rw [hproduct hp hp']
  | variant id =>
    obtain ⟨v, hv, hc⟩ := Option.bind_eq_some_iff.mp hc
    obtain ⟨v', hv', hc'⟩ := Option.bind_eq_some_iff.mp hc'
    obtain rfl : v' = v :=
      h.variants.eq (Serial.get?_eq_some_iff.mp hv) (Serial.get?_eq_some_iff.mp hv')
    obtain ⟨p, hp, rfl⟩ := Option.map_eq_some_iff.mp hc
    obtain ⟨p', hp', rfl⟩ := Option.map_eq_some_iff.mp hc'
    rw [hproduct hp hp']

end Within

/-! ## The steps -/

lemma within_createImages (s : Store) (images : List Image) : Within s (s.createImages images) :=
  ⟨.refl _ _, .refl _ _, .insertAll _ _ _, List.subset_append_left _ _⟩

lemma within_deleteImages (s : Store) (p : Row Image → Bool) : Within s (s.deleteImages p) :=
  ⟨.refl _ _, .refl _ _, .delete _ _ _, fun _ h => h⟩

lemma within_sortImage (s : Store) (id : ImageId) (sortOrder : ℕ) :
    Within s (s.sortImage id sortOrder) :=
  ⟨.refl _ _, .refl _ _, Later.modify (g := fun image : Image =>
    { image with sortOrder := sortOrder }) (fun _ => rfl) _ _, fun _ h => h⟩

lemma within_createVariant (s : Store) (productId : ProductId) (images : List ImageData) :
    Within s (s.createVariant productId images) := by
  refine Within.trans ?_ (within_createImages _ _)
  exact ⟨.refl _ _, .insertAll _ _ [_], .refl _ _, fun _ h => h⟩

lemma reorderOne_eq_some {order : ImageOrder} (h : s.reorderOne order = some s') :
    s' = s.sortImage order.id order.sortOrder :=
  (Option.some.inj (Option.ite_none_right_eq_some.mp h).2).symm

/-- What holds of a run of updates if it holds of each. -/
lemma reorder_induction {P : Store → Prop} {orders : List ImageOrder}
    (hstep : ∀ s, ∀ order ∈ orders, P s → P (s.sortImage order.id order.sortOrder)) (hs : P s)
    (h : orders.foldlM Store.reorderOne s = some s') : P s' := by
  induction orders generalizing s with
  | nil => exact Option.some.inj h ▸ hs
  | cons order orders ih =>
    rw [List.foldlM_cons] at h
    obtain ⟨s₁, hone, hrest⟩ := Option.bind_eq_some_iff.mp h
    obtain rfl := reorderOne_eq_some hone
    exact ih (fun s o ho => hstep s o (List.mem_cons_of_mem order ho))
      (hstep s order List.mem_cons_self hs) hrest

lemma createVariants_induction {P : Store → Prop} {productId : ProductId}
    {variants : List (List ImageData)}
    (hstep : ∀ s, ∀ images ∈ variants, P s → P (s.createVariant productId images)) (hs : P s) :
    P (variants.foldl (Store.createVariant productId) s) := by
  induction variants generalizing s with
  | nil => exact hs
  | cons images variants ih =>
    exact ih (fun s l hl => hstep s l (List.mem_cons_of_mem images hl))
      (hstep s images List.mem_cons_self hs)

lemma within_apply {c : Commit} (happ : apply c s = some s') : Within s s' := by
  cases c with
  | createImage gallery data =>
    obtain ⟨-, happ⟩ := Option.ite_none_right_eq_some.mp happ
    exact Option.some.inj happ ▸ within_createImages s _
  | deleteImage id =>
    obtain ⟨-, happ⟩ := Option.ite_none_right_eq_some.mp happ
    exact Option.some.inj happ ▸ within_deleteImages s _
  | reorder orders =>
    exact reorder_induction (P := Within s)
      (fun s₁ _ _ h => h.trans (within_sortImage s₁ _ _)) (.refl s) happ
  | replaceImages id images =>
    obtain ⟨-, happ⟩ := Option.ite_none_right_eq_some.mp happ
    exact Option.some.inj happ ▸ (within_deleteImages s _).trans (within_createImages _ _)
  | createProduct product images =>
    obtain rfl := Option.some.inj happ
    refine Within.trans ?_ (within_createImages _ _)
    exact ⟨.insertAll _ _ [_], .refl _ _, .refl _ _, fun _ h => h⟩
  | createVariants productId variants =>
    obtain ⟨-, happ⟩ := Option.ite_none_right_eq_some.mp happ
    obtain rfl := Option.some.inj happ
    exact createVariants_induction (P := Within s)
      (fun s₁ images _ h => h.trans (within_createVariant s₁ productId images)) (.refl s)
  | deleteProduct id =>
    obtain ⟨-, happ⟩ := Option.ite_none_right_eq_some.mp happ
    obtain rfl := Option.some.inj happ
    exact ⟨.delete _ _ _, .delete _ _ _, .delete _ _ _, fun _ h => h⟩
  | deleteVariant id =>
    obtain ⟨-, happ⟩ := Option.ite_none_right_eq_some.mp happ
    obtain rfl := Option.some.inj happ
    exact ⟨.refl _ _, .delete _ _ _, .delete _ _ _, fun _ h => h⟩
  | upload gallery fileId =>
    obtain ⟨-, happ⟩ := Option.ite_none_left_eq_some.mp happ
    obtain rfl := Option.some.inj happ
    exact ⟨.refl _ _, .refl _ _, .refl _ _, List.subset_append_left _ _⟩
  | deleteFile fileId =>
    obtain rfl := Option.some.inj happ
    exact ⟨.refl _ _, .refl _ _, .refl _ _, fun _ h => h⟩

lemma within_environ (e : ClientUpload) : Within s (e.apply s) := by
  unfold ClientUpload.apply
  split
  · exact .refl s
  · exact ⟨.refl _ _, .refl _ _, .refl _ _, fun _ h => h⟩

/-! ## Checks -/

/-- The user may change a product of this creator, or delete it. -/
def Permits (user : Option AuthorizationContext) (createdById : Option UserId) : Prop :=
  (verifyCatalogOwnershipOrPermission createdById user "product:update").isOk = true ∨
    (verifyCatalogOwnershipOrPermission createdById user "product:delete").isOk = true

instance decidablePermits (user : Option AuthorizationContext) (createdById : Option UserId) :
    Decidable (Permits user createdById) := by
  unfold Permits
  infer_instance

/-- The gallery is there, and the user may change its product. -/
def Checked (user : Option AuthorizationContext) (gallery : Gallery) (s : Store) : Prop :=
  ∃ createdById, s.owner? gallery = some createdById ∧ Permits user createdById

/-- If the gallery is still there, the user may change its product. -/
def MayTouch (user : Option AuthorizationContext) (s : Store) (gallery : Gallery) : Prop :=
  ∀ createdById ∈ s.owner? gallery, Permits user createdById

lemma Checked.mayTouch (h : Checked user gallery s) (hw : Within s s') :
    MayTouch user s' gallery := by
  obtain ⟨c, hc, hpermits⟩ := h
  intro c' hc'
  rw [hw.owner_eq hc hc']
  exact hpermits

/-- What a request commits. -/
def Spec (x : Call) (s : Store) : Commit → Prop
  | .createImage gallery data => MayTouch x.user s gallery ∧
      ∀ f ∈ data.fileId, f ∈ x.fileIds ∨ (gallery, f) ∈ s.named
  | .deleteImage id => ∀ image, ⟨id, image⟩ ∈ s.images.rows → MayTouch x.user s image.gallery
  | .reorder orders => ∀ order ∈ orders, ∀ image, ⟨order.id, image⟩ ∈ s.images.rows →
      MayTouch x.user s image.gallery
  | .replaceImages id images => MayTouch x.user s (.variant id) ∧
      ∀ data ∈ images, ∀ f ∈ data.fileId, f ∈ x.fileIds
  | .createProduct _ images => ∀ data ∈ images, ∀ f ∈ data.fileId, f ∈ x.fileIds
  | .createVariants productId variants => MayTouch x.user s (.product productId) ∧
      ∀ images ∈ variants, ∀ data ∈ images, ∀ f ∈ data.fileId, f ∈ x.fileIds
  | .deleteProduct id => MayTouch x.user s (.product id)
  | .deleteVariant id => MayTouch x.user s (.variant id)
  | .upload gallery _ => MayTouch x.user s gallery
  | .deleteFile f => f ∈ x.fileIds ∨ ∃ gallery, (gallery, f) ∈ s.named ∧ MayTouch x.user s gallery

section Emits

variable {S : Store → Commit → Prop}

lemma existingGallery_emits {missing permission : String}
    (hpermission : permission = "product:update" ∨ permission = "product:delete") :
    (existingGallery gallery missing permission user).Emits apply Within Within S
      (fun r s => ∀ t, r = .ok t → t = s ∧ Checked user gallery s) s := by
  refine emits_read_post (fun _ => nofun) fun s _ => ?_
  split
  · exact fun t h => nomatch h
  · rename_i createdById howner
    cases hverify : verifyCatalogOwnershipOrPermission createdById user permission with
    | error e => exact fun t h => nomatch h
    | ok u =>
      rintro t ⟨⟩
      have hok : (verifyCatalogOwnershipOrPermission createdById user permission).isOk = true := by
        rw [hverify]
        rfl
      refine ⟨rfl, createdById, howner, ?_⟩
      rcases hpermission with rfl | rfl
      · exact .inl hok
      · exact .inr hok

/-- A program after the check. -/
lemma existingGallery_bind {β : Type} {missing permission : String} {f : Store → Service β}
    (hpermission : permission = "product:update" ∨ permission = "product:delete")
    (hf : ∀ s, Checked user gallery s → (f s).Emits apply Within Within S Any s) :
    (existingGallery gallery missing permission user >>= f).Emits apply Within Within S Any s := by
  refine Emits.bind ((existingGallery_emits hpermission).mono fun r s hr => ?_)
  cases r with
  | error e => trivial
  | ok t =>
    obtain ⟨rfl, hchecked⟩ := hr t rfl
    exact hf t hchecked

lemma mem_given {text : Option String} {f : String} (h : f ∈ given text) : f ∈ text :=
  (Option.filter_eq_some_iff.mp h).1

lemma addTo_emits {missing : String} {input : AddImageInput}
    (hfile : ∀ f ∈ input.fileId, f ∈ x.fileIds) :
    (addTo gallery missing input x.user).Emits apply Within Within (Spec x) Any s :=
  existingGallery_bind (.inl rfl) fun _ hchecked =>
    emits_commit (fun _ h => ⟨hchecked.mayTouch h, fun f hf => .inl (hfile f hf)⟩)
      fun _ _ _ _ _ => emits_pure

/-- A file that has been uploaded is recorded for the gallery. -/
lemma uploadToImageKit_emits {privateKey : Bool} {fileId : FileId}
    (hchecked : Checked x.user gallery s) :
    (uploadToImageKit privateKey gallery fileId).Emits apply Within Within (Spec x)
      (fun r s => r = .ok () → (gallery, fileId) ∈ s.named) s := by
  unfold uploadToImageKit
  split
  · refine emits_commit_post (fun _ => nofun) (fun _ h => hchecked.mayTouch h) ?_
    intro s₁ s₂ _ happ _ _
    obtain ⟨-, happ⟩ := Option.ite_none_left_eq_some.mp happ
    obtain rfl := Option.some.inj happ
    exact List.mem_append_right _ (List.mem_singleton.mpr rfl)
  · exact fun h => nomatch h

lemma uploadInto_emits {privateKey : Bool} {missing : String} {uploadResult : UploadResult}
    {altText : Option String} {sortOrder : Option ℕ} :
    (uploadInto privateKey gallery missing uploadResult altText sortOrder x.user).Emits apply
      Within Within (Spec x) Any s := by
  refine existingGallery_bind (.inl rfl) fun s hchecked => Emits.bind ?_
  refine ((uploadToImageKit_emits hchecked).along Within.trans (.refl s)).mono ?_
  rintro r s₁ ⟨hnamed, hs₁⟩
  cases r with
  | error e => trivial
  | ok u =>
    refine emits_commit (fun s₂ h => ⟨hchecked.mayTouch (hs₁.trans h), fun f hf => ?_⟩)
      fun _ _ _ _ _ => emits_pure
    obtain rfl := Option.some.inj (mem_given hf)
    exact .inr (h.named (hnamed rfl))

/-- What was found in the gallery is in no other one. -/
lemma mayTouch_of_found {row : Row Image} (hrow : row ∈ s.imagesOf gallery)
    (htouch : ∀ t, Within s t → MayTouch user t gallery) (hw : Within s s') {image : Image}
    (himage : ⟨row.id, image⟩ ∈ s'.images.rows) : MayTouch user s' image.gallery := by
  obtain ⟨hmem, hgallery⟩ := List.mem_filter.mp hrow
  have hsame : image.gallery = gallery :=
    (hw.images.eq hmem himage).trans (of_decide_eq_true hgallery)
  rw [hsame]
  exact htouch s' hw

lemma deleteFromImageKit_emits {privateKey : Bool} {fileId : FileId}
    (hfile : ∀ t, Within s t → S t (.deleteFile fileId)) :
    (deleteFromImageKit privateKey fileId).Emits apply Within Within S Any s := by
  unfold deleteFromImageKit
  split
  · exact emits_attempt hfile
  · exact emits_pure

lemma deleteFrom_emits {privateKey : Bool} {missing missingImage : String} {imageId : ImageId} :
    (deleteFrom privateKey gallery missing missingImage imageId x.user).Emits apply Within Within
      (Spec x) Any s := by
  refine existingGallery_bind (.inl rfl) fun s hchecked => emits_read fun s₁ hs₁ => ?_
  split
  · exact emits_throw
  · rename_i row hfind
    have hid : row.id = imageId := by simpa using List.find?_some hfind
    have hrow : row ∈ s₁.imagesOf gallery := List.mem_of_find?_eq_some hfind
    obtain ⟨hmem, hgallery⟩ := List.mem_filter.mp hrow
    have htouch : ∀ t, Within s₁ t → MayTouch x.user t gallery :=
      fun t ht => hchecked.mayTouch (hs₁.trans ht)
    refine Emits.bind ((Emits.along (W := Within) (Q := Any) ?purged Within.trans
      (.refl s₁)).mono ?_)
    case purged =>
      split
      · rename_i fileId hfile
        refine deleteFromImageKit_emits fun t ht => .inr ⟨gallery, ht.named ?_, htouch t ht⟩
        rw [← of_decide_eq_true hgallery]
        exact s₁.images_named row hmem fileId (mem_given hfile)
      · exact emits_pure
    rintro r s₂ ⟨-, hs₂⟩
    cases r with
    | error e => trivial
    | ok u =>
      refine emits_commit (fun t ht image himage => ?_) fun _ _ _ _ _ => emits_pure
      exact mayTouch_of_found hrow htouch (hs₂.trans ht) (hid ▸ himage)

/-- As many images were found as were named, so each of them was. -/
lemma exists_of_length_eq {ids : List ImageId}
    (hlength : ((s.imagesOf gallery).filter (·.id ∈ ids)).length = ids.length) {id : ImageId}
    (hid : id ∈ ids) : ∃ row ∈ s.imagesOf gallery, row.id = id := by
  have hnodup : (((s.imagesOf gallery).filter (·.id ∈ ids)).map Row.id).Nodup :=
    s.images.nodup.sublist ((List.filter_sublist.trans List.filter_sublist).map _)
  have hsub : ((s.imagesOf gallery).filter (·.id ∈ ids)).map Row.id ⊆ ids := by
    intro i hi
    obtain ⟨row, hrow, rfl⟩ := List.mem_map.mp hi
    exact of_decide_eq_true (List.mem_filter.mp hrow).2
  have hperm := (hnodup.subperm hsub).perm_of_length_le (by rw [List.length_map, hlength])
  obtain ⟨row, hrow, hsame⟩ := List.mem_map.mp (hperm.mem_iff.mpr hid)
  exact ⟨row, (List.mem_filter.mp hrow).1, hsame⟩

lemma reorderIn_emits {missing foreign : String} {orders : List ImageOrder} :
    (reorderIn gallery missing foreign orders x.user).Emits apply Within Within (Spec x) Any s := by
  refine existingGallery_bind (.inl rfl) fun s hchecked => emits_read fun s₁ hs₁ => ?_
  dsimp only
  split
  · exact emits_throw
  · rename_i hlength
    refine emits_commit (fun t ht order horder image himage => ?_)
      fun _ _ _ _ _ => emits_read fun _ _ => emits_pure
    obtain ⟨row, hrow, hid⟩ := exists_of_length_eq (not_not.mp hlength)
      (List.mem_map_of_mem horder)
    exact mayTouch_of_found hrow (fun t ht => hchecked.mayTouch (hs₁.trans ht)) ht (hid ▸ himage)

lemma deleteProduct_emits {privateKey : Bool} {id : ProductId} :
    (deleteProduct privateKey id x.user).Emits apply Within Within (Spec x) Any s := by
  refine existingGallery_bind (.inr rfl) fun s hchecked => Emits.bind ?_
  have himages : (tryAll (fun image : Row Image => deleteImage privateKey id image.id x.user)
      ((s.imagesOf (.product id)).filter fun image => (given image.val.fileId).isSome)).Emits apply
        Within Within (Spec x) Any s := tryAll_emits_any fun _ _ _ => deleteFrom_emits
  refine (himages.along Within.trans (.refl s)).mono ?_
  rintro r s₁ ⟨-, hs₁⟩
  cases r with
  | error e => trivial
  | ok reached =>
    exact emits_commit (fun _ h => hchecked.mayTouch (hs₁.trans h)) fun _ _ _ _ _ => emits_pure

lemma mem_fileIds_of_toImageData {images : List AddImageInput} {data : ImageData}
    (hdata : data ∈ toImageData images) {f : FileId} (hf : f ∈ data.fileId) :
    f ∈ images.filterMap AddImageInput.fileId := by
  obtain ⟨⟨img, index⟩, hmem, rfl⟩ := List.mem_map.mp hdata
  exact List.mem_filterMap.mpr ⟨img, List.fst_mem_of_mem_zipIdx hmem, hf⟩

lemma call_emits (privateKey : Bool) (x : Call) (s : Store) :
    (x.proc privateKey).Emits apply Within Within (Spec x) Any s := by
  cases x with
  | addImage gallery input user =>
    have hfile : ∀ f ∈ input.fileId, f ∈ (Call.addImage gallery input user).fileIds :=
      fun f hf => Option.mem_toList.mpr hf
    cases gallery with
    | product id => exact addTo_emits hfile
    | variant id => exact addTo_emits hfile
  | uploadImage gallery uploadResult altText sortOrder user =>
    cases gallery with
    | product id | variant id => exact uploadInto_emits
  | deleteImage gallery imageId user =>
    cases gallery with
    | product id | variant id => exact deleteFrom_emits
  | reorderImages gallery images user =>
    cases gallery with
    | product id | variant id => exact reorderIn_emits.andThen fun _ _ => emits_pure
  | createProduct images creatorId =>
    exact emits_commit (fun _ _ _ hdata _ hf => mem_fileIds_of_toImageData hdata hf)
      fun _ _ _ _ _ => emits_pure
  | deleteProduct id user => exact deleteProduct_emits
  | createVariants productId variants user =>
    refine existingGallery_bind (.inl rfl) fun s hchecked =>
      emits_commit (fun _ h => ⟨hchecked.mayTouch h, fun images himages data hdata f hf => ?_⟩)
        fun _ _ _ _ _ => emits_pure
    obtain ⟨inputs, hinputs, rfl⟩ := List.mem_map.mp himages
    obtain ⟨img, himg, hsome⟩ := List.mem_filterMap.mp (mem_fileIds_of_toImageData hdata hf)
    exact List.mem_filterMap.mpr ⟨img, List.mem_flatten_of_mem hinputs himg, hsome⟩
  | updateVariant variantId images user =>
    refine existingGallery_bind (.inl rfl) fun s hchecked => ?_
    cases images with
    | none => exact emits_pure
    | some images =>
      exact emits_commit (fun _ h => ⟨hchecked.mayTouch h,
        fun _ hdata _ hf => mem_fileIds_of_toImageData hdata hf⟩) fun _ _ _ _ _ => emits_pure
  | deleteVariant variantId user =>
    exact existingGallery_bind (.inr rfl) fun s hchecked =>
      emits_commit (fun _ h => hchecked.mayTouch h) fun _ _ _ _ _ => emits_pure
  | deleteReview fileIds =>
    exact Emits.andThen (tryAll_emits_any fun f hf s =>
      deleteFromImageKit_emits fun _ _ => .inl hf) fun _ _ => emits_pure

end Emits

/-! ## The galleries of a product -/

/-- The gallery is that of the product, or of one of its variants. -/
def Store.owns (s : Store) (id : ProductId) : Gallery → Bool
  | .product productId => productId = id
  | .variant variantId => (s.variants.get? variantId).any fun variant => variant.productId = id

def Store.variantsOf (s : Store) (id : ProductId) : List (Row Variant) :=
  s.variants.rows.filter fun row => row.val.productId = id

/-- All images of a product and its variants. -/
def Store.imagesUnder (s : Store) (id : ProductId) : List (Row Image) :=
  s.images.rows.filter fun row => s.owns id row.val.gallery

/-- A request of somebody who may not change the product, and that names none of the files. -/
def Call.Foreign (product : Product) (files : List FileId) (x : Call) : Prop :=
  ¬Permits x.user product.createdById ∧ ∀ f ∈ x.fileIds, f ∉ files

instance decidableForeign (product : Product) (files : List FileId) :
    DecidablePred (Call.Foreign product files) := fun x => by
  unfold Call.Foreign
  infer_instance

/-- The product has its variants and images as in `s₀`, and the files are as they were: at
ImageKit, and named for galleries of the product alone. -/
structure Kept (s₀ : Store) (id : ProductId) (product : Product) (files : List FileId)
    (s : Store) : Prop where
  within : Within s₀ s
  product : ⟨id, product⟩ ∈ s.products.rows
  variants : s.variantsOf id = s₀.variantsOf id
  images : (s.images.rows.filter fun row => s₀.owns id row.val.gallery) = s₀.imagesUnder id
  files : ∀ f ∈ files, f ∈ s.files ∧ f ∈ s.issued ∧
    ∀ pair ∈ s.named, pair.2 = f → s₀.owns id pair.1 = true

lemma owns_variant_iff {id : ProductId} {variantId : VariantId} :
    s.owns id (.variant variantId) = true ↔
      (⟨variantId, ⟨id⟩⟩ : Row Variant) ∈ s.variantsOf id := by
  rw [Store.owns, Option.any_eq_true]
  constructor
  · rintro ⟨⟨productId⟩, hget, hid⟩
    obtain rfl : productId = id := of_decide_eq_true hid
    exact List.mem_filter.mpr ⟨Serial.get?_eq_some_iff.mp hget, decide_eq_true rfl⟩
  · intro h
    exact ⟨⟨id⟩, Serial.get?_eq_some_iff.mpr (List.mem_filter.mp h).1, decide_eq_true rfl⟩

namespace Kept

variable {s₀ : Store} {id : ProductId} {product : Product} {files : List FileId}

lemma refl (hproduct : ⟨id, product⟩ ∈ s₀.products.rows)
    (hfiles : ∀ f ∈ files, f ∈ s₀.files ∧ f ∈ s₀.issued ∧
      ∀ pair ∈ s₀.named, pair.2 = f → s₀.owns id pair.1 = true) :
    Kept s₀ id product files s₀ :=
  ⟨.refl s₀, hproduct, rfl, rfl, hfiles⟩

/-- Its galleries are there, and belong to it. -/
lemma owner_eq (h : Kept s₀ id product files s) (howns : s₀.owns id gallery = true) :
    s.owner? gallery = some product.createdById := by
  have hproduct : s.products.get? id = some product := Serial.get?_eq_some_iff.mpr h.product
  cases gallery with
  | product productId =>
    obtain rfl : productId = id := of_decide_eq_true howns
    rw [Store.owner?, hproduct, Option.map_some]
  | variant variantId =>
    have hvariant := owns_variant_iff.mp howns
    rw [← h.variants] at hvariant
    rw [Store.owner?, Serial.get?_eq_some_iff.mpr (List.mem_filter.mp hvariant).1,
      Option.bind_some, hproduct, Option.map_some]

/-- A foreign request may not touch them. -/
lemma not_owns (h : Kept s₀ id product files s) (hpermits : ¬Permits user product.createdById)
    (htouch : MayTouch user s gallery) : s₀.owns id gallery = false := by
  by_contra howns
  exact hpermits (htouch _ (h.owner_eq (Bool.eq_true_of_not_eq_false howns)))

/-! ### The steps of others -/

lemma createImages (h : Kept s₀ id product files s) {images : List Image}
    (howns : ∀ image ∈ images, s₀.owns id image.gallery = false)
    (hnames : ∀ image ∈ images, ∀ f ∈ image.fileId, f ∉ files) :
    Kept s₀ id product files (s.createImages images) where
  within := h.within.trans (within_createImages s images)
  product := h.product
  variants := h.variants
  images := (Serial.filter_insertAll fun _ _ image himage => howns image himage).trans h.images
  files f hf := by
    obtain ⟨hkit, hissued, hnamed⟩ := h.files f hf
    refine ⟨hkit, hissued, fun pair hmem hpair => ?_⟩
    rcases List.mem_append.mp hmem with hmem | hmem
    · exact hnamed pair hmem hpair
    · obtain ⟨image, himage, hname⟩ := List.mem_flatMap.mp hmem
      obtain ⟨f', hf', rfl⟩ := List.mem_map.mp hname
      obtain rfl : f' = f := hpair
      exact absurd hf (hnames image himage f' (Option.mem_toList.mp hf'))

lemma deleteImages (h : Kept s₀ id product files s) {p : Row Image → Bool}
    (howns : ∀ row ∈ s.images.rows, p row = true → s₀.owns id row.val.gallery = false) :
    Kept s₀ id product files (s.deleteImages p) where
  within := h.within.trans (within_deleteImages s p)
  product := h.product
  variants := h.variants
  images := (Serial.filter_delete howns).trans h.images
  files := h.files

lemma sortImage (h : Kept s₀ id product files s) {imageId : ImageId} {sortOrder : ℕ}
    (howns : ∀ image, ⟨imageId, image⟩ ∈ s.images.rows → s₀.owns id image.gallery = false) :
    Kept s₀ id product files (s.sortImage imageId sortOrder) where
  within := h.within.trans (within_sortImage s imageId sortOrder)
  product := h.product
  variants := h.variants
  images := by
    refine Eq.trans (Table.filter_updateWhere_of_not fun row hrow hid => ?_) h.images
    have hrow' := howns row.val (of_decide_eq_true hid ▸ hrow)
    exact ⟨hrow', hrow'⟩
  files := h.files

lemma createVariant (h : Kept s₀ id product files s) {productId : ProductId}
    {images : List ImageData} (hother : productId ≠ id)
    (hnames : ∀ data ∈ images, ∀ f ∈ data.fileId, f ∉ files) :
    Kept s₀ id product files (s.createVariant productId images) := by
  have hkept : Kept s₀ id product files { s with variants := s.variants.insert ⟨productId⟩ } :=
    { within := h.within.trans ⟨.refl _ _, .insertAll _ _ [_], .refl _ _, fun _ h => h⟩
      product := h.product
      variants := by
        refine Eq.trans (Table.filter_append_of_not ?_) h.variants
        exact decide_eq_false hother
      images := h.images
      files := h.files }
  -- the new variant is none of those that were there
  have hnew : s₀.owns id (.variant s.variants.next) = false := by
    by_contra howns
    have hmem := owns_variant_iff.mp (Bool.eq_true_of_not_eq_false howns)
    exact absurd (s₀.variants.lt _ (List.mem_filter.mp hmem).1)
      (Nat.not_lt.mpr h.within.variants.next)
  refine hkept.createImages (fun image himage => ?_) fun image himage => ?_
  · obtain ⟨data, -, rfl⟩ := List.mem_map.mp himage
    exact hnew
  · obtain ⟨data, hdata, rfl⟩ := List.mem_map.mp himage
    exact hnames data hdata

lemma createProduct (h : Kept s₀ id product files s) {created : Product}
    {images : List ImageData} (hnames : ∀ data ∈ images, ∀ f ∈ data.fileId, f ∉ files) :
    Kept s₀ id product files ({ s with products := s.products.insert created }.createImages
      (toImages (.product s.products.next) images)) := by
  have hkept : Kept s₀ id product files { s with products := s.products.insert created } :=
    { within := h.within.trans ⟨.insertAll _ _ [_], .refl _ _, .refl _ _, fun _ h => h⟩
      product := Serial.mem_insert.mpr (.inl h.product)
      variants := h.variants
      images := h.images
      files := h.files }
  have hnew : s₀.owns id (.product s.products.next) = false :=
    decide_eq_false (s.products.lt _ h.product).ne'
  refine hkept.createImages (fun image himage => ?_) fun image himage => ?_
  · obtain ⟨data, -, rfl⟩ := List.mem_map.mp himage
    exact hnew
  · obtain ⟨data, hdata, rfl⟩ := List.mem_map.mp himage
    exact hnames data hdata

lemma deleteProduct (h : Kept s₀ id product files s) {productId : ProductId}
    (hother : productId ≠ id) {p : Row Image → Bool}
    (howns : ∀ row ∈ s.images.rows, p row = true → s₀.owns id row.val.gallery = false) :
    Kept s₀ id product files { s.deleteImages p with
      products := s.products.delete (·.id = productId)
      variants := s.variants.delete (·.val.productId = productId) } := by
  have hkept := h.deleteImages howns
  refine ⟨h.within.trans ⟨.delete _ _ _, .delete _ _ _, .delete _ _ _, fun _ h => h⟩, ?_, ?_,
    hkept.images, hkept.files⟩
  · exact List.mem_filter.mpr ⟨h.product, by simpa using Ne.symm hother⟩
  · refine Eq.trans (Serial.filter_delete fun row _ hrow => ?_) h.variants
    have hproduct : row.val.productId = productId := of_decide_eq_true hrow
    exact decide_eq_false (hproduct ▸ hother)

lemma deleteVariant (h : Kept s₀ id product files s) {variantId : VariantId}
    (howns : s₀.owns id (.variant variantId) = false) :
    Kept s₀ id product files { s.deleteImages (·.val.gallery = .variant variantId) with
      variants := s.variants.delete (·.id = variantId) } := by
  have hkept := h.deleteImages (p := (·.val.gallery = .variant variantId))
    fun row _ hrow => by rw [of_decide_eq_true hrow, howns]
  refine ⟨h.within.trans ⟨.refl _ _, .delete _ _ _, .delete _ _ _, fun _ h => h⟩, h.product, ?_,
    hkept.images, hkept.files⟩
  refine Eq.trans (Serial.filter_delete fun row hrow hid => ?_) h.variants
  refine decide_eq_false fun hproduct => ?_
  -- a variant of the product would be one of those that were there
  have hmem : (⟨variantId, ⟨id⟩⟩ : Row Variant) ∈ s.variantsOf id := by
    obtain rfl : row.id = variantId := of_decide_eq_true hid
    obtain rfl : row.val.productId = id := hproduct
    exact List.mem_filter.mpr ⟨hrow, decide_eq_true rfl⟩
  rw [h.variants] at hmem
  exact Bool.false_ne_true (howns.symm.trans (owns_variant_iff.mpr hmem))

/-- **A step of a foreign request.** -/
lemma apply {c : Commit} (h : Kept s₀ id product files s) (hx : x.Foreign product files)
    (hspec : Spec x s c) (happ : Galleries.apply c s = some s') :
    Kept s₀ id product files s' := by
  have hother {g : Gallery} (htouch : MayTouch x.user s g) : s₀.owns id g = false :=
    h.not_owns hx.1 htouch
  cases c with
  | createImage gallery data =>
    obtain ⟨-, happ⟩ := Option.ite_none_right_eq_some.mp happ
    obtain rfl := Option.some.inj happ
    have howns := hother hspec.1
    refine h.createImages (by simpa using howns) ?_
    intro image himage f hf hmem
    obtain rfl := List.mem_singleton.mp himage
    rcases hspec.2 f hf with hnamed | hnamed
    · exact hx.2 f hnamed hmem
    · exact Bool.false_ne_true (howns.symm.trans ((h.files f hmem).2.2 _ hnamed rfl))
  | deleteImage imageId =>
    obtain ⟨-, happ⟩ := Option.ite_none_right_eq_some.mp happ
    obtain rfl := Option.some.inj happ
    refine h.deleteImages fun row hrow hid => hother (hspec row.val ?_)
    exact (of_decide_eq_true hid : row.id = imageId) ▸ hrow
  | reorder orders =>
    -- the images of the later updates are still those that were checked
    refine (reorder_induction (P := fun t => Kept s₀ id product files t ∧ Within s t ∧
      t.images.next = s.images.next) ?_ ⟨h, .refl s, rfl⟩ happ).1
    rintro t order horder ⟨hkept, hwithin, hnext⟩
    refine ⟨hkept.sortImage fun image himage => ?_, hwithin.trans (within_sortImage t _ _), hnext⟩
    obtain ⟨image', hmem, hgallery⟩ :=
      hwithin.images.old _ himage (hnext ▸ t.images.lt _ himage)
    rw [← show image'.gallery = image.gallery from hgallery]
    exact hother (hspec order horder image' hmem)
  | replaceImages variantId images =>
    obtain ⟨-, happ⟩ := Option.ite_none_right_eq_some.mp happ
    obtain rfl := Option.some.inj happ
    have howns := hother hspec.1
    have hkept := h.deleteImages (p := (·.val.gallery = .variant variantId))
      fun row _ hrow => by rw [of_decide_eq_true hrow, howns]
    refine hkept.createImages (fun image himage => ?_) fun image himage f hf => ?_
    · obtain ⟨data, -, rfl⟩ := List.mem_map.mp himage
      exact howns
    · obtain ⟨data, hdata, rfl⟩ := List.mem_map.mp himage
      exact hx.2 f (hspec.2 data hdata f hf)
  | createProduct created images =>
    obtain rfl := Option.some.inj happ
    exact h.createProduct fun data hdata f hf => hx.2 f (hspec data hdata f hf)
  | createVariants productId variants =>
    obtain ⟨-, happ⟩ := Option.ite_none_right_eq_some.mp happ
    obtain rfl := Option.some.inj happ
    have hne : productId ≠ id := of_decide_eq_false (hother hspec.1)
    exact createVariants_induction (P := Kept s₀ id product files)
      (fun t images himages ht => ht.createVariant hne fun data hdata f hf =>
        hx.2 f (hspec.2 images himages data hdata f hf)) h
  | deleteProduct productId =>
    obtain ⟨-, happ⟩ := Option.ite_none_right_eq_some.mp happ
    obtain rfl := Option.some.inj happ
    have hne : productId ≠ id := of_decide_eq_false (hother hspec)
    refine h.deleteProduct hne fun row _ hrow => ?_
    rcases of_decide_eq_true hrow with hgallery | ⟨variant, hvariant, hproduct, hgallery⟩
    · rw [hgallery]
      exact decide_eq_false hne
    · rw [hgallery]
      by_contra howns
      have hmem := owns_variant_iff.mp (Bool.eq_true_of_not_eq_false howns)
      rw [← h.variants] at hmem
      have hsame := Serial.eq_of_mem (List.mem_filter.mp hmem).1 hvariant
      exact hne (hproduct.symm.trans (congrArg Variant.productId hsame).symm)
  | deleteVariant variantId =>
    obtain ⟨-, happ⟩ := Option.ite_none_right_eq_some.mp happ
    obtain rfl := Option.some.inj happ
    exact h.deleteVariant (hother hspec)
  | upload gallery fileId =>
    obtain ⟨hfresh, happ⟩ := Option.ite_none_left_eq_some.mp happ
    obtain rfl := Option.some.inj happ
    refine ⟨h.within.trans ⟨.refl _ _, .refl _ _, .refl _ _, List.subset_append_left _ _⟩,
      h.product, h.variants, h.images, fun f hf => ?_⟩
    obtain ⟨hkit, hissued, hnamed⟩ := h.files f hf
    refine ⟨List.mem_append_left _ hkit, List.mem_append_left _ hissued, fun pair hmem hpair => ?_⟩
    rcases List.mem_append.mp hmem with hmem | hmem
    · exact hnamed pair hmem hpair
    · obtain rfl := List.mem_singleton.mp hmem
      obtain rfl : fileId = f := hpair
      exact absurd hissued hfresh
  | deleteFile fileId =>
    obtain rfl := Option.some.inj happ
    refine ⟨h.within.trans ⟨.refl _ _, .refl _ _, .refl _ _, fun _ h => h⟩, h.product, h.variants,
      h.images, fun f hf => ?_⟩
    obtain ⟨hkit, hissued, hnamed⟩ := h.files f hf
    refine ⟨List.mem_filter.mpr ⟨hkit, decide_eq_true ?_⟩, hissued, hnamed⟩
    rintro rfl
    rcases hspec with hnames | ⟨g, hmem, htouch⟩
    · exact hx.2 f hnames hf
    · exact Bool.false_ne_true ((hother htouch).symm.trans (hnamed _ hmem rfl))

lemma environ (h : Kept s₀ id product files s) (e : ClientUpload) :
    Kept s₀ id product files (e.apply s) := by
  unfold ClientUpload.apply
  split
  · exact h
  · refine ⟨h.within.trans ⟨.refl _ _, .refl _ _, .refl _ _, fun _ h => h⟩, h.product, h.variants,
      h.images, fun f hf => ?_⟩
    obtain ⟨hkit, hissued, hnamed⟩ := h.files f hf
    exact ⟨List.mem_append_left _ hkit, List.mem_append_left _ hissued, hnamed⟩

end Kept

/-! ## Runs -/

lemma galleries_rely (privateKey : Bool) (Allowed : Call → Prop) :
    Rely (galleryServer privateKey) Allowed Free Within Spec where
  refl := Within.refl
  trans := Within.trans
  env _ _ := within_environ _
  commit _ _ _ happ := within_apply happ
  emits x s _ := call_emits privateKey x s

/-- **The galleries of a product are left to those who may change it.**  Whatever the others ask
for at the same time, the product keeps its variants, and its galleries keep their images with all
they say and in their order; and a file of these images that nobody else names stays at ImageKit. -/
theorem galleries_kept {privateKey : Bool} {s₀ : Store} {cfg : Config Store Commit AppError}
    {id : ProductId} {product : Product} {files : List FileId}
    (hproduct : ⟨id, product⟩ ∈ s₀.products.rows)
    (hfiles : ∀ f ∈ files, f ∈ s₀.files ∧ f ∈ s₀.issued ∧
      ∀ pair ∈ s₀.named, pair.2 = f → s₀.owns id pair.1 = true)
    (hr : (galleryServer privateKey).Reachable (Call.Foreign product files) Free s₀ cfg) :
    ⟨id, product⟩ ∈ cfg.store.products.rows ∧ cfg.store.variantsOf id = s₀.variantsOf id ∧
      cfg.store.imagesUnder id = s₀.imagesUnder id ∧ ∀ f ∈ files, f ∈ cfg.store.files := by
  have hkept : Kept s₀ id product files cfg.store :=
    (galleries_rely privateKey _).invariant hr (.refl hproduct hfiles)
      (fun e s h => h.environ e) fun hx hspec _ happ h => h.apply hx hspec happ
  refine ⟨hkept.product, hkept.variants, ?_, fun f hf => (hkept.files f hf).1⟩
  have howns : cfg.store.owns id = s₀.owns id := by
    funext gallery
    cases gallery with
    | product productId => rfl
    | variant variantId =>
      rw [Bool.eq_iff_iff, owns_variant_iff, owns_variant_iff, hkept.variants]
  rw [Store.imagesUnder, howns]
  exact hkept.images

def photo (gallery : Gallery) (fileId : FileId) (sortOrder : ℕ) : Image :=
  ⟨⟨some fileId, "https://images/" ++ fileId, none, none, sortOrder, none, none, none⟩, gallery⟩

/-- A lamp of the user 7 with a variant, and a chair of the user 8. -/
def showroom : Store where
  products := ⟨[⟨0, ⟨some 7⟩⟩, ⟨1, ⟨some 8⟩⟩], 2, by decide, by decide⟩
  variants := ⟨[⟨0, ⟨0⟩⟩], 1, by decide, by decide⟩
  images := ⟨[⟨0, photo (.product 0) "lamp" 0⟩, ⟨1, photo (.variant 0) "shade" 0⟩,
    ⟨2, photo (.product 1) "chair" 0⟩], 3, by decide, by decide⟩
  files := ["lamp", "shade", "chair"]
  issued := ["lamp", "shade", "chair"]
  named := [(.product 0, "lamp"), (.variant 0, "shade"), (.product 1, "chair")]
  images_named := by decide

/-- The user 8 deletes the image of the chair, tries to sort that of the lamp among its images and
to delete that of the shade, and uploads another one. -/
theorem galleries_kept_showroom : ∃ cfg : Config Store Commit AppError,
    cfg.store.files = ["lamp", "shade", "stool"] ∧
    cfg.store.imagesUnder 0 = showroom.imagesUnder 0 := by
  obtain ⟨cfg, hr, hfiles⟩ := (galleryServer true).exists_reachable_of_exec
    (Call.Foreign ⟨some 7⟩ ["lamp", "shade"]) Free
    [.call (.deleteImage (.product 1) 2 (some ⟨8, 8, [], [], none⟩)), .step 0 .ok,
      .call (.reorderImages (.product 1) [⟨2, 1⟩, ⟨0, 0⟩] (some ⟨8, 8, [], [], none⟩)),
      .step 1 .ok, .step 0 .ok, .step 1 .ok, .step 0 .ok, .step 0 .ok,
      .call (.deleteImage (.variant 0) 1 (some ⟨8, 8, [], [], none⟩)), .step 2 .ok,
      .call (.uploadImage (.product 1) ⟨"stool", "https://images/stool", none, none, none, none⟩
        none none (some ⟨8, 8, [], [], none⟩)), .step 3 .ok, .step 3 .ok, .step 3 .ok]
    showroom (fun s : Store => s.files) ["lamp", "shade", "stool"] (by decide +kernel)
  have hkept := galleries_kept (by decide : (⟨0, ⟨some 7⟩⟩ : Row Product) ∈ showroom.products.rows)
    (by decide +kernel) hr
  exact ⟨cfg, hfiles, hkept.2.2.1⟩

end MeeoServer.Catalog.Galleries
