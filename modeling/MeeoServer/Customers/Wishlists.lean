/-
# Wishlists

`wishlists/services/wishlistCore.service.ts`, `wishlistItem.service.ts` and
`wishlistTransfer.service.ts`, beside the additions to carts.  A product moves to the cart in two
steps that may be far apart: first a variant of it is added to the cart, and then the product is
removed from the wishlist, unless somebody has done so already.

What was put on the wishlists and what was removed from them is history; a removal that is the end
of a move tells what was moved.  A product that is deleted disappears from the wishlists.  Of the
answers, the lines are modelled with prices, stock and the number of variants.
-/
import MeeoServer.Customers.Additions
import MeeoServer.Process.Vouchers

namespace MeeoServer.Customers.Wishlists

open Proc
open Storefront

/-! ## The tables -/

structure WishlistRow where
  id : ℕ
  userId : UserId
deriving DecidableEq

structure WishlistItemRow where
  wishlistId : ℕ
  productId : ProductId
deriving DecidableEq

/-- The constraints of the tables. -/
structure Valid (catalogue : Catalogue) (wishlists : List WishlistRow)
    (items : List WishlistItemRow) : Prop where
  ids_nodup : (wishlists.map WishlistRow.id).Nodup
  users_nodup : (wishlists.map WishlistRow.userId).Nodup
  items_nodup : items.Nodup
  wishlist_mem : ∀ item ∈ items, item.wishlistId ∈ wishlists.map WishlistRow.id
  product_mem : ∀ item ∈ items, (catalogue.product item.productId).isSome

section Constraints

variable {catalogue : Catalogue} {wishlists : List WishlistRow} {items : List WishlistItemRow}

lemma valid_iff : Valid catalogue wishlists items ↔
    (wishlists.map WishlistRow.id).Nodup ∧ (wishlists.map WishlistRow.userId).Nodup ∧
      items.Nodup ∧ (∀ item ∈ items, item.wishlistId ∈ wishlists.map WishlistRow.id) ∧
        ∀ item ∈ items, (catalogue.product item.productId).isSome :=
  ⟨fun h => ⟨h.ids_nodup, h.users_nodup, h.items_nodup, h.wishlist_mem, h.product_mem⟩,
    fun h => ⟨h.1, h.2.1, h.2.2.1, h.2.2.2.1, h.2.2.2.2⟩⟩

instance : Decidable (Valid catalogue wishlists items) := decidable_of_iff' _ valid_iff

/-- Products are deleted, and their items with them. -/
lemma Valid.cascade (h : Valid catalogue wishlists items) (new : Catalogue) :
    Valid new wishlists (items.filter fun item => (new.product item.productId).isSome) where
  ids_nodup := h.ids_nodup
  users_nodup := h.users_nodup
  items_nodup := h.items_nodup.filter _
  wishlist_mem item hitem := h.wishlist_mem item (List.mem_filter.mp hitem).1
  product_mem _ hitem := (List.mem_filter.mp hitem).2

end Constraints

/-- What was moved, as it was seen, and how much of it. -/
structure Move where
  product : Product
  variant : ProductVariant
  quantity : ℕ
deriving DecidableEq

structure Removal where
  userId : UserId
  productId : ProductId
  move : Option Move
deriving DecidableEq

def Removal.key (removal : Removal) : UserId × ProductId := (removal.userId, removal.productId)

/-- What has to be in the cart for a removal. -/
def Removal.addition (removal : Removal) : Option (UserId × AddCartItemInput) :=
  removal.move.map fun move => (removal.userId, ⟨move.variant.id, move.quantity⟩)

def owner (wishlists : List WishlistRow) (wishlistId : ℕ) : Option UserId :=
  (wishlists.find? fun wishlist => wishlist.id = wishlistId).map WishlistRow.userId

/-- Who wishes what, by some of the items. -/
def wishes (wishlists : List WishlistRow) (items : List WishlistItemRow) :
    List (UserId × ProductId) :=
  items.filterMap fun item => (owner wishlists item.wishlistId).map fun userId =>
    (userId, item.productId)

structure Store where
  /-- The catalogue and the carts. -/
  carts : Additions.Store
  wishlists : List WishlistRow
  items : List WishlistItemRow
  valid : Valid carts.catalogue wishlists items
  /-- What was put on the wishlists, what was removed by their owners, and what has disappeared. -/
  wished : List (UserId × ProductId)
  removed : List Removal
  dropped : List (UserId × ProductId)

inductive Commit where
  | cart (c : Additions.Commit)
  | createWishlist (wishlist : WishlistRow)
  | createItem (userId : UserId) (item : WishlistItemRow)
  | deleteItem (removal : Removal) (item : WishlistItemRow)

/-- The wishlists and their items after a batch. -/
def Commit.wishlists : Commit → List WishlistRow → List WishlistRow
  | .createWishlist wishlist, wishlists => wishlists ++ [wishlist]
  | _, wishlists => wishlists

def Commit.items : Commit → List WishlistItemRow → List WishlistItemRow
  | .createItem _ item, items => items ++ [item]
  | .deleteItem _ item, items => items.filter fun row => row ≠ item
  | _, items => items

/-- The row to delete is there. -/
def Commit.Found (s : Store) : Commit → Prop
  | .deleteItem _ item => item ∈ s.items
  | _ => True

instance (s : Store) : (c : Commit) → Decidable (c.Found s)
  | .cart _ | .createWishlist _ | .createItem _ _ => .isTrue trivial
  | .deleteItem _ item => inferInstanceAs (Decidable (item ∈ s.items))

def Commit.wished : Commit → List (UserId × ProductId)
  | .createItem userId item => [(userId, item.productId)]
  | _ => []

def Commit.removed : Commit → List Removal
  | .deleteItem removal _ => [removal]
  | _ => []

/-- The part of a batch for the carts. -/
def Commit.carts : Commit → Additions.Store → Option Additions.Store
  | .cart c, carts => c.apply carts
  | _, carts => some carts

def Commit.apply (c : Commit) (s : Store) : Option Store :=
  (c.carts s.carts).bind fun carts =>
    if h : c.Found s ∧ Valid carts.catalogue (c.wishlists s.wishlists) (c.items s.items) then
      some
        { carts := carts
          wishlists := c.wishlists s.wishlists
          items := c.items s.items
          valid := h.2
          wished := s.wished ++ c.wished
          removed := s.removed ++ c.removed
          dropped := s.dropped }
    else none

namespace Store

variable (s : Store)

def catalogue : Catalogue := s.carts.catalogue

/-- The variants of a product that are for sale. -/
def activeVariants (productId : ProductId) : List ProductVariant :=
  s.catalogue.variants.filter fun v => v.productId = productId ∧ v.status = .active

/-- The catalogue changes; the items of a product that is deleted go with it. -/
def withCatalogue (catalogue : Catalogue) : Store where
  carts := { s.carts with catalogue := catalogue }
  wishlists := s.wishlists
  items := s.items.filter fun item => (catalogue.product item.productId).isSome
  valid := s.valid.cascade catalogue
  wished := s.wished
  removed := s.removed
  dropped := s.dropped ++ wishes s.wishlists
    (s.items.filter fun item => !(catalogue.product item.productId).isSome)

end Store

/-! ## Answers -/

structure WishlistLine where
  productId : ProductId
  name : String
  status : ProductStatus
  minPrice : ℚ≥0
  maxPrice : ℚ≥0
  inStock : Bool
  availableVariantsCount : ℕ
deriving DecidableEq

structure WishlistResponse where
  id : ℕ
  userId : UserId
  itemCount : ℕ
  items : List WishlistLine
deriving DecidableEq

def wishlistLine (s : Store) (product : Product) : WishlistLine :=
  let variants := s.activeVariants product.id
  { productId := product.id
    name := product.name
    status := product.status
    minPrice := (variants.map ProductVariant.price).min?.getD 0
    maxPrice := (variants.map ProductVariant.price).max?.getD 0
    inStock := decide (0 < (variants.map fun v => s.catalogue.stock.available v.id).sum)
    availableVariantsCount := variants.length }

/-- Formats wishlist data for API responses, the latest item first. -/
def formatWishlist (s : Store) (wishlist : WishlistRow) : WishlistResponse :=
  let products := (s.items.filter fun item => item.wishlistId = wishlist.id).reverse.filterMap
    fun item => s.catalogue.product item.productId
  { id := wishlist.id
    userId := wishlist.userId
    itemCount := products.length
    items := products.map (wishlistLine s) }

/-! ## The services -/

abbrev Service := Proc Store Commit AppError

/-- Resolves or creates a wishlist for an authenticated user; the database draws `id`.  The items
of the wishlist are those of the store that is returned with it. -/
def getOrCreateWishlist (userId : UserId) (id : ℕ) : Service (WishlistRow × Store) := do
  let s ← Proc.read
  match s.wishlists.find? fun wishlist => wishlist.userId = userId with
  | some wishlist => pure (wishlist, s)
  | none => do
    let s ← Proc.commit (.createWishlist ⟨id, userId⟩)
    pure (⟨id, userId⟩, s)

/-- Retrieves the formatted wishlist for a user. -/
def getWishlist (userId : UserId) (id : ℕ) : Service WishlistResponse := do
  let (wishlist, s) ← getOrCreateWishlist userId id
  pure (formatWishlist s wishlist)

/-- `!product || product.status !== "ACTIVE" || product.deletedAt` -/
def activeProduct (c : Catalogue) (productId : ProductId) : Option Product :=
  (c.product productId).filter fun product => product.status = .active ∧ product.deletedAt = none

/-- Adds a product to the user's wishlist (idempotent). -/
def addProduct (userId : UserId) (productId : ProductId) (id : ℕ) : Service WishlistResponse := do
  let (wishlist, _) ← getOrCreateWishlist userId id
  let s ← Proc.read
  if (activeProduct s.catalogue productId).isNone then
    throw ⟨"Product not found or is inactive", 404⟩
  else do
    let s ← Proc.read
    (if ⟨wishlist.id, productId⟩ ∈ s.items then pure () else do
      let _ ← Proc.commit (.createItem userId ⟨wishlist.id, productId⟩)
      pure () : Service Unit)
    let s ← Proc.read
    pure (formatWishlist s wishlist)

/-- Removes a product from the user's wishlist, at the end of a move or not. -/
def removeProduct (userId : UserId) (productId : ProductId) (move : Option Move) (id : ℕ) :
    Service WishlistResponse := do
  let (wishlist, _) ← getOrCreateWishlist userId id
  let s ← Proc.read
  if ⟨wishlist.id, productId⟩ ∉ s.items then
    throw ⟨"Product not found in your wishlist", 404⟩
  else do
    let _ ← Proc.commit (.deleteItem ⟨userId, productId, move⟩ ⟨wishlist.id, productId⟩)
    let s ← Proc.read
    pure (formatWishlist s wishlist)

/-- The variant that was asked for if it is one of the product, or the first one in stock, or the
first one. -/
def targetVariant (s : Store) (productId : ProductId) (variantId : Option VariantId) :
    Option ProductVariant :=
  let variants := s.activeVariants productId
  ((variants.find? fun v => some v.id = variantId).or
    (variants.find? fun v => 0 < s.catalogue.stock.available v.id)).or variants.head?

structure MoveToCartInput where
  variantId : Option VariantId
  quantity : Option ℕ

structure MoveToCartResponse where
  message : String
  addedVariantId : VariantId
  cart : CartResponse
deriving DecidableEq

/-- What the database draws for a request. -/
structure Drawn where
  wishlistId : ℕ
  cartId : CartId
  itemId : CartItemId
  pick : ℕ

/-- Moves a wishlist product into the user's shopping cart. -/
def moveToCart (userId : UserId) (productId : ProductId) (input : MoveToCartInput) (d : Drawn) :
    Service MoveToCartResponse := do
  let s ← Proc.read
  match activeProduct s.catalogue productId, targetVariant s productId input.variantId with
  | none, _ => throw ⟨"Product is not available for purchase", 400⟩
  | some _, none => throw ⟨"No active purchasable variant available for this product", 400⟩
  | some product, some variant => do
    let cart ← (Additions.addItem ⟨userId, ⟨variant.id, input.quantity.getD 1⟩, d.cartId, d.itemId,
      d.pick⟩).zoom Store.carts Commit.cart
    -- ignore if already removed
    Proc.tryCatch (do
      let _ ← removeProduct userId productId (some ⟨product, variant, input.quantity.getD 1⟩)
        d.wishlistId
      pure ())
      fun _ => pure ()
    pure ⟨s!"Moved \"{product.name}\" to cart successfully", variant.id, cart⟩

inductive Call where
  | getWishlist (userId : UserId)
  | addProduct (userId : UserId) (productId : ProductId)
  | removeProduct (userId : UserId) (productId : ProductId)
  | moveToCart (userId : UserId) (productId : ProductId) (input : MoveToCartInput)
  /-- An addition to the cart that has nothing to do with a wishlist. -/
  | addItem (userId : UserId) (input : AddCartItemInput)

def Call.proc : Call × Drawn → Service Unit
  | (.getWishlist userId, d) => do
    let _ ← Wishlists.getWishlist userId d.wishlistId
    pure ()
  | (.addProduct userId productId, d) => do
    let _ ← Wishlists.addProduct userId productId d.wishlistId
    pure ()
  | (.removeProduct userId productId, d) => do
    let _ ← Wishlists.removeProduct userId productId none d.wishlistId
    pure ()
  | (.moveToCart userId productId input, d) => do
    let _ ← Wishlists.moveToCart userId productId input d
    pure ()
  | (.addItem userId input, d) => do
    let _ ← (Additions.addItem ⟨userId, input, d.cartId, d.itemId, d.pick⟩).zoom Store.carts
      Commit.cart
    pure ()

/-- The wishlist endpoints beside the cart; the environment changes the catalogue. -/
def wishlistServer : Machine Store Commit AppError (Call × Drawn) Catalogue where
  apply := Commit.apply
  proc := Call.proc
  environ catalogue s := s.withCatalogue catalogue

/-! ## Who wishes what -/

section Owners

variable {catalogue : Catalogue} {wishlists : List WishlistRow} {items : List WishlistItemRow}
  {wishlist : WishlistRow} {item : WishlistItemRow}

/-- The owner of a wishlist that is there. -/
lemma Valid.owner_eq (h : Valid catalogue wishlists items) (hmem : wishlist ∈ wishlists) :
    owner wishlists wishlist.id = some wishlist.userId := by
  have hfind : wishlists.find? (fun other => other.id = wishlist.id) = some wishlist :=
    Additions.find?_eq_some_of_unique hmem (decide_eq_true rfl) fun other hother hid =>
      List.inj_on_of_nodup_map h.ids_nodup hother hmem (of_decide_eq_true hid)
  rw [owner, hfind, Option.map_some]

/-- An item has an owner, by whose wishlist it is there. -/
lemma Valid.exists_wishlist (h : Valid catalogue wishlists items) (hitem : item ∈ items) :
    ∃ wishlist ∈ wishlists, wishlist.id = item.wishlistId ∧
      owner wishlists item.wishlistId = some wishlist.userId := by
  obtain ⟨wishlist, hmem, hid⟩ := List.mem_map.mp (h.wishlist_mem item hitem)
  exact ⟨wishlist, hmem, hid, hid ▸ h.owner_eq hmem⟩

@[simp] lemma wishes_append (l l' : List WishlistItemRow) :
    wishes wishlists (l ++ l') = wishes wishlists l ++ wishes wishlists l' :=
  List.filterMap_append

lemma wishes_singleton {userId : UserId} (h : owner wishlists item.wishlistId = some userId) :
    wishes wishlists [item] = [(userId, item.productId)] := by
  rw [wishes, List.filterMap_cons_some (by rw [h]; rfl), List.filterMap_nil]

/-- A user has a product on the wishlist once. -/
lemma Valid.wishes_nodup (h : Valid catalogue wishlists items) : (wishes wishlists items).Nodup := by
  refine List.Nodup.filterMap (fun item item' wish hwish hwish' => ?_) h.items_nodup
  obtain ⟨userId, howner, rfl⟩ := Option.map_eq_some_iff.mp hwish
  obtain ⟨userId', howner', hsame⟩ := Option.map_eq_some_iff.mp hwish'
  obtain ⟨rfl, hproduct⟩ := Prod.mk.inj hsame
  -- one user, one wishlist
  obtain ⟨wishlist, hfind, hid⟩ := Option.map_eq_some_iff.mp howner
  obtain ⟨wishlist', hfind', hid'⟩ := Option.map_eq_some_iff.mp howner'
  have heq : wishlist = wishlist' := List.inj_on_of_nodup_map h.users_nodup
    (List.mem_of_find?_eq_some hfind) (List.mem_of_find?_eq_some hfind') (hid.trans hid'.symm)
  have hleft : wishlist.id = item.wishlistId := by simpa using List.find?_some hfind
  have hright : wishlist'.id = item'.wishlistId := by simpa using List.find?_some hfind'
  have hwishlist : item.wishlistId = item'.wishlistId := by rw [← hleft, heq, hright]
  cases item
  cases item'
  simp_all

/-- A new wishlist is empty. -/
lemma wishes_createWishlist (h : Valid catalogue wishlists items) (new : WishlistRow) :
    wishes (wishlists ++ [new]) items = wishes wishlists items := by
  refine List.filterMap_congr fun item hitem => ?_
  obtain ⟨wishlist, -, -, howner⟩ := h.exists_wishlist hitem
  have hfind := howner
  rw [owner, Option.map_eq_some_iff] at hfind
  obtain ⟨found, hfound, hfoundUser⟩ := hfind
  have hnew : owner (wishlists ++ [new]) item.wishlistId = some wishlist.userId := by
    rw [owner, List.find?_append, hfound, Option.some_or, Option.map_some, hfoundUser]
  rw [howner, hnew]

/-- An item and the others. -/
lemma wishes_deleteItem (h : Valid catalogue wishlists items) (hitem : item ∈ items)
    {userId : UserId} (howner : owner wishlists item.wishlistId = some userId) :
    (wishes wishlists items).Perm ((userId, item.productId) ::
      wishes wishlists (items.filter fun row => row ≠ item)) := by
  have hperm : items.Perm (item :: items.filter fun row => row ≠ item) := by
    have herase : items.erase item = items.filter fun row => row ≠ item := by
      rw [h.items_nodup.erase_eq_filter]
      exact List.filter_congr fun row _ => by simp [bne, beq_eq_decide]
    rw [← herase]
    exact List.perm_cons_erase hitem
  have hwishes := hperm.filterMap fun item => (owner wishlists item.wishlistId).map fun userId =>
    (userId, item.productId)
  rwa [List.filterMap_cons_some (by rw [howner]; rfl)] at hwishes

end Owners

/-! ## One batch -/

/-- What was to be moved was for sale, and a variant of the product. -/
structure Move.Of (productId : ProductId) (move : Move) : Prop where
  product_id : move.product.id = productId
  product_active : move.product.status = .active ∧ move.product.deletedAt = none
  variant_of : move.variant.productId = productId
  variant_active : move.variant.status = .active

/-- What a request knows of the wishlist that it changes: it is the user's. -/
def Commit.Known (s : Store) : Commit → Prop
  | .cart _ | .createWishlist _ => True
  | .createItem userId item => ⟨item.wishlistId, userId⟩ ∈ s.wishlists
  | .deleteItem removal item => ⟨item.wishlistId, removal.userId⟩ ∈ s.wishlists ∧
      item.productId = removal.productId ∧
        ∀ move, removal.move = some move → move.Of removal.productId

section Batch

variable {s s' : Store} {c : Commit}

lemma Commit.apply_eq_some (happ : c.apply s = some s') :
    c.carts s.carts = some s'.carts ∧ c.Found s ∧ s'.wishlists = c.wishlists s.wishlists ∧
      s'.items = c.items s.items ∧ s'.wished = s.wished ++ c.wished ∧
        s'.removed = s.removed ++ c.removed ∧ s'.dropped = s.dropped := by
  obtain ⟨carts, hcarts, hrest⟩ := Option.bind_eq_some_iff.mp happ
  obtain ⟨h, hs'⟩ := Option.dite_none_right_eq_some.mp hrest
  obtain rfl := Option.some.inj hs'
  exact ⟨hcarts, h.1, rfl, rfl, rfl, rfl, rfl⟩

lemma apply_cart {c : Additions.Commit} (happ : (Commit.cart c).apply s = some s') :
    c.apply s.carts = some s'.carts :=
  (Commit.apply_eq_some happ).1

/-- Every wish is on a wishlist, or was removed by its owner, or the product was deleted. -/
structure Accounted (s : Store) : Prop where
  wished : s.wished.Perm
    (wishes s.wishlists s.items ++ s.removed.map Removal.key ++ s.dropped)
  move : ∀ removal ∈ s.removed, ∀ move, removal.move = some move → move.Of removal.productId

lemma Accounted.of_apply (h : Accounted s) (hknown : c.Known s) (happ : c.apply s = some s') :
    Accounted s' := by
  obtain ⟨-, hfound, hwishlists, hitems, hwished, hremoved, hdropped⟩ := Commit.apply_eq_some happ
  constructor
  · rw [hwishlists, hitems, hwished, hremoved, hdropped]
    cases c with
    | cart c =>
      show (s.wished ++ []).Perm (_ ++ (s.removed ++ []).map _ ++ _)
      rw [List.append_nil, List.append_nil]
      exact h.wished
    | createWishlist wishlist =>
      show (s.wished ++ []).Perm (wishes (s.wishlists ++ [wishlist]) s.items ++
        (s.removed ++ []).map _ ++ _)
      rw [List.append_nil, List.append_nil, wishes_createWishlist s.valid]
      exact h.wished
    | createItem userId item =>
      have howner : owner s.wishlists item.wishlistId = some userId := s.valid.owner_eq hknown
      show (s.wished ++ [(userId, item.productId)]).Perm
        (wishes s.wishlists (s.items ++ [item]) ++ (s.removed ++ []).map _ ++ _)
      rw [List.append_nil, wishes_append, wishes_singleton howner, List.append_assoc,
        List.append_assoc]
      refine (h.wished.append_right _).trans ?_
      rw [List.append_assoc, List.append_assoc]
      refine List.Perm.append_left _ ?_
      rw [← List.append_assoc]
      exact List.perm_append_comm
    | deleteItem removal item =>
      obtain ⟨hwishlist, hproduct, -⟩ := hknown
      have howner : owner s.wishlists item.wishlistId = some removal.userId :=
        s.valid.owner_eq hwishlist
      have hkey : removal.key = (removal.userId, item.productId) := by rw [hproduct]; rfl
      show (s.wished ++ []).Perm (wishes s.wishlists (s.items.filter fun row => row ≠ item) ++
        (s.removed ++ [removal]).map Removal.key ++ s.dropped)
      rw [List.append_nil, List.map_append, List.map_singleton, hkey]
      refine h.wished.trans (List.Perm.append_right _ ?_)
      refine ((wishes_deleteItem s.valid hfound howner).append_right _).trans ?_
      rw [List.cons_append, ← List.append_assoc]
      exact (List.perm_append_singleton _ _).symm
  · rw [hremoved]
    intro removal hmem
    rcases List.mem_append.mp hmem with hmem | hmem
    · exact h.move removal hmem
    · cases c with
      | deleteItem new item =>
        obtain rfl := List.mem_singleton.mp hmem
        exact hknown.2.2
      | cart _ | createWishlist _ | createItem _ _ => exact absurd hmem List.not_mem_nil

/-- What disappears with a product is accounted for. -/
lemma Accounted.withCatalogue (h : Accounted s) (catalogue : Catalogue) :
    Accounted (s.withCatalogue catalogue) := by
  refine ⟨?_, h.move⟩
  have hsplit := List.filter_append_perm
    (fun item : WishlistItemRow => (catalogue.product item.productId).isSome) s.items
  have hwishes := hsplit.symm.filterMap fun item =>
    (owner s.wishlists item.wishlistId).map fun userId => (userId, item.productId)
  rw [List.filterMap_append] at hwishes
  refine h.wished.trans (((hwishes.append_right _).append_right _).trans ?_)
  show (wishes s.wishlists _ ++ wishes s.wishlists _ ++ s.removed.map _ ++ s.dropped).Perm
    (wishes s.wishlists _ ++ s.removed.map _ ++ (s.dropped ++ wishes s.wishlists _))
  rw [List.append_assoc, List.append_assoc, List.append_assoc]
  refine List.Perm.append_left _ ?_
  rw [← List.append_assoc (s.removed.map Removal.key)]
  exact List.perm_append_comm

end Batch

/-! ## What a request knows -/

/-- Wishlists stay. -/
def Later (s s' : Store) : Prop := ∀ wishlist ∈ s.wishlists, wishlist ∈ s'.wishlists

lemma Later.of_apply {s s' : Store} {c : Commit} (happ : c.apply s = some s') : Later s s' := by
  obtain ⟨-, -, hwishlists, -⟩ := Commit.apply_eq_some happ
  intro wishlist hmem
  rw [hwishlists]
  cases c with
  | createWishlist new => exact List.mem_append_left _ hmem
  | cart _ | createItem _ _ | deleteItem _ _ => exact hmem

section Requests

/-- The wishlist that a request works on is the user's. -/
lemma getOrCreateWishlist_emits (userId : UserId) (id : ℕ) (s : Store) :
    (getOrCreateWishlist userId id).Emits Commit.apply Later Later (fun s c => c.Known s)
      (fun r s => ∀ found, r = .ok found → ⟨found.1.id, userId⟩ ∈ s.wishlists) s := by
  refine emits_read_post (fun _ _ h => nomatch h) fun s _ => ?_
  split
  · rename_i wishlist hfind
    rintro _ ⟨⟩
    have huser : wishlist.userId = userId := by simpa using List.find?_some hfind
    rw [← huser]
    exact List.mem_of_find?_eq_some hfind
  · refine emits_commit_post (fun _ _ h => nomatch h) (fun _ _ => trivial)
      fun s s' _ happ _ => ?_
    rintro _ ⟨⟩
    obtain ⟨-, -, hwishlists, -⟩ := Commit.apply_eq_some happ
    rw [hwishlists]
    exact List.mem_append_right _ (List.mem_singleton_self _)

/-- A program that goes on with the wishlist of the user. -/
lemma withWishlist_emits {α : Type} (userId : UserId) (id : ℕ)
    {f : WishlistRow × Store → Service α} {s : Store}
    (h : ∀ found s, ⟨found.1.id, userId⟩ ∈ s.wishlists →
      (f found).Emits Commit.apply Later Later (fun s c => c.Known s) Any s) :
    (getOrCreateWishlist userId id >>= f).Emits Commit.apply Later Later
      (fun s c => c.Known s) Any s := by
  refine Emits.bind ((getOrCreateWishlist_emits userId id s).mono fun r s hr => ?_)
  cases r with
  | error e => trivial
  | ok found => exact h found s (hr found rfl)

lemma addProduct_emits (userId : UserId) (productId : ProductId) (id : ℕ) (s : Store) :
    (addProduct userId productId id).Emits Commit.apply Later Later (fun s c => c.Known s)
      Any s := by
  refine withWishlist_emits userId id fun found s₁ hfound => ?_
  refine emits_read fun s₂ hs₂ => ?_
  split
  · exact emits_throw
  · refine emits_read fun s₃ hs₃ => ?_
    have hlast : ∀ s, (Proc.read >>= fun s => pure (formatWishlist s found.1) :
        Service WishlistResponse).Emits Commit.apply Later Later (fun s c => c.Known s) Any s :=
      fun _ => emits_read fun _ _ => emits_pure
    split
    · exact Emits.andThen emits_pure fun _ s => hlast s
    · refine Emits.andThen (emits_commit (fun s₄ hs₄ => ?_) fun _ _ _ _ _ => emits_pure)
        fun _ s => hlast s
      exact hs₄ _ (hs₃ _ (hs₂ _ hfound))

lemma removeProduct_emits (userId : UserId) (productId : ProductId) {move : Option Move}
    (hmove : ∀ m, move = some m → m.Of productId) (id : ℕ) (s : Store) :
    (removeProduct userId productId move id).Emits Commit.apply Later Later
      (fun s c => c.Known s) Any s := by
  refine withWishlist_emits userId id fun found s₁ hfound => ?_
  refine emits_read fun s₂ hs₂ => ?_
  split
  · exact emits_throw
  · refine emits_commit (fun s₃ hs₃ => ?_) fun _ _ _ _ _ => emits_read fun _ _ => emits_pure
    exact ⟨hs₃ _ (hs₂ _ hfound), rfl, hmove⟩

/-- The variant that is chosen is one of the product, and for sale. -/
lemma mem_activeVariants {s : Store} {productId : ProductId} {variantId : Option VariantId}
    {variant : ProductVariant} (h : targetVariant s productId variantId = some variant) :
    variant ∈ s.activeVariants productId := by
  unfold targetVariant at h
  rcases Option.or_eq_some_iff.mp h with h | ⟨-, h⟩
  · rcases Option.or_eq_some_iff.mp h with h | ⟨-, h⟩ <;> exact List.mem_of_find?_eq_some h
  · exact List.mem_of_head? h

lemma of_targetVariant {s : Store} {productId : ProductId} {input : MoveToCartInput}
    {product : Product} {variant : ProductVariant} {quantity : ℕ}
    (hproduct : activeProduct s.catalogue productId = some product)
    (hvariant : targetVariant s productId input.variantId = some variant) :
    (Move.mk product variant quantity).Of productId := by
  obtain ⟨hfind, hactive⟩ := Option.filter_eq_some_iff.mp hproduct
  have hmem := mem_activeVariants hvariant
  simp only [Store.activeVariants, List.mem_filter, decide_eq_true_eq] at hmem
  have hid : product.id = productId := by simpa using List.find?_some hfind
  exact ⟨hid, by simpa using hactive, hmem.2.1, hmem.2.2⟩

/-- What is done to the cart is no business of the wishlists. -/
lemma cart_emits {α : Type} (p : Additions.Service α) (s : Store) :
    (p.zoom Store.carts Commit.cart).Emits Commit.apply Later Later (fun s c => c.Known s)
      Any s := by
  refine (emits_zoom p s).imp ?_
  rintro s _ ⟨c, rfl⟩
  trivial

lemma moveToCart_emits (userId : UserId) (productId : ProductId) (input : MoveToCartInput)
    (d : Drawn) (s : Store) :
    (moveToCart userId productId input d).Emits Commit.apply Later Later (fun s c => c.Known s)
      Any s := by
  refine emits_read fun s₁ _ => ?_
  split
  · exact emits_throw
  · exact emits_throw
  · rename_i product variant hproduct hvariant
    have hmove : ∀ move, some (Move.mk product variant (input.quantity.getD 1)) = some move →
        move.Of productId := by
      rintro _ ⟨⟩
      exact of_targetVariant hproduct hvariant
    refine Emits.andThen (cart_emits _ s₁) fun cart s₂ => ?_
    refine Emits.andThen (Emits.orElse ?_ fun _ _ => emits_pure) fun _ _ => emits_pure
    exact Emits.andThen (removeProduct_emits userId productId hmove d.wishlistId s₂)
      fun _ _ => emits_pure

lemma proc_emits (x : Call × Drawn) (s : Store) :
    (Call.proc x).Emits Commit.apply Later Later (fun s c => c.Known s) Any s := by
  obtain ⟨x, d⟩ := x
  cases x with
  | getWishlist userId =>
    refine Emits.andThen ?_ fun _ _ => emits_pure
    exact withWishlist_emits userId d.wishlistId fun _ _ _ => emits_pure
  | addProduct userId productId =>
    exact Emits.andThen (addProduct_emits userId productId d.wishlistId s) fun _ _ => emits_pure
  | removeProduct userId productId =>
    refine Emits.andThen ?_ fun _ _ => emits_pure
    exact removeProduct_emits userId productId (by rintro _ ⟨⟩) d.wishlistId s
  | moveToCart userId productId input =>
    exact Emits.andThen (moveToCart_emits userId productId input d s) fun _ _ => emits_pure
  | addItem userId input => exact Emits.andThen (cart_emits _ s) fun _ _ => emits_pure

lemma wishlist_rely (Allowed : Call × Drawn → Prop) (Cond : Store → Commit → Prop) :
    Rely wishlistServer Allowed Cond Later fun _ s c => c.Known s where
  refl _ _ h := h
  trans h h' wishlist hmem := h' wishlist (h wishlist hmem)
  env _ _ _ h := h
  commit _ _ _ happ := .of_apply happ
  emits x s _ := proc_emits x s

end Requests

/-! ## Moves and additions -/

abbrev Addition := UserId × AddCartItemInput

/-- What a batch adds to a cart. -/
def Commit.added : Commit → List Addition
  | .cart c => c.added
  | _ => []

/-- An addition to a cart is a voucher for the end of a move. -/
def moves : Vouchers Store Commit Addition where
  issued s := s.carts.added
  spent s := s.removed.filterMap Removal.addition
  issues c := c.added
  spends c := c.removed.filterMap Removal.addition

/-- On the side of the carts, vouchers are issued only. -/
def additions : Vouchers Additions.Store Additions.Commit Addition where
  issued s := s.added
  spent _ := 0
  issues c := c.added
  spends _ := 0

lemma moves_lawful : moves.Lawful Commit.apply where
  issued {c s s'} happ := by
    obtain ⟨hcarts, -⟩ := Commit.apply_eq_some happ
    show (s'.carts.added : Multiset Addition) = (s.carts.added : Multiset Addition) + c.added
    cases c with
    | cart c =>
      obtain ⟨-, -, -, hadded⟩ := Additions.Commit.apply_eq_some hcarts
      rw [hadded, ← Multiset.coe_add]
      rfl
    | createWishlist _ | createItem _ _ | deleteItem _ _ =>
      rw [← Option.some.inj hcarts]
      exact (add_zero _).symm
  spent {c s s'} happ := by
    obtain ⟨-, -, -, -, -, hremoved, -⟩ := Commit.apply_eq_some happ
    show (s'.removed.filterMap Removal.addition : Multiset Addition) =
      (s.removed.filterMap Removal.addition : Multiset Addition) +
        c.removed.filterMap Removal.addition
    rw [hremoved, List.filterMap_append, Multiset.coe_add]

section Vouchers

variable {held : Multiset Addition}

/-- A batch that has nothing to do with moves. -/
lemma after_of_neutral {c : Commit} (hadded : c.added = [])
    (hspent : c.removed.filterMap Removal.addition = []) (o : Option Store) :
    moves.protocol.after held c o = held := by
  show held - (c.removed.filterMap Removal.addition : Multiset Addition) +
    (if o.isSome then (c.added : Multiset Addition) else 0) = held
  rw [hadded, hspent, Multiset.coe_nil, tsub_zero, ite_self, add_zero]

lemma allow_of_neutral {c : Commit} (hspent : c.removed.filterMap Removal.addition = []) :
    moves.protocol.allow held c := by
  show (c.removed.filterMap Removal.addition : Multiset Addition) ≤ held
  rw [hspent]
  exact Multiset.zero_le held

/-- A request that returns holds what it has added. -/
lemma addItem_follows (x : Additions.Call) :
    additions.protocol.Follows Additions.Commit.apply (Additions.addItem x)
      (fun r held => ∀ cart, r = .ok cart → held = {(x.userId, x.input)}) 0 := by
  have hcart : additions.protocol.Follows Additions.Commit.apply
      (Additions.getOrCreateCart x.userId x.cartId x.pick)
      (fun r held => ∀ cart, r = .ok cart → held = 0) 0 := by
    refine Protocol.follows_read (by rintro _ ⟨⟩) fun s => ?_
    split
    · exact fun _ _ => rfl
    · exact Protocol.follows_commit (Multiset.zero_le _) (by rintro _ ⟨⟩) fun _ _ _ _ _ => rfl
  have hadd : ∀ {c : Additions.Commit} {cart : Additions.CartRow},
      c.added = [(x.userId, x.input)] →
      additions.protocol.Follows Additions.Commit.apply (do
        let _ ← Proc.commit c
        let s ← Proc.read
        pure (formatCart s.catalogue (s.cart cart)) : Additions.Service CartResponse)
        (fun r held => ∀ cart, r = .ok cart → held = {(x.userId, x.input)}) 0 := by
    intro c cart hc
    refine Protocol.follows_commit (Multiset.zero_le _) (by rintro _ ⟨⟩) fun s s' _ => ?_
    refine Protocol.follows_read (by rintro _ ⟨⟩) fun _ _ _ => ?_
    show (0 : Multiset Addition) - 0 + (c.added : Multiset Addition) = {(x.userId, x.input)}
    rw [hc, tsub_zero, zero_add]
    rfl
  refine Protocol.Follows.bind (hcart.mono fun r held hr => ?_)
  cases r with
  | error e => exact by rintro _ ⟨⟩
  | ok cart =>
    obtain rfl := hr cart rfl
    refine Protocol.follows_read (by rintro _ ⟨⟩) fun s₁ => ?_
    cases Additions.purchasable s₁.catalogue x.input.variantId with
    | error e => exact by rintro _ ⟨⟩
    | ok forSale =>
      show additions.protocol.Follows _ (Proc.read >>= _) _ _
      refine Protocol.follows_read (by rintro _ ⟨⟩) fun s₂ => ?_
      dsimp only
      split
      · rename_i existing _
        cases Additions.checkedQuantity forSale.1 forSale.2
            (existing.quantity + x.input.quantity) with
        | error e => exact by rintro _ ⟨⟩
        | ok newQuantity => exact hadd rfl
      · cases Additions.checkedQuantity forSale.1 forSale.2 x.input.quantity with
        | error e => exact by rintro _ ⟨⟩
        | ok newQuantity => exact hadd rfl

/-- The same for a request to the carts among the others. -/
lemma zoom_addItem_follows (x : Additions.Call) :
    moves.protocol.Follows Commit.apply ((Additions.addItem x).zoom Store.carts Commit.cart)
      (fun r held => ∀ cart, r = .ok cart → held = {(x.userId, x.input)}) 0 := by
  refine Protocol.Follows.zoom apply_cart (fun _ => allow_of_neutral rfl) (fun t b o => ?_)
    (addItem_follows x)
  show t - 0 + (if o.isSome then (b.added : Multiset Addition) else 0) =
    t - 0 + (if (o.map Store.carts).isSome then (b.added : Multiset Addition) else 0)
  rw [Option.isSome_map]

/-- A program that goes on with the wishlist of the user. -/
lemma withWishlist_follows {α : Type} (userId : UserId) (id : ℕ)
    {f : WishlistRow × Store → Service α}
    (h : ∀ found, moves.protocol.Follows Commit.apply (f found) Protocol.Ends held) :
    moves.protocol.Follows Commit.apply (getOrCreateWishlist userId id >>= f) Protocol.Ends
      held := by
  refine Protocol.Follows.bind (Protocol.follows_read trivial fun s => ?_)
  split
  · exact h _
  · refine Protocol.follows_commit (allow_of_neutral rfl) trivial fun s s' _ => ?_
    rw [after_of_neutral rfl rfl]
    exact h _

lemma addProduct_follows (userId : UserId) (productId : ProductId) (id : ℕ) :
    moves.protocol.Follows Commit.apply (addProduct userId productId id) Protocol.Ends held := by
  refine withWishlist_follows userId id fun found => ?_
  refine Protocol.follows_read trivial fun s => ?_
  split
  · trivial
  · refine Protocol.follows_read trivial fun s => ?_
    split
    · exact Protocol.follows_read trivial fun _ => trivial
    · refine Protocol.Follows.andThen (Protocol.follows_commit (allow_of_neutral rfl) trivial
        fun _ _ _ => trivial) fun _ _ => ?_
      exact Protocol.follows_read trivial fun _ => trivial

/-- The end of a move spends what the request has added. -/
lemma removeProduct_follows (userId : UserId) (productId : ProductId) (move : Option Move)
    (id : ℕ) (hheld : ∀ addition ∈ (Removal.mk userId productId move).addition,
      addition ∈ held) :
    moves.protocol.Follows Commit.apply (removeProduct userId productId move id) Protocol.Ends
      held := by
  refine withWishlist_follows userId id fun found => ?_
  refine Protocol.follows_read trivial fun s => ?_
  split
  · trivial
  · refine Protocol.follows_commit ?_ trivial fun _ _ _ => Protocol.follows_read trivial
      fun _ => trivial
    show (([Removal.mk userId productId move].filterMap Removal.addition : List Addition) :
      Multiset Addition) ≤ held
    cases hmove : (Removal.mk userId productId move).addition with
    | none =>
      rw [List.filterMap_cons_none hmove]
      exact Multiset.zero_le held
    | some addition =>
      rw [List.filterMap_cons_some hmove]
      exact Multiset.singleton_le.mpr (hheld addition hmove)

lemma moveToCart_follows (userId : UserId) (productId : ProductId) (input : MoveToCartInput)
    (d : Drawn) :
    moves.protocol.Follows Commit.apply (moveToCart userId productId input d) Protocol.Ends 0 := by
  refine Protocol.follows_read trivial fun s => ?_
  split
  · trivial
  · trivial
  · rename_i product variant _ _
    refine Protocol.Follows.bind ((zoom_addItem_follows _).mono fun r held hr => ?_)
    cases r with
    | error e => trivial
    | ok cart =>
      obtain rfl := hr cart rfl
      refine Protocol.Follows.andThen (Protocol.Follows.orElse ?_ fun _ _ => trivial)
        fun _ _ => trivial
      refine Protocol.Follows.andThen (removeProduct_follows userId productId _ d.wishlistId ?_)
        fun _ _ => trivial
      rintro _ ⟨⟩
      exact Multiset.mem_singleton_self _

/-- Every request keeps to the protocol of the vouchers. -/
lemma proc_follows (x : Call × Drawn) :
    moves.protocol.Follows Commit.apply (Call.proc x) Protocol.Ends 0 := by
  obtain ⟨x, d⟩ := x
  cases x with
  | getWishlist userId =>
    refine Protocol.Follows.andThen ?_ fun _ _ => trivial
    exact withWishlist_follows userId d.wishlistId fun _ => trivial
  | addProduct userId productId =>
    exact Protocol.Follows.andThen (addProduct_follows userId productId d.wishlistId)
      fun _ _ => trivial
  | removeProduct userId productId =>
    refine Protocol.Follows.andThen ?_ fun _ _ => trivial
    exact removeProduct_follows userId productId none d.wishlistId (by rintro _ ⟨⟩)
  | moveToCart userId productId input =>
    exact Protocol.Follows.andThen (moveToCart_follows userId productId input d)
      fun _ _ => trivial
  | addItem userId input =>
    refine Protocol.Follows.andThen ?_ fun _ _ => trivial
    exact (zoom_addItem_follows _).mono fun _ _ _ => trivial

end Vouchers

/-! ## Runs -/

/-- Before the requests: what is on the wishlists was wished, and nothing was removed. -/
structure Fresh (s : Store) : Prop where
  wished : s.wished.Perm (wishes s.wishlists s.items)
  removed : s.removed = []
  dropped : s.dropped = []

section Runs

variable {Allowed : Call × Drawn → Prop} {Cond : Store → Commit → Prop} {s₀ : Store}
  {cfg : Config Store Commit AppError}

lemma Fresh.accounted (h : Fresh s₀) : Accounted s₀ := by
  refine ⟨?_, fun removal hmem => ?_⟩
  · rw [h.removed, h.dropped, List.map_nil, List.append_nil, List.append_nil]
    exact h.wished
  · rw [h.removed] at hmem
    exact absurd hmem List.not_mem_nil

lemma accounted_of_reachable (h₀ : Fresh s₀)
    (hr : wishlistServer.Reachable Allowed Cond s₀ cfg) : Accounted cfg.store := by
  refine (wishlist_rely Allowed Cond).invariant hr h₀.accounted
    (fun catalogue _ h => h.withCatalogue catalogue) ?_
  intro x s c s' _ hknown _ happ h
  exact h.of_apply hknown happ

/-- **No wish is lost or counted twice**, in any order of the statements and wherever they fail.
Each product that was put on a wishlist is there, once, or was removed by its owner, or was deleted
from the catalogue; and a removal at the end of a move has an addition to the cart of its own, of a
variant of the product that was for sale. -/
theorem wishes_accounted (h₀ : Fresh s₀)
    (hr : wishlistServer.Reachable Allowed Cond s₀ cfg) :
    cfg.store.wished.Perm (wishes cfg.store.wishlists cfg.store.items ++
        cfg.store.removed.map Removal.key ++ cfg.store.dropped) ∧
      (wishes cfg.store.wishlists cfg.store.items).Nodup ∧
      (cfg.store.removed.filterMap Removal.addition).Subperm cfg.store.carts.added ∧
      ∀ removal ∈ cfg.store.removed, ∀ move, removal.move = some move →
        move.Of removal.productId := by
  have haccounted := accounted_of_reachable h₀ hr
  refine ⟨haccounted.wished, cfg.store.valid.wishes_nodup, ?_, haccounted.move⟩
  refine Multiset.coe_le.mp (moves_lawful.spent_le (M := wishlistServer) (fun x _ => proc_follows x)
    (fun _ _ => ⟨rfl, rfl⟩) ?_ hr)
  show (s₀.removed.filterMap Removal.addition : Multiset Addition) ≤ s₀.carts.added
  rw [h₀.removed]
  exact Multiset.zero_le _

/-- User 1 has a lamp on the wishlist, and one in the cart. -/
def wishedLamp : Store where
  carts := Additions.lampCart
  wishlists := [⟨1, 1⟩]
  items := [⟨1, 1⟩]
  valid := by decide
  wished := [(1, 1)]
  removed := []
  dropped := []

lemma fresh_wishedLamp : Fresh wishedLamp := ⟨by decide, rfl, rfl⟩

/-- Two requests move the lamp at the same time: both add it to the cart, and one of them removes
it from the wishlist. -/
theorem wishes_accounted_twice : ∃ cfg,
    wishlistServer.Reachable (fun _ => True) Free wishedLamp cfg ∧
      cfg.store.carts.added.length = 2 ∧ cfg.store.removed.length = 1 ∧
      cfg.store.wished.Perm (wishes cfg.store.wishlists cfg.store.items ++
        cfg.store.removed.map Removal.key ++ cfg.store.dropped) := by
  have hexec : (wishlistServer.exec (fun _ => True) Free
      ([.call (.moveToCart 1 1 ⟨none, none⟩, ⟨2, 2, 2, 0⟩),
        .call (.moveToCart 1 1 ⟨none, none⟩, ⟨3, 3, 3, 0⟩)] ++
        ((List.range 8).flatMap fun _ => [.step 0 .ok, .step 1 .ok]) ++
        [.step 0 .ok, .step 1 .failed])
      ⟨wishedLamp, []⟩).map (fun cfg => (cfg.store.carts.added.length, cfg.store.removed.length)) =
        some (2, 1) := by
    decide +kernel
  obtain ⟨cfg, hr, hcounts⟩ := Machine.exists_reachable_of_exec wishlistServer (fun _ => True) Free
    _ wishedLamp (fun s => (s.carts.added.length, s.removed.length)) (2, 1) hexec
  obtain ⟨hadded, hremoved⟩ := Prod.mk.inj hcounts
  exact ⟨cfg, hr, hadded, hremoved, (wishes_accounted fresh_wishedLamp hr).1⟩

end Runs

end MeeoServer.Customers.Wishlists
