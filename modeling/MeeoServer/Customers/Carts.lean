/-
# Carts

`cart/services/cartSession.service.ts` and `cart/services/cartItem.service.ts`.  Every operation
begins with the cart of the user, which is created if there is none, and looks for items in this
cart alone.
-/
import MeeoServer.Customers.Ownership

namespace MeeoServer.Customers

open Storefront

structure AddCartItemInput where
  variantId : VariantId
  quantity : ℕ
deriving DecidableEq

/-! ## Answers -/

structure CartLine where
  id : CartItemId
  variantId : VariantId
  quantity : ℕ
  unitPrice : ℚ
  compareAtPrice : Option ℚ
  lineTotal : ℚ
  availableStock : ℤ
  isAvailable : Bool
  isLowStock : Bool
  productId : Option ProductId
  productName : String
  sku : Option String
deriving DecidableEq

structure CartResponse where
  id : CartId
  userId : Option UserId
  itemCount : ℕ
  totalItems : ℕ
  subtotal : ℚ
  currency : String
  items : List CartLine
deriving DecidableEq

def cartLine (c : Catalogue) (item : CartItem) : CartLine :=
  let variant := c.variant item.variantId
  let product := variant.bind fun v => c.product v.productId
  let inventory := c.stock.inventory item.variantId
  let price : ℚ := (variant.map fun v => (v.price : ℚ)).getD 0
  let availableStock := c.stock.available item.variantId
  { id := item.id
    variantId := item.variantId
    quantity := item.quantity
    unitPrice := price
    compareAtPrice := variant.bind fun v => v.compareAtPrice.map fun p => (p : ℚ)
    lineTotal := fixedTwo (price * item.quantity)
    availableStock := availableStock
    isAvailable := variant.any (·.status = .active) && product.all (·.status = .active) &&
      decide ((item.quantity : ℤ) ≤ availableStock)
    isLowStock := inventory.any fun row =>
      decide (availableStock ≤ ((row.reorderLevel.getD 5 : ℕ) : ℤ))
    productId := product.map Product.id
    productName := (product.map Product.name).getD "Unknown Product"
    sku := variant.map ProductVariant.sku }

/-- Formats cart data for API responses, calculating pricing and stock status. -/
def formatCart (c : Catalogue) (cart : Cart) : CartResponse :=
  let items := cart.items.map (cartLine c)
  { id := cart.id
    userId := cart.userId
    itemCount := items.length
    totalItems := (cart.items.map CartItem.quantity).sum
    subtotal := fixedTwo (items.map CartLine.lineTotal).sum
    currency := "INR"
    items := items }

/-! ## Operations -/

def Shop.cartOf (s : Shop) (userId : UserId) : Option Cart :=
  s.carts.find? fun c => c.userId = some userId

/-- Resolves or creates a permanent shopping cart for the authenticated user. -/
def getOrCreateCart (userId : UserId) (d : Draw) : Handler Cart := do
  let s ← get
  match s.cartOf userId with
  | some cart => pure cart
  | none => do
    let cart : Cart := ⟨d.cartId, some userId, []⟩
    modify fun s => s.insertCart cart
    pure cart

/-- The end of every operation: the cart is read again. -/
def respond (cart : Cart) : Handler CartResponse := do
  let s ← get
  pure (formatCart s.catalogue ((s.carts.find? fun c => c.id = cart.id).getD cart))

def getCart (userId : UserId) (d : Draw) : Handler CartResponse := do
  let cart ← getOrCreateCart userId d
  let s ← get
  pure (formatCart s.catalogue cart)

/-- The quantity of a variant in the user's cart after `input`, or why it cannot be added. -/
def addedQuantity (c : Catalogue) (cart : Cart) (input : AddCartItemInput) : Except AppError ℕ :=
  let unavailable : AppError := ⟨"Product variant is inactive or unavailable", 400⟩
  match c.variant input.variantId with
  | none => .error unavailable
  | some variant =>
    let product := c.product variant.productId
    if variant.status ≠ .active ∨ product.any (·.status ≠ .active) then .error unavailable
    else
      let availableStock := c.stock.available variant.id
      let name := (product.map Product.name).getD variant.sku
      if availableStock ≤ 0 then .error ⟨s!"Item \"{name}\" is currently out of stock", 400⟩
      else
        let existingItem := cart.items.find? fun i => i.variantId = input.variantId
        let newQuantity := (existingItem.map CartItem.quantity).getD 0 + input.quantity
        if availableStock < newQuantity then
          .error ⟨s!"Requested total quantity ({newQuantity}) exceeds available stock " ++
            s!"({availableStock}) for \"{name}\"", 400⟩
        else .ok newQuantity

/-- The items of a cart with a new quantity of a variant. -/
def withQuantity (variantId : VariantId) (newQuantity : ℕ) (d : Draw) (items : List CartItem) :
    List CartItem :=
  match items.find? fun i => i.variantId = variantId with
  | some existingItem =>
    Table.updateWhere (fun i => i.id = existingItem.id)
      (fun i => { i with quantity := newQuantity }) items
  | none => items ++ [⟨d.cartItemId, variantId, newQuantity⟩]

/-- Adds an item / variant to the user's cart with inventory availability validation. -/
def addItem (userId : UserId) (input : AddCartItemInput) (d : Draw) : Handler CartResponse := do
  let cart ← getOrCreateCart userId d
  let s ← get
  let newQuantity ← ofExcept (addedQuantity s.catalogue cart input)
  modify fun s => s.updateCart cart.id (withQuantity input.variantId newQuantity d)
  respond cart

/-- Updates an existing item's quantity in the user's cart. -/
def updateItemQuantity (userId : UserId) (itemId : CartItemId) (quantity : ℕ) (d : Draw) :
    Handler CartResponse := do
  let cart ← getOrCreateCart userId d
  let s ← get
  match cart.items.find? fun i => i.id = itemId with
  | none => throw ⟨"Cart item not found", 404⟩
  | some item =>
    let availableStock := s.catalogue.stock.available item.variantId
    if quantity = 0 then
      modify fun s => s.updateCart cart.id fun items => items.filter fun i => i.id ≠ item.id
      respond cart
    else if availableStock < quantity then
      throw ⟨s!"Requested quantity ({quantity}) exceeds available stock ({availableStock})", 400⟩
    else
      modify fun s => s.updateCart cart.id
        (Table.updateWhere (fun i => i.id = item.id) fun i => { i with quantity := quantity })
      respond cart

/-- Removes an item from the user's cart. -/
def removeItem (userId : UserId) (itemId : CartItemId) (d : Draw) : Handler CartResponse := do
  let cart ← getOrCreateCart userId d
  match cart.items.find? fun i => i.id = itemId with
  | none => throw ⟨"Cart item not found in your cart", 404⟩
  | some item =>
    modify fun s => s.updateCart cart.id fun items => items.filter fun i => i.id ≠ item.id
    respond cart

/-- Clears all items in the user's cart. -/
def clearCart (userId : UserId) (d : Draw) : Handler CartResponse := do
  let cart ← getOrCreateCart userId d
  modify fun s => s.updateCart cart.id fun _ => []
  respond cart

/-! ## Whose cart it is -/

section Isolated

variable {v userId : UserId} {d : Draw} {s : Shop} {cart : Cart}

/-- The cart belongs to the user. -/
lemma getOrCreateCart_eq_ok {t : Shop} (h : getOrCreateCart userId d s = .ok cart t) :
    cart.userId = some userId ∧ cart ∈ t.carts := by
  have hrun : getOrCreateCart userId d s =
      match s.cartOf userId with
      | some cart => .ok cart s
      | none => .ok ⟨d.cartId, some userId, []⟩
          (s.insertCart ⟨d.cartId, some userId, []⟩) := by
    rw [getOrCreateCart, get_bind_apply]
    cases s.cartOf userId <;> rfl
  rw [hrun] at h
  cases hfind : s.cartOf userId with
  | some found =>
    rw [hfind] at h
    obtain ⟨rfl, rfl⟩ := EStateM.Result.ok.inj h
    have huser := List.find?_some hfind
    exact ⟨of_decide_eq_true huser, List.mem_of_find?_eq_some hfind⟩
  | none =>
    rw [hfind] at h
    obtain ⟨rfl, rfl⟩ := EStateM.Result.ok.inj h
    exact ⟨rfl, List.mem_append_right _ (List.mem_singleton_self _)⟩

lemma Shop.cartOf_without (hne : userId ≠ v) : (s.without v).cartOf userId = s.cartOf userId := by
  refine Table.find?_filter_of fun c _ huser => ?_
  rw [of_decide_eq_true huser]
  exact decide_eq_true fun heq => hne (Option.some.inj heq)

lemma getOrCreateCart_isolated (hs : s.Sound) (hd : d.Fresh s) :
    Isolated v (userId ≠ v) (userId ≠ v) (getOrCreateCart userId d) s := by
  refine confined_get (fun hne => by rw [Shop.cartOf_without hne]) ?_
  split
  · exact confined_pure hs _
  · have hcart : userId ≠ v → (⟨d.cartId, some userId, []⟩ : Cart).userId ≠ some v :=
      fun hne heq => hne (Option.some.inj heq)
    refine (confined_modify (hs.insertCart hd.cartId) (fun hne => ?_) fun hne => ?_).bind
      fun _ t _ ht => confined_pure ht _
    · exact Shop.rowsOf_insertCart (hcart hne)
    · exact Shop.without_insertCart (hcart hne)

/-- An operation on the cart of the user. -/
lemma withCart_isolated {α : Type} {f : Cart → Handler α} (hs : s.Sound) (hd : d.Fresh s)
    (hf : ∀ cart t, t.Sound → t.CartIsOf userId cart.id →
      Isolated v (userId ≠ v) (userId ≠ v) (f cart) t) :
    Isolated v (userId ≠ v) (userId ≠ v) (getOrCreateCart userId d >>= f) s := by
  refine (getOrCreateCart_isolated hs hd).bind fun cart t hrun ht => ?_
  obtain ⟨huser, hcart⟩ := getOrCreateCart_eq_ok hrun
  exact hf cart t ht (ht.cartIsOf hcart huser)

lemma respond_isolated (hs : s.Sound) (hcart : s.CartIsOf userId cart.id) :
    Isolated v (userId ≠ v) (userId ≠ v) (respond cart) s := by
  refine confined_get (fun hne => ?_) (confined_pure hs _)
  have hfind : (s.without v).carts.find? (fun c => c.id = cart.id) =
      s.carts.find? fun c => c.id = cart.id :=
    Table.find?_filter_of fun c hc hid =>
      decide_eq_true (hcart.ne hne c hc (of_decide_eq_true hid))
  rw [hfind]
  rfl

/-- A change of the cart, and the answer. -/
lemma updateCart_isolated {f : List CartItem → List CartItem} (hs : s.Sound)
    (hcart : s.CartIsOf userId cart.id) :
    Isolated v (userId ≠ v) (userId ≠ v)
      (do
        modify fun s => s.updateCart cart.id f
        respond cart) s := by
  refine (confined_modify (hs.sameRows Shop.sameRows_updateCart)
    (fun hne => Shop.rowsOf_updateCart (hcart.ne hne))
    fun _ => Shop.without_updateCart).bind fun _ t hrun ht => ?_
  obtain ⟨-, rfl⟩ := EStateM.Result.ok.inj hrun
  refine respond_isolated ht fun c hc hid => ?_
  obtain ⟨c', hc', rfl | rfl⟩ := Table.mem_updateWhere hc
  · exact hcart c hc' hid
  · exact hcart c' hc' hid

variable (hs : s.Sound) (hd : d.Fresh s)

include hs hd

lemma getCart_isolated : Isolated v (userId ≠ v) (userId ≠ v) (getCart userId d) s :=
  withCart_isolated hs hd fun _ _ ht _ => confined_get (fun _ => rfl) (confined_pure ht _)

lemma addItem_isolated {input : AddCartItemInput} :
    Isolated v (userId ≠ v) (userId ≠ v) (addItem userId input d) s := by
  refine withCart_isolated hs hd fun cart t ht hcart => confined_get (fun _ => rfl) ?_
  exact confined_ofExcept_bind ht fun _ _ => updateCart_isolated ht hcart

lemma updateItemQuantity_isolated {itemId : CartItemId} {quantity : ℕ} :
    Isolated v (userId ≠ v) (userId ≠ v) (updateItemQuantity userId itemId quantity d) s := by
  refine withCart_isolated hs hd fun cart t ht hcart => confined_get (fun _ => rfl) ?_
  split
  · exact confined_throw ht _
  · dsimp only
    split_ifs
    · exact updateCart_isolated ht hcart
    · exact confined_throw ht _
    · exact updateCart_isolated ht hcart

lemma removeItem_isolated {itemId : CartItemId} :
    Isolated v (userId ≠ v) (userId ≠ v) (removeItem userId itemId d) s := by
  refine withCart_isolated hs hd fun cart t ht hcart => ?_
  split
  · exact confined_throw ht _
  · exact updateCart_isolated ht hcart

lemma clearCart_isolated : Isolated v (userId ≠ v) (userId ≠ v) (clearCart userId d) s :=
  withCart_isolated hs hd fun _ _ ht hcart => updateCart_isolated ht hcart

end Isolated

end MeeoServer.Customers
