/-
# Clearing the cart

An order takes the lines of the cart as they are when it is priced.  The cart is cleared later: in
the transaction of the order if it is paid upon delivery, and otherwise when the payment is
verified, with the cart itself.  Whatever came into the cart in between is cleared with it.

`Watch` follows the cart of an order from one request to the next.  `ordered` is how many of the
units that the order was priced with are still there: what is taken out of a line is first taken
from the units that came in last, so that this is the smallest quantity that has been seen so far.
-/
import MeeoServer.Customers.Isolation
import MeeoServer.Storefront.Agreement

namespace MeeoServer.Customers

open Storefront

/-! ## Units -/

/-- How many units of a variant are in the cart `id`. -/
def Shop.units (s : Shop) (id : CartId) (variantId : VariantId) : ℕ :=
  ((((s.carts.filter fun c => c.id = id).flatMap Cart.items).filter
    fun i => i.variantId = variantId).map CartItem.quantity).sum

/-- How many units of a variant an order is priced with. -/
def orderedUnits (priced : PricedCheckout) (variantId : VariantId) : ℕ :=
  ((priced.cart.items.filter fun i => i.variantId = variantId).map ValidatedCartItem.quantity).sum

/-- The shop, and how many of the units that an order was priced with are still in the cart. -/
structure Watch where
  shop : Shop
  ordered : VariantId → ℕ

namespace Watch

variable (site : Site) (id : CartId) (w : Watch)

/-- After one more request, or whatever happens elsewhere. -/
def next (e : Event) : Watch where
  shop := site.environ w.shop e
  ordered v := min (w.ordered v) ((site.environ w.shop e).units id v)

def run (es : List Event) : Watch := es.foldl (next site id) w

/-- The units that came into the cart after the order was priced, and are still there. -/
def added (variantId : VariantId) : ℕ := w.shop.units id variantId - w.ordered variantId

end Watch

/-- The cart that a verification deletes: the one that the order refers to which it confirms. -/
def Shop.clearedBy (s : Shop) (site : Site) (input : Razorpay.VerifyInput) (d : Draw) :
    Option CartId :=
  if signatureAccepted site.gateway input = false then none
  else (s.paymentOf input.orderId d).bind fun payment =>
    if payment.status = .success ∨ s.stockSold payment.orderId = none then none
    else (s.order payment.orderId).bind fun order =>
      if order.status = .confirmed then none else order.cart

/-- A checkout whose cart is cleared: the order is priced, other requests are served, the order is
placed; unless it is paid upon delivery, other requests are served again, and then the payment is
verified.  `w` is the cart right before it is cleared, and `t` the shop right after. -/
inductive Cleared (site : Site) (userId : UserId) (input : CheckoutInput) :
    PricedCheckout → Watch → Shop → Prop
  | cod {s₀ s₁ t : Shop} {priced : PricedCheckout} {w : Watch} {d : Draw} {order : Order}
      (es : List Event) :
      input.isCod = true → price site.toUpperCase userId input s₀ = .ok priced s₁ →
      w = Watch.run site priced.cart.cartId ⟨s₁, orderedUnits priced⟩ es →
      placeOrder userId input priced d w.shop = .ok order t → Cleared site userId input priced w t
  | online {s₀ s₁ s₂ : Shop} {priced : PricedCheckout} {w₁ w : Watch} {d d' : Draw}
      {order : Order} {payload : Razorpay.VerifyInput} (es es' : List Event) :
      input.isCod = false → price site.toUpperCase userId input s₀ = .ok priced s₁ →
      w₁ = Watch.run site priced.cart.cartId ⟨s₁, orderedUnits priced⟩ es →
      placeOrder userId input priced d w₁.shop = .ok order s₂ →
      w = Watch.run site priced.cart.cartId ⟨s₂, w₁.ordered⟩ es' → payload.orderId = order.id →
      w.shop.clearedBy site payload d' = some priced.cart.cartId →
      Cleared site userId input priced w (endStore (verifyPayment site.gateway payload d' w.shop))

/-- What was added is still in the cart. -/
def KeepsAdded (id : CartId) (w : Watch) (t : Shop) : Prop :=
  ∀ variantId, w.added id variantId ≤ t.units id variantId

section Units

variable {s t : Shop} {id : CartId} {variantId : VariantId}

lemma Shop.units_congr (h : t.carts.filter (fun c => c.id = id) = s.carts.filter fun c => c.id = id) :
    t.units id variantId = s.units id variantId := by
  unfold Shop.units
  rw [h]

/-- A cart has no namesake. -/
lemma Shop.Sound.carts_filter (hs : s.Sound) {cart : Cart} (hcart : cart ∈ s.carts) :
    s.carts.filter (fun c => c.id = cart.id) = [cart] :=
  Table.filter_key_eq_singleton hs.carts_nodup hcart

/-- The cart is empty. -/
lemma Shop.units_updateCart_nil : (s.updateCart id fun _ => []).units id variantId = 0 := by
  have hempty : ((s.updateCart id fun _ => []).carts.filter fun c => c.id = id).flatMap Cart.items =
      [] := by
    rw [List.flatMap_eq_nil_iff]
    intro cart hcart
    obtain ⟨hmem, hid⟩ := List.mem_filter.mp hcart
    obtain ⟨c, -, rfl⟩ := List.mem_map.mp hmem
    have hid' : c.id = id := by
      have hid := of_decide_eq_true hid
      split at hid <;> exact hid
    rw [if_pos (decide_eq_true hid')]
  unfold Shop.units
  rw [hempty]
  rfl

/-- The cart is gone. -/
lemma Shop.units_deleteCart : (s.deleteCart id).units id variantId = 0 := by
  have hnone : (s.deleteCart id).carts.filter (fun c => c.id = id) = [] := by
    rw [List.filter_eq_nil_iff]
    intro cart hcart
    have hne : cart.id ≠ id := of_decide_eq_true (List.mem_filter.mp hcart).2
    simpa using hne
  unfold Shop.units
  rw [hnone]
  rfl

end Units

/-! ## What is read -/

section Price

variable {site : Site} {userId : UserId} {input : CheckoutInput} {s t : Shop}
  {priced : PricedCheckout}

/-- The lines of an order are those of the cart. -/
lemma orderedUnits_eq {tables : Tables} {now : Millis} {items : List CartItem}
    {valid : List ValidatedCartItem} (h : items.mapM (validateCartItem tables now) = .ok valid)
    (variantId : VariantId) :
    ((valid.filter fun i => i.variantId = variantId).map ValidatedCartItem.quantity).sum =
      ((items.filter fun i => i.variantId = variantId).map CartItem.quantity).sum := by
  have hlines := mapM_eq_ok h
  clear h
  induction hlines with
  | nil => rfl
  | @cons item line items lines hline _ ih =>
    obtain ⟨hvariant, hquantity, -⟩ := validateCartItem_eq_ok hline
    by_cases hv : item.variantId = variantId
    · rw [List.filter_cons_of_pos (by simpa [hvariant] using hv),
        List.filter_cons_of_pos (by simpa using hv), List.map_cons, List.map_cons, List.sum_cons,
        List.sum_cons, ih, hquantity]
    · rw [List.filter_cons_of_neg (by simpa [hvariant] using hv),
        List.filter_cons_of_neg (by simpa using hv), ih]

/-- **Reading the cart**: an order is priced with all units of the cart, and nothing more. -/
theorem units_of_price (hs : s.Sound) (h : price site.toUpperCase userId input s = .ok priced t)
    (variantId : VariantId) :
    t.units priced.cart.cartId variantId = orderedUnits priced variantId := by
  rw [price, get_bind_apply] at h
  cases hpriced : priceCheckout site.toUpperCase s.tables userId input s.clock with
  | error e =>
    rw [hpriced] at h
    cases h
  | ok r =>
    rw [hpriced] at h
    obtain ⟨rfl, rfl⟩ := EStateM.Result.ok.inj h
    obtain ⟨hcart, -⟩ := priceCheckout_eq_ok hpriced
    unfold validateCartAndItems at hcart
    split at hcart
    · cases hcart
    · rename_i cart hfind
      split at hcart
      · cases hcart
      · obtain ⟨items, hitems, hcart⟩ := bind_eq_ok.mp hcart
        have hmem : cart ∈ s.carts := List.mem_of_find?_eq_some hfind
        unfold Shop.units orderedUnits
        rw [← Except.ok.inj hcart]
        show ((((s.carts.filter fun c => c.id = cart.id).flatMap Cart.items).filter _).map _).sum = _
        rw [hs.carts_filter hmem, orderedUnits_eq hitems, List.flatMap_singleton]

end Price

/-! ## What is added -/

section Added

variable {s t : Shop} {cart : Cart} {variantId : VariantId}

/-- The items of a cart after a quantity of a variant was added. -/
lemma sum_withQuantity {items : List CartItem} (hnodup : (items.map CartItem.id).Nodup)
    (variantId₀ : VariantId) (quantity : ℕ) (d : Draw) :
    (((withQuantity variantId₀ (((items.find? fun i => i.variantId = variantId₀).map
        CartItem.quantity).getD 0 + quantity) d items).filter
        fun i => i.variantId = variantId).map CartItem.quantity).sum =
      ((items.filter fun i => i.variantId = variantId).map CartItem.quantity).sum +
        if variantId₀ = variantId then quantity else 0 := by
  unfold withQuantity
  cases hfind : items.find? fun i => i.variantId = variantId₀ with
  | none =>
    rw [List.filter_append, List.map_append, List.sum_append]
    by_cases hv : variantId₀ = variantId <;> simp [hv]
  | some existing =>
    have hvariant : existing.variantId = variantId₀ := by simpa using List.find?_some hfind
    obtain ⟨before, after, rfl⟩ := List.append_of_mem (List.mem_of_find?_eq_some hfind)
    -- the other items have other identifiers
    have hother : ∀ l : List CartItem, (∀ i ∈ l, i.id ≠ existing.id) →
        ∀ q, Table.updateWhere (fun i => i.id = existing.id) (fun i => { i with quantity := q }) l =
          l := by
      intro l hl q
      refine (List.map_congr_left fun i hi => ?_).trans (List.map_id l)
      exact if_neg (by simpa using hl i hi)
    rw [List.map_append, List.map_cons] at hnodup
    have hbefore : ∀ i ∈ before, i.id ≠ existing.id := fun i hi heq =>
      List.disjoint_of_nodup_append hnodup (List.mem_map_of_mem hi) (heq ▸ List.mem_cons_self)
    have hafter : ∀ i ∈ after, i.id ≠ existing.id := fun i hi heq =>
      (List.nodup_cons.mp hnodup.of_append_right).1 (heq ▸ List.mem_map_of_mem hi)
    have hupdated : ∀ q, Table.updateWhere (fun i => i.id = existing.id)
        (fun i => { i with quantity := q }) (before ++ existing :: after) =
          before ++ { existing with quantity := q } :: after := by
      intro q
      have hsplit := hother before hbefore q
      have hsplit' := hother after hafter q
      unfold Table.updateWhere at hsplit hsplit' ⊢
      rw [List.map_append, List.map_cons, hsplit, hsplit', if_pos (decide_eq_true rfl)]
    dsimp only
    rw [hupdated]
    by_cases hv : variantId₀ = variantId
    · simp [hvariant, hv]
      omega
    · simp [hvariant, hv]

lemma addedQuantity_eq_ok {c : Catalogue} {input : AddCartItemInput} {newQuantity : ℕ}
    (h : addedQuantity c cart input = .ok newQuantity) :
    newQuantity = ((cart.items.find? fun i => i.variantId = input.variantId).map
      CartItem.quantity).getD 0 + input.quantity := by
  unfold addedQuantity at h
  dsimp only at h
  split at h
  · cases h
  · split_ifs at h
    exact (Except.ok.inj h).symm

/-- **An addition** comes into the cart: what it adds counts as added. -/
theorem units_of_addItem {userId : UserId} {input : AddCartItemInput} {d : Draw}
    {response : CartResponse} (hs : s.Sound) (hcart : s.cartOf userId = some cart)
    (hnodup : (cart.items.map CartItem.id).Nodup)
    (h : addItem userId input d s = .ok response t) :
    t.units cart.id variantId =
      s.units cart.id variantId + if input.variantId = variantId then input.quantity else 0 := by
  have hmem : cart ∈ s.carts := List.mem_of_find?_eq_some hcart
  have hget : getOrCreateCart userId d s = .ok cart s := by
    rw [getOrCreateCart, get_bind_apply, hcart]
    rfl
  -- the cart exists, so that none is created
  have hrun : addItem userId input d s = (do
      let newQuantity ← ofExcept (addedQuantity s.catalogue cart input)
      modify fun (s : Shop) => s.updateCart cart.id (withQuantity input.variantId newQuantity d)
      respond cart) s := by
    show EStateM.bind (getOrCreateCart userId d) _ s = _
    unfold EStateM.bind
    rw [hget]
    dsimp only
    rw [get_bind_apply]
  rw [hrun] at h
  cases hadded : addedQuantity s.catalogue cart input with
  | error e =>
    rw [hadded] at h
    change EStateM.Result.error e s = .ok response t at h
    cases h
  | ok newQuantity =>
    rw [hadded] at h
    obtain ⟨-, rfl⟩ := EStateM.Result.ok.inj h
    -- only this cart is changed, and its lines are those of `withQuantity`
    have hunits : (s.updateCart cart.id (withQuantity input.variantId newQuantity d)).units cart.id
        variantId = (((withQuantity input.variantId newQuantity d cart.items).filter
          fun i => i.variantId = variantId).map CartItem.quantity).sum := by
      have hfilter : (s.updateCart cart.id (withQuantity input.variantId newQuantity d)).carts.filter
          (fun c => c.id = cart.id) = Table.updateWhere (fun c => c.id = cart.id)
            (fun c => { c with items := withQuantity input.variantId newQuantity d c.items })
            (s.carts.filter fun c => c.id = cart.id) :=
        Table.filter_updateWhere fun _ _ _ => rfl
      unfold Shop.units
      rw [hfilter, hs.carts_filter hmem]
      unfold Table.updateWhere
      rw [List.map_singleton, if_pos (decide_eq_true rfl), List.flatMap_singleton]
    have hunits' : s.units cart.id variantId =
        ((cart.items.filter fun i => i.variantId = variantId).map CartItem.quantity).sum := by
      unfold Shop.units
      rw [hs.carts_filter hmem, List.flatMap_singleton]
    rw [hunits, hunits', addedQuantity_eq_ok hadded, sum_withQuantity hnodup]

end Added

/-! ## What is cleared -/

section Clearing

variable {site : Site} {userId : UserId} {input : CheckoutInput} {s t : Shop}
  {priced : PricedCheckout} {w : Watch} {d : Draw} {order : Order}

/-- An order that is paid upon delivery empties the cart; any other leaves the carts alone. -/
lemma carts_of_placeOrder (h : placeOrder userId input priced d s = .ok order t) :
    t.carts = if input.isCod then (s.updateCart priced.cart.cartId fun _ => []).carts
      else s.carts := by
  rw [placeOrder, get_bind_apply] at h
  split at h
  · cases h
  · cases hwrite : writeShared userId input priced d s with
    | error e =>
      rw [hwrite] at h
      cases h
    | ok tables =>
      rw [hwrite] at h
      cases hcod : input.isCod with
      | true =>
        simp only [hcod, if_true] at h
        obtain ⟨-, rfl⟩ := EStateM.Result.ok.inj h
        rfl
      | false =>
        simp only [hcod] at h
        obtain ⟨-, rfl⟩ := EStateM.Result.ok.inj h
        rfl

lemma carts_of_confirmPaidOrder (order : Order) (razorpayPaymentId : Razorpay.ProviderId)
    (s : Shop) :
    (endStore (confirmPaidOrder order razorpayPaymentId s)).carts =
      match if order.status = .confirmed then none else order.cart with
      | none => s.carts
      | some id => (s.deleteCart id).carts := by
  unfold confirmPaidOrder
  split
  · rfl
  · cases order.cart <;> rfl

/-- A verification deletes the cart that it is said to delete, and changes no other. -/
lemma carts_of_verifyPayment (site : Site) (payload : Razorpay.VerifyInput) (d : Draw) (s : Shop) :
    (endStore (verifyPayment site.gateway payload d s)).carts =
      match s.clearedBy site payload d with
      | none => s.carts
      | some id => (s.deleteCart id).carts := by
  unfold verifyPayment Shop.clearedBy
  by_cases hsignature : signatureAccepted site.gateway payload = false
  · rw [if_pos hsignature, if_pos hsignature]
    rfl
  · rw [if_neg hsignature, if_neg hsignature, get_bind_apply]
    cases s.paymentOf payload.orderId d with
    | none => rfl
    | some payment =>
      rw [Option.bind_some]
      by_cases hpaid : payment.status = .success
      · rw [if_pos (.inl hpaid)]
        dsimp only
        rw [if_pos hpaid]
        rfl
      · dsimp only
        rw [if_neg hpaid, endStore_bind_pure, verifiedPayment, get_bind_apply]
        cases hstock : s.stockSold payment.orderId with
        | none =>
          rw [if_pos (.inr rfl)]
          rfl
        | some stock =>
          rw [if_neg (by simp [hpaid])]
          cases s.order payment.orderId with
          | none => rfl
          | some order => exact carts_of_confirmPaidOrder order payload.razorpayPaymentId _

/-- After the clearing nothing is left in the cart. -/
lemma Cleared.units_eq_zero (h : Cleared site userId input priced w t) (variantId : VariantId) :
    t.units priced.cart.cartId variantId = 0 := by
  cases h with
  | cod _ hcod _ _ hplace =>
    have hcarts := carts_of_placeOrder hplace
    rw [if_pos hcod] at hcarts
    rw [Shop.units_congr (s := w.shop.updateCart priced.cart.cartId fun _ => []) (by rw [hcarts])]
    exact Shop.units_updateCart_nil
  | @online _ _ _ _ _ _ _ d' _ payload _ _ _ _ _ _ _ _ hclears =>
    have hcarts := carts_of_verifyPayment site payload d' w.shop
    rw [hclears] at hcarts
    rw [Shop.units_congr (s := w.shop.deleteCart priced.cart.cartId) (by rw [hcarts])]
    exact Shop.units_deleteCart

/-- **A checkout removes only what was ordered** exactly if nothing that came into the cart after
the order was priced is still there when the cart is cleared. -/
theorem keepsAdded_iff (h : Cleared site userId input priced w t) :
    KeepsAdded priced.cart.cartId w t ↔
      ∀ variantId, w.added priced.cart.cartId variantId = 0 := by
  refine forall_congr' fun variantId => ?_
  rw [h.units_eq_zero, Nat.le_zero]

/-- A checkout that is paid upon delivery, found by evaluation. -/
lemma exists_cleared_cod {α : Type} (site : Site) (userId : UserId) (input : CheckoutInput)
    (es : List Event) (d : Draw) (s₀ : Shop) (f : CartId → Watch → Shop → α) (a : α)
    (hcod : input.isCod = true)
    (h : (match price site.toUpperCase userId input s₀ with
      | .ok priced s₁ =>
        let w := Watch.run site priced.cart.cartId ⟨s₁, orderedUnits priced⟩ es
        match placeOrder userId input priced d w.shop with
        | .ok _ t => some (f priced.cart.cartId w t)
        | .error _ _ => none
      | .error _ _ => none) = some a) :
    ∃ priced w t, Cleared site userId input priced w t ∧ f priced.cart.cartId w t = a := by
  cases hprice : price site.toUpperCase userId input s₀ with
  | error e s₁ =>
    rw [hprice] at h
    cases h
  | ok priced s₁ =>
    rw [hprice] at h
    dsimp only at h
    generalize hw : Watch.run site priced.cart.cartId ⟨s₁, orderedUnits priced⟩ es = w at h
    cases hplace : placeOrder userId input priced d w.shop with
    | error e t =>
      rw [hplace] at h
      cases h
    | ok order t =>
      rw [hplace] at h
      exact ⟨priced, w, t, .cod es hcod hprice hw.symm hplace, Option.some.inj h⟩

/-- A checkout that is paid online, found by evaluation. -/
lemma exists_cleared_online {α : Type} (site : Site) (userId : UserId) (input : CheckoutInput)
    (payload : Razorpay.VerifyInput) (es es' : List Event) (d d' : Draw) (s₀ : Shop)
    (f : CartId → Watch → Shop → α) (a : α) (hcod : input.isCod = false)
    (h : (match price site.toUpperCase userId input s₀ with
      | .ok priced s₁ =>
        let id := priced.cart.cartId
        let w₁ := Watch.run site id ⟨s₁, orderedUnits priced⟩ es
        match placeOrder userId input priced d w₁.shop with
        | .ok order s₂ =>
          let w := Watch.run site id ⟨s₂, w₁.ordered⟩ es'
          if payload.orderId = order.id ∧ w.shop.clearedBy site payload d' = some id then
            some (f id w (endStore (verifyPayment site.gateway payload d' w.shop)))
          else none
        | .error _ _ => none
      | .error _ _ => none) = some a) :
    ∃ priced w t, Cleared site userId input priced w t ∧ f priced.cart.cartId w t = a := by
  cases hprice : price site.toUpperCase userId input s₀ with
  | error e s₁ =>
    rw [hprice] at h
    cases h
  | ok priced s₁ =>
    rw [hprice] at h
    dsimp only at h
    generalize hw₁ : Watch.run site priced.cart.cartId ⟨s₁, orderedUnits priced⟩ es = w₁ at h
    cases hplace : placeOrder userId input priced d w₁.shop with
    | error e s₂ =>
      rw [hplace] at h
      cases h
    | ok order s₂ =>
      rw [hplace] at h
      dsimp only at h
      generalize hw : Watch.run site priced.cart.cartId ⟨s₂, w₁.ordered⟩ es' = w at h
      split_ifs at h with hverify
      exact ⟨priced, w, _, .online es es' hcod hprice hw₁.symm hplace hw.symm hverify.1 hverify.2,
        Option.some.inj h⟩

end Clearing

/-! ## A lamp more -/

/-- User 1 has two lamps in the cart. -/
def lampMarket : Shop where
  clock := 0
  catalogue :=
    { products := [⟨1, none, none, "Lamp", .active, 1, none, none⟩]
      variants := [⟨1, 1, "LAMP", 1, none, .active⟩]
      stock := ⟨fun _ => true, fun _ => some ⟨50, 0, none⟩, [], []⟩
      coupons := []
      couponUsages := []
      promotions := ⟨[], List.nodup_nil, List.nodup_nil, List.forall_mem_nil _⟩
      promotionUsages := []
      promotionCache := .empty
      gstRules := []
      sellers := [platformSeller]
      standardShippingFee := some 1 }
  orders := []
  payments := []
  attempts := []
  carts := [⟨1, some 1, [⟨1, 1, 2⟩]⟩]
  addresses := []
  keys := []

/-- The two lamps are to be paid upon delivery. -/
def codRequest : CheckoutInput := { lampRequest with isCod := true }

/-- One of the lamps is taken out again before the order is placed. -/
theorem keepsAdded_fewer : ∃ priced w t, Cleared lampSite 1 codRequest priced w t ∧
    w.shop.carts = [⟨1, some 1, [⟨1, 1, 1⟩]⟩] ∧ KeepsAdded priced.cart.cartId w t := by
  obtain ⟨priced, w, t, hcleared, hvalues⟩ := exists_cleared_cod lampSite 1 codRequest
    [.request 1 (.updateItemQuantity 1 1) lampDraw] lampDraw lampMarket
    (fun id w _ => (id, w.shop.carts, w.ordered 1)) (1, [⟨1, some 1, [⟨1, 1, 1⟩]⟩], 1) rfl
    (by decide +kernel)
  obtain ⟨hid, hvalues⟩ := Prod.mk.inj hvalues
  obtain ⟨hcarts, hordered⟩ := Prod.mk.inj hvalues
  refine ⟨priced, w, t, hcleared, hcarts, (keepsAdded_iff hcleared).mpr fun variantId => ?_⟩
  unfold Watch.added Shop.units
  rw [hid, hcarts]
  by_cases hv : variantId = 1
  · subst hv
    rw [hordered]
    rfl
  · have hnone : decide ((1 : VariantId) = variantId) = false := decide_eq_false (Ne.symm hv)
    simp [hnone]

/-- A lamp that is added before the order is placed is cleared with the others. -/
theorem added_lamp_cleared : ¬∀ (site : Site) (userId : UserId) (input : CheckoutInput)
    (priced : PricedCheckout) (w : Watch) (t : Shop), Cleared site userId input priced w t →
    KeepsAdded priced.cart.cartId w t := by
  intro h
  obtain ⟨priced, w, t, hcleared, hvalues⟩ := exists_cleared_cod lampSite 1 codRequest
    [.request 1 (.addItem ⟨1, 1⟩) lampDraw] lampDraw lampMarket
    (fun id w t => (w.added id 1, t.units id 1)) (1, 0) rfl (by decide +kernel)
  obtain ⟨hadded, hunits⟩ := Prod.mk.inj hvalues
  have hkept := h lampSite 1 codRequest priced w t hcleared 1
  rw [hadded, hunits] at hkept
  exact absurd hkept (by decide)

/-- So is a lamp that is added while the payment is under way. -/
example : ∃ priced w t, Cleared lampSite 1 lampRequest priced w t ∧
    (w.added priced.cart.cartId 1, t.units priced.cart.cartId 1) = (1, 0) :=
  exists_cleared_online lampSite 1 lampRequest ⟨1, "order_9", "pay_9", "secretorder_9|pay_9"⟩ []
    [.request 1 (.initializePayment ⟨1, "RAZORPAY", none⟩) lampDraw,
      .request 1 (.addItem ⟨1, 1⟩) lampDraw] lampDraw lampDraw lampMarket
    (fun id w t => (w.added id 1, t.units id 1)) (1, 0) rfl (by decide +kernel)

end MeeoServer.Customers
