/-
# Checkout and cancellation

`createOrder` and `validateCheckout` of `orders/services/orderCreation.service.ts`, with the
idempotency keys of `orders/services/idempotency.service.ts`, and `cancelOrder` and
`updateOrderStatus` of `orders/services/orderStatus.service.ts`, with their answers.  What the
promotion cache and the seller table have gained is kept if the pricing succeeds.

A cart and an address are looked for among those of the user, and an order is compared with him;
but a key is looked up whoever has stored it.
-/
import MeeoServer.Customers.Pricing
import MeeoServer.Orders.Status

namespace MeeoServer.Customers

open Storefront

/-! ## Answers -/

/-- Formats complete order details for API responses; what was not loaded with the order is
empty. -/
def formatOrderResponse (order : Order) (coupon : Option (String × CouponType × ℚ))
    (promotions : List AppliedPromotion) (reservations : List Hold)
    (payments : List PaymentSummary) : OrderResponse where
  id := order.id
  orderNumber := order.orderNumber
  userId := order.userId
  status := order.status
  currency := order.currency
  financials := order.financials
  notes := order.notes
  shippingAddress := { order.address with latitude := none, longitude := none }
  items := order.items
  coupon := coupon
  promotions := promotions
  statusHistory := order.statusHistory.reverse
  reservations := reservations
  payments := payments

namespace Shop

variable (s : Shop) (id : OrderId)

def couponOf : Option (String × CouponType × ℚ) := do
  let usage ← s.catalogue.couponUsages.find? fun u => u.orderId = id
  let coupon ← s.catalogue.coupons.find? fun c => c.id = usage.couponId
  pure (coupon.code, coupon.type, usage.discountAmount)

def promotionsOf : List AppliedPromotion :=
  (s.catalogue.promotionUsages.filter fun u => u.orderId = id).map fun u =>
    let promotion := s.catalogue.promotions.rows.find? fun p => p.id = u.promotionId
    ⟨u.promotionId, promotion.map Promotion.name, promotion.bind Promotion.code,
      promotion.map Promotion.type, u.discountAmount⟩

def reservationsOf : List Hold :=
  Table.findMany (fun r => r.orderId = some id) s.catalogue.stock.reservations

def paymentsOf : List PaymentSummary :=
  (s.payments.filter fun p => p.orderId = id).map fun p =>
    ⟨p.id, p.provider, p.paymentMethod, p.status, p.amount, p.paidAmount⟩

/-- The answer of a checkout. -/
def placedResponse (order : Order) : OrderResponse :=
  formatOrderResponse order (s.couponOf order.id) (s.promotionsOf order.id)
    (s.reservationsOf order.id) (s.paymentsOf order.id)

/-- The answer of a status change. -/
def statusResponse (order : Order) : OrderResponse :=
  formatOrderResponse order (s.couponOf order.id) [] (s.reservationsOf order.id) []

end Shop

/-! ## Idempotency keys -/

def insertLock (key : Key) (userId : UserId) : Handler Unit := do
  let s ← get
  if s.keys.any fun k => k.key = key then throw checkoutInProgress
  else modify fun s => { s with keys := s.keys ++ [⟨key, userId, .processing, none, s.clock⟩] }

def deleteKey (key : Key) : Handler Unit :=
  modify fun s => { s with keys := s.keys.filter fun k => k.key ≠ key }

/-- Checks if an idempotency key was already completed, or locks it in PROCESSING state.  A
response comes back if it was. -/
def resolveOrLockKey (key : Option Key) (userId : UserId) : Handler (Option OrderResponse) :=
  match key with
  | none => pure none
  | some key => do
    let s ← get
    match s.keys.find? fun k => k.key = key with
    | none => do
      insertLock key userId
      pure none
    | some existing =>
      match existing.status, existing.responseBody with
      | .completed, some responseBody => pure (some responseBody)
      | .processing, _ =>
        if existing.createdAt + minutes 2 < s.clock then do
          deleteKey key
          insertLock key userId
          pure none
        else throw checkoutInProgress
      | _, _ => do
        insertLock key userId
        pure none

/-- Marks an idempotency key as COMPLETED and stores response payload. -/
def finalizeKey (key : Option Key) (response : OrderResponse) : Handler Unit :=
  match key with
  | none => pure ()
  | some key => modify fun s =>
    { s with
      keys := Table.updateWhere (fun k => k.key = key)
        (fun k => { k with status := .completed, responseBody := some response }) s.keys }

/-- Cleans up an idempotency key upon an error. -/
def releaseKey (key : Option Key) : Handler Unit :=
  match key with
  | none => pure ()
  | some key => deleteKey key

/-! ## Checkout -/

section Checkout

variable (toUpperCase : String → String) (userId : UserId) (input : CheckoutInput)

/-- Previews checkout breakdown and validation without modifying the database or reserving
stock. -/
def validateCheckout : Handler CheckoutPreview := do
  let s ← get
  let (preview, tables) ← ofExcept
    (Storefront.validateCheckout toUpperCase s.tables userId input s.clock)
  modify fun s => s.withShared tables
  pure preview

/-- The cart, the addresses, the discounts and the taxes. -/
def price : Handler PricedCheckout := do
  let s ← get
  let (priced, tables) ← ofExcept (priceCheckout toUpperCase s.tables userId input s.clock)
  modify fun s => s.withShared tables
  pure priced

/-- The row of the order, with the rows that are created together with it. -/
def newOrder (priced : PricedCheckout) (d : Draw) : Order :=
  let placed := placedOrder d.orderNumber userId input priced
  { placed with
    id := d.orderId
    cart := some priced.cart.cartId
    statusHistory :=
      [⟨none, placed.status, some userId,
        if input.isCod then "Order placed with Cash on Delivery (COD)"
        else "Order placed by customer during checkout"⟩] }

/-- The payment that is to be collected upon delivery. -/
def codPayment (order : Order) (d : Draw) : Payment where
  id := d.paymentId
  orderId := order.id
  provider := "COD"
  paymentMethod := some "CASH_ON_DELIVERY"
  status := .pending
  currency := order.currency
  amount := order.financials.grandTotal
  paidAmount := 0

/-- The shared tables after the reservations and the usages were written. -/
def writeShared (priced : PricedCheckout) (d : Draw) (s : Shop) : Except AppError Tables := do
  let stock ← Storefront.reserveStock d.orderId input.isCod s.clock s.catalogue.stock
    (priced.cart.items.map ValidatedCartItem.toOrderItem)
  let couponUsages := recordCouponUsage userId d.orderId priced.coupon s.catalogue.couponUsages
  priced.promotions.appliedPromotions.foldlM (recordUsage userId d.orderId)
    { s.tables with stock := stock, couponUsages := couponUsages }

/-- The atomic database transaction. -/
def placeOrder (priced : PricedCheckout) (d : Draw) : Handler Order := do
  let s ← get
  if s.orders.any fun o => o.orderNumber = d.orderNumber then throw alreadyExists
  else
    let order := newOrder userId input priced d
    let tables ← ofExcept (writeShared userId input priced d s)
    modify fun s => s.withShared tables
    modify fun s => s.insertOrder order
    if input.isCod then do
      modify fun s => s.insertPayment (codPayment order d)
      modify fun s => s.updateCart priced.cart.cartId fun _ => []
      pure order
    else pure order

/-- What `createOrder` does inside its `try`. -/
def checkout (key : Option Key) (d : Draw) : Handler OrderResponse := do
  let priced ← price toUpperCase userId input
  let order ← placeOrder userId input priced d
  let s ← get
  finalizeKey key (s.placedResponse order)
  pure (s.placedResponse order)

/-- Transactionally creates an order, snapshots items and address, reserves stock, applies
coupons, and clears cart. -/
def createOrder (key : Option Key) (d : Draw) : Handler OrderResponse := do
  let idempotency ← resolveOrLockKey key userId
  match idempotency with
  | some responseBody => pure responseBody
  | none =>
    tryCatch (checkout toUpperCase userId input key d) fun error => do
      releaseKey key
      throw error

end Checkout

/-! ## The status of an order -/

/-- The payment of a delivered order that was to be collected upon delivery. -/
def settleCod (orderId : OrderId) (d : Draw) : Handler Unit := do
  let s ← get
  match Table.pickFirst
    (fun p => p.orderId = orderId && p.provider = "COD" && p.status = .pending) d.pick
    s.payments with
  | none => pure ()
  | some payment => modify fun s =>
    s.updatePayments (fun p => p.id = payment.id) .success (some payment.amount)

/-- `payment.updateMany` of the pending payments of an order. -/
def failPending (orderId : OrderId) : Handler Unit :=
  modify fun s => s.updatePayments (fun p => p.orderId = orderId && p.status = .pending) .failed
    none

/-- What a status change means for the payments. -/
def updatePaymentsFor (newStatus : OrderStatus) (orderId : OrderId) (d : Draw) : Handler Unit :=
  if newStatus = .delivered then settleCod orderId d
  else if newStatus.dead then failPending orderId
  else pure ()

/-- The stock after the reservations of a dead order were released. -/
def Shop.stockAfter (s : Shop) (newStatus : OrderStatus) (orderId : OrderId) : Option Stock :=
  s.catalogue.stock.releaseHolds newStatus
    (if newStatus.dead then s.catalogue.stock.activeHolds orderId else [])

/-- The transaction of a status change; it has no effect if the stock cannot be released. -/
def changeStatus (order : Order) (newStatus : OrderStatus) (reason : Option String)
    (changedBy : UserId) (d : Draw) : Handler Unit := do
  let s ← get
  match s.stockAfter newStatus order.id with
  | none => throw recordNotFound
  | some stock => do
    modify fun s => s.withStock stock
    modify fun s => s.setOrderStatus order.id newStatus
      ⟨some order.status, newStatus, some changedBy,
        reason.getD (s!"Order status transitioned from {order.status.name} to " ++
          s!"{newStatus.name}")⟩
    updatePaymentsFor newStatus order.id d

/-- Updates an order status with state machine validation, audit record logging and inventory
release. -/
def updateOrderStatus (orderId : OrderId) (newStatus : OrderStatus) (reason : Option String)
    (changedBy : UserId) (d : Draw) : Handler OrderResponse := do
  let s ← get
  match s.order orderId with
  | none => throw ⟨"Order not found", 404⟩
  | some order =>
    if order.status = newStatus then pure (formatOrderResponse order none [] [] [])
    else
      let _ ← ofExcept (validateStatusTransition order.status newStatus)
      changeStatus order newStatus reason changedBy d
      let s ← get
      pure (s.statusResponse ((s.order orderId).getD order))

/-- Cancels an order on customer or admin request and releases stock reservations. -/
def cancelOrder (orderId : OrderId) (userId : UserId) (reason : Option String) (isAdmin : Bool)
    (d : Draw) : Handler OrderResponse := do
  let s ← get
  match s.order orderId with
  | none => throw ⟨"Order not found", 404⟩
  | some order =>
    if !isAdmin ∧ order.userId ≠ userId then
      throw ⟨"You are not authorized to cancel this order", 403⟩
    else if !isAdmin ∧ order.status ≠ .pending ∧ order.status ≠ .paymentPending ∧
        order.status ≠ .confirmed then
      throw ⟨s!"Cannot cancel order in \"{order.status.name}\" status. " ++
        "Please contact customer support.", 400⟩
    else
      updateOrderStatus orderId .cancelled (some (reason.getD "Cancelled by customer")) userId d

/-! ## Keys of another customer -/

section Keys

variable {v userId : UserId} {s : Shop} {A B : Prop} {k : Key}

/-- Nothing is stored under the key for `v`. -/
def Shop.KeyFree (s : Shop) (v : UserId) (key : Key) : Prop :=
  ∀ row ∈ s.keys, row.key = key → row.userId ≠ v

section View

variable {ν : Type} {view : Shop → ν}
  (hview : ∀ (s : Shop) keys, view { s with keys := keys } = view s)

include hview

lemma insertLock_confined (hs : s.Sound) (hne : B → userId ≠ v) (hkey : B → s.KeyFree v k) :
    Confined Shop.Sound view (fun s => s.without v) A B (insertLock k userId) s := by
  have hany : B → (s.without v).keys.any (fun row => row.key = k) =
      s.keys.any fun row => row.key = k := fun hB =>
    Table.any_filter_of fun row hrow hk => decide_eq_true (hkey hB row hrow (of_decide_eq_true hk))
  refine confined_get (fun hB => by rw [hany hB]) ?_
  split_ifs
  · exact confined_throw hs _
  · refine confined_modify (hs.sameRows Shop.sameRows_shared) (fun _ => hview _ _) fun hB => ?_
    refine congrArg (fun keys => { s.without v with keys := keys }) (Table.filter_append_of ?_).symm
    exact decide_eq_true (hne hB)

lemma deleteKey_confined (hs : s.Sound) :
    Confined Shop.Sound view (fun s => s.without v) A B (deleteKey k) s :=
  confined_modify (hs.sameRows Shop.sameRows_shared) (fun _ => hview _ _) fun _ =>
    congrArg (fun keys => { s.without v with keys := keys }) (Table.filter_comm _ _ _)

lemma resolveOrLockKey_confined {key : Option Key} (hs : s.Sound) (hne : B → userId ≠ v)
    (hkey : B → ∀ k ∈ key, s.KeyFree v k) :
    Confined Shop.Sound view (fun s => s.without v) A B (resolveOrLockKey key userId) s := by
  cases key with
  | none => exact confined_pure hs _
  | some k =>
    have hfree : B → s.KeyFree v k := fun hB => hkey hB k rfl
    have hfind : B → (s.without v).keys.find? (fun row => row.key = k) =
        s.keys.find? fun row => row.key = k := fun hB =>
      Table.find?_filter_of fun row hrow hk =>
        decide_eq_true (hfree hB row hrow (of_decide_eq_true hk))
    have hinsert : ∀ r : Option OrderResponse, Confined Shop.Sound view (fun s => s.without v) A B
        (insertLock k userId >>= fun _ => pure r) s := fun r =>
      (insertLock_confined hview hs hne hfree).bind fun _ _ _ ht => confined_pure ht r
    refine confined_get (fun hB => by rw [hfind hB]; rfl) ?_
    split
    · exact hinsert none
    · split
      · exact confined_pure hs _
      · split_ifs
        · refine (deleteKey_confined hview hs).bind fun _ t hrun ht => ?_
          obtain ⟨-, rfl⟩ := EStateM.Result.ok.inj hrun
          refine (insertLock_confined hview ht hne fun hB row hrow => ?_).bind
            fun _ _ _ ht' => confined_pure ht' _
          exact hfree hB row (List.mem_of_mem_filter hrow)
        · exact confined_throw hs _
      · exact hinsert none

end View

/-- Only the keys are touched. -/
lemma resolveOrLockKey_eq_ok {key : Option Key} {r : Option OrderResponse} {t : Shop}
    (hs : s.Sound) (h : resolveOrLockKey key userId s = .ok r t) :
    t = { s with keys := t.keys } := by
  have hrest := (resolveOrLockKey_confined (fun _ _ => rfl) hs False.elim False.elim :
    Confined Shop.Sound (fun s : Shop => { s with keys := [] }) (fun s => s.without 0) True False
      (resolveOrLockKey key userId) s).leaves trivial
  rw [h] at hrest
  exact congrArg (fun x : Shop => { x with keys := t.keys }) hrest

lemma finalizeKey_isolated {key : Option Key} {response : OrderResponse} (hs : s.Sound) :
    Isolated v A B (finalizeKey key response) s := by
  cases key with
  | none => exact confined_pure hs _
  | some k =>
    refine confined_modify (hs.sameRows Shop.sameRows_shared) (fun _ => rfl) fun _ => ?_
    refine congrArg (fun keys => { s.without v with keys := keys })
      (Table.filter_updateWhere ?_).symm
    exact fun _ _ _ => rfl

lemma releaseKey_isolated {key : Option Key} (hs : s.Sound) :
    Isolated v A B (releaseKey key) s := by
  cases key with
  | none => exact confined_pure hs _
  | some k => exact deleteKey_confined (fun _ _ => rfl) hs

end Keys

/-! ## The checkout of a customer -/

section Checkout

variable {toUpperCase : String → String} {v userId : UserId} {input : CheckoutInput} {s : Shop}
  {d : Draw} {B : Prop}

lemma Shop.sameRows_withShared {tables : Tables} : SameRows s (s.withShared tables) :=
  ⟨rfl, rfl, rfl, rfl, rfl⟩

/-- Writing shared tables is not a matter of anybody's rows. -/
lemma withShared_isolated {A B : Prop} {tables : Tables} (hs : s.Sound) :
    Isolated v A B (modify fun s => s.withShared tables) s :=
  confined_modify (hs.sameRows Shop.sameRows_withShared) (fun _ => rfl) fun _ => rfl

lemma validateCheckout_isolated (hs : s.Sound) :
    Isolated v (userId ≠ v) (userId ≠ v) (validateCheckout toUpperCase userId input) s := by
  refine confined_get (fun hne => ?_) (confined_ofExcept_bind hs fun r _ => ?_)
  · have hclock : (s.without v).clock = s.clock := rfl
    unfold Storefront.validateCheckout
    rw [hclock, priceCheckout_without hs hne]
    cases priceCheckout toUpperCase s.tables userId input s.clock <;> rfl
  · exact (withShared_isolated hs).bind fun _ _ _ ht => confined_pure ht _

lemma price_isolated (hs : s.Sound) (hne : B → userId ≠ v) {A : Prop} :
    Isolated v A B (price toUpperCase userId input) s := by
  refine confined_get (fun hB => ?_) (confined_ofExcept_bind hs fun r _ => ?_)
  · have hclock : (s.without v).clock = s.clock := rfl
    rw [hclock, priceCheckout_without hs (hne hB)]
    cases priceCheckout toUpperCase s.tables userId input s.clock <;> rfl
  · exact (withShared_isolated hs).bind fun _ _ _ ht => confined_pure ht _

/-- The priced cart is one of the user, and the rows of customers are as they were. -/
lemma price_eq_ok {priced : PricedCheckout} {t : Shop}
    (h : price toUpperCase userId input s = .ok priced t) :
    (∃ tables, t = s.withShared tables) ∧
      ∃ cart ∈ s.carts, cart.id = priced.cart.cartId ∧ cart.userId = some userId := by
  rw [price, get_bind_apply] at h
  cases hpriced : priceCheckout toUpperCase s.tables userId input s.clock with
  | error e =>
    rw [hpriced] at h
    exact nomatch h
  | ok r =>
    rw [hpriced] at h
    obtain ⟨rfl, rfl⟩ := EStateM.Result.ok.inj h
    exact ⟨⟨_, rfl⟩, cart_of_priceCheckout hpriced⟩

lemma writeShared_without (priced : PricedCheckout) :
    writeShared userId input priced d (s.without v) =
      (writeShared userId input priced d s).map fun tables =>
        withRows tables (s.without v).carts
          ((s.without v).addresses.map SavedAddress.toAddress)
          ((s.without v).orders.map Order.toPlacedOrder) := by
  unfold writeShared
  show Except.bind (Storefront.reserveStock d.orderId input.isCod s.clock s.catalogue.stock
    (priced.cart.items.map ValidatedCartItem.toOrderItem)) _ = _
  cases Storefront.reserveStock d.orderId input.isCod s.clock s.catalogue.stock
    (priced.cart.items.map ValidatedCartItem.toOrderItem) with
  | error e => rfl
  | ok stock =>
    exact foldlM_recordUsage_withRows
      (t := { s.tables with
        stock := stock
        couponUsages := recordCouponUsage userId d.orderId priced.coupon
          s.catalogue.couponUsages })
      priced.promotions.appliedPromotions

/-- No order of `v` has the number. -/
def Shop.NumberFree (s : Shop) (v : UserId) (orderNumber : String) : Prop :=
  ∀ o ∈ s.orders, o.orderNumber = orderNumber → o.userId ≠ v

/-- The identifier of a new order is not the one of an order of another customer. -/
lemma Shop.orderIsOf_insertOrder_fresh {o : Order} (hid : o.id ∉ s.orders.map Order.id)
    (hne : o.userId ≠ v) : (s.insertOrder o).orderIsOf v o.id = false := by
  rw [Shop.orderIsOf_insertOrder hne]
  refine Shop.orderIsOf_eq_false.mpr fun o' ho' heq _ => hid ?_
  exact heq ▸ List.mem_map_of_mem ho'

/-- The rest of an order that is paid upon delivery: its payment, and the empty cart. -/
lemma codOrder_isolated {priced : PricedCheckout} {tables : Tables}
    (hs : ((s.withShared tables).insertOrder (newOrder userId input priced d)).Sound)
    (hd : d.Fresh s)
    (hcart : ∃ cart ∈ s.carts, cart.id = priced.cart.cartId ∧ cart.userId = some userId)
    (hB : B → userId ≠ v) :
    Isolated v (userId ≠ v) B
      (do
        modify fun s => s.insertPayment (codPayment (newOrder userId input priced d) d)
        modify fun s => s.updateCart priced.cart.cartId fun _ => []
        pure (newOrder userId input priced d))
      ((s.withShared tables).insertOrder (newOrder userId input priced d)) := by
  have hfresh : userId ≠ v →
      ((s.withShared tables).insertOrder (newOrder userId input priced d)).orderIsOf v d.orderId =
        false := fun hne =>
    Shop.orderIsOf_insertOrder_fresh (o := newOrder userId input priced d) hd.orderId hne
  refine Confined.bind (confined_modify (hs.insertPayment hd.paymentId)
    (fun hne => Shop.rowsOf_insertPayment (hfresh hne))
    fun hb => Shop.without_insertPayment (hfresh (hB hb))) fun _ t hrun ht => ?_
  obtain ⟨-, rfl⟩ := EStateM.Result.ok.inj hrun
  obtain ⟨cart, hmem, hid, huser⟩ := hcart
  have hmine := ht.cartIsOf hmem huser
  rw [hid] at hmine
  exact Confined.bind (confined_modify (ht.sameRows Shop.sameRows_updateCart)
    (fun hne => Shop.rowsOf_updateCart (hmine.ne hne))
    fun _ => Shop.without_updateCart) fun _ _ _ ht' => confined_pure ht' _

lemma placeOrder_isolated {priced : PricedCheckout} (hs : s.Sound) (hd : d.Fresh s)
    (hcart : ∃ cart ∈ s.carts, cart.id = priced.cart.cartId ∧ cart.userId = some userId)
    (hB : B → userId ≠ v) (hnumber : B → s.NumberFree v d.orderNumber) :
    Isolated v (userId ≠ v) B (placeOrder userId input priced d) s := by
  have hany : B → (s.without v).orders.any (fun o => o.orderNumber = d.orderNumber) =
      s.orders.any fun o => o.orderNumber = d.orderNumber := fun hb =>
    Table.any_filter_of fun o ho hn =>
      decide_eq_true (hnumber hb o ho (of_decide_eq_true hn))
  refine confined_get (fun hb => ?_) ?_
  · rw [hany hb, writeShared_without]
    cases writeShared userId input priced d s <;> rfl
  · split
    · exact confined_throw hs _
    · refine confined_ofExcept_bind hs fun tables _ => ?_
      refine (withShared_isolated hs).bind fun _ t hrun ht => ?_
      obtain ⟨-, rfl⟩ := EStateM.Result.ok.inj hrun
      have hcart' : ∀ c ∈ (newOrder userId input priced d).cart,
          ∃ cart ∈ s.carts, cart.id = c ∧ cart.userId = some userId := by
        intro c hc
        obtain rfl := Option.some.inj hc
        exact hcart
      refine Confined.bind (confined_modify (ht.insertOrder hd.orderId hcart')
        (fun hne => Shop.rowsOf_insertOrder hne) fun hb => Shop.without_insertOrder (hB hb))
        fun _ t hrun ht => ?_
      obtain ⟨-, rfl⟩ := EStateM.Result.ok.inj hrun
      split
      · exact codOrder_isolated ht hd hcart hB
      · exact confined_pure ht _

/-- The order of the answer is the new one. -/
lemma placeOrder_eq_ok {priced : PricedCheckout} {order : Order} {t : Shop}
    (h : placeOrder userId input priced d s = .ok order t) :
    order = newOrder userId input priced d ∧ ∃ tables : Tables,
      t.orders = ((s.withShared tables).insertOrder order).orders := by
  rw [placeOrder, get_bind_apply] at h
  split at h
  · exact nomatch h
  · cases hwrite : writeShared userId input priced d s with
    | error e =>
      rw [hwrite] at h
      exact nomatch h
    | ok tables =>
      rw [hwrite] at h
      by_cases hcod : input.isCod = true
      · simp only [hcod, if_true] at h
        obtain ⟨rfl, rfl⟩ := EStateM.Result.ok.inj h
        exact ⟨rfl, tables, rfl⟩
      · simp only [hcod] at h
        obtain ⟨rfl, rfl⟩ := EStateM.Result.ok.inj h
        exact ⟨rfl, tables, rfl⟩

lemma placedResponse_without {order : Order} (h : s.orderIsOf v order.id = false) :
    (s.without v).placedResponse order = s.placedResponse order := by
  have hpayments : (s.without v).paymentsOf order.id = s.paymentsOf order.id := by
    unfold Shop.paymentsOf
    refine congrArg _ (Table.filter_filter_of fun p _ hp => ?_)
    rw [of_decide_eq_true hp, h]
    rfl
  unfold Shop.placedResponse
  rw [hpayments]
  rfl

lemma checkout_isolated {key : Option Key} (hs : s.Sound) (hd : d.Fresh s)
    (hB : B → userId ≠ v) (hnumber : B → s.NumberFree v d.orderNumber) :
    Isolated v (userId ≠ v) B (checkout toUpperCase userId input key d) s := by
  refine (price_isolated hs hB).bind fun priced t hrun ht => ?_
  obtain ⟨⟨tables, rfl⟩, hcart⟩ := price_eq_ok hrun
  have hd' : d.Fresh (s.withShared tables) := hd.sameRows Shop.sameRows_withShared
  refine (placeOrder_isolated ht hd' hcart hB hnumber).bind fun order t hrun ht => ?_
  obtain ⟨rfl, tables', horders⟩ := placeOrder_eq_ok hrun
  refine confined_get (fun hb => ?_) ((finalizeKey_isolated ht).bind
    fun _ _ _ ht' => confined_pure ht' _)
  have hfresh : t.orderIsOf v d.orderId = false := by
    have hinsert := Shop.orderIsOf_insertOrder_fresh (v := v) (s := s.withShared tables)
      (o := newOrder userId input priced d) hd.orderId (hB hb)
    unfold Shop.orderIsOf at hinsert ⊢
    rw [horders]
    exact hinsert
  rw [placedResponse_without hfresh]

lemma createOrder_isolated {key : Option Key} (hs : s.Sound) (hd : d.Fresh s)
    (hB : B → userId ≠ v) (hkey : B → ∀ k ∈ key, s.KeyFree v k)
    (hnumber : B → s.NumberFree v d.orderNumber) :
    Isolated v (userId ≠ v) B (createOrder toUpperCase userId input key d) s := by
  refine (resolveOrLockKey_confined (fun _ _ => rfl) hs hB hkey).bind fun r t hrun ht => ?_
  have hrest := resolveOrLockKey_eq_ok hs hrun
  split
  · exact confined_pure ht _
  · refine (checkout_isolated ht ?_ hB ?_).recover fun error t' _ ht' => ?_
    · rw [hrest]
      exact hd.sameRows Shop.sameRows_shared
    · rw [hrest]
      exact hnumber
    · exact (releaseKey_isolated ht').bind fun _ _ _ ht'' => confined_throw ht'' _

end Checkout

/-! ## The orders of a customer -/

section Status

variable {v userId changedBy : UserId} {orderId : OrderId} {s : Shop} {d : Draw} {order : Order}
  {newStatus : OrderStatus} {reason : Option String} {A B : Prop}

/-- An update of payments of one order. -/
lemma updatePayments_isolated {p : Payment → Bool} {status : PaymentStatus}
    {paidAmount : Option ℚ} (hs : s.Sound) (horder : A → s.orderIsOf v orderId = false)
    (hp : ∀ a ∈ s.payments, p a = true → a.orderId = orderId) :
    Isolated v A B (modify fun s => s.updatePayments p status paidAmount) s :=
  confined_modify (hs.sameRows Shop.sameRows_updatePayments)
    (fun hA => Shop.rowsOf_updatePayments fun a ha hpa => hp a ha hpa ▸ horder hA)
    fun _ => Shop.without_updatePayments

/-- An update of one payment. -/
lemma updatePayment_isolated {payment : Payment} {status : PaymentStatus}
    {paidAmount : Option ℚ} (hs : s.Sound) (hmem : payment ∈ s.payments)
    (hA : A → s.orderIsOf v payment.orderId = false) :
    Isolated v A B
      (modify fun s => s.updatePayments (fun p => p.id = payment.id) status paidAmount) s := by
  refine updatePayments_isolated hs hA fun a ha hid => ?_
  obtain rfl := List.inj_on_of_nodup_map hs.payments_nodup ha hmem (of_decide_eq_true hid)
  rfl

lemma settleCod_isolated (hs : s.Sound) (hA : A → s.orderIsOf v orderId = false)
    (hB : B → s.orderIsOf v orderId = false) : Isolated v A B (settleCod orderId d) s := by
  refine confined_get (fun hb => ?_) ?_
  · rw [Shop.pickFirst_payments_without (hB hb) fun a ha => ?_]
    simp only [Bool.and_eq_true, decide_eq_true_eq] at ha
    exact ha.1.1
  · split
    · exact confined_pure hs _
    · rename_i payment hpick
      obtain ⟨hmem, hp⟩ := Table.mem_of_pickFirst hpick
      simp only [Bool.and_eq_true, decide_eq_true_eq] at hp
      exact updatePayment_isolated hs hmem fun hA' => hp.1.1 ▸ hA hA'

lemma failPending_isolated (hs : s.Sound) (hA : A → s.orderIsOf v orderId = false) :
    Isolated v A B (failPending orderId) s :=
  updatePayments_isolated hs hA fun _ _ hp => of_decide_eq_true (Bool.and_eq_true_iff.mp hp).1

lemma Shop.sameRows_withStock {stock : Stock} : SameRows s (s.withStock stock) :=
  ⟨rfl, rfl, rfl, rfl, rfl⟩

lemma updatePaymentsFor_isolated (hs : s.Sound) (hA : A → s.orderIsOf v orderId = false)
    (hB : B → s.orderIsOf v orderId = false) :
    Isolated v A B (updatePaymentsFor newStatus orderId d) s := by
  unfold updatePaymentsFor
  split_ifs
  · exact settleCod_isolated hs hA hB
  · exact failPending_isolated hs hA
  · exact confined_pure hs _

lemma updatePaymentsFor_sameRows :
    SameRows s (endStore (updatePaymentsFor newStatus orderId d s)) := by
  unfold updatePaymentsFor
  split_ifs
  · rw [settleCod, get_bind_apply]
    generalize Table.pickFirst _ d.pick s.payments = found
    cases found with
    | none => exact SameRows.refl s
    | some payment => exact Shop.sameRows_updatePayments
  · exact Shop.sameRows_updatePayments
  · exact SameRows.refl s

lemma changeStatus_isolated (hs : s.Sound) (hA : A → s.orderIsOf v order.id = false)
    (hB : B → s.orderIsOf v order.id = false) :
    Isolated v A B (changeStatus order newStatus reason changedBy d) s := by
  refine confined_get (fun _ => rfl) ?_
  cases s.stockAfter newStatus order.id with
  | none => exact confined_throw hs _
  | some stock =>
    refine Confined.bind (confined_modify (hs.sameRows Shop.sameRows_withStock) ?_ ?_)
      fun _ t hrun ht => ?_
    · exact fun _ => rfl
    · exact fun _ => rfl
    · obtain ⟨-, rfl⟩ := EStateM.Result.ok.inj hrun
      refine Confined.bind (confined_modify (ht.sameRows Shop.sameRows_setOrderStatus)
        (fun hA' => Shop.rowsOf_setOrderStatus (hA hA')) fun _ => Shop.without_setOrderStatus)
        fun _ t hrun ht => ?_
      obtain ⟨-, rfl⟩ := EStateM.Result.ok.inj hrun
      have hsame : ((s.withStock stock).setOrderStatus order.id newStatus
          ⟨some order.status, newStatus, some changedBy,
            reason.getD (s!"Order status transitioned from {order.status.name} to " ++
              s!"{newStatus.name}")⟩).orderIsOf v order.id = s.orderIsOf v order.id :=
        congrFun (Shop.orderIsOf_sameRows Shop.sameRows_setOrderStatus) _
      refine updatePaymentsFor_isolated ht (fun hA' => ?_) fun hB' => ?_
      · exact hsame.trans (hA hA')
      · exact hsame.trans (hB hB')

/-- The transaction changes what rows say. -/
lemma changeStatus_sameRows {t : Shop}
    (h : changeStatus order newStatus reason changedBy d s = .ok () t) : SameRows s t := by
  have hend : SameRows s (endStore (changeStatus order newStatus reason changedBy d s)) := by
    rw [changeStatus, get_bind_apply]
    cases s.stockAfter newStatus order.id with
    | none => exact SameRows.refl s
    | some stock =>
      have hstatus : SameRows s ((s.withStock stock).setOrderStatus order.id newStatus
          ⟨some order.status, newStatus, some changedBy,
            reason.getD (s!"Order status transitioned from {order.status.name} to " ++
              s!"{newStatus.name}")⟩) :=
        Shop.sameRows_withStock.trans Shop.sameRows_setOrderStatus
      exact hstatus.trans updatePaymentsFor_sameRows
  rw [h] at hend
  exact hend

lemma updateOrderStatus_isolated (hs : s.Sound) (hA : A → s.orderIsOf v orderId = false)
    (hB : B → s.orderIsOf v orderId = false) :
    Isolated v A B (updateOrderStatus orderId newStatus reason changedBy d) s := by
  refine confined_get (fun hB' => by rw [Shop.order_without (hB hB')]) ?_
  cases horder : s.order orderId with
  | none => exact confined_throw hs _
  | some order =>
    obtain ⟨-, rfl⟩ := Shop.mem_of_order horder
    dsimp only
    split_ifs
    · exact confined_pure hs _
    · refine confined_ofExcept_bind hs fun _ _ => ?_
      refine (changeStatus_isolated hs hA hB).bind fun _ t hrun ht => ?_
      have hrows : SameRows s t := changeStatus_sameRows hrun
      refine confined_get (fun hB' => ?_) (confined_pure ht _)
      rw [Shop.order_without ((congrFun (Shop.orderIsOf_sameRows hrows) _).trans (hB hB'))]
      rfl

/-- A customer cancels an order; it does not depend on the rows of `v` if the order is not one of
them. -/
lemma cancelOrder_isolated (hs : s.Sound) (hB : B → s.orderIsOf v orderId = false) :
    Isolated v (userId ≠ v) B (cancelOrder orderId userId reason false d) s := by
  refine confined_get (fun hB' => by rw [Shop.order_without (hB hB')]) ?_
  cases horder : s.order orderId with
  | none => exact confined_throw hs _
  | some order =>
    dsimp only
    split_ifs with howner
    · exact confined_throw hs _
    · exact confined_throw hs _
    · refine updateOrderStatus_isolated hs (fun hne => ?_) hB
      have huser : order.userId = userId := by simpa using howner
      exact hs.orderIsOf_eq_false_of horder (huser ▸ hne)

/-- An order of another customer is refused. -/
lemma cancelOrder_refused (hs : s.Sound) (hne : userId ≠ v) (hv : s.orderIsOf v orderId = true) :
    cancelOrder orderId userId reason false d s =
      .error ⟨"You are not authorized to cancel this order", 403⟩ s := by
  obtain ⟨order, horder, huser⟩ := hs.order_of_orderIsOf hv
  rw [cancelOrder, get_bind_apply, horder]
  have hforbidden : (!false) = true ∧ order.userId ≠ userId :=
    ⟨rfl, fun heq => hne (heq.symm.trans huser)⟩
  simp only [if_pos hforbidden]
  rfl

end Status

end MeeoServer.Customers
