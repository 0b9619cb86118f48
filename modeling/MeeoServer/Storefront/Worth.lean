/-
# What an order is worth

`checkoutSchema` of `orders/validations/order.validation.ts`, and `initializePayment` of
`payments/services/paymentCreation.service.ts` with `createPaymentIntent` of
`payments/providers/razorpayPayment.provider.ts`, for an order that has just been placed.  Two
requests for the same cart with the same codes, the same shipping address and the same method
get the same amounts; but the unit of these amounts is the one the request names.
-/
import MeeoServer.Payments.Provider
import MeeoServer.Storefront.Checkout

namespace MeeoServer.Storefront

/-! ## The request -/

/-- The body of a request, before the schema has seen it. -/
structure CheckoutBody where
  cartId : Option CartId
  shippingAddressId : Option AddressId
  shippingAddress : Option AddressSnapshot
  billingAddressId : Option AddressId
  billingAddress : Option AddressSnapshot
  couponCode : Option String
  promoCode : Option String
  customerGstin : Option String
  notes : Option String
  paymentMethod : Option String
  currency : Option String
deriving DecidableEq

section Schema

variable (toUpperCase : String → String)

/-- `z.string().trim()`. -/
def trimmed (s : String) : String := String.ofList (JsString.trim s.toList)

/-- `.min(shortest).max(longest)`; what the schema reports instead is left out. -/
def withLength (shortest longest : ℕ) (s : String) : Option String :=
  if shortest ≤ JsString.length s.toList ∧ JsString.length s.toList ≤ longest then some s else none

def addressSnapshotSchema (body : AddressSnapshot) : Option AddressSnapshot := do
  let recipientName ← withLength 1 100 (trimmed body.recipientName)
  let phone ← body.phone.mapM fun s => withLength 0 30 (trimmed s)
  let addressLine1 ← withLength 1 255 (trimmed body.addressLine1)
  let addressLine2 ← body.addressLine2.mapM fun s => withLength 0 255 (trimmed s)
  let city ← withLength 1 100 (trimmed body.city)
  let state ← withLength 1 100 (trimmed body.state)
  let postalCode ← withLength 1 20 (trimmed body.postalCode)
  let country ← withLength 1 100 (trimmed body.country)
  some ⟨recipientName, phone, addressLine1, addressLine2, city, state, postalCode, country,
    body.latitude, body.longitude⟩

/-- `z.enum(["RAZORPAY", "COD"]).default("RAZORPAY")`. -/
def paymentMethodSchema : Option String → Option Bool
  | none => some false
  | some method =>
    if method = "RAZORPAY" then some false else if method = "COD" then some true else none

/-- `z.string().trim().length(3).default("INR")`. -/
def currencySchema : Option String → Option String
  | none => some "INR"
  | some currency => withLength 3 3 (trimmed currency)

def checkoutSchema (body : CheckoutBody) : Option CheckoutInput := do
  let shippingAddress ← body.shippingAddress.mapM addressSnapshotSchema
  let billingAddress ← body.billingAddress.mapM addressSnapshotSchema
  let couponCode ← body.couponCode.mapM fun s => withLength 0 50 (trimmed s)
  let promoCode ← body.promoCode.mapM fun s => withLength 0 50 (trimmed s)
  let customerGstin ← body.customerGstin.mapM fun s => withLength 0 15 (toUpperCase (trimmed s))
  let notes ← body.notes.mapM fun s => withLength 0 500 (trimmed s)
  let isCod ← paymentMethodSchema body.paymentMethod
  let currency ← currencySchema body.currency
  if body.shippingAddressId.isNone && shippingAddress.isNone then none
  else
    some ⟨body.cartId, body.shippingAddressId, shippingAddress, body.billingAddressId,
      billingAddress, couponCode, promoCode, customerGstin, notes, isCod, currency⟩

/-- The schema has accepted some body as the input. -/
def CheckoutInput.Accepted (input : CheckoutInput) : Prop :=
  ∃ body, checkoutSchema toUpperCase body = some input

variable {toUpperCase} in
/-- An accepted currency is not empty, so no default takes its place. -/
lemma CheckoutInput.Accepted.orText_currency {input : CheckoutInput}
    (h : input.Accepted toUpperCase) : orText input.currency "INR" = input.currency := by
  obtain ⟨body, h⟩ := h
  simp only [checkoutSchema, Option.bind_eq_bind, Option.bind_eq_some_iff] at h
  obtain ⟨_, -, _, -, _, -, _, -, _, -, _, -, _, -, currency, hcurrency, h⟩ := h
  split_ifs at h
  obtain rfl := Option.some.inj h
  refine if_neg fun hempty => ?_
  have hne : currency ≠ "" := by
    rintro rfl
    unfold currencySchema at hcurrency
    split at hcurrency
    · exact absurd (Option.some.inj hcurrency) (by decide)
    · unfold withLength at hcurrency
      split_ifs at hcurrency with hlength
      rw [Option.some.inj hcurrency] at hlength
      exact absurd hlength.1 (by decide)
  exact hne hempty

end Schema

/-! ## The payment -/

/-- A payment row, as far as the start of a payment reads or writes it. -/
structure StoredPayment where
  orderId : OrderId
  status : PaymentStatus
  currency : String
  amount : ℚ
deriving DecidableEq

/-- The body of the request for a gateway order; the amount is in hundredths. -/
structure GatewayRequest where
  amount : ℤ
  currency : String
  receipt : String
deriving DecidableEq

/-- What the start of a payment writes and sends: the payment, the amount of the attempt, and the
request to the gateway, if it is asked. -/
structure PaymentSession where
  payment : StoredPayment
  attemptAmount : ℚ
  request : Option GatewayRequest
deriving DecidableEq

/-- The request that `createPaymentIntent` sends. -/
def createPaymentIntent (config : Razorpay.Config) (orderNumber currency : String) (amount : ℚ) :
    Option GatewayRequest :=
  if config.live then
    some ⟨⌊amount * 100 + 1 / 2⌋, orText currency "INR",
      String.ofList (orderNumber.toList.take 40)⟩
  else none

/-- Initializes a payment session and gateway intent for an order. -/
def initializePayment (config : Razorpay.Config) (orders : List PlacedOrder)
    (payments : List StoredPayment) (userId : UserId) (orderId : OrderId) (pick : ℕ) :
    Except AppError PaymentSession :=
  match orders[orderId]? with
  | none => .error ⟨"Order not found", 404⟩
  | some order =>
    if order.userId ≠ userId then
      .error ⟨"Forbidden: You cannot initialize payment for another user's order", 403⟩
    else if order.status ≠ .pending ∧ order.status ≠ .paymentPending then
      .error ⟨s!"Cannot create payment for order in \"{order.status.name}\" status. " ++
        "Order must be PENDING or PAYMENT_PENDING", 400⟩
    else
      let amount := order.financials.grandTotal
      let existing := (Table.findFirst (fun p => p.orderId = orderId ∧ p.status.isOpen) pick
        payments).map Row.val
      let payment := existing.getD ⟨orderId, .pending, order.currency, amount⟩
      .ok ⟨payment, amount, createPaymentIntent config order.orderNumber order.currency amount⟩

/-- A database with its payments, each of which is for one of the orders. -/
structure Desk extends Tables where
  payments : List StoredPayment
  references : ∀ p ∈ payments, p.orderId < orders.length

/-- `createOrder`, and `initializePayment` for the order it has placed. -/
def placeAndPay (toUpperCase : String → String) (config : Razorpay.Config) (desk : Desk)
    (orderNumber : String) (userId : UserId) (input : CheckoutInput) (now : Millis) (pick : ℕ) :
    Except AppError (PlacedOrder × Except AppError PaymentSession) := do
  let (order, tables) ← createOrder toUpperCase desk.toTables orderNumber userId input now
  let orderId := desk.orders.length
  let codPayment := order.codPayment.toList.map fun amount =>
    StoredPayment.mk orderId .pending order.currency amount
  pure (order, initializePayment config tables.orders (desk.payments ++ codPayment) userId orderId
    pick)

/-! ## What is compared -/

/-- What a started payment is worth: the row, the attempt, and the amount and the currency that
the gateway is asked for. -/
structure SessionWorth where
  payment : StoredPayment
  attemptAmount : ℚ
  requested : Option (ℤ × String)
deriving DecidableEq

def PaymentSession.worth (session : PaymentSession) : SessionWorth :=
  ⟨session.payment, session.attemptAmount, session.request.map fun r => (r.amount, r.currency)⟩

/-- What an order is worth, with the payment that was started for it. -/
structure Worth where
  financials : Financials
  items : List OrderLine
  codPayment : Option ℚ
  currency : String
  session : Except AppError SessionWorth

def worth (result : PlacedOrder × Except AppError PaymentSession) : Worth where
  financials := result.1.financials
  items := result.1.items
  codPayment := result.1.codPayment
  currency := result.1.currency
  session := result.2.map PaymentSession.worth

/-- The same worth in another currency: the amounts are not converted. -/
def SessionWorth.inCurrency (currency : String) (w : SessionWorth) : SessionWorth :=
  ⟨{ w.payment with currency := currency }, w.attemptAmount,
    w.requested.map fun r => (r.1, currency)⟩

def Worth.inCurrency (currency : String) (w : Worth) : Worth :=
  { w with currency := currency, session := w.session.map (SessionWorth.inCurrency currency) }

/-! ## What an order is worth -/

section OneRun

variable {toUpperCase : String → String} {config : Razorpay.Config} {tables tables' : Tables}
  {desk : Desk} {orderNumber : String} {userId : UserId} {input : CheckoutInput} {now : Millis}
  {pick : ℕ} {order : PlacedOrder}

lemma recordUsage_orders {orderId : OrderId} {applied : AppliedPromotionDetail}
    (h : recordUsage userId orderId tables applied = .ok tables') :
    tables'.orders = tables.orders := by
  unfold recordUsage at h
  split at h
  · exact nomatch h
  · dsimp only at h
    split_ifs at h
    obtain rfl := Except.ok.inj h
    rfl

lemma foldlM_recordUsage_orders {orderId : OrderId} (l : List AppliedPromotionDetail)
    (h : l.foldlM (recordUsage userId orderId) tables = .ok tables') :
    tables'.orders = tables.orders := by
  induction l generalizing tables with
  | nil =>
    obtain rfl := Except.ok.inj h
    rfl
  | cons applied l ih =>
    rw [List.foldlM_cons] at h
    obtain ⟨next, hnext, h⟩ := bind_eq_ok.mp h
    rw [ih h, recordUsage_orders hnext]

lemma placeOrder_eq_ok {priced : PricedCheckout}
    (h : placeOrder tables orderNumber userId input priced now = .ok (order, tables')) :
    order = placedOrder orderNumber userId input priced ∧
      tables'.orders = tables.orders ++ [order] := by
  unfold placeOrder at h
  by_cases hnumber : orderNumber ∈ tables.orders.map PlacedOrder.orderNumber
  · rw [if_pos hnumber] at h
    exact nomatch h
  rw [if_neg hnumber] at h
  obtain ⟨stock, -, h⟩ := bind_eq_ok.mp h
  obtain ⟨recorded, hrecorded, h⟩ := bind_eq_ok.mp h
  obtain ⟨rfl, rfl⟩ := Prod.mk.inj (Except.ok.inj h)
  exact ⟨rfl, foldlM_recordUsage_orders _ hrecorded⟩

/-- The order is the last one, and its amounts are those of the priced cart. -/
lemma createOrder_eq_ok
    (h : createOrder toUpperCase tables orderNumber userId input now = .ok (order, tables')) :
    ∃ priced after, priceCheckout toUpperCase tables userId input now = .ok (priced, after) ∧
      order = placedOrder orderNumber userId input priced ∧
      tables'.orders = tables.orders ++ [order] := by
  unfold createOrder at h
  obtain ⟨⟨priced, after⟩, hpriced, h⟩ := bind_eq_ok.mp h
  obtain ⟨horder, horders⟩ := placeOrder_eq_ok h
  obtain ⟨-, -, cache, sellers, rfl⟩ := priceCheckout_eq_ok hpriced
  exact ⟨priced, _, hpriced, horder, horders⟩

/-- The session of an order that is paid online, in the currency of the order. -/
def onlineSession (config : Razorpay.Config) (orderId : OrderId) (currency : String)
    (amount : ℚ) : SessionWorth where
  payment := ⟨orderId, .pending, currency, amount⟩
  attemptAmount := amount
  requested := if config.live then some (⌊amount * 100 + 1 / 2⌋, currency) else none

/-- Cash on delivery confirms the order at once, so that no online payment can be started. -/
def codRefusal : AppError :=
  ⟨s!"Cannot create payment for order in \"{OrderStatus.confirmed.name}\" status. " ++
    "Order must be PENDING or PAYMENT_PENDING", 400⟩

def pricedWorth (config : Razorpay.Config) (orderId : OrderId) (input : CheckoutInput)
    (priced : PricedCheckout) : Worth where
  financials := priced.financials
  items := priced.cart.items.map (orderLine priced.gst)
  codPayment := if input.isCod then some priced.financials.grandTotal else none
  currency := input.currency
  session :=
    if input.isCod then .error codRefusal
    else .ok (onlineSession config orderId input.currency priced.financials.grandTotal)

/-- No payment is open for an order that does not exist yet. -/
lemma Desk.findFirst_eq_none (desk : Desk) (pick : ℕ) :
    Table.findFirst (fun p : StoredPayment => p.orderId = desk.orders.length ∧ p.status.isOpen)
      pick desk.payments = none := by
  refine Option.eq_none_iff_forall_ne_some.mpr fun row hrow => ?_
  obtain ⟨hget, hp⟩ := Table.findFirst_eq_some hrow
  have hlt := desk.references row.val (List.mem_of_getElem? hget)
  have heq : row.val.orderId = desk.orders.length := (of_decide_eq_true hp).1
  exact hlt.ne heq

section Initialize

variable {orders : List PlacedOrder} {payments : List StoredPayment} {orderId : OrderId}

lemma initializePayment_confirmed (horder : orders[orderId]? = some order)
    (huser : order.userId = userId) (hstatus : order.status = .confirmed) :
    initializePayment config orders payments userId orderId pick = .error codRefusal := by
  unfold initializePayment
  rw [horder]
  dsimp only
  rw [if_neg (not_not.mpr huser), if_pos (by simp [hstatus]), hstatus]
  rfl

lemma initializePayment_pending (horder : orders[orderId]? = some order)
    (huser : order.userId = userId) (hstatus : order.status = .pending)
    (hcurrency : orText order.currency "INR" = order.currency)
    (hnone : Table.findFirst
      (fun p : StoredPayment => p.orderId = orderId ∧ p.status.isOpen) pick payments = none) :
    (initializePayment config orders payments userId orderId pick).map PaymentSession.worth =
      .ok (onlineSession config orderId order.currency order.financials.grandTotal) := by
  unfold initializePayment
  rw [horder]
  dsimp only
  rw [if_neg (not_not.mpr huser), if_neg (by simp [hstatus]), hnone]
  unfold createPaymentIntent PaymentSession.worth onlineSession
  rw [hcurrency]
  cases config.live with
  | true => rfl
  | false => rfl

end Initialize

variable (config pick) in
lemma initializePayment_placedOrder {orders : List PlacedOrder} {priced : PricedCheckout}
    (hcurrency : orText input.currency "INR" = input.currency)
    (horder : orders[desk.orders.length]? =
      some (placedOrder orderNumber userId input priced)) :
    (initializePayment config orders
        (desk.payments ++ (placedOrder orderNumber userId input priced).codPayment.toList.map
          fun amount => StoredPayment.mk desk.orders.length .pending
            (placedOrder orderNumber userId input priced).currency amount)
        userId desk.orders.length pick).map PaymentSession.worth =
      (pricedWorth config desk.orders.length input priced).session := by
  have huser : (placedOrder orderNumber userId input priced).userId = userId := rfl
  unfold pricedWorth
  cases hcod : input.isCod with
  | true =>
    rw [initializePayment_confirmed horder huser (by simp [placedOrder, hcod])]
    rfl
  | false =>
    have hnone : (placedOrder orderNumber userId input priced).codPayment = none := by
      simp [placedOrder, hcod]
    have hplaced : (placedOrder orderNumber userId input priced).currency = input.currency :=
      hcurrency
    rw [hnone, Option.toList_none, List.map_nil, List.append_nil,
      initializePayment_pending horder huser (by simp [placedOrder, hcod])
        (by rw [hplaced, hcurrency]) (desk.findFirst_eq_none pick), hplaced]
    rfl

/-- The worth of an order is read off the priced cart, the currency of the request and the
method. -/
lemma placeAndPay_worth {result : PlacedOrder × Except AppError PaymentSession}
    (haccepted : input.Accepted toUpperCase)
    (h : placeAndPay toUpperCase config desk orderNumber userId input now pick = .ok result) :
    ∃ priced after,
      priceCheckout toUpperCase desk.toTables userId input now = .ok (priced, after) ∧
      worth result = pricedWorth config desk.orders.length input priced := by
  unfold placeAndPay at h
  obtain ⟨⟨order, tables⟩, hcreate, h⟩ := bind_eq_ok.mp h
  obtain rfl := Except.ok.inj h
  obtain ⟨priced, after, hpriced, rfl, horders⟩ := createOrder_eq_ok hcreate
  have hcurrency := haccepted.orText_currency
  have hget : tables.orders[desk.orders.length]? =
      some (placedOrder orderNumber userId input priced) := by
    rw [horders]
    exact List.getElem?_concat_length
  have hsession := initializePayment_placedOrder config pick hcurrency hget
  refine ⟨priced, after, hpriced, ?_⟩
  unfold worth
  rw [Worth.mk.injEq]
  exact ⟨rfl, rfl, rfl, hcurrency, hsession⟩

end OneRun

/-! ## Two requests -/

section TwoRuns

/-- The requests agree on the cart, the codes, the shipping address and the method. -/
structure SameCheckout (a b : CheckoutInput) : Prop where
  cartId : a.cartId = b.cartId
  couponCode : a.couponCode = b.couponCode
  promoCode : a.promoCode = b.promoCode
  shippingAddressId : a.shippingAddressId = b.shippingAddressId
  shippingAddress : a.shippingAddress = b.shippingAddress
  isCod : a.isCod = b.isCod

variable {toUpperCase : String → String} {config : Razorpay.Config} {tables : Tables}
  {desk : Desk} {orderNumber orderNumber' : String} {userId : UserId}
  {input input' : CheckoutInput} {now : Millis} {pick pick' : ℕ}

/-- Whatever the billing address is, the shipping address has been chosen before. -/
lemma shippingAddress_of_billing {billing : Except AppError AddressSnapshot}
    {shipping : AddressSnapshot} {addresses : ResolvedAddresses}
    (h : (do let billingAddress ← billing; pure ⟨shipping, billingAddress⟩) =
      Except.ok addresses) : addresses.shippingAddress = shipping := by
  obtain ⟨billingAddress, -, h⟩ := bind_eq_ok.mp h
  obtain rfl := Except.ok.inj h
  rfl

/-- The shipping address is the saved one, if there is one, and the inline one otherwise. -/
lemma resolveAddresses_eq_ok {addresses : ResolvedAddresses}
    (h : resolveAddresses tables userId input = .ok addresses) :
    (∃ id, input.shippingAddressId = some id ∧
        savedAddress tables "shipping" userId id = .ok addresses.shippingAddress) ∨
      input.shippingAddressId = none ∧
        input.shippingAddress = some addresses.shippingAddress := by
  unfold resolveAddresses at h
  dsimp only at h
  split at h
  · rename_i id hid
    obtain ⟨shipping, hshipping, h⟩ := bind_eq_ok.mp h
    have hsame : addresses.shippingAddress = shipping := by
      split at h <;> exact shippingAddress_of_billing h
    rw [← hsame] at hshipping
    exact .inl ⟨id, hid, hshipping⟩
  · rename_i address hid haddress
    obtain ⟨shipping, hshipping, h⟩ := bind_eq_ok.mp h
    obtain rfl := Except.ok.inj hshipping
    have hsame : addresses.shippingAddress = address := by
      split at h <;> exact shippingAddress_of_billing h
    exact .inr ⟨hid, by rw [haddress, hsame]⟩
  · obtain ⟨shipping, hshipping, -⟩ := bind_eq_ok.mp h
    exact nomatch hshipping

/-- The billing address does not change the shipping address. -/
lemma resolveAddresses_shippingAddress {addresses addresses' : ResolvedAddresses}
    (hsame : SameCheckout input input')
    (h : resolveAddresses tables userId input = .ok addresses)
    (h' : resolveAddresses tables userId input' = .ok addresses') :
    addresses.shippingAddress = addresses'.shippingAddress := by
  have hcases := resolveAddresses_eq_ok h
  have hcases' := resolveAddresses_eq_ok h'
  rw [← hsame.shippingAddressId, ← hsame.shippingAddress] at hcases'
  rcases hcases with ⟨id, hid, hsaved⟩ | ⟨hnone, hinline⟩ <;>
    rcases hcases' with ⟨id', hid', hsaved'⟩ | ⟨hnone', hinline'⟩
  · obtain rfl := Option.some.inj (hid.symm.trans hid')
    exact Except.ok.inj (hsaved.symm.trans hsaved')
  · exact nomatch hid.symm.trans hnone'
  · exact nomatch hnone.symm.trans hid'
  · exact Option.some.inj (hinline.symm.trans hinline')

/-- The amounts do not depend on the other fields of the request. -/
lemma priceCheckout_agree {priced priced' : PricedCheckout} {after after' : Tables}
    (hsame : SameCheckout input input')
    (h : priceCheckout toUpperCase tables userId input now = .ok (priced, after))
    (h' : priceCheckout toUpperCase tables userId input' now = .ok (priced', after')) :
    priced.cart = priced'.cart ∧ priced.gst = priced'.gst ∧
      priced.totalDiscount = priced'.totalDiscount := by
  unfold priceCheckout at h h'
  rw [← hsame.cartId, ← hsame.couponCode] at h'
  obtain ⟨cart, hcart, h⟩ := bind_eq_ok.mp h
  obtain ⟨cart', hcart', h'⟩ := bind_eq_ok.mp h'
  obtain rfl := Except.ok.inj (hcart.symm.trans hcart')
  obtain ⟨addresses, haddresses, h⟩ := bind_eq_ok.mp h
  obtain ⟨addresses', haddresses', h'⟩ := bind_eq_ok.mp h'
  have hshipping := resolveAddresses_shippingAddress hsame haddresses haddresses'
  obtain ⟨coupon, hcoupon, h⟩ := bind_eq_ok.mp h
  obtain ⟨coupon', hcoupon', h'⟩ := bind_eq_ok.mp h'
  obtain rfl := Except.ok.inj (hcoupon.symm.trans hcoupon')
  have hpromotion : promotionInput input' cart.items = promotionInput input cart.items := by
    unfold promotionInput
    rw [hsame.promoCode]
  rw [hpromotion] at h'
  obtain ⟨seller, hseller, h⟩ := bind_eq_ok.mp h
  obtain ⟨seller', hseller', h'⟩ := bind_eq_ok.mp h'
  obtain rfl := Except.ok.inj (hseller.symm.trans hseller')
  obtain ⟨rule, hrule, h⟩ := bind_eq_ok.mp h
  obtain ⟨rule', hrule', h'⟩ := bind_eq_ok.mp h'
  obtain rfl := Except.ok.inj (hrule.symm.trans hrule')
  obtain ⟨items, hitems, h⟩ := bind_eq_ok.mp h
  obtain ⟨items', hitems', h'⟩ := bind_eq_ok.mp h'
  obtain rfl := Except.ok.inj (hitems.symm.trans hitems')
  obtain ⟨rfl, -⟩ := Prod.mk.inj (Except.ok.inj h)
  obtain ⟨rfl, -⟩ := Prod.mk.inj (Except.ok.inj h')
  refine ⟨rfl, ?_, rfl⟩
  dsimp only
  rw [hshipping]

variable (config) in
/-- Two requests that agree get the same order in the two currencies. -/
lemma pricedWorth_agree {priced priced' : PricedCheckout} (orderId : OrderId)
    (hsame : SameCheckout input input')
    (h : priced.cart = priced'.cart ∧ priced.gst = priced'.gst ∧
      priced.totalDiscount = priced'.totalDiscount) :
    pricedWorth config orderId input' priced' =
      (pricedWorth config orderId input priced).inCurrency input'.currency := by
  obtain ⟨hcart, hgst, hdiscount⟩ := h
  have hfinancials : priced.financials = priced'.financials := by
    unfold PricedCheckout.financials
    rw [hcart, hgst, hdiscount]
  unfold pricedWorth Worth.inCurrency
  rw [hfinancials, hcart, hgst, hsame.isCod]
  cases input'.isCod with
  | true => rfl
  | false =>
    simp [Except.map, onlineSession, SessionWorth.inCurrency, apply_ite (Option.map _)]

/-- **The unit of an order is the client's.**  When two accepted requests agree on the cart, the
codes, the shipping address and the method, and both get an order, then the second order is the
first one with the second currency: no amount differs, and the orders, their payments and the
requests to the gateway are the same exactly if the requests name the same currency. -/
theorem worth_agrees {result result' : PlacedOrder × Except AppError PaymentSession}
    (haccepted : input.Accepted toUpperCase) (haccepted' : input'.Accepted toUpperCase)
    (hsame : SameCheckout input input')
    (h : placeAndPay toUpperCase config desk orderNumber userId input now pick = .ok result)
    (h' : placeAndPay toUpperCase config desk orderNumber' userId input' now pick' =
      .ok result') :
    worth result' = (worth result).inCurrency input'.currency ∧
      (worth result = worth result' ↔ input.currency = input'.currency) := by
  obtain ⟨priced, after, hpriced, hworth⟩ := placeAndPay_worth haccepted h
  obtain ⟨priced', after', hpriced', hworth'⟩ := placeAndPay_worth haccepted' h'
  have hagree := pricedWorth_agree config desk.orders.length hsame
    (priceCheckout_agree hsame hpriced hpriced')
  rw [hworth, hworth']
  refine ⟨hagree, ?_⟩
  constructor
  · intro heq
    exact congrArg Worth.currency heq
  · intro hcurrency
    have hself : (pricedWorth config desk.orders.length input priced).inCurrency
        input.currency = pricedWorth config desk.orders.length input priced := by
      unfold pricedWorth Worth.inCurrency
      cases input.isCod with
      | true => rfl
      | false => simp [Except.map, onlineSession, SessionWorth.inCurrency,
          apply_ite (Option.map _)]
    rw [hagree, ← hcurrency, hself]

end TwoRuns

/-! ## Rupees and dollars -/

/-- The lamp, with no promotions and no payments yet. -/
def lampDesk : Desk where
  toTables := (lampShop none ⟨[], by decide, by decide, by simp⟩ []).toTables
  payments := []
  references := by simp

/-- The identifiers of the gateway look like `00000000`. -/
lemma zeros_start (_ : ℕ) : Razorpay.startsWith "00000000" "pay_" = false := by decide

/-- A gateway that is asked. -/
def liveGateway : Razorpay.Config where
  keyId := "key"
  keySecret := "secret"
  test := false
  hmac secret text := secret ++ text
  uuid _ := "00000000"
  uuid_start := zeros_start

/-- The request for the lamp as it comes in. -/
def lampBody (currency : Option String) : CheckoutBody where
  cartId := none
  shippingAddressId := none
  shippingAddress := lampRequest.shippingAddress
  billingAddressId := none
  billingAddress := none
  couponCode := none
  promoCode := none
  customerGstin := none
  notes := none
  paymentMethod := none
  currency := currency

theorem worth_agrees_lamp :
    ∃ result, placeAndPay id liveGateway lampDesk "ORD-1" 1 lampRequest 0 0 = .ok result ∧
      ∃ result', placeAndPay id liveGateway lampDesk "ORD-2" 1
          { lampRequest with notes := some "By the door" } 0 0 = .ok result' ∧
        worth result = worth result' := by
  have hok : (placeAndPay id liveGateway lampDesk "ORD-1" 1 lampRequest 0 0).toOption.isSome := by
    decide +kernel
  have hok' : (placeAndPay id liveGateway lampDesk "ORD-2" 1
      { lampRequest with notes := some "By the door" } 0 0).toOption.isSome := by
    decide +kernel
  have haccepted : lampRequest.Accepted id := ⟨lampBody none, by decide +kernel⟩
  have haccepted' : CheckoutInput.Accepted id
      { lampRequest with notes := some "By the door" } :=
    ⟨{ lampBody none with notes := some "By the door " }, by decide +kernel⟩
  obtain ⟨result, hresult⟩ := exists_ok_of_isSome hok
  obtain ⟨result', hresult'⟩ := exists_ok_of_isSome hok'
  exact ⟨result, hresult, result', hresult',
    (worth_agrees haccepted haccepted' ⟨rfl, rfl, rfl, rfl, rfl, rfl⟩ hresult hresult').2.mpr rfl⟩

/-- The lamp for as many dollars as it costs rupees. -/
theorem priced_in_dollars :
    ¬∀ (toUpperCase : String → String) (config : Razorpay.Config) (desk : Desk)
        (orderNumber orderNumber' : String) (userId : UserId) (input input' : CheckoutInput)
        (now : Millis) (pick pick' : ℕ)
        (result result' : PlacedOrder × Except AppError PaymentSession),
      input.Accepted toUpperCase → input'.Accepted toUpperCase → SameCheckout input input' →
      placeAndPay toUpperCase config desk orderNumber userId input now pick = .ok result →
      placeAndPay toUpperCase config desk orderNumber' userId input' now pick' = .ok result' →
      worth result = worth result' := by
  intro h
  let dollars := { lampRequest with currency := "USD" }
  have hok : (placeAndPay id liveGateway lampDesk "ORD-1" 1 lampRequest 0 0).toOption.isSome := by
    decide +kernel
  have hok' : (placeAndPay id liveGateway lampDesk "ORD-2" 1 dollars 0 0).toOption.isSome := by
    decide +kernel
  have hrupees : ∀ result ∈ (placeAndPay id liveGateway lampDesk "ORD-1" 1 lampRequest 0
      0).toOption, result.1.currency = "INR" := by decide +kernel
  have hdollars : ∀ result ∈ (placeAndPay id liveGateway lampDesk "ORD-2" 1 dollars 0
      0).toOption, result.1.currency = "USD" := by decide +kernel
  have haccepted : lampRequest.Accepted id := ⟨lampBody none, by decide +kernel⟩
  have haccepted' : dollars.Accepted id := ⟨lampBody (some "USD"), by decide +kernel⟩
  obtain ⟨result, hresult⟩ := exists_ok_of_isSome hok
  obtain ⟨result', hresult'⟩ := exists_ok_of_isSome hok'
  have hsame := h id liveGateway lampDesk "ORD-1" "ORD-2" 1 lampRequest dollars 0 0 0 result
    result' haccepted haccepted' ⟨rfl, rfl, rfl, rfl, rfl, rfl⟩ hresult hresult'
  rw [hresult] at hrupees
  rw [hresult'] at hdollars
  have hcurrency : result.1.currency = result'.1.currency := congrArg Worth.currency hsame
  rw [hrupees _ rfl, hdollars _ rfl] at hcurrency
  exact absurd hcurrency (by decide)

end MeeoServer.Storefront
