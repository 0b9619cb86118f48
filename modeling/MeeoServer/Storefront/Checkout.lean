/-
# The preview of a checkout, and the checkout

`validateCheckout` and `createOrder` of `orders/services/orderCreation.service.ts`, for a
request without an idempotency key.  Both begin with the same statements, which work out the
amounts; `createOrder` goes on to write the order, the reservations and the usages in one
transaction.
-/
import MeeoServer.Process.Results
import MeeoServer.Storefront.Discounts

namespace MeeoServer.Storefront

variable (toUpperCase : String → String) (tables : Tables)

/-! ## Pricing -/

/-- The authoritative default platform seller. -/
def platformSeller : SellerTaxProfile where
  legalBusinessName := "Meeo E-Commerce Private Limited"
  tradeName := "Meeo Store"
  gstin := "27AAACM1234F1Z5"
  stateCode := "27"
  isActive := true
  isDefaultPlatformSeller := true

/-- Resolves the primary seller tax profile for first-party platform orders, and seeds it if it
does not exist; `gstin` is unique. -/
def getDefaultSellerProfile : Except AppError (SellerTaxProfile × List SellerTaxProfile) :=
  match tables.sellers.find? fun s => s.isDefaultPlatformSeller && s.isActive with
  | some seller => .ok (seller, tables.sellers)
  | none =>
    if platformSeller.gstin ∈ tables.sellers.map SellerTaxProfile.gstin then .error default
    else .ok (platformSeller, tables.sellers ++ [platformSeller])

def DEFAULT_STANDARD_SHIPPING_FEE : ℚ := 10

/-- An item as a checkout describes it to the promotion engine. -/
def describedItem (i : ValidatedCartItem) : PreviewItem where
  productId := i.productId
  variantId := some i.variantId
  categoryId := none
  brandId := none
  productName := i.productName
  unitPrice := i.unitPrice
  quantity := i.quantity

def promotionInput (input : CheckoutInput) (items : List ValidatedCartItem) :
    PreviewPromotionInput :=
  ⟨input.promoCode, some 0, items.map describedItem⟩

/-- The line that the tax engine is given for an item. -/
def gstLine (i : ValidatedCartItem) : Except AppError GstLineItemInput :=
  if i.tax.hsnCode = "" then
    .error ⟨s!"Product \"{orText i.productName (toString i.productId)}\" is missing an HSN code",
      422⟩
  else
    .ok
      { id := toString i.cartItemId
        productId := toString i.productId
        productName := i.productName
        sku := some i.sku
        hsnCode := i.tax.hsnCode
        quantity := i.quantity
        unitPrice := i.unitPrice
        taxRate := i.tax.combinedRate
        cgstRate := some i.tax.cgstRate
        sgstRate := some i.tax.sgstRate
        igstRate := some i.tax.igstRate
        cessRate := some i.tax.cessRate
        taxTreatment := some i.tax.taxTreatment
        gstRuleId := i.tax.gstRuleId.map toString
        isInclusive := none }

/-- What the two functions have worked out before they differ. -/
structure PricedCheckout where
  cart : ValidatedCart
  addresses : ResolvedAddresses
  coupon : CouponDiscountResult
  promotions : PromotionCalculationResult
  totalDiscount : ℚ
  seller : SellerTaxProfile
  gst : GstCalculationResult

/-- The common beginning: cart, addresses, coupon, promotions, taxes; and the tables with the
rows and the cache entries that it may have added. -/
def priceCheckout (userId : UserId) (input : CheckoutInput) (now : Millis) :
    Except AppError (PricedCheckout × Tables) := do
  let cart ← validateCartAndItems tables userId input.cartId now
  let addresses ← resolveAddresses tables userId input
  let coupon ← validateAndCalculateDiscount toUpperCase tables input.couponCode cart.subtotal
    userId now
  let (promoResult, promotionCache) := previewCart toUpperCase tables
    (promotionInput input cart.items) (some userId) now
  let totalDiscount :=
    fixedTwo (min cart.subtotal (coupon.discountAmount + promoResult.discountSubtotal))
  let isFreeShipping := coupon.isFreeShipping || promoResult.isFreeShipping
  let (defaultSeller, sellers) ← getDefaultSellerProfile tables
  let shippingRule ← resolveApplicableRule tables "9968" now
  let items ← cart.items.mapM gstLine
  let gstResult := calculateOrderGst
    { sellerState := defaultSeller.stateCode
      customerState := addresses.shippingAddress.state
      items := items
      totalDiscount := some totalDiscount
      shippingFee := some (tables.standardShippingFee.getD DEFAULT_STANDARD_SHIPPING_FEE)
      isFreeShipping := some isFreeShipping
      shippingGstRate := shippingRule.map GstRule.igstRate }
  pure (⟨cart, addresses, coupon, promoResult, totalDiscount, defaultSeller, gstResult⟩,
    { tables with promotionCache := promotionCache, sellers := sellers })

variable {toUpperCase tables} in
lemma priceCheckout_eq_ok {userId : UserId} {input : CheckoutInput} {now : Millis}
    {priced : PricedCheckout} {tables' : Tables}
    (h : priceCheckout toUpperCase tables userId input now = .ok (priced, tables')) :
    validateCartAndItems tables userId input.cartId now = .ok priced.cart ∧
      priced.promotions = (previewCart toUpperCase tables
        (promotionInput input priced.cart.items) (some userId) now).1 ∧
      ∃ cache sellers,
        tables' = { tables with promotionCache := cache, sellers := sellers } := by
  unfold priceCheckout at h
  obtain ⟨cart, hcart, h⟩ := bind_eq_ok.mp h
  obtain ⟨addresses, -, h⟩ := bind_eq_ok.mp h
  obtain ⟨coupon, -, h⟩ := bind_eq_ok.mp h
  obtain ⟨⟨defaultSeller, sellers⟩, -, h⟩ := bind_eq_ok.mp h
  obtain ⟨shippingRule, -, h⟩ := bind_eq_ok.mp h
  obtain ⟨items, -, h⟩ := bind_eq_ok.mp h
  obtain ⟨rfl, rfl⟩ := Prod.mk.inj (Except.ok.inj h)
  exact ⟨hcart, rfl, _, sellers, rfl⟩

def PricedCheckout.financials (priced : PricedCheckout) : Financials where
  subtotal := priced.cart.subtotal
  discountTotal := priced.totalDiscount
  taxTotal := priced.gst.totals.totalTaxAmount
  shippingTotal := priced.gst.totals.shippingTotal
  grandTotal := max 0 priced.gst.totals.grandTotal

/-! ## The preview -/

structure CheckoutSummary where
  itemCount : ℕ
  totalUnits : ℕ
  financials : Financials
  currency : String
  sellerGstin : String
  sellerTradeName : String
  customerGstin : Option String
  placeOfSupply : PlaceOfSupply
  taxBreakdown : GstTotals
  shippingTax : ℚ
deriving DecidableEq

structure CheckoutPreview where
  isValid : Bool
  summary : CheckoutSummary
  /-- Code, type and discount of the coupon. -/
  coupon : Option (String × CouponType × ℚ)
  promotions : List AppliedPromotionDetail
  addresses : ResolvedAddresses
  items : List ValidatedCartItem
deriving DecidableEq

/-- Previews checkout breakdown and validation without modifying the database or reserving
stock. -/
def validateCheckout (userId : UserId) (input : CheckoutInput) (now : Millis) :
    Except AppError (CheckoutPreview × Tables) := do
  let (priced, tables) ← priceCheckout toUpperCase tables userId input now
  pure
    ({ isValid := true
       summary :=
         { itemCount := priced.cart.items.length
           totalUnits := (priced.cart.items.map ValidatedCartItem.quantity).sum
           financials := priced.financials
           currency := orText input.currency "INR"
           sellerGstin := priced.seller.gstin
           sellerTradeName := priced.seller.tradeName
           customerGstin := input.customerGstin
           placeOfSupply := priced.gst.placeOfSupply
           taxBreakdown := priced.gst.totals
           shippingTax := priced.gst.shipping.totalTaxAmount }
       coupon := priced.coupon.coupon.map fun c => (c.code, c.type, priced.coupon.discountAmount)
       promotions := priced.promotions.appliedPromotions
       addresses := priced.addresses
       items := priced.cart.items }, tables)

/-! ## The order -/

/-- Atomically validates stock and creates checkout inventory reservations within the
transaction. -/
def reserveItemsForOrder (orderId : OrderId) (expiresAt : Millis) (stock : Stock)
    (item : OrderItem) : Except AppError Stock :=
  match stock.inventory item.variantId with
  | none => .error ⟨s!"Inventory record not found for \"{item.productName}\" ({item.sku})", 404⟩
  | some inventory =>
    if inventory.availableQuantity < item.quantity then
      .error ⟨s!"Insufficient stock for \"{item.productName}\" ({item.sku}). " ++
        s!"Requested: {item.quantity}, Available: {inventory.availableQuantity}", 400⟩
    else
      match stock.hold item.variantId item.quantity (some orderId) expiresAt with
      | some stock => .ok stock
      | none => .error default

def ValidatedCartItem.toOrderItem (i : ValidatedCartItem) : OrderItem :=
  ⟨i.variantId, i.quantity, i.productName, i.sku⟩

/-- The order line of an item, with the amounts of its tax line. -/
def orderLine (gst : GstCalculationResult) (i : ValidatedCartItem) : OrderLine :=
  let gstItem := gst.items.find? fun g => g.id = toString i.cartItemId
  { productId := i.productId
    variantId := i.variantId
    productName := i.productName
    sku := i.sku
    unitPrice := i.unitPrice
    quantity := i.quantity
    discountTotal := (gstItem.map CalculatedGstLineItem.allocatedDiscount).getD 0
    taxTotal := (gstItem.map CalculatedGstLineItem.totalTaxAmount).getD i.taxTotal
    total := (gstItem.map CalculatedGstLineItem.finalLineTotal).getD i.lineTotal }

/-- The rows of the order and of what is created together with it. -/
def placedOrder (orderNumber : String) (userId : UserId) (input : CheckoutInput)
    (priced : PricedCheckout) : PlacedOrder where
  orderNumber := orderNumber
  userId := userId
  cartId := priced.cart.cartId
  status := if input.isCod then .confirmed else .pending
  currency := orText input.currency "INR"
  financials := priced.financials
  notes := input.notes
  items := priced.cart.items.map (orderLine priced.gst)
  address := priced.addresses.shippingAddress
  codPayment := if input.isCod then some priced.financials.grandTotal else none

/-- The reservations, which a cash-on-delivery order commits at once. -/
def reserveStock (orderId : OrderId) (isCod : Bool) (now : Millis) (stock : Stock)
    (items : List OrderItem) : Except AppError Stock := do
  let stock ← items.foldlM (reserveItemsForOrder orderId (now + minutes 30)) stock
  if isCod then
    match stock.sellItems orderId items with
    | some stock => pure stock
    | none => throw default
  else pure stock

/-- `couponUsage.create`, if a coupon was applied. -/
def recordCouponUsage (userId : UserId) (orderId : OrderId) (coupon : CouponDiscountResult)
    (usages : List CouponUsage) : List CouponUsage :=
  match coupon.coupon with
  | some c => usages ++ [⟨c.id, userId, orderId, coupon.discountAmount⟩]
  | none => usages

/-- `cartItem.deleteMany({ where: { cartId } })`. -/
def clearCart (cartId : CartId) (carts : List Cart) : List Cart :=
  carts.map fun c => if c.id = cartId then { c with items := [] } else c

/-- The atomic database transaction; `orderNumber` is unique. -/
def placeOrder (orderNumber : String) (userId : UserId) (input : CheckoutInput)
    (priced : PricedCheckout) (now : Millis) : Except AppError (PlacedOrder × Tables) :=
  if orderNumber ∈ tables.orders.map PlacedOrder.orderNumber then .error default
  else do
    let orderId := tables.orders.length
    let order := placedOrder orderNumber userId input priced
    let stock ← reserveStock orderId input.isCod now tables.stock
      (priced.cart.items.map ValidatedCartItem.toOrderItem)
    let tables := { tables with
      orders := tables.orders ++ [order]
      stock := stock
      couponUsages := recordCouponUsage userId orderId priced.coupon tables.couponUsages }
    let tables ← priced.promotions.appliedPromotions.foldlM (recordUsage userId orderId) tables
    let carts := if input.isCod then clearCart priced.cart.cartId tables.carts else tables.carts
    pure (order, { tables with carts := carts })

/-- Transactionally creates an order, snapshots items and address, reserves stock, applies
coupons, and clears cart.  `orderNumber` is what `generateOrderNumber` has drawn. -/
def createOrder (orderNumber : String) (userId : UserId) (input : CheckoutInput)
    (now : Millis) : Except AppError (PlacedOrder × Tables) := do
  let (priced, tables) ← priceCheckout toUpperCase tables userId input now
  placeOrder tables orderNumber userId input priced now

/-! ## A small shop -/

/-- A shop with one product, which user 1 has in the cart. -/
def lampShop (categoryId : Option CategoryId) (promotions : PromotionTable)
    (usages : List PromotionUsage) : Store where
  products := [⟨1, categoryId, none, "Lamp", .active, 12, none, none⟩]
  variants := [⟨1, 1, "LAMP", 1000, none, .active⟩]
  stock := ⟨fun _ => true, fun _ => some ⟨5, 0, none⟩, [], []⟩
  carts := [⟨1, some 1, [⟨1, 1, 1⟩]⟩]
  addresses := []
  coupons := []
  couponUsages := []
  promotions := promotions
  promotionUsages := usages
  promotionCache := .empty
  gstRules := []
  sellers := [platformSeller]
  standardShippingFee := some 10
  orders := []
  quantities_pos := by decide
  cartItems_nodup := by decide
  cached_nodup := by simp [PromotionCache.empty]

/-- A request with an inline address. -/
def lampRequest : CheckoutInput where
  cartId := none
  shippingAddressId := none
  shippingAddress := some
    ⟨"A", none, "Road 1", none, "Mumbai", "Maharashtra", "400001", "India", none, none⟩
  billingAddressId := none
  billingAddress := none
  couponCode := none
  promoCode := none
  customerGstin := none
  notes := none
  isCod := false
  currency := "INR"

end MeeoServer.Storefront
