/-
# Checkouts at the same time

`createOrder` of `orders/services/orderCreation.service.ts` as a program: the looks of a
checkout at the cart, the addresses, the coupon and the promotions come one after another, and
other checkouts may be committed between any two of them.  Inside its transaction the checkout
looks again, at the stock and at the limits of the promotions, and then all its writes become
visible at once.  A batch carries what the checkout has counted, beside what it writes.

A request with an `Idempotency-Key` is answered from the key, or is served as one without; so on
these tables it is a request that fails at its first statement, or one without a key.
-/
import MeeoServer.Inventory.Effects
import MeeoServer.Process.Interleaving
import MeeoServer.Schema.Commit
import MeeoServer.Storefront.Checkout

namespace MeeoServer.Storefront.Checkouts

open Proc

/-- The tables and the time. -/
structure Shop extends Tables where
  clock : Millis

/-! ## What a checkout writes -/

/-- A validated coupon, with the usages that the validation has counted. -/
structure ValidatedCoupon where
  result : CouponDiscountResult
  /-- `_count.usages` of the coupon. -/
  usages : ℕ
  userUsagesCount : ℕ

/-- A promotion that `recordUsage` has checked, with what it has read. -/
structure CheckedUsage where
  applied : AppliedPromotionDetail
  currentUsageCount : ℕ
  userCount : ℕ

/-- The transaction of a checkout. -/
structure Placement where
  order : PlacedOrder
  items : List OrderItem
  isCod : Bool
  expiresAt : Millis
  coupon : ValidatedCoupon
  promotions : List CheckedUsage

inductive Commit where
  | setActiveAutomaticPromotions (promotions : List Promotion)
  | setPromotionByCode (key : String) (promo : Promotion)
  | createSeller (seller : SellerTaxProfile)
  | placeOrder (placement : Placement)

/-- The increment and the row of a usage; there is no promotion to update if it is gone. -/
def writeUsage (userId : UserId) (orderId : OrderId) (tables : Tables) (usage : CheckedUsage) :
    Option Tables :=
  (tables.promotion usage.applied.id).map fun promo =>
    { tables with
      promotions := incrementUsageCount tables.promotions promo.id
      promotionUsages := tables.promotionUsages ++
        [⟨promo.id, userId, orderId, usage.applied.discountAmount⟩] }

/-- The writes of the transaction, which become visible together; `orderNumber` is unique. -/
def Placement.write (p : Placement) (tables : Tables) : Option Tables :=
  if p.order.orderNumber ∈ tables.orders.map PlacedOrder.orderNumber then none
  else do
    let orderId := tables.orders.length
    let stock ← tables.stock.checkout orderId p.expiresAt p.isCod p.items
    let recorded ← p.promotions.foldlM (writeUsage p.order.userId orderId) tables
    some { recorded with
      orders := tables.orders ++ [p.order]
      stock := stock
      couponUsages :=
        recordCouponUsage p.order.userId orderId p.coupon.result tables.couponUsages
      carts := if p.isCod then clearCart p.order.cartId tables.carts else tables.carts }

def Commit.apply : Commit → Shop → Option Shop
  | .setActiveAutomaticPromotions promotions, db =>
    some { db with
      promotionCache := db.promotionCache.setActiveAutomaticPromotions promotions }
  | .setPromotionByCode key promo, db =>
    some { db with promotionCache := db.promotionCache.setPromotionByCode key promo }
  | .createSeller seller, db =>
    if seller.gstin ∈ db.sellers.map SellerTaxProfile.gstin then none
    else some { db with sellers := db.sellers ++ [seller] }
  | .placeOrder placement, db =>
    (placement.write db.toTables).map fun tables => { db with toTables := tables }

abbrev Service := Proc Shop Commit AppError

/-! ## The program -/

section Programs

variable (toUpperCase : String → String)

/-- One look, and what is worked out from it. -/
def look {α : Type} (f : Shop → Except AppError α) : Service α := do
  let db ← Proc.read
  Proc.done (f db)

/-- The coupon, with the counts its limits were compared with. -/
def countedCoupon (db : Shop) (couponCode : Option String) (subtotal : ℚ) (userId : UserId) :
    Except AppError ValidatedCoupon := do
  let result ← validateAndCalculateDiscount toUpperCase db.toTables couponCode subtotal userId
    db.clock
  let couponId := (result.coupon.map Coupon.id).getD 0
  pure
    { result := result
      usages := db.couponUsages.countP fun u => u.couponId = couponId
      userUsagesCount := db.couponUsages.countP fun u =>
        u.couponId = couponId && u.userId = userId }

/-- A look at the cache; an unreachable cache is an empty one. -/
def cached {α : Type} (f : PromotionCache → Option α) : Service (Option α) :=
  Proc.tryCatch
    (do
      let db ← Proc.read
      pure (f db.promotionCache))
    fun _ => pure none

def resolveAutomatic : Service (List Promotion) := do
  match ← cached PromotionCache.automatic with
  | some autoPromos => pure autoPromos
  | none =>
    let db ← Proc.read
    Proc.attempt (.setActiveAutomaticPromotions db.promotions.automatic)
    pure db.promotions.automatic

def resolveCode (normalizedCode : String) : Service (Option Promotion) := do
  let key := toUpperCase normalizedCode
  match ← cached fun cache => cache.byCode key with
  | some codePromo => pure (some codePromo)
  | none =>
    let db ← Proc.read
    match db.promotions.findByCode normalizedCode with
    | some codePromo =>
      Proc.attempt (.setPromotionByCode key codePromo)
      pure (some codePromo)
    | none => pure none

/-- Resolves all active automatic promotions plus any requested promo code. -/
def resolveCandidatePromotions (promoCode : Option String) : Service (List Promotion) := do
  let autoPromos ← resolveAutomatic
  let code := promoCode.getD ""
  if code = "" then pure autoPromos
  else
    let codePromo ← resolveCode toUpperCase
      (toUpperCase (String.ofList (JsString.trim code.toList)))
    pure (pushCandidate autoPromos codePromo)

def previewCart (input : PreviewPromotionInput) (userId : UserId) :
    Service PromotionCalculationResult := do
  let candidatePromotions ← resolveCandidatePromotions toUpperCase input.promoCode
  look fun db =>
    pure (evaluate candidatePromotions (previewContext db.toTables input (some userId)) db.clock)

def getDefaultSellerProfile : Service SellerTaxProfile := do
  let db ← Proc.read
  match db.sellers.find? fun s => s.isDefaultPlatformSeller && s.isActive with
  | some seller => pure seller
  | none =>
    let _ ← Proc.commit (.createSeller platformSeller)
    pure platformSeller

/-- The tax breakdown of the cart. -/
def calculateGst (cart : ValidatedCart) (addresses : ResolvedAddresses) (totalDiscount : ℚ)
    (isFreeShipping : Bool) (seller : SellerTaxProfile) (db : Shop) :
    Except AppError GstCalculationResult := do
  let shippingRule ← resolveApplicableRule db.toTables "9968" db.clock
  let items ← cart.items.mapM gstLine
  pure (calculateOrderGst
    { sellerState := seller.stateCode
      customerState := addresses.shippingAddress.state
      items := items
      totalDiscount := some totalDiscount
      shippingFee := some (db.standardShippingFee.getD DEFAULT_STANDARD_SHIPPING_FEE)
      isFreeShipping := some isFreeShipping
      shippingGstRate := shippingRule.map GstRule.igstRate })

/-- Steps 2 to 5 of `createOrder`. -/
def priceCheckout (userId : UserId) (input : CheckoutInput) :
    Service (PricedCheckout × ValidatedCoupon) := do
  let cart ← look fun db => validateCartAndItems db.toTables userId input.cartId db.clock
  let addresses ← look fun db => resolveAddresses db.toTables userId input
  let coupon ← look fun db =>
    countedCoupon toUpperCase db input.couponCode cart.subtotal userId
  let promotions ← previewCart toUpperCase (promotionInput input cart.items) userId
  let totalDiscount :=
    fixedTwo (min cart.subtotal (coupon.result.discountAmount + promotions.discountSubtotal))
  let isFreeShipping := coupon.result.isFreeShipping || promotions.isFreeShipping
  let seller ← getDefaultSellerProfile
  let gst ← look (calculateGst cart addresses totalDiscount isFreeShipping seller)
  pure (⟨cart, addresses, coupon.result, promotions, totalDiscount, seller, gst⟩, coupon)

/-! ### Inside the transaction -/

/-- The reads of `reserveItemsForOrder`; the callback has moved the units it `held` already. -/
def checkStock (held : List OrderItem) : List OrderItem → Service Unit
  | [] => pure ()
  | item :: rest => do
    let db ← Proc.read
    match db.stock.inventory item.variantId with
    | none =>
      throw ⟨s!"Inventory record not found for \"{item.productName}\" ({item.sku})", 404⟩
    | some inventory =>
      let availableQuantity := inventory.availableQuantity - itemUnits held item.variantId
      if availableQuantity < item.quantity then
        throw ⟨s!"Insufficient stock for \"{item.productName}\" ({item.sku}). " ++
          s!"Requested: {item.quantity}, Available: {availableQuantity}", 400⟩
      else
        checkStock (held ++ [item]) rest

/-- The reads of `recordUsage`; the callback has written the usages it `recorded` already. -/
def recordUsage (userId : UserId) (recorded : List CheckedUsage)
    (applied : AppliedPromotionDetail) : Service CheckedUsage := do
  let own := recorded.countP fun u => u.applied.id = applied.id
  let db ← Proc.read
  match db.promotion applied.id with
  | none => throw ⟨"Promotion not found during usage recording", 404⟩
  | some promo =>
    let currentUsageCount := promo.currentUsageCount + own
    let userUsageLimit := promo.userUsageLimit.getD 0
    if ∃ limit ∈ promo.totalUsageLimit, limit ≤ currentUsageCount then
      throw ⟨"Promotion has reached its global usage limit", 400⟩
    else if userUsageLimit = 0 then
      pure ⟨applied, currentUsageCount, 0⟩
    else
      let db ← Proc.read
      let userCount := db.redemptions promo.id userId + own
      if userUsageLimit ≤ userCount then
        throw ⟨s!"User limit reached ({userUsageLimit}) for this promotion", 400⟩
      else
        pure ⟨applied, currentUsageCount, userCount⟩

def recordUsages (userId : UserId) (recorded : List CheckedUsage) :
    List AppliedPromotionDetail → Service (List CheckedUsage)
  | [] => pure recorded
  | applied :: rest => do
    let checked ← recordUsage userId recorded applied
    recordUsages userId (recorded ++ [checked]) rest

/-- Transactionally creates an order, snapshots items and address, reserves stock, applies
coupons, and clears cart.  `orderNumber` is what `generateOrderNumber` has drawn. -/
def createOrder (orderNumber : String) (userId : UserId) (input : CheckoutInput) :
    Service PlacedOrder := do
  let (priced, coupon) ← priceCheckout toUpperCase userId input
  let order := placedOrder orderNumber userId input priced
  let items := priced.cart.items.map ValidatedCartItem.toOrderItem
  let tx ← Proc.read
  checkStock [] items
  let promotions ← recordUsages userId [] priced.promotions.appliedPromotions
  let _ ← Proc.commit (.placeOrder
    ⟨order, items, input.isCod, tx.clock + minutes 30, coupon, promotions⟩)
  pure order

end Programs

/-! ## The machine -/

inductive Call where
  | createOrder (orderNumber : String) (userId : UserId) (input : CheckoutInput)

/-- Time passes, and what the cache holds expires. -/
inductive Environ where
  | elapse (time : Millis)
  | expireAutomatic
  | expireCode (key : String)

def Environ.apply : Environ → Shop → Shop
  | .elapse time, db => { db with clock := db.clock + time }
  | .expireAutomatic, db =>
    { db with promotionCache := { db.promotionCache with automatic := none } }
  | .expireCode key, db =>
    { db with
      promotionCache :=
        { db.promotionCache with
          byCode := Function.update db.promotionCache.byCode key none } }

def checkouts (toUpperCase : String → String) : Machine Shop Commit AppError Call Environ where
  apply := Commit.apply
  proc
    | .createOrder orderNumber userId input => do
      let _ ← createOrder toUpperCase orderNumber userId input
      pure ()
  environ := Environ.apply

end MeeoServer.Storefront.Checkouts
