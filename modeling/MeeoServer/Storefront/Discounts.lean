/-
# Coupons and promotions at checkout

`orders/services/orderCoupon.service.ts`, `previewCart` of
`promotions/services/promotion.service.ts` and `recordUsage` of
`promotions/services/promotionUsage.service.ts`.
-/
import MeeoServer.Storefront.Validation

namespace MeeoServer.Storefront

variable (toUpperCase : String → String) (tables : Tables)

/-! ## Coupons -/

structure CouponDiscountResult where
  coupon : Option Coupon
  discountAmount : ℚ
  isFreeShipping : Bool
deriving DecidableEq

/-- The discount of a coupon on a subtotal. -/
def couponDiscount (coupon : Coupon) (subtotal : ℚ) : ℚ :=
  match coupon.type with
  | .percentage => minOr (subtotal * coupon.value / 100) coupon.maximumDiscountAmount
  | .fixedAmount => min coupon.value subtotal
  | .freeShipping => 0

/-- Validates a coupon code against business constraints and calculates discount amount. -/
def validateAndCalculateDiscount (couponCode : Option String) (subtotal : ℚ) (userId : UserId)
    (now : Millis) : Except AppError CouponDiscountResult :=
  let couponCode := couponCode.getD ""
  if couponCode = "" then .ok ⟨none, 0, false⟩
  else
    let normalizedCode := toUpperCase (String.ofList (JsString.trim couponCode.toList))
    match tables.coupons.find? fun c => c.code = normalizedCode with
    | none => .error ⟨s!"Coupon code \"{normalizedCode}\" is invalid or inactive", 400⟩
    | some coupon =>
      let usages := tables.couponUsages.countP fun u => u.couponId = coupon.id
      let userUsagesCount := tables.couponUsages.countP fun u =>
        u.couponId = coupon.id && u.userId = userId
      let usageLimit := coupon.usageLimit.getD 0
      let usageLimitPerUser := coupon.usageLimitPerUser.getD 0
      let minimum := coupon.minimumOrderAmount.getD 0
      if coupon.status ≠ .active then
        .error ⟨s!"Coupon code \"{normalizedCode}\" is invalid or inactive", 400⟩
      else if ∃ startsAt ∈ coupon.startsAt, now < startsAt then
        .error ⟨s!"Coupon code \"{normalizedCode}\" is not yet active", 400⟩
      else if ∃ expiresAt ∈ coupon.expiresAt, expiresAt < now then
        .error ⟨s!"Coupon code \"{normalizedCode}\" has expired", 400⟩
      else if usageLimit ≠ 0 ∧ usageLimit ≤ usages then
        .error ⟨s!"Coupon code \"{normalizedCode}\" has reached its maximum total usage limit",
          400⟩
      else if coupon.minimumOrderAmount.isSome ∧ subtotal < minimum then
        .error ⟨s!"Coupon code \"{normalizedCode}\" requires a minimum order subtotal of " ++
          s!"${fixedText minimum} (current subtotal: ${fixedText subtotal})", 400⟩
      else if usageLimitPerUser ≠ 0 ∧ usageLimitPerUser ≤ userUsagesCount then
        .error ⟨s!"You have already used coupon code \"{normalizedCode}\" the maximum " ++
          s!"allowed number of times ({usageLimitPerUser})", 400⟩
      else
        .ok ⟨some coupon, fixedTwo (couponDiscount coupon subtotal), coupon.type = .freeShipping⟩

/-! ## Promotions -/

/-- An item of a request for a preview. -/
structure PreviewItem where
  productId : ProductId
  variantId : Option VariantId
  categoryId : Option CategoryId
  brandId : Option BrandId
  productName : String
  unitPrice : ℚ
  quantity : ℕ
deriving DecidableEq

structure PreviewPromotionInput where
  promoCode : Option String
  shippingFee : Option ℚ
  items : List PreviewItem
deriving DecidableEq

def PreviewItem.toCartItem (i : PreviewItem) : PromotionCartItem where
  productId := i.productId
  variantId := i.variantId
  categoryId := i.categoryId
  brandId := i.brandId
  productName := i.productName
  unitPrice := i.unitPrice
  quantity := i.quantity
  lineTotal := i.unitPrice * i.quantity

/-- The orders of a user that have not been cancelled. -/
def orderCount (userId : Option UserId) : ℕ :=
  match userId with
  | some userId => tables.orders.countP fun o => o.userId = userId && o.status ≠ .cancelled
  | none => 0

def customerSegment (userId : Option UserId) : CustomerSegment :=
  match userId with
  | some _ => if orderCount tables userId = 0 then .firstTimeBuyer else .returning
  | none => .all

/-- What the engine is told of a cart and a customer. -/
def previewContext (input : PreviewPromotionInput) (userId : Option UserId) :
    PromotionEvaluationContext where
  userId := userId
  customerSegment := some (customerSegment tables userId)
  orderCount := some (orderCount tables userId)
  subtotal := (input.items.map fun i => i.unitPrice * (i.quantity : ℚ)).sum
  shippingFee := input.shippingFee
  items := input.items.map PreviewItem.toCartItem

/-- Customer preview & server-side calculation of applicable promotions for cart items; and
the cache afterwards. -/
def previewCart (input : PreviewPromotionInput) (userId : Option UserId) (now : Millis) :
    PromotionCalculationResult × PromotionCache :=
  let (candidatePromotions, cache) := resolveCandidatePromotions toUpperCase tables.promotions
    tables.promotionCache input.promoCode
  (evaluate candidatePromotions (previewContext tables input userId) now, cache)

/-! ## Usages -/

/-- `update({ data: { currentUsageCount: { increment: 1 } } })`. -/
def incrementUsage (id : PromotionId) (promo : Promotion) : Promotion :=
  if promo.id = id then { promo with currentUsageCount := promo.currentUsageCount + 1 }
  else promo

lemma incrementUsage_id (id : PromotionId) (promo : Promotion) :
    (incrementUsage id promo).id = promo.id := by
  unfold incrementUsage
  split_ifs <;> rfl

lemma incrementUsage_code (id : PromotionId) (promo : Promotion) :
    (incrementUsage id promo).code = promo.code := by
  unfold incrementUsage
  split_ifs <;> rfl

lemma incrementUsage_fromDatabase (id : PromotionId) {promo : Promotion}
    (h : promo.FromDatabase) : (incrementUsage id promo).FromDatabase := by
  unfold incrementUsage
  split_ifs
  · exact h
  · exact h

def incrementUsageCount (table : PromotionTable) (id : PromotionId) : PromotionTable where
  rows := table.rows.map (incrementUsage id)
  ids_nodup := by
    have hids : (table.rows.map (incrementUsage id)).map Promotion.id =
        table.rows.map Promotion.id := by
      rw [List.map_map]
      exact List.map_congr_left fun promo _ => incrementUsage_id id promo
    rw [hids]
    exact table.ids_nodup
  codes_nodup := by
    have hcodes : (table.rows.map (incrementUsage id)).filterMap Promotion.code =
        table.rows.filterMap Promotion.code := by
      rw [List.filterMap_map]
      exact List.filterMap_congr fun promo _ => incrementUsage_code id promo
    rw [hcodes]
    exact table.codes_nodup
  fromDatabase := by
    intro promo hpromo
    obtain ⟨row, hrow, rfl⟩ := List.mem_map.mp hpromo
    exact incrementUsage_fromDatabase id (table.fromDatabase row hrow)

def Tables.promotion (id : PromotionId) : Option Promotion :=
  tables.promotions.rows.find? fun promo => promo.id = id

/-- Records a promotion usage and increments global usage counter in a transaction. -/
def recordUsage (userId : UserId) (orderId : OrderId) (tables : Tables)
    (applied : AppliedPromotionDetail) : Except AppError Tables :=
  match tables.promotion applied.id with
  | none => .error ⟨"Promotion not found during usage recording", 404⟩
  | some promo =>
    let userUsageLimit := promo.userUsageLimit.getD 0
    if ∃ limit ∈ promo.totalUsageLimit, limit ≤ promo.currentUsageCount then
      .error ⟨"Promotion has reached its global usage limit", 400⟩
    else if userUsageLimit ≠ 0 ∧ userUsageLimit ≤ tables.redemptions promo.id userId then
      .error ⟨s!"User limit reached ({userUsageLimit}) for this promotion", 400⟩
    else
      .ok { tables with
        promotions := incrementUsageCount tables.promotions promo.id
        promotionUsages := tables.promotionUsages ++
          [⟨promo.id, userId, orderId, applied.discountAmount⟩] }

end MeeoServer.Storefront
