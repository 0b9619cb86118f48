/-
# The preview of a coupon

`validateAndCalculate` of `coupons/services/couponCalculation.service.ts`, and the checkout's own
copy of it, `validateAndCalculateDiscount` of `orders/services/orderCoupon.service.ts`, for users
and for guests.  The two make the same checks in the same order, in other words.
-/
import MeeoServer.Process.Results
import MeeoServer.Storefront.Discounts

namespace MeeoServer.Coupons

open Storefront

/-- A row of `coupon_usages`; the one of a guest names no user. -/
structure UsageRow where
  couponId : CouponId
  userId : Option UserId
deriving DecidableEq

variable (toUpperCase : String → String) (coupons : List Coupon) (usages : List UsageRow)

/-- `_count: { select: { usages: true } }`. -/
def usageCount (couponId : CouponId) : ℕ := usages.countP fun u => u.couponId = couponId

def userUsagesCount (couponId : CouponId) (userId : UserId) : ℕ :=
  usages.countP fun u => u.couponId = couponId && u.userId = some userId

/-- `couponCode.trim().toUpperCase()`. -/
def normalizeCode (couponCode : String) : String :=
  toUpperCase (String.ofList (JsString.trim couponCode.toList))

/-! ## The preview -/

structure CouponCalculationResult where
  isValid : Bool
  id : CouponId
  code : String
  type : CouponType
  value : ℚ
  minimumOrderAmount : Option ℚ
  maximumDiscountAmount : Option ℚ
  originalSubtotal : ℚ
  discountAmount : ℚ
  newSubtotal : ℚ
  isFreeShipping : Bool
  message : String
deriving DecidableEq

/-- The discount of the preview, before it is rounded. -/
def calculatedDiscount (coupon : Coupon) (subtotal : ℚ) : ℚ :=
  match coupon.type with
  | .percentage =>
    let discountAmount := subtotal * coupon.value / 100
    match coupon.maximumDiscountAmount with
    | some maxDiscount => if maxDiscount < discountAmount then maxDiscount else discountAmount
    | none => discountAmount
  | .fixedAmount => min coupon.value subtotal
  | .freeShipping => 0

/-- What the preview answers when every check has passed. -/
def calculationResult (normalizedCode : String) (coupon : Coupon) (subtotal : ℚ) :
    CouponCalculationResult :=
  let finalDiscount := fixedTwo (calculatedDiscount coupon subtotal)
  { isValid := true
    id := coupon.id
    code := coupon.code
    type := coupon.type
    value := coupon.value
    minimumOrderAmount := coupon.minimumOrderAmount
    maximumDiscountAmount := coupon.maximumDiscountAmount
    originalSubtotal := fixedTwo subtotal
    discountAmount := finalDiscount
    newSubtotal := fixedTwo (max 0 (subtotal - finalDiscount))
    isFreeShipping := coupon.type = .freeShipping
    message :=
      if coupon.type = .freeShipping then
        s!"Coupon \"{normalizedCode}\" applied: Free shipping granted!"
      else s!"Coupon \"{normalizedCode}\" applied: Saved ${fixedText finalDiscount}!" }

/-- Validates a coupon code and calculates discount amount and free shipping benefits. -/
def validateAndCalculate (couponCode : String) (subtotal : ℚ) (userId : Option UserId)
    (now : Millis) : Except AppError CouponCalculationResult :=
  let normalizedCode := normalizeCode toUpperCase couponCode
  match coupons.find? fun c => c.code = normalizedCode with
  | none => .error ⟨s!"Coupon code \"{normalizedCode}\" not found", 404⟩
  | some coupon =>
    let usageLimit := coupon.usageLimit.getD 0
    let usageLimitPerUser := coupon.usageLimitPerUser.getD 0
    let minOrder := coupon.minimumOrderAmount.getD 0
    if coupon.status ≠ .active then
      .error ⟨s!"Coupon code \"{normalizedCode}\" is currently inactive or expired", 400⟩
    else if ∃ startsAt ∈ coupon.startsAt, now < startsAt then
      .error ⟨s!"Coupon code \"{normalizedCode}\" is not active yet " ++
        s!"(starts at {toISOString (coupon.startsAt.getD 0)})", 400⟩
    else if ∃ expiresAt ∈ coupon.expiresAt, expiresAt < now then
      .error ⟨s!"Coupon code \"{normalizedCode}\" expired on " ++
        toISOString (coupon.expiresAt.getD 0), 400⟩
    else if usageLimit ≠ 0 ∧ usageLimit ≤ usageCount usages coupon.id then
      .error ⟨s!"Coupon code \"{normalizedCode}\" has reached its maximum global usage limit", 400⟩
    else if coupon.minimumOrderAmount.isSome ∧ subtotal < minOrder then
      .error ⟨s!"Coupon \"{normalizedCode}\" requires a minimum order subtotal of " ++
        s!"${fixedText minOrder} (current subtotal: ${fixedText subtotal})", 400⟩
    else if usageLimitPerUser ≠ 0 ∧
        ∃ user ∈ userId, usageLimitPerUser ≤ userUsagesCount usages coupon.id user then
      .error ⟨s!"You have reached the maximum allowed usage limit ({usageLimitPerUser}) for " ++
        s!"coupon \"{normalizedCode}\"", 400⟩
    else .ok (calculationResult normalizedCode coupon subtotal)

/-! ## The checkout -/

/-- Validates a coupon code against business constraints and calculates discount amount. -/
def validateAndCalculateDiscount (couponCode : Option String) (subtotal : ℚ)
    (userId : Option UserId) (now : Millis) : Except AppError CouponDiscountResult :=
  let couponCode := couponCode.getD ""
  if couponCode = "" then .ok ⟨none, 0, false⟩
  else
    let normalizedCode := normalizeCode toUpperCase couponCode
    match coupons.find? fun c => c.code = normalizedCode with
    | none => .error ⟨s!"Coupon code \"{normalizedCode}\" is invalid or inactive", 400⟩
    | some coupon =>
      let usageLimit := coupon.usageLimit.getD 0
      let usageLimitPerUser := coupon.usageLimitPerUser.getD 0
      let minimum := coupon.minimumOrderAmount.getD 0
      if coupon.status ≠ .active then
        .error ⟨s!"Coupon code \"{normalizedCode}\" is invalid or inactive", 400⟩
      else if ∃ startsAt ∈ coupon.startsAt, now < startsAt then
        .error ⟨s!"Coupon code \"{normalizedCode}\" is not yet active", 400⟩
      else if ∃ expiresAt ∈ coupon.expiresAt, expiresAt < now then
        .error ⟨s!"Coupon code \"{normalizedCode}\" has expired", 400⟩
      else if usageLimit ≠ 0 ∧ usageLimit ≤ usageCount usages coupon.id then
        .error ⟨s!"Coupon code \"{normalizedCode}\" has reached its maximum total usage limit",
          400⟩
      else if coupon.minimumOrderAmount.isSome ∧ subtotal < minimum then
        .error ⟨s!"Coupon code \"{normalizedCode}\" requires a minimum order subtotal of " ++
          s!"${fixedText minimum} (current subtotal: ${fixedText subtotal})", 400⟩
      else if usageLimitPerUser ≠ 0 ∧
          ∃ user ∈ userId, usageLimitPerUser ≤ userUsagesCount usages coupon.id user then
        .error ⟨s!"You have already used coupon code \"{normalizedCode}\" the maximum " ++
          s!"allowed number of times ({usageLimitPerUser})", 400⟩
      else
        .ok ⟨some coupon, fixedTwo (couponDiscount coupon subtotal), coupon.type = .freeShipping⟩

/-! ## They agree -/

lemma calculatedDiscount_eq (coupon : Coupon) (subtotal : ℚ) :
    calculatedDiscount coupon subtotal = couponDiscount coupon subtotal := by
  unfold calculatedDiscount couponDiscount
  cases coupon.type with
  | percentage =>
    cases coupon.maximumDiscountAmount with
    | none => rfl
    | some maxDiscount =>
      show (if maxDiscount < subtotal * coupon.value / 100 then maxDiscount
        else subtotal * coupon.value / 100) = min (subtotal * coupon.value / 100) maxDiscount
      split_ifs with h
      · exact (min_eq_right h.le).symm
      · exact (min_eq_left (not_lt.mp h)).symm
  | fixedAmount => rfl
  | freeShipping => rfl

/-- **The preview of a coupon agrees with the checkout**: both accept it or both reject it, and
they give the same discount and the same shipping. -/
theorem preview_agrees {couponCode : String} (hcode : couponCode ≠ "") (subtotal : ℚ)
    (userId : Option UserId) (now : Millis) :
    (validateAndCalculate toUpperCase coupons usages couponCode subtotal userId now).toOption.map
        (fun r => (r.discountAmount, r.isFreeShipping)) =
      (validateAndCalculateDiscount toUpperCase coupons usages (some couponCode) subtotal userId
        now).toOption.map fun r => (r.discountAmount, r.isFreeShipping) := by
  unfold validateAndCalculate validateAndCalculateDiscount
  simp only [Option.getD_some, if_neg hcode]
  cases coupons.find? fun c => c.code = normalizeCode toUpperCase couponCode with
  | none => rfl
  | some coupon =>
    iterate 6 refine map_toOption_check ?_
    simp only [Except.toOption, Option.map_some, calculationResult, calculatedDiscount_eq]

/-- Ten per cent off, for orders from 100 on. -/
def saveTen : Coupon := ⟨1, "SAVE", .percentage, 10, some 100, some 50, none, some 1, none, none,
  .active⟩

theorem preview_agrees_saveTen : "SAVE" ≠ "" ∧
    (validateAndCalculate (fun s => s) [saveTen] [] "SAVE" 1000 (some 1) 0).toOption.map
        (fun r => (r.discountAmount, r.isFreeShipping)) =
      (validateAndCalculateDiscount (fun s => s) [saveTen] [] (some "SAVE") 1000 (some 1)
        0).toOption.map fun r => (r.discountAmount, r.isFreeShipping) :=
  have hcode : "SAVE" ≠ "" := by decide
  ⟨hcode, preview_agrees _ _ _ hcode 1000 (some 1) 0⟩

/-- For a user, the checkout's copy is the one that `createOrder` calls. -/
lemma validateAndCalculateDiscount_user (tables : Tables) (couponCode : Option String)
    (subtotal : ℚ) (userId : UserId) (now : Millis) :
    Storefront.validateAndCalculateDiscount toUpperCase tables couponCode subtotal userId now =
      validateAndCalculateDiscount toUpperCase tables.coupons
        (tables.couponUsages.map fun u => ⟨u.couponId, some u.userId⟩) couponCode subtotal
        (some userId) now := by
  have husages : ∀ couponId, usageCount
      (tables.couponUsages.map fun u => ⟨u.couponId, some u.userId⟩) couponId =
        tables.couponUsages.countP fun u => u.couponId = couponId := by
    intro couponId
    rw [usageCount, List.countP_map]
    rfl
  have huser : ∀ couponId, userUsagesCount
      (tables.couponUsages.map fun u => ⟨u.couponId, some u.userId⟩) couponId userId =
        tables.couponUsages.countP fun u => u.couponId = couponId && u.userId = userId := by
    intro couponId
    rw [userUsagesCount, List.countP_map]
    refine List.countP_congr fun u _ => ?_
    simp
  unfold Storefront.validateAndCalculateDiscount validateAndCalculateDiscount
  by_cases hcode : couponCode.getD "" = ""
  · rw [if_pos hcode, if_pos hcode]
  · rw [if_neg hcode, if_neg hcode]
    unfold normalizeCode
    dsimp only
    cases tables.coupons.find? _ with
    | none => rfl
    | some coupon =>
      dsimp only
      iterate 3 refine if_congr Iff.rfl rfl ?_
      refine if_congr (by rw [husages]) rfl (if_congr Iff.rfl rfl (if_congr ?_ rfl rfl))
      simp [huser]

end MeeoServer.Coupons
