/-
# The promotion engine

`promotions/services/promotionEngine.service.ts`, and the row of
`prisma/schema/promotion/promotion.prisma` with the columns it reads.  Amounts are exact
numbers of rupees.

The columns of a row come from the database, as `Date` and `Decimal` objects, or out of the
cache, as texts.  `JsDate` and `JsDecimal` keep the two apart: a text that holds a date is not
a number when it is compared with a `Date`.
-/
import MeeoServer.Numeric.Fixed
import MeeoServer.Schema.Stock
import Mathlib.Data.List.Sort
import Mathlib.Data.PNat.Notation

namespace MeeoServer

inductive PromotionType where
  | percentage
  | fixedDiscount
  | buyXGetY
  | freeShipping
  | productDiscount
  | categoryDiscount
  | brandDiscount
  | flashSale
deriving DecidableEq, Repr

/-- The types whose discount is a percentage. -/
def PromotionType.isPercentage : PromotionType → Bool
  | .percentage | .productDiscount | .categoryDiscount | .brandDiscount | .flashSale => true
  | .fixedDiscount | .buyXGetY | .freeShipping => false

inductive PromotionStatus where
  | draft
  | scheduled
  | active
  | paused
  | expired
  | archived
deriving DecidableEq, Repr

/-- The name of a status in messages. -/
def PromotionStatus.name : PromotionStatus → String
  | .draft => "DRAFT"
  | .scheduled => "SCHEDULED"
  | .active => "ACTIVE"
  | .paused => "PAUSED"
  | .expired => "EXPIRED"
  | .archived => "ARCHIVED"

inductive PromotionStackingRule where
  | exclusive
  | stackableWithOthers
  | stackableWithCoupons
deriving DecidableEq, Repr

inductive CustomerSegment where
  | all
  | firstTimeBuyer
  | vip
  | returning
  | registered
deriving DecidableEq, Repr

/-- The value of a date column: a `Date`, or the text that JSON makes of one. -/
inductive JsDate where
  | date (time : Millis)
  | text (time : Millis)
deriving DecidableEq, Repr

/-- The number JavaScript compares; `none` is `NaN`. -/
def JsDate.toNumber : JsDate → Option Millis
  | .date time => some time
  | .text _ => none

/-- The value of a decimal column: a `Decimal`, or the text that JSON makes of one. -/
inductive JsDecimal where
  | decimal (value : ℚ)
  | text (value : ℚ)
deriving DecidableEq

/-- `Number(x)`; the text of a decimal is read back. -/
def JsDecimal.toNumber : JsDecimal → ℚ
  | .decimal value => value
  | .text value => value

abbrev PromotionId := ℕ
abbrev ProductId := ℕ
abbrev CategoryId := ℕ
abbrev BrandId := ℕ

structure Promotion where
  id : PromotionId
  name : String
  slug : String
  description : Option String
  code : Option String
  type : PromotionType
  status : PromotionStatus
  priority : ℕ
  isStackable : Bool
  stackingRule : PromotionStackingRule
  isAutomatic : Bool
  customerSegment : CustomerSegment
  firstOrderOnly : Bool
  discountValue : Option JsDecimal
  maxDiscountAmount : Option JsDecimal
  minOrderSubtotal : Option JsDecimal
  minQuantity : Option ℕ+
  buyXQuantity : Option ℕ+
  getYQuantity : Option ℕ+
  getYDiscountPercentage : Option JsDecimal
  startsAt : Option JsDate
  endsAt : Option JsDate
  timeOfDayStart : Option String
  timeOfDayEnd : Option String
  daysOfWeek : List ℕ
  totalUsageLimit : Option ℕ
  userUsageLimit : Option ℕ
  currentUsageCount : ℕ
  targetProductIds : List ProductId
  targetCategoryIds : List CategoryId
  targetBrandIds : List BrandId
  excludedProductIds : List ProductId
  excludedCategoryIds : List CategoryId
deriving DecidableEq

/-- Standard item format passed into the PromotionEngine for calculation. -/
structure PromotionCartItem where
  productId : ProductId
  variantId : Option VariantId
  categoryId : Option CategoryId
  brandId : Option BrandId
  productName : String
  unitPrice : ℚ
  quantity : ℕ
  lineTotal : ℚ
deriving DecidableEq

/-- Contextual data about the shopping cart and customer. -/
structure PromotionEvaluationContext where
  userId : Option UserId
  customerSegment : Option CustomerSegment
  orderCount : Option ℕ
  subtotal : ℚ
  shippingFee : Option ℚ
  items : List PromotionCartItem
deriving DecidableEq

/-- Breakdown of discount applied to a specific cart line item. -/
structure ItemDiscountAllocation where
  productId : ProductId
  variantId : Option VariantId
  productName : String
  originalLineTotal : ℚ
  discountAmount : ℚ
  finalLineTotal : ℚ
  appliedPromotionId : PromotionId
  appliedPromotionName : String
deriving DecidableEq

/-- Detailed report of an individual applied promotion. -/
structure AppliedPromotionDetail where
  id : PromotionId
  name : String
  slug : String
  code : Option String
  type : PromotionType
  stackingRule : PromotionStackingRule
  isAutomatic : Bool
  discountAmount : ℚ
  isFreeShipping : Bool
  freeShippingDiscount : ℚ
  matchedItemCount : ℕ
  description : Option String
deriving DecidableEq

structure IneligiblePromotion where
  id : PromotionId
  name : String
  code : Option String
  reason : String
deriving DecidableEq

/-- Output of the PromotionEngine evaluation. -/
structure PromotionCalculationResult where
  originalSubtotal : ℚ
  discountSubtotal : ℚ
  shippingFee : ℚ
  shippingDiscount : ℚ
  finalShippingFee : ℚ
  isFreeShipping : Bool
  grandTotal : ℚ
  totalDiscount : ℚ
  appliedPromotions : List AppliedPromotionDetail
  itemAllocations : List ItemDiscountAllocation
  ineligiblePromotions : List IneligiblePromotion
deriving DecidableEq

/-! ## Eligibility -/

/-- Resolves whether a cart item matches the targeting and exclusion rules. -/
def Promotion.matchesItem (promo : Promotion) (item : PromotionCartItem) : Bool :=
  if item.productId ∈ promo.excludedProductIds then false
  else if ∃ categoryId ∈ item.categoryId, categoryId ∈ promo.excludedCategoryIds then false
  else if promo.targetProductIds = [] ∧ promo.targetCategoryIds = [] ∧ promo.targetBrandIds = []
    then true
  else
    item.productId ∈ promo.targetProductIds ∨
      (∃ categoryId ∈ item.categoryId, categoryId ∈ promo.targetCategoryIds) ∨
      ∃ brandId ∈ item.brandId, brandId ∈ promo.targetBrandIds

def getMatchingItems (promo : Promotion) (items : List PromotionCartItem) :
    List PromotionCartItem :=
  items.filter promo.matchesItem

/-- The two digits of an hour or a minute. -/
def padStart (n : ℕ) : String := if n < 10 then "0" ++ toString n else toString n

/-- The time of day of `now`, in UTC. -/
def timeOfDay (now : Millis) : String :=
  padStart (now / 3600000 % 24) ++ ":" ++ padStart (now / 60000 % 60)

/-- `now.getUTCDay()`; the first of January 1970 was a Thursday. -/
def dayOfWeek (now : Millis) : ℕ := (now / 86400000 + 4) % 7

/-- The campaign has not started: `promo.startsAt && promo.startsAt > now`. -/
def Promotion.notStarted (promo : Promotion) (now : Millis) : Bool :=
  ∃ startsAt ∈ promo.startsAt, ∃ time ∈ startsAt.toNumber, now < time

/-- The campaign has ended: `promo.endsAt && promo.endsAt < now`. -/
def Promotion.ended (promo : Promotion) (now : Millis) : Bool :=
  ∃ endsAt ∈ promo.endsAt, ∃ time ∈ endsAt.toNumber, time < now

/-- What the loop keeps of an eligible promotion. -/
structure Eligibility where
  matchedItems : List PromotionCartItem
  eligibleSubtotal : ℚ
deriving DecidableEq

/-- The checks of the matching items. -/
def checkItems (promo : Promotion) (matchedItems : List PromotionCartItem) :
    Except String Eligibility :=
  let eligibleSubtotal := (matchedItems.map PromotionCartItem.lineTotal).sum
  let totalEligibleQuantity := (matchedItems.map PromotionCartItem.quantity).sum
  let minimum := (promo.minOrderSubtotal.map JsDecimal.toNumber).getD 0
  let minQuantity := (promo.minQuantity.map PNat.val).getD 0
  if matchedItems = [] then
    .error "No cart items match the promotional target criteria"
  else if promo.minOrderSubtotal.isSome ∧ eligibleSubtotal < minimum then
    .error (s!"Minimum required subtotal for this promotion is {fixedText minimum} " ++
      s!"(eligible subtotal: {fixedText eligibleSubtotal})")
  else if totalEligibleQuantity < minQuantity then
    .error (s!"Requires at least {minQuantity} qualifying items " ++
      s!"(current: {totalEligibleQuantity})")
  else
    .ok ⟨matchedItems, eligibleSubtotal⟩

/-- The checks after those of the status and the dates. -/
def checkConditions (promo : Promotion) (context : PromotionEvaluationContext) (now : Millis) :
    Except String Eligibility :=
  let timeStart := promo.timeOfDayStart.getD ""
  let timeEnd := promo.timeOfDayEnd.getD ""
  -- Flash sale time of day window
  if (timeStart ≠ "" ∧ timeEnd ≠ "") ∧
      (timeOfDay now < timeStart ∨ timeEnd < timeOfDay now) then
    .error s!"Flash sale only active between {timeStart} and {timeEnd} UTC"
  -- Days of week
  else if promo.daysOfWeek ≠ [] ∧ dayOfWeek now ∉ promo.daysOfWeek then
    .error "Promotion is not active on this day of the week"
  -- Total usage limit
  else if ∃ limit ∈ promo.totalUsageLimit, limit ≤ promo.currentUsageCount then
    .error "Promotion has reached its global redemption limit"
  -- First order requirement
  else if (promo.firstOrderOnly ∨ promo.customerSegment = .firstTimeBuyer) ∧
      0 < context.orderCount.getD 0 then
    .error "Promotion is valid for first-time orders only"
  -- Customer segment validation
  else if promo.customerSegment = .registered ∧ context.userId = none then
    .error "Login required to redeem this promotion"
  else if promo.customerSegment = .returning ∧ context.orderCount.getD 0 = 0 then
    .error "Promotion is valid for returning customers only"
  else if promo.customerSegment = .vip ∧ context.customerSegment ≠ some .vip then
    .error "Promotion is reserved for VIP members only"
  else
    -- Match cart items based on scope targeting
    checkItems promo (getMatchingItems promo context.items)

/-- Checks if a specific promotion is eligible for the current cart context. -/
def checkEligibility (promo : Promotion) (context : PromotionEvaluationContext) (now : Millis) :
    Except String Eligibility :=
  if promo.status ≠ .active then .error s!"Promotion is in {promo.status.name} status"
  else if promo.notStarted now then .error "Promotion campaign has not started yet"
  else if promo.ended now then .error "Promotion campaign has expired"
  else checkConditions promo context now

/-! ## Discounts -/

structure DiscountCalculation where
  discountAmount : ℚ
  isFreeShipping : Bool
  allocations : List ItemDiscountAllocation
deriving DecidableEq

/-- No money off, and no free delivery. -/
def DiscountCalculation.worthless (discount : DiscountCalculation) : Bool :=
  discount.discountAmount ≤ 0 && !discount.isFreeShipping

/-- `Math.min(a, b)` where `b` may be `Infinity`. -/
def minOr (a : ℚ) (b : Option ℚ) : ℚ := (b.map (min a)).getD a

/-- The share of each item in a discount that is a percentage. -/
def shareAllocation (promo : Promotion) (eligibleSubtotal discountAmount : ℚ)
    (item : PromotionCartItem) : ItemDiscountAllocation :=
  let itemShare := item.lineTotal / eligibleSubtotal * discountAmount
  { productId := item.productId
    variantId := item.variantId
    productName := item.productName
    originalLineTotal := item.lineTotal
    discountAmount := fixedTwo itemShare
    finalLineTotal := fixedTwo (max 0 (item.lineTotal - itemShare))
    appliedPromotionId := promo.id
    appliedPromotionName := promo.name }

/-- The body of the loop of BUY_X_GET_Y: the discount on one item, if it fills a group. -/
def groupAllocation (promo : Promotion) (remainingSubtotal : ℚ) (item : PromotionCartItem) :
    Option (ℚ × ItemDiscountAllocation) :=
  let buyX := (promo.buyXQuantity.map PNat.val).getD 1
  let getY := (promo.getYQuantity.map PNat.val).getD 1
  let discountPct := (promo.getYDiscountPercentage.map JsDecimal.toNumber).getD 100 / 100
  let fullGroups := item.quantity / (buyX + getY)
  if 0 < fullGroups then
    let discountedUnits := fullGroups * getY
    let itemDiscount := discountedUnits * item.unitPrice * discountPct
    let cappedItemDiscount := min (min itemDiscount item.lineTotal) remainingSubtotal
    some (cappedItemDiscount,
      { productId := item.productId
        variantId := item.variantId
        productName := item.productName
        originalLineTotal := item.lineTotal
        discountAmount := fixedTwo cappedItemDiscount
        finalLineTotal := fixedTwo (item.lineTotal - cappedItemDiscount)
        appliedPromotionId := promo.id
        appliedPromotionName := promo.name })
  else none

/-- Calculates discount amounts and line item allocations for an eligible promotion. -/
def calculateDiscount (promo : Promotion) (eligibility : Eligibility) (remainingSubtotal : ℚ) :
    DiscountCalculation :=
  let eligibleSubtotal := eligibility.eligibleSubtotal
  let discountVal := (promo.discountValue.map JsDecimal.toNumber).getD 0
  let maxDiscount := promo.maxDiscountAmount.map JsDecimal.toNumber
  match promo.type with
  | .percentage | .flashSale | .productDiscount | .categoryDiscount | .brandDiscount =>
    let rawDiscount := eligibleSubtotal * discountVal / 100
    let discountAmount := min (minOr rawDiscount maxDiscount) remainingSubtotal
    let allocations := if 0 < eligibleSubtotal then
      eligibility.matchedItems.map (shareAllocation promo eligibleSubtotal discountAmount) else []
    ⟨fixedTwo (max 0 discountAmount), false, allocations⟩
  | .fixedDiscount =>
    ⟨fixedTwo (max 0 (min (min discountVal eligibleSubtotal) remainingSubtotal)), false, []⟩
  | .freeShipping => ⟨fixedTwo (max 0 0), true, []⟩
  | .buyXGetY =>
    let groups := eligibility.matchedItems.filterMap (groupAllocation promo remainingSubtotal)
    let discountAmount := min (groups.map Prod.fst).sum remainingSubtotal
    ⟨fixedTwo (max 0 discountAmount), false, groups.map Prod.snd⟩

/-! ## Stacking -/

/-- The variables of the loop over the eligible promotions; `closed` says that it was left. -/
structure StackingLoop where
  appliedPromotions : List AppliedPromotionDetail
  itemAllocations : List ItemDiscountAllocation
  remainingSubtotal : ℚ
  runningDiscountSubtotal : ℚ
  isFreeShipping : Bool
  isExclusiveApplied : Bool
  closed : Bool
deriving DecidableEq

/-- The promotion is passed over when its turn comes: the loop has ended, an exclusive
promotion comes after others, or the promotion is worth nothing. -/
def StackingLoop.Skips (loop : StackingLoop) (promo : Promotion) (eligibility : Eligibility) :
    Prop :=
  loop.closed ∨ loop.isExclusiveApplied ∨
    (promo.stackingRule = .exclusive ∧ loop.appliedPromotions ≠ []) ∨
    (calculateDiscount promo eligibility loop.remainingSubtotal).worthless

instance (loop : StackingLoop) (promo : Promotion) (eligibility : Eligibility) :
    Decidable (loop.Skips promo eligibility) := by
  unfold StackingLoop.Skips
  infer_instance

/-- The body of the loop. -/
def applyPromotion (originalSubtotal shippingFee : ℚ) (loop : StackingLoop)
    (candidate : Promotion × Eligibility) : StackingLoop :=
  let (promo, eligibility) := candidate
  if loop.Skips promo eligibility then loop
  else
    let discount := calculateDiscount promo eligibility loop.remainingSubtotal
    let running := loop.runningDiscountSubtotal + discount.discountAmount
    { appliedPromotions := loop.appliedPromotions ++
        [{ id := promo.id
           name := promo.name
           slug := promo.slug
           code := promo.code
           type := promo.type
           stackingRule := promo.stackingRule
           isAutomatic := promo.isAutomatic
           discountAmount := fixedTwo discount.discountAmount
           isFreeShipping := discount.isFreeShipping
           freeShippingDiscount := if discount.isFreeShipping then shippingFee else 0
           matchedItemCount := eligibility.matchedItems.length
           description := promo.description }]
      itemAllocations := loop.itemAllocations ++ discount.allocations
      remainingSubtotal := max 0 (originalSubtotal - running)
      runningDiscountSubtotal := running
      isFreeShipping := loop.isFreeShipping || discount.isFreeShipping
      isExclusiveApplied := promo.stackingRule = .exclusive
      -- something has been applied, so a promotion that does not stack ends the loop
      closed := !promo.isStackable }

/-- The eligible candidates, each with what its check found. -/
def eligiblePromotions (promotions : List Promotion) (context : PromotionEvaluationContext)
    (now : Millis) : List (Promotion × Eligibility) :=
  promotions.filterMap fun promo =>
    match checkEligibility promo context now with
    | .ok eligibility => some (promo, eligibility)
    | .error _ => none

def ineligibleList (promotions : List Promotion) (context : PromotionEvaluationContext)
    (now : Millis) : List IneligiblePromotion :=
  promotions.filterMap fun promo =>
    match checkEligibility promo context now with
    | .ok _ => none
    | .error reason => some ⟨promo.id, promo.name, promo.code, reason⟩

/-- Sort by priority descending (higher integer = evaluated first). -/
def sortByPriority (l : List (Promotion × Eligibility)) : List (Promotion × Eligibility) :=
  l.insertionSort fun a b => b.1.priority ≤ a.1.priority

/-- The loop before the first promotion. -/
def StackingLoop.start (originalSubtotal : ℚ) : StackingLoop :=
  ⟨[], [], originalSubtotal, 0, false, false, false⟩

/-- Evaluates a list of candidate promotions against the cart context and returns calculated
totals. -/
def evaluate (promotions : List Promotion) (context : PromotionEvaluationContext)
    (now : Millis) : PromotionCalculationResult :=
  let originalSubtotal := fixedTwo context.subtotal
  let shippingFee := fixedTwo (context.shippingFee.getD 0)
  let loop := (sortByPriority (eligiblePromotions promotions context now)).foldl
    (applyPromotion originalSubtotal shippingFee) (.start originalSubtotal)
  let discountSubtotal := min originalSubtotal (fixedTwo loop.runningDiscountSubtotal)
  let finalShippingDiscount := if loop.isFreeShipping then shippingFee else 0
  let finalShippingFee := max 0 (fixedTwo (shippingFee - finalShippingDiscount))
  { originalSubtotal := originalSubtotal
    discountSubtotal := discountSubtotal
    shippingFee := shippingFee
    shippingDiscount := finalShippingDiscount
    finalShippingFee := finalShippingFee
    isFreeShipping := loop.isFreeShipping
    grandTotal := max 0 (fixedTwo (originalSubtotal - discountSubtotal + finalShippingFee))
    totalDiscount := fixedTwo (discountSubtotal + finalShippingDiscount)
    appliedPromotions := loop.appliedPromotions
    itemAllocations := loop.itemAllocations
    ineligiblePromotions := ineligibleList promotions context now }

/-! ## What the loop applies -/

lemma applyPromotion_of_skips (originalSubtotal shippingFee : ℚ) {loop : StackingLoop}
    {candidate : Promotion × Eligibility} (h : loop.Skips candidate.1 candidate.2) :
    applyPromotion originalSubtotal shippingFee loop candidate = loop := by
  obtain ⟨promo, eligibility⟩ := candidate
  exact if_pos h

/-- One turn of the loop applies nothing, or its promotion. -/
lemma applied_applyPromotion (originalSubtotal shippingFee : ℚ) (loop : StackingLoop)
    (candidate : Promotion × Eligibility) :
    (applyPromotion originalSubtotal shippingFee loop candidate).appliedPromotions.map
        AppliedPromotionDetail.id =
      loop.appliedPromotions.map AppliedPromotionDetail.id ++
        if loop.Skips candidate.1 candidate.2 then [] else [candidate.1.id] := by
  unfold applyPromotion
  by_cases hskips : loop.Skips candidate.1 candidate.2
  · simp [hskips]
  · simp [hskips]

/-- The loop applies some of its promotions, in their order. -/
lemma applied_foldl_eq (originalSubtotal shippingFee : ℚ) (l : List (Promotion × Eligibility))
    (loop : StackingLoop) :
    ∃ ids, ids.Sublist (l.map fun candidate => candidate.1.id) ∧
      (l.foldl (applyPromotion originalSubtotal shippingFee) loop).appliedPromotions.map
          AppliedPromotionDetail.id =
        loop.appliedPromotions.map AppliedPromotionDetail.id ++ ids := by
  induction l generalizing loop with
  | nil => exact ⟨[], List.Sublist.refl _, (List.append_nil _).symm⟩
  | cons candidate l ih =>
    obtain ⟨ids, hids, happlied⟩ := ih (applyPromotion originalSubtotal shippingFee loop candidate)
    rw [applied_applyPromotion] at happlied
    rw [List.foldl_cons, happlied, List.map_cons]
    split_ifs with hskips
    · exact ⟨ids, hids.cons _, by simp⟩
    · exact ⟨candidate.1.id :: ids, hids.cons_cons _, by simp⟩

end MeeoServer
