/-
# Categories and brands at checkout

The checkout describes the lines of a cart to the promotion engine without their category and
brand.  The engine takes a missing category for one that is neither targeted nor excluded.  So
the discount is that of the products as they are if no candidate promotion targets, or
excludes, a line by its category or brand alone.
-/
import MeeoServer.Storefront.Checkout

namespace MeeoServer

/-! ## Items without category and brand -/

/-- The item as the checkout describes it. -/
def PromotionCartItem.bare (item : PromotionCartItem) : PromotionCartItem :=
  { item with categoryId := none, brandId := none }

def Eligibility.bare (eligibility : Eligibility) : Eligibility :=
  { eligibility with matchedItems := eligibility.matchedItems.map PromotionCartItem.bare }

def PromotionEvaluationContext.bare (context : PromotionEvaluationContext) :
    PromotionEvaluationContext :=
  { context with items := context.items.map PromotionCartItem.bare }

/-- The promotion decides on the item without its category and brand as it does with them. -/
def Promotion.Indifferent (promo : Promotion) (item : PromotionCartItem) : Prop :=
  item.productId ∈ promo.excludedProductIds ∨
    if (promo.targetProductIds = [] ∧ promo.targetCategoryIds = [] ∧ promo.targetBrandIds = []) ∨
        item.productId ∈ promo.targetProductIds then
      ∀ categoryId ∈ item.categoryId, categoryId ∉ promo.excludedCategoryIds
    else
      (∃ categoryId ∈ item.categoryId, categoryId ∈ promo.excludedCategoryIds) ∨
        (∀ categoryId ∈ item.categoryId, categoryId ∉ promo.targetCategoryIds) ∧
          ∀ brandId ∈ item.brandId, brandId ∉ promo.targetBrandIds

instance (promo : Promotion) (item : PromotionCartItem) : Decidable (promo.Indifferent item) := by
  unfold Promotion.Indifferent
  infer_instance

lemma matchesItem_bare_iff (promo : Promotion) (item : PromotionCartItem) :
    promo.matchesItem item.bare = promo.matchesItem item ↔ promo.Indifferent item := by
  unfold Promotion.Indifferent Promotion.matchesItem PromotionCartItem.bare
  by_cases hproduct : item.productId ∈ promo.excludedProductIds
  · simp [hproduct]
  · by_cases hnone : promo.targetProductIds = [] ∧ promo.targetCategoryIds = [] ∧
      promo.targetBrandIds = []
    · simp [hproduct, hnone]
    · by_cases htarget : item.productId ∈ promo.targetProductIds
      · simp [hproduct, htarget]
      · have hexcluded (p : Prop) :
            ((∀ categoryId, item.categoryId = some categoryId →
                categoryId ∉ promo.excludedCategoryIds) → p) ↔
              (∃ categoryId, item.categoryId = some categoryId ∧
                categoryId ∈ promo.excludedCategoryIds) ∨ p := by
          rw [imp_iff_not_or]
          simp
        simp [hproduct, hnone, htarget, hexcluded]

section Bare

variable {promo : Promotion} {context : PromotionEvaluationContext} {now : Millis}

lemma getMatchingItems_bare {items : List PromotionCartItem}
    (h : ∀ item ∈ items, promo.matchesItem item.bare = promo.matchesItem item) :
    getMatchingItems promo (items.map PromotionCartItem.bare) =
      (getMatchingItems promo items).map PromotionCartItem.bare := by
  unfold getMatchingItems
  rw [List.filter_map]
  congr 1
  exact List.filter_congr h

lemma checkItems_bare (matchedItems : List PromotionCartItem) :
    checkItems promo (matchedItems.map PromotionCartItem.bare) =
      (checkItems promo matchedItems).map Eligibility.bare := by
  have htotals : (matchedItems.map PromotionCartItem.bare).map PromotionCartItem.lineTotal =
      matchedItems.map PromotionCartItem.lineTotal := by
    rw [List.map_map]
    rfl
  have hquantities : (matchedItems.map PromotionCartItem.bare).map PromotionCartItem.quantity =
      matchedItems.map PromotionCartItem.quantity := by
    rw [List.map_map]
    rfl
  unfold checkItems
  simp only [htotals, hquantities, List.map_eq_nil_iff, apply_ite (Except.map Eligibility.bare)]
  rfl

lemma checkConditions_bare
    (h : ∀ item ∈ context.items, promo.matchesItem item.bare = promo.matchesItem item) :
    checkConditions promo context.bare now =
      (checkConditions promo context now).map Eligibility.bare := by
  have hitems : getMatchingItems promo context.bare.items =
      (getMatchingItems promo context.items).map PromotionCartItem.bare :=
    getMatchingItems_bare h
  unfold checkConditions
  simp only [hitems, checkItems_bare, apply_ite (Except.map Eligibility.bare)]
  rfl

lemma checkEligibility_bare
    (h : ∀ item ∈ context.items, promo.matchesItem item.bare = promo.matchesItem item) :
    checkEligibility promo context.bare now =
      (checkEligibility promo context now).map Eligibility.bare := by
  unfold checkEligibility
  rw [checkConditions_bare h]
  split_ifs <;> rfl

lemma calculateDiscount_bare (eligibility : Eligibility) (remainingSubtotal : ℚ) :
    calculateDiscount promo eligibility.bare remainingSubtotal =
      calculateDiscount promo eligibility remainingSubtotal := by
  have hshares (eligibleSubtotal discountAmount : ℚ) :
      (eligibility.matchedItems.map PromotionCartItem.bare).map
          (shareAllocation promo eligibleSubtotal discountAmount) =
        eligibility.matchedItems.map (shareAllocation promo eligibleSubtotal discountAmount) := by
    rw [List.map_map]
    rfl
  have hgroups : (eligibility.matchedItems.map PromotionCartItem.bare).filterMap
      (groupAllocation promo remainingSubtotal) =
        eligibility.matchedItems.filterMap (groupAllocation promo remainingSubtotal) := by
    rw [List.filterMap_map]
    rfl
  unfold calculateDiscount Eligibility.bare
  simp only [hshares, hgroups]

lemma applyPromotion_bare (originalSubtotal shippingFee : ℚ) (loop : StackingLoop)
    (candidate : Promotion × Eligibility) :
    applyPromotion originalSubtotal shippingFee loop (candidate.map id Eligibility.bare) =
      applyPromotion originalSubtotal shippingFee loop candidate := by
  obtain ⟨promo, eligibility⟩ := candidate
  have hskips : loop.Skips promo eligibility.bare = loop.Skips promo eligibility := by
    unfold StackingLoop.Skips
    rw [calculateDiscount_bare]
  have hcount : eligibility.bare.matchedItems.length = eligibility.matchedItems.length :=
    List.length_map _
  unfold applyPromotion
  simp only [Prod.map_apply, id_eq, hskips, calculateDiscount_bare, hcount]

/-- Where every promotion is indifferent to the missing fields, the result is that of the items
as they are. -/
lemma evaluate_bare {promotions : List Promotion}
    (h : ∀ promo ∈ promotions, ∀ item ∈ context.items,
      promo.matchesItem item.bare = promo.matchesItem item) :
    evaluate promotions context.bare now = evaluate promotions context now := by
  have heligible : eligiblePromotions promotions context.bare now =
      (eligiblePromotions promotions context now).map (Prod.map id Eligibility.bare) := by
    unfold eligiblePromotions
    rw [List.map_filterMap]
    refine List.filterMap_congr fun promo hpromo => ?_
    rw [checkEligibility_bare (h promo hpromo)]
    cases checkEligibility promo context now <;> rfl
  have hineligible : ineligibleList promotions context.bare now =
      ineligibleList promotions context now := by
    unfold ineligibleList
    refine List.filterMap_congr fun promo hpromo => ?_
    rw [checkEligibility_bare (h promo hpromo)]
    cases checkEligibility promo context now <;> rfl
  have hsort (l : List (Promotion × Eligibility)) :
      sortByPriority (l.map (Prod.map id Eligibility.bare)) =
        (sortByPriority l).map (Prod.map id Eligibility.bare) :=
    (List.map_insertionSort _ (fun a b : Promotion × Eligibility => b.1.priority ≤ a.1.priority)
      (Prod.map id Eligibility.bare) l fun _ _ _ _ => Iff.rfl).symm
  unfold evaluate
  simp only [heligible, hineligible, hsort, List.foldl_map, applyPromotion_bare]
  rfl

end Bare

namespace Storefront

/-! ## Checkouts -/

section Checkouts

variable (toUpperCase : String → String) (tables : Tables)

/-- An item with the category and the brand of its product. -/
def actualItem (i : ValidatedCartItem) : PreviewItem :=
  { describedItem i with
    categoryId := (tables.product i.productId).bind Product.categoryId
    brandId := (tables.product i.productId).bind Product.brandId }

def actualInput (input : CheckoutInput) (items : List ValidatedCartItem) :
    PreviewPromotionInput :=
  ⟨input.promoCode, some 0, items.map (actualItem tables)⟩

/-- The promotions that a checkout considers. -/
def candidates (input : CheckoutInput) : List Promotion :=
  (resolveCandidatePromotions toUpperCase tables.promotions tables.promotionCache
    input.promoCode).1

lemma previewContext_described (input : CheckoutInput) (items : List ValidatedCartItem)
    (userId : Option UserId) :
    previewContext tables (promotionInput input items) userId =
      (previewContext tables (actualInput tables input items) userId).bare := by
  unfold previewContext promotionInput actualInput PromotionEvaluationContext.bare
  simp only [List.map_map]
  rfl

variable {toUpperCase tables}

/-- **A checkout is charged the discount of its products as they are, with each promotion
applied to its members, exactly if no candidate decides on a line by its category or brand
alone.** -/
theorem checkout_targets_iff {userId : UserId} {input : CheckoutInput} {now : Millis}
    {priced : PricedCheckout} {after : Tables}
    (h : priceCheckout toUpperCase tables userId input now = .ok (priced, after)) :
    (priced.promotions.discountSubtotal = (previewCart toUpperCase tables
        (actualInput tables input priced.cart.items) (some userId) now).1.discountSubtotal ∧
      ∀ promo ∈ candidates toUpperCase tables input, ∀ i ∈ priced.cart.items,
        promo.matchesItem (describedItem i).toCartItem =
          promo.matchesItem (actualItem tables i).toCartItem) ↔
      ∀ promo ∈ candidates toUpperCase tables input, ∀ i ∈ priced.cart.items,
        promo.Indifferent (actualItem tables i).toCartItem := by
  obtain ⟨-, hpromotions, -⟩ := priceCheckout_eq_ok h
  have hiff (promo : Promotion) (i : ValidatedCartItem) :
      promo.matchesItem (describedItem i).toCartItem =
          promo.matchesItem (actualItem tables i).toCartItem ↔
        promo.Indifferent (actualItem tables i).toCartItem :=
    matchesItem_bare_iff promo (actualItem tables i).toCartItem
  constructor
  · rintro ⟨-, hmatch⟩ promo hpromo i hi
    exact (hiff promo i).mp (hmatch promo hpromo i hi)
  · intro hindifferent
    refine ⟨?_, fun promo hpromo i hi => (hiff promo i).mpr (hindifferent promo hpromo i hi)⟩
    rw [hpromotions]
    unfold previewCart
    dsimp only
    rw [previewContext_described, evaluate_bare]
    · rfl
    · intro promo hpromo item hitem
      obtain ⟨preview, hpreview, rfl⟩ := List.mem_map.mp hitem
      obtain ⟨i, hi, rfl⟩ := List.mem_map.mp hpreview
      exact (hiff promo i).mpr (hindifferent promo hpromo i hi)

end Checkouts

/-! ## An excluded category -/

/-- Ten per cent off everything but category 7. -/
def seasonSale : PromotionTable :=
  .single { futureSale with startsAt := none, excludedCategoryIds := [7] } (by decide +kernel)

theorem checkout_targets_other_category :
    ∃ priced after, priceCheckout id (lampShop (some 8) seasonSale []).toTables 1 lampRequest 0 =
        .ok (priced, after) ∧
      priced.promotions.discountSubtotal =
        (previewCart id (lampShop (some 8) seasonSale []).toTables
          (actualInput (lampShop (some 8) seasonSale []).toTables lampRequest priced.cart.items)
          (some 1) 0).1.discountSubtotal := by
  have hpriced : (priceCheckout id (lampShop (some 8) seasonSale []).toTables 1 lampRequest
      0).toOption.isSome := by decide +kernel
  have hindifferent : ∀ result ∈ (priceCheckout id (lampShop (some 8) seasonSale []).toTables 1
      lampRequest 0).toOption,
        ∀ promo ∈ candidates id (lampShop (some 8) seasonSale []).toTables lampRequest,
        ∀ i ∈ result.1.cart.items, promo.Indifferent
          (actualItem (lampShop (some 8) seasonSale []).toTables i).toCartItem := by
    decide +kernel
  obtain ⟨⟨priced, after⟩, hok⟩ := exists_ok_of_isSome hpriced
  rw [hok] at hindifferent
  exact ⟨priced, after, hok, ((checkout_targets_iff hok).mpr (hindifferent _ rfl)).1⟩

/-- The lamp is excluded, and discounted at the checkout. -/
theorem excluded_category_discounted :
    ¬∀ (toUpperCase : String → String) (tables : Tables) (userId : UserId)
        (input : CheckoutInput) (now : Millis) (priced : PricedCheckout) (after : Tables),
      priceCheckout toUpperCase tables userId input now = .ok (priced, after) →
      priced.promotions.discountSubtotal = (previewCart toUpperCase tables
        (actualInput tables input priced.cart.items) (some userId) now).1.discountSubtotal := by
  intro h
  let tables := (lampShop (some 7) seasonSale []).toTables
  have hpriced : (priceCheckout id tables 1 lampRequest 0).toOption.isSome := by decide +kernel
  have hcharged : ∀ result ∈ (priceCheckout id tables 1 lampRequest 0).toOption,
      result.1.promotions.discountSubtotal = 100 := by decide +kernel
  have hactual : ∀ result ∈ (priceCheckout id tables 1 lampRequest 0).toOption,
      (previewCart id tables (actualInput tables lampRequest result.1.cart.items) (some 1)
        0).1.discountSubtotal = 0 := by decide +kernel
  obtain ⟨⟨priced, after⟩, hok⟩ := exists_ok_of_isSome hpriced
  rw [hok] at hcharged hactual
  have hsame := h id tables 1 lampRequest 0 priced after hok
  rw [hcharged _ rfl, hactual _ rfl] at hsame
  norm_num at hsame

end Storefront

end MeeoServer
