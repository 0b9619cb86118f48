/-
# The totals of the promotion engine

The loop over the promotions keeps what is left of the subtotal, and no discount is larger than
that, also after it was rounded: what is left is an amount of money, and rounding does not go
beyond one.  So the discounts add up to at most the subtotal.

The result of the loop is read off its turns: the applied promotions with the state of the loop
before each of them.
-/
import MeeoServer.Promotions.Engine
import MeeoServer.Table.Turns
import Mathlib.Tactic.NormNum

namespace MeeoServer

/-! ## Discounts -/

/-- A discount is an amount of money, and not more than what is left. -/
structure DiscountCalculation.Within (discount : DiscountCalculation) (remainingSubtotal : ℚ) :
    Prop where
  amount_mem : discount.discountAmount ∈ hundredths
  amount_nonneg : 0 ≤ discount.discountAmount
  amount_le : discount.discountAmount ≤ remainingSubtotal

/-- The discount before it is rounded; no money is off with free delivery. -/
def exactDiscount (promo : Promotion) (eligibility : Eligibility) (remainingSubtotal : ℚ) : ℚ :=
  let discountVal := (promo.discountValue.map JsDecimal.toNumber).getD 0
  let maxDiscount := promo.maxDiscountAmount.map JsDecimal.toNumber
  let eligibleSubtotal := eligibility.eligibleSubtotal
  match promo.type with
  | .percentage | .flashSale | .productDiscount | .categoryDiscount | .brandDiscount =>
    min (minOr (eligibleSubtotal * discountVal / 100) maxDiscount) remainingSubtotal
  | .fixedDiscount => min (min discountVal eligibleSubtotal) remainingSubtotal
  | .freeShipping => 0
  | .buyXGetY =>
    let groups := eligibility.matchedItems.filterMap (groupAllocation promo remainingSubtotal)
    min (groups.map Prod.fst).sum remainingSubtotal

section Discount

variable (promo : Promotion) (eligibility : Eligibility) {remainingSubtotal : ℚ}

lemma discountAmount_eq (remainingSubtotal : ℚ) :
    (calculateDiscount promo eligibility remainingSubtotal).discountAmount =
      fixedTwo (max 0 (exactDiscount promo eligibility remainingSubtotal)) := by
  unfold calculateDiscount exactDiscount
  cases promo.type <;> rfl

lemma exactDiscount_le (hnonneg : 0 ≤ remainingSubtotal) :
    exactDiscount promo eligibility remainingSubtotal ≤ remainingSubtotal := by
  unfold exactDiscount
  cases promo.type with
  | freeShipping => exact hnonneg
  | _ => exact min_le_right _ _

lemma calculateDiscount_within (hmem : remainingSubtotal ∈ hundredths)
    (hnonneg : 0 ≤ remainingSubtotal) :
    (calculateDiscount promo eligibility remainingSubtotal).Within remainingSubtotal := by
  have hamount := discountAmount_eq promo eligibility remainingSubtotal
  refine ⟨?_, ?_, ?_⟩
  · rw [hamount]
    exact fixedTwo_mem _
  · rw [hamount]
    exact fixedTwo_nonneg (le_max_left _ _)
  · rw [hamount]
    exact fixedTwo_le (le_max_left _ _) hmem
      (max_le hnonneg (exactDiscount_le promo eligibility hnonneg))

end Discount

/-! ## Turns -/

/-- A turn in which a promotion is applied: the loop before it, and the candidate. -/
abbrev PromotionTurn := StackingLoop × Promotion × Eligibility

namespace PromotionTurn

def loop (t : PromotionTurn) : StackingLoop := t.1

def promo (t : PromotionTurn) : Promotion := t.2.1

def eligibility (t : PromotionTurn) : Eligibility := t.2.2

def discount (t : PromotionTurn) : DiscountCalculation :=
  calculateDiscount t.promo t.eligibility t.loop.remainingSubtotal

/-- The report of the applied promotion. -/
def detail (shippingFee : ℚ) (t : PromotionTurn) : AppliedPromotionDetail where
  id := t.promo.id
  name := t.promo.name
  slug := t.promo.slug
  code := t.promo.code
  type := t.promo.type
  stackingRule := t.promo.stackingRule
  isAutomatic := t.promo.isAutomatic
  discountAmount := fixedTwo t.discount.discountAmount
  isFreeShipping := t.discount.isFreeShipping
  freeShippingDiscount := if t.discount.isFreeShipping then shippingFee else 0
  matchedItemCount := t.eligibility.matchedItems.length
  description := t.promo.description

end PromotionTurn

section Turns

variable (promotions : List Promotion) (context : PromotionEvaluationContext) (now : Millis)

namespace PromotionEvaluationContext

def originalSubtotal : ℚ := fixedTwo context.subtotal

/-- The shipping fee, with two decimals. -/
def fee : ℚ := fixedTwo (context.shippingFee.getD 0)

lemma originalSubtotal_mem : context.originalSubtotal ∈ hundredths := fixedTwo_mem _

lemma fee_mem : context.fee ∈ hundredths := fixedTwo_mem _

end PromotionEvaluationContext

/-- The turns of the loop of `evaluate`. -/
def turns : List PromotionTurn :=
  Table.turns (applyPromotion context.originalSubtotal context.fee)
    (fun loop candidate => loop.Skips candidate.1 candidate.2) (.start context.originalSubtotal)
    (sortByPriority (eligiblePromotions promotions context now))

/-- The loop of `evaluate` at its end. -/
def lastLoop : StackingLoop :=
  (sortByPriority (eligiblePromotions promotions context now)).foldl
    (applyPromotion context.originalSubtotal context.fee) (.start context.originalSubtotal)

variable {originalSubtotal shippingFee : ℚ}

lemma applyPromotion_skips (loop : StackingLoop) (candidate : Promotion × Eligibility)
    (h : loop.Skips candidate.1 candidate.2) :
    applyPromotion originalSubtotal shippingFee loop candidate = loop :=
  applyPromotion_of_skips originalSubtotal shippingFee h

/-- What a turn changes. -/
lemma applyPromotion_of_not_skips (t : PromotionTurn) (h : ¬t.1.Skips t.2.1 t.2.2) :
    applyPromotion originalSubtotal shippingFee t.1 t.2 =
      { appliedPromotions := t.loop.appliedPromotions ++ [t.detail shippingFee]
        itemAllocations := t.loop.itemAllocations ++ t.discount.allocations
        remainingSubtotal :=
          max 0 (originalSubtotal - (t.loop.runningDiscountSubtotal + t.discount.discountAmount))
        runningDiscountSubtotal := t.loop.runningDiscountSubtotal + t.discount.discountAmount
        isFreeShipping := t.loop.isFreeShipping || t.discount.isFreeShipping
        isExclusiveApplied := t.promo.stackingRule = .exclusive
        closed := !t.promo.isStackable } :=
  if_neg h

lemma appliedPromotions_foldl (loop : StackingLoop) (l : List (Promotion × Eligibility)) :
    (l.foldl (applyPromotion originalSubtotal shippingFee) loop).appliedPromotions =
      loop.appliedPromotions ++ (Table.turns (applyPromotion originalSubtotal shippingFee)
        (fun loop candidate => loop.Skips candidate.1 candidate.2) loop l).map
          (PromotionTurn.detail shippingFee) := by
  rw [List.map_eq_flatMap]
  refine Table.collect_foldl StackingLoop.appliedPromotions
    (fun t : PromotionTurn => [t.detail shippingFee]) fun loop candidate => ?_
  by_cases h : loop.Skips candidate.1 candidate.2
  · rw [applyPromotion_skips loop candidate h, if_pos h, List.append_nil]
  · rw [if_neg h]
    exact congrArg StackingLoop.appliedPromotions
      (applyPromotion_of_not_skips (loop, candidate) h)

lemma evaluate_appliedPromotions : (evaluate promotions context now).appliedPromotions =
    (turns promotions context now).map (PromotionTurn.detail context.fee) :=
  appliedPromotions_foldl _ _

lemma evaluate_itemAllocations : (evaluate promotions context now).itemAllocations =
    (turns promotions context now).flatMap fun t => t.discount.allocations := by
  refine Table.collect_foldl StackingLoop.itemAllocations
    (fun t : PromotionTurn => t.discount.allocations) fun loop candidate => ?_
  by_cases h : loop.Skips candidate.1 candidate.2
  · rw [applyPromotion_skips loop candidate h, if_pos h, List.append_nil]
  · rw [if_neg h]
    exact congrArg StackingLoop.itemAllocations
      (applyPromotion_of_not_skips (loop, candidate) h)

lemma lastLoop_running : (lastLoop promotions context now).runningDiscountSubtotal =
    ((turns promotions context now).map fun t => t.discount.discountAmount).sum := by
  refine (Table.sum_foldl StackingLoop.runningDiscountSubtotal
    (fun t : PromotionTurn => t.discount.discountAmount)
    fun loop candidate => ?_).trans (zero_add _)
  by_cases h : loop.Skips candidate.1 candidate.2
  · rw [applyPromotion_skips loop candidate h, if_pos h, add_zero]
  · rw [if_neg h]
    exact congrArg StackingLoop.runningDiscountSubtotal
      (applyPromotion_of_not_skips (loop, candidate) h)

lemma turn_not_skips {t : PromotionTurn} (ht : t ∈ turns promotions context now) :
    ¬t.loop.Skips t.promo t.eligibility := by
  have h := Table.not_skips_of_mem_turns ht
  exact h

end Turns

/-! ## The loop -/

/-- The running discount is an amount of money, at most the subtotal, and the rest is left. -/
structure StackingLoop.Balanced (originalSubtotal : ℚ) (loop : StackingLoop) : Prop where
  running_mem : loop.runningDiscountSubtotal ∈ hundredths
  running_nonneg : 0 ≤ loop.runningDiscountSubtotal
  running_le : loop.runningDiscountSubtotal ≤ originalSubtotal
  remaining_eq : loop.remainingSubtotal = originalSubtotal - loop.runningDiscountSubtotal

section Balanced

variable {originalSubtotal shippingFee : ℚ} {loop : StackingLoop}

lemma StackingLoop.start_balanced (hnonneg : 0 ≤ originalSubtotal) :
    (StackingLoop.start originalSubtotal).Balanced originalSubtotal :=
  ⟨zero_mem _, le_rfl, hnonneg, (sub_zero _).symm⟩

namespace StackingLoop.Balanced

lemma remaining_nonneg (h : loop.Balanced originalSubtotal) : 0 ≤ loop.remainingSubtotal := by
  rw [h.remaining_eq]
  exact sub_nonneg.mpr h.running_le

lemma discount_within (h : loop.Balanced originalSubtotal) (hmem : originalSubtotal ∈ hundredths)
    (promo : Promotion) (eligibility : Eligibility) :
    (calculateDiscount promo eligibility loop.remainingSubtotal).Within loop.remainingSubtotal := by
  refine calculateDiscount_within promo eligibility ?_ h.remaining_nonneg
  rw [h.remaining_eq]
  exact sub_mem hmem h.running_mem

/-- A discount comes out of what is left. -/
lemma apply (h : loop.Balanced originalSubtotal) (hmem : originalSubtotal ∈ hundredths)
    (candidate : Promotion × Eligibility) (hskips : ¬loop.Skips candidate.1 candidate.2) :
    (applyPromotion originalSubtotal shippingFee loop candidate).Balanced originalSubtotal := by
  have hwithin := h.discount_within hmem candidate.1 candidate.2
  have hrunning : loop.runningDiscountSubtotal +
      (PromotionTurn.discount (loop, candidate)).discountAmount ≤
      originalSubtotal := by
    rw [← le_sub_iff_add_le', ← h.remaining_eq]
    exact hwithin.amount_le
  rw [applyPromotion_of_not_skips (loop, candidate) hskips]
  exact ⟨add_mem h.running_mem hwithin.amount_mem,
    add_nonneg h.running_nonneg hwithin.amount_nonneg,
    hrunning, max_eq_right (sub_nonneg.mpr hrunning)⟩

end StackingLoop.Balanced

variable (promotions : List Promotion) {context : PromotionEvaluationContext} (now : Millis)

lemma lastLoop_balanced (hsubtotal : 0 ≤ context.subtotal) :
    (lastLoop promotions context now).Balanced context.originalSubtotal :=
  Table.foldl_of_turns applyPromotion_skips
    (fun _ candidate h hskips => h.apply context.originalSubtotal_mem candidate hskips)
    (StackingLoop.start_balanced (fixedTwo_nonneg hsubtotal))

lemma turn_balanced (hsubtotal : 0 ≤ context.subtotal) {t : PromotionTurn}
    (ht : t ∈ turns promotions context now) : t.loop.Balanced context.originalSubtotal :=
  Table.turns_induction applyPromotion_skips
    (fun _ candidate h hskips => h.apply context.originalSubtotal_mem candidate hskips)
    (StackingLoop.start_balanced (fixedTwo_nonneg hsubtotal)) ht

lemma turn_within (hsubtotal : 0 ≤ context.subtotal) {t : PromotionTurn}
    (ht : t ∈ turns promotions context now) : t.discount.Within t.loop.remainingSubtotal :=
  (turn_balanced promotions now hsubtotal ht).discount_within context.originalSubtotal_mem _ _

/-- The discount of the result is the sum of the reported ones. -/
lemma discountSubtotal_eq (hsubtotal : 0 ≤ context.subtotal) :
    (evaluate promotions context now).discountSubtotal =
      (lastLoop promotions context now).runningDiscountSubtotal := by
  have hbalanced := lastLoop_balanced promotions now hsubtotal
  show min context.originalSubtotal
    (fixedTwo (lastLoop promotions context now).runningDiscountSubtotal) = _
  rw [fixedTwo_of_mem hbalanced.running_mem, min_eq_right hbalanced.running_le]

lemma sum_discountAmount (hsubtotal : 0 ≤ context.subtotal) :
    ((evaluate promotions context now).appliedPromotions.map
        AppliedPromotionDetail.discountAmount).sum =
      (lastLoop promotions context now).runningDiscountSubtotal := by
  rw [lastLoop_running, evaluate_appliedPromotions, List.map_map]
  refine congrArg List.sum (List.map_congr_left fun t ht => ?_)
  exact fixedTwo_of_mem (turn_within promotions now hsubtotal ht).amount_mem

end Balanced

/-! ## The result -/

/-- The totals of a result agree with each other, with the applied promotions and with the fee
for the shipping. -/
structure PromotionCalculationResult.Consistent (result : PromotionCalculationResult)
    (shippingFee : ℚ) : Prop where
  discount_nonneg : 0 ≤ result.discountSubtotal
  discount_le : result.discountSubtotal ≤ result.originalSubtotal
  discount_eq : result.discountSubtotal =
    (result.appliedPromotions.map AppliedPromotionDetail.discountAmount).sum
  fee : result.finalShippingFee = 0 ∨ result.finalShippingFee = shippingFee
  grandTotal_eq : result.grandTotal =
    result.originalSubtotal - result.discountSubtotal + result.finalShippingFee
  grandTotal_nonneg : 0 ≤ result.grandTotal

section Result

variable (promotions : List Promotion) {context : PromotionEvaluationContext} (now : Millis)

lemma finalShippingFee_eq (hfee : 0 ≤ context.shippingFee.getD 0) :
    (evaluate promotions context now).finalShippingFee =
      if (lastLoop promotions context now).isFreeShipping then 0 else context.fee := by
  show max 0 (fixedTwo (context.fee -
    if (lastLoop promotions context now).isFreeShipping then context.fee else 0)) = _
  split_ifs
  · rw [sub_self, fixedTwo_zero, max_self]
  · rw [sub_zero, fixedTwo_of_mem context.fee_mem]
    exact max_eq_right (fixedTwo_nonneg hfee)

lemma evaluate_grandTotal : (evaluate promotions context now).grandTotal =
    max 0 (fixedTwo (context.originalSubtotal - (evaluate promotions context now).discountSubtotal +
      (evaluate promotions context now).finalShippingFee)) := rfl

/-- **The totals of every evaluation are consistent**, with the shipping fee as it is rounded to
two decimals. -/
theorem totals_consistent (hsubtotal : 0 ≤ context.subtotal)
    (hfee : 0 ≤ context.shippingFee.getD 0) :
    (evaluate promotions context now).Consistent (fixedTwo (context.shippingFee.getD 0)) := by
  have hbalanced := lastLoop_balanced promotions now hsubtotal
  have hdiscount := discountSubtotal_eq promotions now hsubtotal
  have hshipping := finalShippingFee_eq promotions now hfee
  have hshipping_mem : (evaluate promotions context now).finalShippingFee ∈ hundredths := by
    rw [hshipping]
    split_ifs
    · exact zero_mem _
    · exact context.fee_mem
  have hshipping_nonneg : 0 ≤ (evaluate promotions context now).finalShippingFee := le_max_left _ _
  have hle : (evaluate promotions context now).discountSubtotal ≤ context.originalSubtotal := by
    rw [hdiscount]
    exact hbalanced.running_le
  have htotal_mem : context.originalSubtotal - (evaluate promotions context now).discountSubtotal +
      (evaluate promotions context now).finalShippingFee ∈ hundredths := by
    rw [hdiscount]
    exact add_mem (sub_mem context.originalSubtotal_mem hbalanced.running_mem) hshipping_mem
  have htotal : (evaluate promotions context now).grandTotal = context.originalSubtotal -
      (evaluate promotions context now).discountSubtotal +
      (evaluate promotions context now).finalShippingFee := by
    rw [evaluate_grandTotal, fixedTwo_of_mem htotal_mem]
    exact max_eq_right (add_nonneg (sub_nonneg.mpr hle) hshipping_nonneg)
  refine ⟨?_, hle, ?_, ?_, htotal, le_max_left _ _⟩
  · rw [hdiscount]
    exact hbalanced.running_nonneg
  · rw [hdiscount, sum_discountAmount promotions now hsubtotal]
  · rw [hshipping]
    split_ifs
    · exact .inl rfl
    · exact .inr rfl

/-- A cart at 1000 with a shipping fee. -/
def feeCart (shippingFee : ℚ) : PromotionEvaluationContext where
  userId := some 1
  customerSegment := some .returning
  orderCount := some 1
  subtotal := 1000
  shippingFee := some shippingFee
  items := [⟨1, some 1, none, none, "Lamp", 1000, 1, 1000⟩]

/-- A sale for the whole cart, at any time. -/
def cartSale (id : PromotionId) (type : PromotionType) (discountValue : ℚ) (priority : ℕ)
    (isStackable : Bool) (stackingRule : PromotionStackingRule) : Promotion where
  id := id
  name := "Sale"
  slug := "sale"
  description := none
  code := none
  type := type
  status := .active
  priority := priority
  isStackable := isStackable
  stackingRule := stackingRule
  isAutomatic := true
  customerSegment := .all
  firstOrderOnly := false
  discountValue := some (.decimal discountValue)
  maxDiscountAmount := none
  minOrderSubtotal := none
  minQuantity := none
  buyXQuantity := none
  getYQuantity := none
  getYDiscountPercentage := none
  startsAt := none
  endsAt := none
  timeOfDayStart := none
  timeOfDayEnd := none
  daysOfWeek := []
  totalUsageLimit := none
  userUsageLimit := none
  currentUsageCount := 0
  targetProductIds := []
  targetCategoryIds := []
  targetBrandIds := []
  excludedProductIds := []
  excludedCategoryIds := []

theorem totals_consistent_feeCart :
    (evaluate [cartSale 1 .percentage 10 0 true .stackableWithOthers] (feeCart 15) 0).Consistent
      (fixedTwo ((feeCart 15).shippingFee.getD 0)) :=
  totals_consistent _ 0 (by decide +kernel) (by decide +kernel)

/-- A fee of half a hundredth is rounded up. -/
theorem fee_rounded : ¬∀ (promotions : List Promotion) (context : PromotionEvaluationContext)
    (now : Millis), 0 ≤ context.subtotal → 0 ≤ context.shippingFee.getD 0 →
    (∀ item ∈ context.items, 0 ≤ item.unitPrice ∧ 0 ≤ item.lineTotal) →
    (evaluate promotions context now).Consistent (context.shippingFee.getD 0) := by
  intro h
  have hfee := (h [] (feeCart (1 / 200)) 0 (by decide +kernel) (by decide +kernel)
    (by decide +kernel)).fee
  revert hfee
  decide +kernel

end Result

end MeeoServer
