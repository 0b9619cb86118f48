/-
# The allocations of the promotion engine

A percentage is allocated by the prices of the items, each share rounded for itself, and the free
units of BUY_X_GET_Y to their items.  Nothing makes up for the roundings, a fixed discount is not
allocated at all, and no promotion looks at what the ones before it have taken off an item: only
the whole cart has a remaining subtotal.
-/
import MeeoServer.Process.Results
import MeeoServer.Promotions.Totals
import MeeoServer.Table.Grouping
import MeeoServer.Table.Updates
import Mathlib.Algebra.BigOperators.Ring.List
import Mathlib.Tactic.FieldSimp
import Mathlib.Tactic.Linarith

namespace MeeoServer

/-- What rounding adds to a number. -/
def roundingError (x : ℚ) : ℚ := fixedTwo x - x

/-! ## What a turn takes off an item -/

namespace PromotionTurn

variable (t : PromotionTurn)

/-- The discount of the turn before it is rounded. -/
def exact : ℚ := exactDiscount t.promo t.eligibility t.loop.remainingSubtotal

/-- The part of each price that a percentage takes off. -/
def fraction : ℚ :=
  if t.promo.type.isPercentage ∧ 0 < t.eligibility.eligibleSubtotal then
    t.exact / t.eligibility.eligibleSubtotal
  else 0

/-- What the free units of an item are worth, up to its price and what is left of the subtotal. -/
def freeUnits (item : PromotionCartItem) : ℚ :=
  if t.promo.type = .buyXGetY then
    ((groupAllocation t.promo t.loop.remainingSubtotal item).map Prod.fst).getD 0
  else 0

/-- What the turn takes off an item before it is rounded. -/
def cut (item : PromotionCartItem) : ℚ :=
  if t.promo.matchesItem item then item.lineTotal * t.fraction + t.freeUnits item else 0

/-- The allocation of the turn to a matching item. -/
def allocation (item : PromotionCartItem) : Option ItemDiscountAllocation :=
  if t.promo.type.isPercentage then
    if 0 < t.eligibility.eligibleSubtotal then
      some (shareAllocation t.promo t.eligibility.eligibleSubtotal t.exact item)
    else none
  else if t.promo.type = .buyXGetY then
    (groupAllocation t.promo t.loop.remainingSubtotal item).map Prod.snd
  else none

def itemAllocation (item : PromotionCartItem) : Option ItemDiscountAllocation :=
  if t.promo.matchesItem item then t.allocation item else none

/-- The allocations, with one case for each of the loops that fill them in. -/
lemma discount_allocations :
    t.discount.allocations = t.eligibility.matchedItems.filterMap t.allocation := by
  -- the loops of the percentages and of the groups go over the matched items
  have hpercentage : t.promo.type.isPercentage →
      t.eligibility.matchedItems.filterMap t.allocation =
        if 0 < t.eligibility.eligibleSubtotal then
          t.eligibility.matchedItems.map
            (shareAllocation t.promo t.eligibility.eligibleSubtotal t.exact)
        else [] := by
    intro h
    split_ifs with hpos
    · rw [← List.filterMap_eq_map]
      refine List.filterMap_congr fun item _ => ?_
      rw [allocation, if_pos h, if_pos hpos]
      rfl
    · rw [List.filterMap_eq_nil_iff]
      intro item _
      rw [allocation, if_pos h, if_neg hpos]
  have hnone : t.promo.type.isPercentage = false → t.promo.type ≠ .buyXGetY →
      t.eligibility.matchedItems.filterMap t.allocation = [] := by
    intro h hne
    rw [List.filterMap_eq_nil_iff]
    intro item _
    rw [allocation, h, if_neg Bool.false_ne_true, if_neg hne]
  have hgroups : t.promo.type = .buyXGetY →
      t.eligibility.matchedItems.filterMap t.allocation = (t.eligibility.matchedItems.filterMap
        (groupAllocation t.promo t.loop.remainingSubtotal)).map Prod.snd := by
    intro h
    rw [List.map_filterMap]
    refine List.filterMap_congr fun item _ => ?_
    rw [allocation, h, if_neg (by decide), if_pos rfl]
  unfold discount calculateDiscount
  cases htype : t.promo.type with
  | fixedDiscount | freeShipping =>
    exact (hnone (by rw [htype]; rfl) (by rw [htype]; decide)).symm
  | buyXGetY => exact (hgroups htype).symm
  | percentage | flashSale | productDiscount | categoryDiscount | brandDiscount =>
    rw [hpercentage (by rw [htype]; rfl), exact, exactDiscount, htype]

variable {t} in
lemma fraction_of_not (h : ¬t.promo.type.isPercentage) : t.fraction = 0 :=
  if_neg fun hpos => h hpos.1

variable {t} in
lemma freeUnits_of_isPercentage (h : t.promo.type.isPercentage) (item : PromotionCartItem) :
    t.freeUnits item = 0 := by
  refine if_neg fun htype => ?_
  rw [htype] at h
  cases h

/-- An allocation is what the turn takes off the item, rounded. -/
lemma itemAllocation_amount (item : PromotionCartItem) :
    ((t.itemAllocation item).map ItemDiscountAllocation.discountAmount).getD 0 =
      fixedTwo (t.cut item) := by
  unfold itemAllocation cut
  by_cases hmatch : t.promo.matchesItem item
  · rw [if_pos hmatch, if_pos hmatch, allocation]
    by_cases hpercentage : t.promo.type.isPercentage
    · rw [if_pos hpercentage, freeUnits_of_isPercentage hpercentage, add_zero, fraction]
      by_cases hpos : 0 < t.eligibility.eligibleSubtotal
      · rw [if_pos hpos, if_pos ⟨hpercentage, hpos⟩, ← mul_div_assoc, mul_div_right_comm]
        rfl
      · rw [if_neg hpos, if_neg fun h => hpos h.2, mul_zero, fixedTwo_zero]
        rfl
    · rw [if_neg hpercentage, fraction_of_not hpercentage, mul_zero, zero_add, freeUnits]
      by_cases htype : t.promo.type = .buyXGetY
      · rw [if_pos htype, if_pos htype]
        unfold groupAllocation
        dsimp only
        split_ifs
        · rfl
        · exact fixedTwo_zero.symm
      · rw [if_neg htype, if_neg htype, fixedTwo_zero]
        rfl
  · rw [if_neg hmatch, if_neg hmatch, fixedTwo_zero]
    rfl

/-- An allocation names its item and its promotion. -/
lemma itemAllocation_names {item : PromotionCartItem} {a : ItemDiscountAllocation}
    (h : t.itemAllocation item = some a) : a.productId = item.productId ∧
      a.variantId = item.variantId ∧ a.appliedPromotionId = t.promo.id := by
  unfold itemAllocation allocation at h
  split_ifs at h
  · rw [← Option.some.inj h]
    exact ⟨rfl, rfl, rfl⟩
  · obtain ⟨pair, hpair, rfl⟩ := Option.map_eq_some_iff.mp h
    unfold groupAllocation at hpair
    dsimp only at hpair
    split_ifs at hpair
    rw [← Option.some.inj hpair]
    exact ⟨rfl, rfl, rfl⟩

end PromotionTurn

/-! ## The allocations of a turn -/

lemma checkItems_eq_ok {promo : Promotion} {matchedItems : List PromotionCartItem}
    {eligibility : Eligibility} (h : checkItems promo matchedItems = .ok eligibility) :
    eligibility = ⟨matchedItems, (matchedItems.map PromotionCartItem.lineTotal).sum⟩ := by
  unfold checkItems at h
  iterate 3 replace h := (check_eq_ok.mp h).2
  exact (Except.ok.inj h).symm

/-- An eligible promotion comes with the items that it matches, and their total. -/
lemma checkEligibility_eq_ok {promo : Promotion} {context : PromotionEvaluationContext}
    {now : Millis} {eligibility : Eligibility}
    (h : checkEligibility promo context now = .ok eligibility) :
    eligibility = ⟨getMatchingItems promo context.items,
      ((getMatchingItems promo context.items).map PromotionCartItem.lineTotal).sum⟩ := by
  unfold checkEligibility at h
  iterate 10 replace h := (check_eq_ok.mp h).2
  exact checkItems_eq_ok h

lemma mem_eligiblePromotions {promotions : List Promotion} {context : PromotionEvaluationContext}
    {now : Millis} {candidate : Promotion × Eligibility}
    (h : candidate ∈ eligiblePromotions promotions context now) :
    candidate.1 ∈ promotions ∧ checkEligibility candidate.1 context now = .ok candidate.2 := by
  obtain ⟨promo, hpromo, heq⟩ := List.mem_filterMap.mp h
  split at heq
  · rename_i eligibility hok
    rw [← Option.some.inj heq]
    exact ⟨hpromo, hok⟩
  · cases heq

section TurnAllocations

variable {promotions : List Promotion} {context : PromotionEvaluationContext} {now : Millis}
  {t : PromotionTurn} (ht : t ∈ turns promotions context now)
include ht

lemma turn_candidate : (t.promo, t.eligibility) ∈ eligiblePromotions promotions context now :=
  (List.mem_insertionSort _).mp (Table.turns_sublist.subset (List.mem_map_of_mem ht))

lemma turn_eligibility : t.eligibility = ⟨getMatchingItems t.promo context.items,
    ((getMatchingItems t.promo context.items).map PromotionCartItem.lineTotal).sum⟩ :=
  checkEligibility_eq_ok (mem_eligiblePromotions (turn_candidate ht)).2

/-- A turn allocates to the items of the cart, one after the other. -/
lemma turn_allocations : t.discount.allocations = context.items.filterMap t.itemAllocation := by
  rw [t.discount_allocations, turn_eligibility ht]
  show (context.items.filter t.promo.matchesItem).filterMap t.allocation = _
  rw [List.filterMap_filter]
  rfl

omit ht in
lemma turn_detail_amount : (t.detail context.fee).discountAmount = t.discount.discountAmount := by
  show fixedTwo t.discount.discountAmount = _
  rw [PromotionTurn.discount, discountAmount_eq, fixedTwo_of_mem (fixedTwo_mem _)]

/-- A promotion is applied because its delivery is free or its discount is worth something. -/
lemma turn_discount_pos (htype : t.promo.type ≠ .freeShipping) : 0 < t.discount.discountAmount := by
  have hdelivery : t.discount.isFreeShipping = false := by
    unfold PromotionTurn.discount calculateDiscount
    cases hcase : t.promo.type with
    | freeShipping => exact absurd hcase htype
    | _ => rfl
  by_contra hle
  refine turn_not_skips promotions context now ht (.inr (.inr (.inr ?_)))
  show (decide (t.discount.discountAmount ≤ 0) && !t.discount.isFreeShipping) = true
  rw [hdelivery, decide_eq_true (not_lt.mp hle)]
  rfl

lemma turn_exact_pos (htype : t.promo.type ≠ .freeShipping) : 0 < t.exact := by
  by_contra hle
  have hzero : t.discount.discountAmount = 0 := by
    rw [PromotionTurn.discount, discountAmount_eq]
    show fixedTwo (max 0 t.exact) = 0
    rw [max_eq_left (not_lt.mp hle), fixedTwo_zero]
  exact (turn_discount_pos ht htype).ne' hzero

/-- The reported discount is the exact one, rounded. -/
lemma turn_amount (htype : t.promo.type ≠ .freeShipping) :
    (t.detail context.fee).discountAmount = t.exact + roundingError t.exact := by
  rw [turn_detail_amount, PromotionTurn.discount, discountAmount_eq, roundingError, add_sub_cancel]
  exact congrArg fixedTwo (max_eq_right (turn_exact_pos ht htype).le)

/-- The allocations of a turn come to what it takes off the items, with the roundings. -/
lemma sum_allocations : (t.discount.allocations.map ItemDiscountAllocation.discountAmount).sum =
    (t.eligibility.matchedItems.map t.cut).sum +
      (t.eligibility.matchedItems.map fun item => roundingError (t.cut item)).sum := by
  rw [t.discount_allocations, Table.sum_filterMap, ← List.sum_map_add]
  refine congrArg List.sum (List.map_congr_left fun item hitem => ?_)
  have hmatch : t.promo.matchesItem item := by
    rw [turn_eligibility ht] at hitem
    exact (List.mem_filter.mp hitem).2
  have hamount := t.itemAllocation_amount item
  rw [PromotionTurn.itemAllocation, if_pos hmatch] at hamount
  rw [hamount, roundingError, add_sub_cancel]

end TurnAllocations

/-! ## When the allocations come to the discount -/

namespace PromotionTurn

variable (t : PromotionTurn)

/-- By how much the free units of all items exceed what is left of the subtotal. -/
def overshoot : ℚ :=
  max 0 ((t.eligibility.matchedItems.map t.freeUnits).sum - t.loop.remainingSubtotal)

/-- The roundings of the single items make up for that of the discount: a percentage has them
only, free units also what they exceed the remaining subtotal by, and a fixed discount is never
divided among the items. -/
def Divides : Prop :=
  match t.promo.type with
  | .percentage | .flashSale | .productDiscount | .categoryDiscount | .brandDiscount =>
    0 < t.eligibility.eligibleSubtotal ∧
      (t.eligibility.matchedItems.map fun item =>
        roundingError (item.lineTotal * t.fraction)).sum = roundingError t.exact
  | .fixedDiscount => False
  | .freeShipping => True
  | .buyXGetY =>
    (t.eligibility.matchedItems.map fun item => roundingError (t.freeUnits item)).sum +
      t.overshoot = roundingError t.exact

variable {t}

lemma divides_of_isPercentage (h : t.promo.type.isPercentage) : t.Divides ↔
    0 < t.eligibility.eligibleSubtotal ∧
      (t.eligibility.matchedItems.map fun item =>
        roundingError (item.lineTotal * t.fraction)).sum = roundingError t.exact := by
  unfold Divides
  cases htype : t.promo.type with
  | fixedDiscount | freeShipping | buyXGetY =>
    rw [htype] at h
    cases h
  | percentage | flashSale | productDiscount | categoryDiscount | brandDiscount => exact Iff.rfl

end PromotionTurn

section Divides

variable {promotions : List Promotion} {context : PromotionEvaluationContext} {now : Millis}
  {t : PromotionTurn} (ht : t ∈ turns promotions context now)
include ht

lemma cut_of_mem {item : PromotionCartItem} (hitem : item ∈ t.eligibility.matchedItems) :
    t.cut item = item.lineTotal * t.fraction + t.freeUnits item := by
  rw [turn_eligibility ht] at hitem
  exact if_pos (List.mem_filter.mp hitem).2

/-- A percentage takes the whole discount off the items. -/
lemma sum_percentage (hpos : 0 < t.eligibility.eligibleSubtotal)
    (htype : t.promo.type.isPercentage) :
    (t.eligibility.matchedItems.map fun item => item.lineTotal * t.fraction).sum = t.exact := by
  have htotal : (t.eligibility.matchedItems.map PromotionCartItem.lineTotal).sum =
      t.eligibility.eligibleSubtotal := by
    rw [turn_eligibility ht]
  rw [List.sum_map_mul_right, htotal, PromotionTurn.fraction, if_pos ⟨htype, hpos⟩]
  exact mul_div_cancel₀ _ hpos.ne'

lemma divides_percentage (htype : t.promo.type.isPercentage) :
    (t.discount.allocations.map ItemDiscountAllocation.discountAmount).sum =
      (t.detail context.fee).discountAmount ↔ t.Divides := by
  have hcut : ∀ item ∈ t.eligibility.matchedItems, t.cut item = item.lineTotal * t.fraction := by
    intro item hitem
    rw [cut_of_mem ht hitem, PromotionTurn.freeUnits_of_isPercentage htype, add_zero]
  have hne : t.promo.type ≠ .freeShipping := by
    intro hfree
    rw [hfree] at htype
    cases htype
  rw [PromotionTurn.divides_of_isPercentage htype]
  by_cases hpos : 0 < t.eligibility.eligibleSubtotal
  · have herrors : (t.eligibility.matchedItems.map fun item => roundingError (t.cut item)) =
        t.eligibility.matchedItems.map fun item => roundingError (item.lineTotal * t.fraction) :=
      List.map_congr_left fun item hitem => congrArg roundingError (hcut item hitem)
    rw [sum_allocations ht, turn_amount ht hne, herrors, List.map_congr_left hcut,
      sum_percentage ht hpos htype, add_right_inj, and_iff_right hpos]
  · -- nothing is allocated, though there is a discount
    refine iff_of_false (fun hsum => ?_) fun h => hpos h.1
    have hnil : t.discount.allocations = [] := by
      rw [t.discount_allocations, List.filterMap_eq_nil_iff]
      intro item _
      rw [PromotionTurn.allocation, if_pos htype, if_neg hpos]
    rw [hnil, turn_detail_amount] at hsum
    exact (turn_discount_pos ht hne).ne hsum

/-- A fixed discount is worth something, but nothing of it is allocated. -/
lemma divides_fixedDiscount (htype : t.promo.type = .fixedDiscount) :
    (t.discount.allocations.map ItemDiscountAllocation.discountAmount).sum =
      (t.detail context.fee).discountAmount ↔ t.Divides := by
  have hnil : t.discount.allocations = [] := by
    rw [PromotionTurn.discount, calculateDiscount, htype]
  have hdivides : ¬t.Divides := by
    unfold PromotionTurn.Divides
    rw [htype]
    exact not_false
  refine iff_of_false (fun hsum => ?_) hdivides
  rw [hnil, turn_detail_amount] at hsum
  exact (turn_discount_pos ht (by rw [htype]; decide)).ne hsum

omit ht in
lemma divides_freeShipping (htype : t.promo.type = .freeShipping) :
    (t.discount.allocations.map ItemDiscountAllocation.discountAmount).sum =
      (t.detail context.fee).discountAmount ↔ t.Divides := by
  have hdivides : t.Divides := by
    unfold PromotionTurn.Divides
    rw [htype]
    exact trivial
  refine iff_of_true ?_ hdivides
  rw [turn_detail_amount, PromotionTurn.discount, calculateDiscount, htype]
  dsimp only
  rw [max_self, fixedTwo_zero]
  rfl

lemma divides_buyXGetY (htype : t.promo.type = .buyXGetY) :
    (t.discount.allocations.map ItemDiscountAllocation.discountAmount).sum =
      (t.detail context.fee).discountAmount ↔ t.Divides := by
  have hcut : ∀ item ∈ t.eligibility.matchedItems, t.cut item = t.freeUnits item := by
    intro item hitem
    rw [cut_of_mem ht hitem, PromotionTurn.fraction_of_not (by rw [htype]; decide), mul_zero,
      zero_add]
  have herrors : (t.eligibility.matchedItems.map fun item => roundingError (t.cut item)) =
      t.eligibility.matchedItems.map fun item => roundingError (t.freeUnits item) :=
    List.map_congr_left fun item hitem => congrArg roundingError (hcut item hitem)
  have hfree : ((t.eligibility.matchedItems.filterMap
      (groupAllocation t.promo t.loop.remainingSubtotal)).map Prod.fst).sum =
      (t.eligibility.matchedItems.map t.freeUnits).sum := by
    rw [Table.sum_filterMap]
    refine congrArg List.sum (List.map_congr_left fun item _ => ?_)
    rw [PromotionTurn.freeUnits, if_pos htype]
  have hexact : t.exact = min (t.eligibility.matchedItems.map t.freeUnits).sum
      t.loop.remainingSubtotal := by
    rw [← hfree, PromotionTurn.exact, exactDiscount, htype]
  have hovershoot : (t.eligibility.matchedItems.map t.freeUnits).sum = t.exact + t.overshoot := by
    rw [hexact, PromotionTurn.overshoot]
    rcases le_total (t.eligibility.matchedItems.map t.freeUnits).sum t.loop.remainingSubtotal
      with h | h
    · rw [min_eq_left h, max_eq_left (sub_nonpos.mpr h), add_zero]
    · rw [min_eq_right h, max_eq_right (sub_nonneg.mpr h), add_sub_cancel]
  rw [sum_allocations ht, turn_amount ht (by rw [htype]; decide), herrors,
    List.map_congr_left hcut, hovershoot, add_assoc, add_right_inj, add_comm t.overshoot]
  unfold PromotionTurn.Divides
  rw [htype]

/-- The allocations of a turn come to the reported discount exactly if it divides. -/
lemma divides_iff : (t.discount.allocations.map ItemDiscountAllocation.discountAmount).sum =
    (t.detail context.fee).discountAmount ↔ t.Divides := by
  cases htype : t.promo.type with
  | fixedDiscount => exact divides_fixedDiscount ht htype
  | freeShipping => exact divides_freeShipping htype
  | buyXGetY => exact divides_buyXGetY ht htype
  | percentage | flashSale | productDiscount | categoryDiscount | brandDiscount =>
    exact divides_percentage ht (by rw [htype]; rfl)

end Divides

/-! ## The result -/

section Result

variable (promotions : List Promotion) (context : PromotionEvaluationContext) (now : Millis)

/-- What the applied promotions allocate to an item together. -/
def allocatedTo (item : PromotionCartItem) : ℚ :=
  ((turns promotions context now).map fun t =>
    ((t.itemAllocation item).map ItemDiscountAllocation.discountAmount).getD 0).sum

/-- The reports of the applied promotions, each with its allocations. -/
def reports : List (AppliedPromotionDetail × List ItemDiscountAllocation) :=
  (turns promotions context now).map fun t => (t.detail context.fee, t.discount.allocations)

lemma reports_fst : (evaluate promotions context now).appliedPromotions =
    (reports promotions context now).map Prod.fst := by
  rw [evaluate_appliedPromotions, reports, List.map_map]
  rfl

lemma reports_snd : (evaluate promotions context now).itemAllocations =
    (reports promotions context now).flatMap Prod.snd := by
  rw [evaluate_itemAllocations, reports, List.flatMap_map]

/-- The allocations of each promotion come to its discount, and those to each item to at most its
price. -/
structure AllocationsReconcile : Prop where
  discount : ∀ r ∈ reports promotions context now,
    (r.2.map ItemDiscountAllocation.discountAmount).sum = r.1.discountAmount
  lineTotal : ∀ item ∈ context.items, allocatedTo promotions context now item ≤ item.lineTotal

/-- What the percentages and the free units leave of the price of an item has room for the
roundings. -/
def ItemHasRoom (item : PromotionCartItem) : Prop :=
  let hits := (turns promotions context now).filter fun t => t.promo.matchesItem item
  (hits.map fun t => roundingError (t.cut item)).sum ≤
    item.lineTotal * (1 - (hits.map PromotionTurn.fraction).sum) -
      (hits.map fun t => t.freeUnits item).sum

variable {promotions context now}

/-- In a cart without two lines for one variant, the allocations to an item are those of the
result that name it. -/
lemma allocatedTo_eq {item : PromotionCartItem} (hitem : item ∈ context.items)
    (hkeys : (context.items.map fun i => (i.productId, i.variantId)).Nodup) :
    allocatedTo promotions context now item =
      (((evaluate promotions context now).itemAllocations.filter fun a =>
        (a.productId, a.variantId) = (item.productId, item.variantId)).map
          ItemDiscountAllocation.discountAmount).sum := by
  have hturn : ∀ t ∈ turns promotions context now,
      (t.discount.allocations.filter fun a =>
        (a.productId, a.variantId) = (item.productId, item.variantId)) =
          (t.itemAllocation item).toList := by
    intro t ht
    have hsplit : ∀ i, Option.filter (fun a => decide
        ((a.productId, a.variantId) = (item.productId, item.variantId))) (t.itemAllocation i) =
          if decide ((i.productId, i.variantId) = (item.productId, item.variantId)) then
            t.itemAllocation i else none := by
      intro i
      cases hi : t.itemAllocation i with
      | none => rw [ite_self]; rfl
      | some a =>
        obtain ⟨hproduct, hvariant, -⟩ := t.itemAllocation_names hi
        rw [Option.filter_some, hproduct, hvariant]
    rw [turn_allocations ht, List.filter_filterMap, List.filterMap_congr fun i _ => hsplit i,
      ← List.filterMap_filter, Table.filter_key_eq_singleton hkeys hitem]
    cases hi : t.itemAllocation item <;> simp [hi]
  rw [evaluate_itemAllocations, List.filter_flatMap, List.map_flatMap, List.flatMap_def,
    List.sum_flatten, List.map_map]
  refine congrArg List.sum (List.map_congr_left fun t ht => ?_)
  show _ = ((t.discount.allocations.filter _).map ItemDiscountAllocation.discountAmount).sum
  rw [hturn t ht]
  cases t.itemAllocation item with
  | none => rfl
  | some a => exact (add_zero _).symm

lemma allocatedTo_le_iff {item : PromotionCartItem} :
    allocatedTo promotions context now item ≤ item.lineTotal ↔
      ItemHasRoom promotions context now item := by
  have hcut : ∀ t ∈ (turns promotions context now).filter fun t => t.promo.matchesItem item,
      fixedTwo (t.cut item) =
        item.lineTotal * t.fraction + t.freeUnits item + roundingError (t.cut item) := by
    intro t ht
    have hmatch : t.cut item = item.lineTotal * t.fraction + t.freeUnits item :=
      if_pos (List.mem_filter.mp ht).2
    rw [roundingError, hmatch, add_sub_cancel]
  have hsum : allocatedTo promotions context now item =
      (((turns promotions context now).filter fun t => t.promo.matchesItem item).map fun t =>
        fixedTwo (t.cut item)).sum := by
    rw [Table.sum_filter_of_zero fun t _ hmatch => ?_]
    · exact congrArg List.sum (List.map_congr_left fun t _ => t.itemAllocation_amount item)
    · rw [PromotionTurn.cut, if_neg hmatch, fixedTwo_zero]
  rw [hsum, List.map_congr_left hcut, List.sum_map_add, List.sum_map_add, List.sum_map_mul_left,
    ItemHasRoom]
  constructor <;> intro h <;> linarith

/-- A hundred off the cart. -/
def hundredOff : Promotion := cartSale 1 .fixedDiscount 100 0 true .stackableWithOthers

end Result

end MeeoServer
