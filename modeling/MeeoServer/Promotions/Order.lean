/-
# The order of the candidates

The candidates are sorted by their priority, and the sort is stable: those of equal priority have
their turns in the order in which they were found.  The result depends on that order, and on no
other.
-/
import MeeoServer.Promotions.Cache
import MeeoServer.Promotions.Totals

namespace MeeoServer

/-- The totals are the same, and so are the applied promotions, in any order; so are the reasons
against the others. -/
structure PromotionCalculationResult.SameOutcome (a b : PromotionCalculationResult) : Prop where
  originalSubtotal_eq : a.originalSubtotal = b.originalSubtotal
  discountSubtotal_eq : a.discountSubtotal = b.discountSubtotal
  shippingFee_eq : a.shippingFee = b.shippingFee
  shippingDiscount_eq : a.shippingDiscount = b.shippingDiscount
  finalShippingFee_eq : a.finalShippingFee = b.finalShippingFee
  isFreeShipping_eq : a.isFreeShipping = b.isFreeShipping
  grandTotal_eq : a.grandTotal = b.grandTotal
  totalDiscount_eq : a.totalDiscount = b.totalDiscount
  applied : a.appliedPromotions.Perm b.appliedPromotions
  ineligible : a.ineligiblePromotions.Perm b.ineligiblePromotions

section Order

variable {promotions promotions' : List Promotion} (context : PromotionEvaluationContext)
  (now : Millis)

/-- In both lists, the eligible promotions of each priority come in the same order. -/
def SameTies (promotions promotions' : List Promotion) : Prop :=
  ∀ priority : ℕ,
    ((eligiblePromotions promotions context now).filter fun c => c.1.priority = priority) =
      (eligiblePromotions promotions' context now).filter fun c => c.1.priority = priority

variable {context now}

/-- What is sorted, and so the loop, is then the same. -/
lemma SameTies.priced_eq (h : SameTies context now promotions promotions') :
    (evaluate promotions context now).priced = (evaluate promotions' context now).priced := by
  refine priced_evaluate_congr context now (congrArg (stack context) ?_)
  exact Table.insertionSort_eq_of_filter_eq h

/-- Promotions with different priorities may come in any order. -/
lemma sameTies_of_nodup (hperm : promotions.Perm promotions')
    (hnodup : ((eligiblePromotions promotions context now).map fun c => c.1.priority).Nodup) :
    SameTies context now promotions promotions' :=
  Table.filter_eq_of_perm (hperm.filterMap _) hnodup

/-- **Only the order of eligible promotions of one priority matters.** -/
theorem order_immaterial (hperm : promotions.Perm promotions')
    (hties : SameTies context now promotions promotions') :
    (evaluate promotions context now).SameOutcome (evaluate promotions' context now) := by
  obtain ⟨horiginal, hdiscount, hfee, hshipping, hfinal, hfree, hgrand, htotal, happlied, -, -⟩ :=
    PromotionCalculationResult.mk.inj hties.priced_eq
  exact ⟨horiginal, hdiscount, hfee, hshipping, hfinal, hfree, hgrand, htotal,
    List.Perm.of_eq happlied, hperm.filterMap _⟩

end Order

/-- Ten per cent off, and nothing else. -/
def tenPercent (priority : ℕ) : Promotion := cartSale 1 .percentage 10 priority false .exclusive

/-- Twenty per cent off, and nothing else. -/
def twentyPercent : Promotion := cartSale 2 .percentage 20 0 false .exclusive

theorem order_immaterial_tenPercent :
    [tenPercent 1, twentyPercent].Perm [twentyPercent, tenPercent 1] ∧
      SameTies (feeCart 15) 0 [tenPercent 1, twentyPercent] [twentyPercent, tenPercent 1] ∧
      (evaluate [tenPercent 1, twentyPercent] (feeCart 15) 0).SameOutcome
        (evaluate [twentyPercent, tenPercent 1] (feeCart 15) 0) :=
  have hperm : [tenPercent 1, twentyPercent].Perm [twentyPercent, tenPercent 1] :=
    List.Perm.swap _ _ _
  have hties : SameTies (feeCart 15) 0 [tenPercent 1, twentyPercent]
      [twentyPercent, tenPercent 1] := sameTies_of_nodup hperm (by decide +kernel)
  ⟨hperm, hties, order_immaterial hperm hties⟩

/-- Of two exclusive promotions of one priority, the first one found is applied. -/
theorem first_candidate_wins : ¬∀ (promotions promotions' : List Promotion)
    (context : PromotionEvaluationContext) (now : Millis), (promotions.map Promotion.id).Nodup →
    promotions.Perm promotions' →
    (evaluate promotions context now).SameOutcome (evaluate promotions' context now) := by
  intro h
  have hdiscount := (h [tenPercent 0, twentyPercent] [twentyPercent, tenPercent 0] (feeCart 15) 0
    (by decide) (List.Perm.swap _ _ _)).discountSubtotal_eq
  revert hdiscount
  decide +kernel

end MeeoServer
