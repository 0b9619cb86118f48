/-
# Promotions that stand alone

An exclusive promotion is passed over once something is applied, and ends the loop.  A promotion
that does not stack ends the loop as well, but only after it has been applied: the loop does not
look at what was applied before it.
-/
import MeeoServer.Promotions.Totals

namespace MeeoServer

/-- The promotion may not be combined with others. -/
def Promotion.StandsAlone (promo : Promotion) : Prop :=
  promo.stackingRule = .exclusive ∨ promo.isStackable = false

instance (promo : Promotion) : Decidable promo.StandsAlone := by
  unfold Promotion.StandsAlone
  infer_instance

/-- After a promotion that stands alone, the loop passes over every other one. -/
lemma skips_of_standsAlone {originalSubtotal shippingFee : ℚ} {t : PromotionTurn}
    (hskips : ¬t.loop.Skips t.promo t.eligibility) (h : t.promo.StandsAlone)
    (candidate : Promotion × Eligibility) :
    (applyPromotion originalSubtotal shippingFee t.1 t.2).Skips candidate.1 candidate.2 := by
  rw [applyPromotion_of_not_skips t hskips]
  rcases h with hexclusive | hstackable
  · exact .inr (.inl (decide_eq_true hexclusive))
  · refine .inl ?_
    show (!t.promo.isStackable) = true
    rw [hstackable]
    rfl

section Applied

variable (promotions : List Promotion) (context : PromotionEvaluationContext) (now : Millis)

/-- The promotions that are applied, in their order. -/
def applied : List Promotion := (turns promotions context now).map PromotionTurn.promo

lemma evaluate_applied_ids : (evaluate promotions context now).appliedPromotions.map
    AppliedPromotionDetail.id = (applied promotions context now).map Promotion.id := by
  rw [evaluate_appliedPromotions, applied, List.map_map, List.map_map]
  rfl

/-- A promotion that stands alone is applied alone. -/
def StackingRespected : Prop :=
  ∀ promo ∈ applied promotions context now, promo.StandsAlone →
    applied promotions context now = [promo]

instance : Decidable (StackingRespected promotions context now) := by
  unfold StackingRespected
  infer_instance

variable {promotions context now}

lemma applied_before {pre : List (Promotion × Eligibility)} :
    (pre.foldl (applyPromotion context.originalSubtotal context.fee)
        (.start context.originalSubtotal)).appliedPromotions = [] ↔
      Table.turns (applyPromotion context.originalSubtotal context.fee)
        (fun loop candidate => loop.Skips candidate.1 candidate.2)
        (.start context.originalSubtotal) pre = [] := by
  rw [appliedPromotions_foldl]
  exact List.map_eq_nil_iff

/-- A turn before which nothing is applied, of a promotion that stands alone, is the only one. -/
lemma turns_eq_singleton {t : PromotionTurn} (ht : t ∈ turns promotions context now)
    (hfirst : t.loop.appliedPromotions = []) (h : t.promo.StandsAlone) :
    turns promotions context now = [t] := by
  obtain ⟨pre, post, -, hloop, hskips, hturns⟩ := Table.exists_of_mem_turns ht
  have hpre : t.1.appliedPromotions = [] := hfirst
  rw [hloop, applied_before] at hpre
  rw [hpre, Table.turns_eq_nil applyPromotion_skips (skips_of_standsAlone hskips h)] at hturns
  exact hturns

lemma first_of_turns_eq_singleton {t : PromotionTurn} (h : turns promotions context now = [t]) :
    t.loop.appliedPromotions = [] := by
  have ht : t ∈ turns promotions context now := h ▸ List.mem_singleton_self t
  obtain ⟨pre, post, -, hloop, -, hturns⟩ := Table.exists_of_mem_turns ht
  show t.1.appliedPromotions = []
  rw [hloop, applied_before]
  have hlength := congrArg List.length (hturns.symm.trans h)
  rw [List.length_append, List.length_cons, List.length_singleton] at hlength
  exact List.length_eq_zero_iff.mp (by omega)

/-- An exclusive promotion is passed over once something is applied. -/
lemma first_of_exclusive {t : PromotionTurn} (ht : t ∈ turns promotions context now)
    (h : t.promo.stackingRule = .exclusive) : t.loop.appliedPromotions = [] := by
  by_contra hne
  exact turn_not_skips promotions context now ht (.inr (.inr (.inl ⟨h, hne⟩)))

end Applied

end MeeoServer
