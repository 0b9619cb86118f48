/-
# The discount of an order and its usages

The coupon and the promotions are worked out against the whole subtotal, each by itself.  Their
sum is capped by the subtotal in the order; the rows of `coupon_usages` and `promotion_usages`
hold the parts as they are.
-/
import MeeoServer.Promotions.Totals
import MeeoServer.Storefront.Worth
import MeeoServer.Table.Updates
import Mathlib.Algebra.Order.BigOperators.Group.List

namespace MeeoServer.Storefront

/-! ## The amounts of a checkout -/

section Amounts

variable {toUpperCase : String → String} {tables tables' : Tables} {userId : UserId}
  {input : CheckoutInput} {now : Millis}

lemma validateCartItem_lineTotal {item : CartItem} {valid : ValidatedCartItem}
    (h : validateCartItem tables now item = .ok valid) :
    valid.lineTotal ∈ hundredths ∧ 0 ≤ valid.lineTotal := by
  unfold validateCartItem at h
  split at h
  · exact nomatch h
  · split at h
    · exact nomatch h
    · rename_i variant _ _ product _
      iterate 3 replace h := (check_eq_ok.mp h).2
      obtain ⟨taxDetails, -, h⟩ := bind_eq_ok.mp h
      obtain rfl := Except.ok.inj h
      exact ⟨fixedTwo_mem _, fixedTwo_nonneg (mul_nonneg (NNRat.coe_nonneg _)
        (Nat.cast_nonneg _))⟩

/-- The subtotal of a cart is an amount of money. -/
lemma validateCartAndItems_subtotal {cartId : Option CartId} {cart : ValidatedCart}
    (h : validateCartAndItems tables userId cartId now = .ok cart) :
    cart.subtotal ∈ hundredths ∧ 0 ≤ cart.subtotal := by
  unfold validateCartAndItems at h
  split at h
  · cases h
  · obtain ⟨-, h⟩ := check_eq_ok.mp h
    obtain ⟨items, hitems, h⟩ := bind_eq_ok.mp h
    obtain rfl := Except.ok.inj h
    refine ⟨fixedTwo_mem _, fixedTwo_nonneg (List.sum_nonneg fun total htotal => ?_)⟩
    obtain ⟨valid, hvalid, rfl⟩ := List.mem_map.mp htotal
    obtain ⟨item, -, hitem⟩ := exists_of_mem_mapM hitems hvalid
    exact (validateCartItem_lineTotal hitem).2

/-- A coupon that is accepted is one of the table, and gives its discount. -/
lemma validateAndCalculateDiscount_eq_ok {couponCode : Option String} {subtotal : ℚ}
    {result : CouponDiscountResult}
    (h : validateAndCalculateDiscount toUpperCase tables couponCode subtotal userId now =
      .ok result) :
    result = ⟨none, 0, false⟩ ∨ ∃ coupon ∈ tables.coupons,
      result = ⟨some coupon, fixedTwo (couponDiscount coupon subtotal),
        coupon.type = .freeShipping⟩ := by
  unfold validateAndCalculateDiscount at h
  dsimp only at h
  by_cases hcode : couponCode.getD "" = ""
  · rw [if_pos hcode] at h
    exact .inl (Except.ok.inj h).symm
  · rw [if_neg hcode] at h
    split at h
    · cases h
    · rename_i coupon hcoupon
      iterate 6 replace h := (check_eq_ok.mp h).2
      exact .inr ⟨coupon, List.mem_of_find?_eq_some hcoupon, (Except.ok.inj h).symm⟩

/-- The discount of a coupon is an amount of money, and nothing without a coupon. -/
lemma validateAndCalculateDiscount_amount {couponCode : Option String} {subtotal : ℚ}
    {result : CouponDiscountResult}
    (h : validateAndCalculateDiscount toUpperCase tables couponCode subtotal userId now =
      .ok result) :
    result.discountAmount ∈ hundredths ∧ (result.coupon = none → result.discountAmount = 0) := by
  rcases validateAndCalculateDiscount_eq_ok h with rfl | ⟨coupon, -, rfl⟩
  · exact ⟨zero_mem _, fun _ => rfl⟩
  · exact ⟨fixedTwo_mem _, fun hnone => by cases hnone⟩

/-- The coupon and the total discount of a priced checkout. -/
lemma priceCheckout_discounts {priced : PricedCheckout}
    (h : priceCheckout toUpperCase tables userId input now = .ok (priced, tables')) :
    validateAndCalculateDiscount toUpperCase tables input.couponCode priced.cart.subtotal userId
        now = .ok priced.coupon ∧
      priced.totalDiscount = fixedTwo (min priced.cart.subtotal
        (priced.coupon.discountAmount + priced.promotions.discountSubtotal)) := by
  unfold priceCheckout at h
  obtain ⟨cart, -, h⟩ := bind_eq_ok.mp h
  obtain ⟨addresses, -, h⟩ := bind_eq_ok.mp h
  obtain ⟨coupon, hcoupon, h⟩ := bind_eq_ok.mp h
  obtain ⟨⟨defaultSeller, sellers⟩, -, h⟩ := bind_eq_ok.mp h
  obtain ⟨shippingRule, -, h⟩ := bind_eq_ok.mp h
  obtain ⟨items, -, h⟩ := bind_eq_ok.mp h
  obtain ⟨rfl, rfl⟩ := Prod.mk.inj (Except.ok.inj h)
  exact ⟨hcoupon, rfl⟩

/-- The promotions of a checkout report what they come to. -/
lemma priceCheckout_promotions {priced : PricedCheckout}
    (h : priceCheckout toUpperCase tables userId input now = .ok (priced, tables')) :
    (priced.promotions.appliedPromotions.map AppliedPromotionDetail.discountAmount).sum =
        priced.promotions.discountSubtotal ∧ priced.promotions.discountSubtotal ∈ hundredths := by
  obtain ⟨-, hpromotions, -⟩ := priceCheckout_eq_ok h
  have hsubtotal : 0 ≤ (previewContext tables (promotionInput input priced.cart.items)
      (some userId)).subtotal := by
    refine List.sum_nonneg fun total htotal => ?_
    obtain ⟨item, hitem, rfl⟩ := List.mem_map.mp htotal
    obtain ⟨valid, -, rfl⟩ := List.mem_map.mp hitem
    exact mul_nonneg (NNRat.coe_nonneg _) (Nat.cast_nonneg _)
  rw [hpromotions]
  exact ⟨(sum_discountAmount _ now hsubtotal).trans (discountSubtotal_eq _ now hsubtotal).symm,
    by rw [previewCart, discountSubtotal_eq _ now hsubtotal]
       exact (lastLoop_balanced _ now hsubtotal).running_mem⟩

end Amounts

/-! ## The usages of an order -/

/-- The discounts that the usages of an order report. -/
def recordedDiscount (tables : Tables) (orderId : OrderId) : ℚ :=
  ((tables.couponUsages.filter fun u => u.orderId = orderId).map CouponUsage.discountAmount).sum +
    ((tables.promotionUsages.filter fun u => u.orderId = orderId).map
      PromotionUsage.discountAmount).sum

/-- The usages refer to orders that exist. -/
structure UsagesRefer (tables : Tables) : Prop where
  coupons : ∀ u ∈ tables.couponUsages, u.orderId < tables.orders.length
  promotions : ∀ u ∈ tables.promotionUsages, u.orderId < tables.orders.length

section Usages

variable {toUpperCase : String → String} {tables tables' : Tables} {userId : UserId}
  {input : CheckoutInput} {now : Millis} {orderNumber : String} {order : PlacedOrder}

/-- The row that a promotion leaves. -/
def promotionUsage (userId : UserId) (orderId : OrderId) (applied : AppliedPromotionDetail) :
    PromotionUsage :=
  ⟨applied.id, userId, orderId, applied.discountAmount⟩

lemma recordUsage_usages {orderId : OrderId} {applied : AppliedPromotionDetail}
    (h : recordUsage userId orderId tables applied = .ok tables') :
    tables'.couponUsages = tables.couponUsages ∧
      tables'.promotionUsages =
        tables.promotionUsages ++ [promotionUsage userId orderId applied] := by
  unfold recordUsage at h
  split at h
  · cases h
  · rename_i promo hpromo
    obtain ⟨-, h⟩ := check_eq_ok.mp h
    obtain ⟨-, h⟩ := check_eq_ok.mp h
    obtain rfl := Except.ok.inj h
    have hid : promo.id = applied.id := by simpa using List.find?_some hpromo
    exact ⟨rfl, by rw [hid]; rfl⟩

lemma foldlM_recordUsage_usages {orderId : OrderId} {l : List AppliedPromotionDetail}
    (h : l.foldlM (recordUsage userId orderId) tables = .ok tables') :
    tables'.couponUsages = tables.couponUsages ∧
      tables'.promotionUsages =
        tables.promotionUsages ++ l.map (promotionUsage userId orderId) := by
  induction l generalizing tables with
  | nil =>
    obtain rfl := Except.ok.inj h
    exact ⟨rfl, (List.append_nil _).symm⟩
  | cons applied l ih =>
    rw [List.foldlM_cons] at h
    obtain ⟨next, hnext, h⟩ := bind_eq_ok.mp h
    obtain ⟨hcoupons, hpromotions⟩ := recordUsage_usages hnext
    obtain ⟨hcoupons', hpromotions'⟩ := ih h
    refine ⟨hcoupons'.trans hcoupons, ?_⟩
    rw [hpromotions', hpromotions, List.append_assoc]
    rfl

lemma placeOrder_usages {priced : PricedCheckout}
    (h : placeOrder tables orderNumber userId input priced now = .ok (order, tables')) :
    tables'.couponUsages =
        recordCouponUsage userId tables.orders.length priced.coupon tables.couponUsages ∧
      tables'.promotionUsages = tables.promotionUsages ++
        priced.promotions.appliedPromotions.map (promotionUsage userId tables.orders.length) := by
  obtain ⟨-, h⟩ := check_eq_ok.mp h
  obtain ⟨stock, -, h⟩ := bind_eq_ok.mp h
  obtain ⟨recorded, hrecorded, h⟩ := bind_eq_ok.mp h
  obtain ⟨rfl, rfl⟩ := Prod.mk.inj (Except.ok.inj h)
  exact foldlM_recordUsage_usages hrecorded

/-- The usages of a new order report the discounts of its coupon and of its promotions. -/
lemma recordedDiscount_placeOrder {priced : PricedCheckout} (hrefer : UsagesRefer tables)
    (hcoupon : priced.coupon.coupon = none → priced.coupon.discountAmount = 0)
    (h : placeOrder tables orderNumber userId input priced now = .ok (order, tables')) :
    recordedDiscount tables' tables.orders.length = priced.coupon.discountAmount +
      (priced.promotions.appliedPromotions.map AppliedPromotionDetail.discountAmount).sum := by
  obtain ⟨hcoupons, hpromotions⟩ := placeOrder_usages h
  have hnone : (tables.couponUsages.filter fun u => u.orderId = tables.orders.length) = [] :=
    List.filter_eq_nil_iff.mpr fun u hu heq => (hrefer.coupons u hu).ne (of_decide_eq_true heq)
  have hnone' : (tables.promotionUsages.filter fun u => u.orderId = tables.orders.length) = [] :=
    List.filter_eq_nil_iff.mpr fun u hu heq => (hrefer.promotions u hu).ne (of_decide_eq_true heq)
  unfold recordedDiscount
  congr 1
  · rw [hcoupons, recordCouponUsage]
    cases hc : priced.coupon.coupon with
    | none => simp [hnone, hcoupon hc]
    | some coupon => simp [hnone]
  · rw [hpromotions, List.filter_append, hnone', List.nil_append, List.filter_eq_self.mpr]
    · rw [List.map_map]
      rfl
    · intro u hu
      obtain ⟨applied, -, rfl⟩ := List.mem_map.mp hu
      exact decide_eq_true rfl

/-- The usages of the tables refer to orders after the checkout as well. -/
lemma UsagesRefer.createOrder (hrefer : UsagesRefer tables)
    (h : createOrder toUpperCase tables orderNumber userId input now = .ok (order, tables')) :
    UsagesRefer tables' := by
  obtain ⟨⟨priced, after⟩, hpriced, hplaced⟩ := bind_eq_ok.mp h
  obtain ⟨-, -, cache, sellers, rfl⟩ := priceCheckout_eq_ok hpriced
  obtain ⟨hcoupons, hpromotions⟩ := placeOrder_usages hplaced
  have hlength : tables'.orders.length = tables.orders.length + 1 := by
    rw [(placeOrder_eq_ok hplaced).2, List.length_append, List.length_singleton]
  constructor
  · intro u hu
    rw [hcoupons, recordCouponUsage] at hu
    rw [hlength]
    split at hu
    · rcases List.mem_append.mp hu with hu | hu
      · exact (hrefer.coupons u hu).trans (Nat.lt_succ_self _)
      · rw [List.mem_singleton.mp hu]
        exact Nat.lt_succ_self _
    · exact (hrefer.coupons u hu).trans (Nat.lt_succ_self _)
  · intro u hu
    rw [hpromotions] at hu
    rw [hlength]
    rcases List.mem_append.mp hu with hu | hu
    · exact (hrefer.promotions u hu).trans (Nat.lt_succ_self _)
    · obtain ⟨applied, -, rfl⟩ := List.mem_map.mp hu
      exact Nat.lt_succ_self _

/-- What the coupon takes off the cart, and what the promotions take off it, is at most its
subtotal. -/
def DiscountsFit (toUpperCase : String → String) (tables : Tables) (userId : UserId)
    (input : CheckoutInput) (now : Millis) : Prop :=
  ∀ cart coupon, validateCartAndItems tables userId input.cartId now = .ok cart →
    validateAndCalculateDiscount toUpperCase tables input.couponCode cart.subtotal userId now =
      .ok coupon →
    coupon.discountAmount + (previewCart toUpperCase tables (promotionInput input cart.items)
      (some userId) now).1.discountSubtotal ≤ cart.subtotal

/-- **The usages of an order report its discount** exactly if the coupon and the promotions
together stay within the subtotal. -/
theorem discount_attributed_iff (hrefer : UsagesRefer tables)
    (h : createOrder toUpperCase tables orderNumber userId input now = .ok (order, tables')) :
    recordedDiscount tables' tables.orders.length = order.financials.discountTotal ↔
      DiscountsFit toUpperCase tables userId input now := by
  obtain ⟨⟨priced, after⟩, hpriced, hplaced⟩ := bind_eq_ok.mp h
  obtain ⟨hcart, hpromotions, cache, sellers, rfl⟩ := priceCheckout_eq_ok hpriced
  have hplaced : placeOrder { tables with promotionCache := cache, sellers := sellers }
    orderNumber userId input priced now = .ok (order, tables') := hplaced
  obtain ⟨hcoupon, htotal⟩ := priceCheckout_discounts hpriced
  obtain ⟨hsum, hdiscount_mem⟩ := priceCheckout_promotions hpriced
  obtain ⟨hsubtotal_mem, -⟩ := validateCartAndItems_subtotal hcart
  obtain ⟨hcoupon_mem, hcoupon_none⟩ := validateAndCalculateDiscount_amount hcoupon
  have hrecorded : recordedDiscount tables' tables.orders.length =
      priced.coupon.discountAmount + priced.promotions.discountSubtotal := by
    have hrefer' : UsagesRefer { tables with promotionCache := cache, sellers := sellers } :=
      ⟨hrefer.coupons, hrefer.promotions⟩
    have hrecord := recordedDiscount_placeOrder hrefer' hcoupon_none hplaced
    rwa [hsum] at hrecord
  have hgiven : order.financials.discountTotal = min priced.cart.subtotal
      (priced.coupon.discountAmount + priced.promotions.discountSubtotal) := by
    rw [(placeOrder_eq_ok hplaced).1, ← fixedTwo_of_mem
      (Grid.min_mem hsubtotal_mem (add_mem hcoupon_mem hdiscount_mem)), ← htotal]
    rfl
  rw [hrecorded, hgiven, eq_comm, min_eq_right_iff, hpromotions]
  constructor
  · intro hle cart coupon hcart' hcoupon'
    obtain rfl : priced.cart = cart := Except.ok.inj (hcart.symm.trans hcart')
    obtain rfl : priced.coupon = coupon := Except.ok.inj (hcoupon.symm.trans hcoupon')
    exact hle
  · intro hfit
    exact hfit priced.cart priced.coupon hcart hcoupon

end Usages

/-! ## A coupon and a promotion -/

/-- The shop with ten per cent off everything, and a coupon for the price of the lamp. -/
def couponShop (value : ℚ) : Tables where
  __ := (lampShop none (.single (cartSale 1 .percentage 10 0 true .stackableWithOthers)
    (by decide +kernel)) []).toTables
  coupons := [⟨1, "LAMP", .fixedAmount, value, none, none, none, none, none, none, .active⟩]

def couponRequest : CheckoutInput := { lampRequest with couponCode := some "LAMP" }

theorem discount_attributed_iff_half : UsagesRefer (couponShop 500) ∧ ∃ order tables',
    createOrder id (couponShop 500) "ORD-1" 1 couponRequest 0 = .ok (order, tables') ∧
      (recordedDiscount tables' 0 = order.financials.discountTotal ↔
        DiscountsFit id (couponShop 500) 1 couponRequest 0) := by
  have hvalid : (createOrder id (couponShop 500) "ORD-1" 1 couponRequest 0).toOption.isSome := by
    decide +kernel
  obtain ⟨⟨order, tables'⟩, hok⟩ := exists_ok_of_isSome hvalid
  have hrefer : UsagesRefer (couponShop 500) := ⟨by simp [couponShop, lampShop],
    by simp [couponShop, lampShop]⟩
  exact ⟨hrefer, order, tables', hok, discount_attributed_iff hrefer hok⟩

/-- The coupon pays for the lamp, and the promotion is recorded on top of it. -/
theorem coupon_and_promotion_recorded : ¬∀ (toUpperCase : String → String) (tables : Tables)
    (orderNumber : String) (userId : UserId) (input : CheckoutInput) (now : Millis)
    (order : PlacedOrder) (tables' : Tables), UsagesRefer tables →
    createOrder toUpperCase tables orderNumber userId input now = .ok (order, tables') →
    recordedDiscount tables' tables.orders.length = order.financials.discountTotal := by
  intro h
  have hamounts : (createOrder id (couponShop 1000) "ORD-1" 1 couponRequest 0).toOption.map
      (fun r => (recordedDiscount r.2 0, r.1.financials.discountTotal)) = some (1100, 1000) := by
    decide +kernel
  obtain ⟨⟨order, tables'⟩, hok⟩ := exists_ok_of_isSome (x := createOrder id (couponShop 1000)
    "ORD-1" 1 couponRequest 0) (by decide +kernel)
  have hequal := h id (couponShop 1000) "ORD-1" 1 couponRequest 0 order tables'
    ⟨by simp [couponShop, lampShop], by simp [couponShop, lampShop]⟩ hok
  rw [hok] at hamounts
  obtain ⟨hrecorded, hgiven⟩ := Prod.mk.inj (Option.some.inj hamounts)
  have hlength : (couponShop 1000).orders.length = 0 := rfl
  rw [hlength, hrecorded, hgiven] at hequal
  norm_num at hequal

end MeeoServer.Storefront
