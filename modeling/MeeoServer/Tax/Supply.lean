/-
# The place of supply

A catalog rate is charged in two halves inside a state and in one piece across states.  Each half
is rounded to a hundredth of a percent before it meets the amount, so a rate with an odd number of
hundredths becomes a higher one, and the difference grows with the amount.
-/
import MeeoServer.Storefront.Checkout
import MeeoServer.Tax.Components
import Mathlib.Algebra.Order.Archimedean.Basic

namespace MeeoServer

open Storefront (halfRate gstLine resolveTaxDetailsFromProduct)

/-- Two rounded halves add up only if nothing is rounded. -/
lemma add_halves_eq_iff {x : ℚ} :
    roundToTwoDecimals (x / 2) + roundToTwoDecimals (x / 2) = x ↔ x / 2 ∈ hundredths := by
  constructor
  · intro h
    have hround : roundToTwoDecimals (x / 2) = x / 2 := by linarith
    exact mem_hundredths hround
  · intro h
    rw [roundToTwoDecimals_of_mem h]
    ring

/-! ## One amount and two ways to tax it -/

/-- The tax on an amount at two equal rates. -/
def splitTax (half net : ℚ) : ℚ :=
  roundToTwoDecimals (net * half / 100) + roundToTwoDecimals (net * half / 100)

section Split

variable {half rate : ℚ}

/-- Three roundings separate the two taxes. -/
lemma splitTax_near (half rate net : ℚ) :
    |splitTax half net - roundToTwoDecimals (net * rate / 100) -
      net * (half + half - rate) / 100| ≤ 3 / 200 := by
  have hhalf := abs_le.mp (roundToTwoDecimals_near (net * half / 100))
  have hrate := abs_le.mp (roundToTwoDecimals_near (net * rate / 100))
  have hsplit : net * (half + half - rate) / 100 =
      net * half / 100 + net * half / 100 - net * rate / 100 := by ring
  rw [splitTax, hsplit, abs_le]
  constructor <;> linarith

lemma splitTax_agrees (h : half + half = rate) (net : ℚ) :
    |splitTax half net - roundToTwoDecimals (net * rate / 100)| ≤ 2 / 100 := by
  have hnear := splitTax_near half rate net
  rw [h, sub_self, mul_zero, zero_div, sub_zero] at hnear
  linarith

/-- The taxes agree on all amounts only if the rates do: what the rates differ by is multiplied
by the amount. -/
lemma add_halves_of_agrees (h : ∀ net : ℕ, 0 < net →
    |splitTax half net - roundToTwoDecimals (net * rate / 100)| ≤ 2 / 100) :
    half + half = rate := by
  by_contra hne
  have hpos : 0 < |half + half - rate| := abs_pos.mpr (sub_ne_zero.mpr hne)
  obtain ⟨net, hnet⟩ := exists_nat_gt (4 / |half + half - rate|)
  rw [div_lt_iff₀ hpos] at hnet
  have hnet0 : 0 < net := by
    rcases Nat.eq_zero_or_pos net with hzero | hzero
    · rw [hzero, Nat.cast_zero, zero_mul] at hnet
      linarith
    · exact hzero
  have hagrees := abs_le.mp (h net hnet0)
  have hnear := abs_le.mp (splitTax_near half rate net)
  have hsmall : |(net : ℚ) * (half + half - rate) / 100| ≤ 7 / 200 := by
    rw [abs_le]
    constructor <;> linarith
  rw [abs_div, abs_mul, Nat.abs_cast, abs_of_pos (by norm_num : (0 : ℚ) < 100)] at hsmall
  linarith

end Split

/-! ## Derived rates -/

/-- The rates of a line come from the catalog rate of its product or are left to the engine. -/
inductive Derivation where
  | catalog
  | engine
deriving DecidableEq

/-- The three rates that a line of this derivation brings along. -/
def Derivation.rates (rate : ℚ≥0) : Derivation → Option ℚ≥0 × Option ℚ≥0 × Option ℚ≥0
  | .catalog => (some (halfRate rate), some (halfRate rate), some rate)
  | .engine => (none, none, none)

/-- A line whose rates are derived from this rate. -/
structure Derivation.Derives (derivation : Derivation) (rate : ℚ≥0) (item : GstLineItemInput) :
    Prop where
  taxRate_eq : item.taxRate = rate
  rates_eq : (item.cgstRate, item.sgstRate, item.igstRate) = derivation.rates rate

/-- One half of a rate, as it is charged. -/
def chargedHalf (rate : ℚ≥0) : ℚ := roundToTwoDecimals (rate / 2)

lemma halfRate_cast (rate : ℚ≥0) : (halfRate rate : ℚ) = chargedHalf rate := by
  have hnonneg : (0 : ℚ) ≤ rate / 2 := div_nonneg rate.cast_nonneg (by norm_num)
  rw [halfRate, Rat.coe_toNNRat _ (fixedTwo_nonneg hnonneg),
    fixedTwo_of_nonneg hnonneg]
  rfl

lemma chargedHalf_iff (rate : ℚ≥0) :
    chargedHalf rate + chargedHalf rate = (rate : ℚ) ↔ (rate / 2 : ℚ) ∈ hundredths :=
  add_halves_eq_iff

section Derived

variable {derivation : Derivation} {rate : ℚ≥0} {item : GstLineItemInput}

lemma Derivation.Derives.ratesFor_within (h : derivation.Derives rate item)
    (htaxable : item.taxTreatment.getD .taxable = .taxable) : ratesFor false item =
      ⟨chargedHalf rate, chargedHalf rate, 0, item.cessRate.getD 0⟩ := by
  obtain ⟨htax, hrates⟩ := h
  obtain ⟨hcgst, hrest⟩ := Prod.mk.inj hrates
  obtain ⟨hsgst, -⟩ := Prod.mk.inj hrest
  rw [ratesFor, if_pos htaxable, hcgst, hsgst, htax]
  cases derivation with
  | catalog => simp [halfRate_cast]
  | engine => rfl

lemma Derivation.Derives.ratesFor_across (h : derivation.Derives rate item)
    (htaxable : item.taxTreatment.getD .taxable = .taxable) : ratesFor true item =
      ⟨0, 0, rate, item.cessRate.getD 0⟩ := by
  obtain ⟨htax, hrates⟩ := h
  obtain ⟨-, hrest⟩ := Prod.mk.inj hrates
  obtain ⟨-, higst⟩ := Prod.mk.inj hrest
  rw [ratesFor, if_pos htaxable, higst, htax]
  cases derivation with
  | catalog => rfl
  | engine => rfl

/-- The catalog rate of a product, unless a rule of the law replaces it. -/
lemma resolveTaxDetailsFromProduct_rates {tables : Storefront.Tables}
    {product : Storefront.Product} {now : Millis} {tax : Storefront.TaxDetails}
    (h : resolveTaxDetailsFromProduct tables product now = .ok tax) (hrule : tax.gstRuleId = none) :
    tax.combinedRate = product.taxRate ∧ tax.cgstRate = halfRate product.taxRate ∧
      tax.sgstRate = halfRate product.taxRate ∧ tax.igstRate = product.taxRate := by
  simp only [resolveTaxDetailsFromProduct] at h
  split at h
  · cases h
    exact ⟨rfl, rfl, rfl, rfl⟩
  · obtain ⟨rule, -, h⟩ := bind_eq_ok.mp h
    cases rule with
    | some rule =>
      cases h
      cases hrule
    | none =>
      cases h
      exact ⟨rfl, rfl, rfl, rfl⟩

/-- The catalog rate of a product reaches its line. -/
lemma derives_gstLine {tables : Storefront.Tables} {product : Storefront.Product} {now : Millis}
    {i : Storefront.ValidatedCartItem}
    (htax : resolveTaxDetailsFromProduct tables product now = .ok i.tax)
    (hrule : i.tax.gstRuleId = none) (hitem : gstLine i = .ok item) :
    Derivation.catalog.Derives product.taxRate item := by
  obtain ⟨hcombined, hcgst, hsgst, higst⟩ := resolveTaxDetailsFromProduct_rates htax hrule
  unfold gstLine at hitem
  split at hitem
  · cases hitem
  · cases hitem
    exact ⟨hcombined, by rw [hcgst, hsgst, higst]; rfl⟩

end Derived

/-! ## One order and two supplies -/

/-- The same order, supplied inside a state and across states. -/
structure TwoSupplies (within across : OrderGstParams) : Prop where
  within_eq : within.isInterState = false
  across_eq : across.isInterState = true
  items_eq : across.items = within.items
  totalDiscount_eq : across.totalDiscount = within.totalDiscount
  shippingFee_eq : across.shippingFee = within.shippingFee
  isFreeShipping_eq : across.isFreeShipping = within.isFreeShipping
  shippingGstRate_eq : across.shippingGstRate = within.shippingGstRate

lemma TwoSupplies.discountMap_eq {within across : OrderGstParams} (h : TwoSupplies within across) :
    across.discountMap = within.discountMap := by
  simp only [OrderGstParams.discountMap, OrderGstParams.discount, h.items_eq, h.totalDiscount_eq]

lemma TwoSupplies.fee_eq {within across : OrderGstParams} (h : TwoSupplies within across) :
    across.fee = within.fee := by
  simp only [OrderGstParams.fee, h.isFreeShipping_eq, h.shippingFee_eq]

/-- The two calculations of each line with rates derived from this rate are so related. -/
def OnLines (derivation : Derivation) (rate : ℚ≥0)
    (related : CalculatedGstLineItem → CalculatedGstLineItem → Prop) : Prop :=
  ∀ within across, TwoSupplies within across → ∀ (i : ℕ) (item : GstLineItemInput),
    within.items[i]? = some item → derivation.Derives rate item →
    ∀ line ∈ (calculateOrderGst within).items[i]?, ∀ line' ∈ (calculateOrderGst across).items[i]?,
      related line line'

/-- The two calculations of each delivery that is charged this rate are so related. -/
def OnDeliveries (rate : ℚ≥0)
    (related : GstShippingCalculation → GstShippingCalculation → Prop) : Prop :=
  ∀ within across, TwoSupplies within across → within.shippingGstRate = some rate →
    related (calculateOrderGst within).shipping (calculateOrderGst across).shipping

/-- The taxes on a line differ by two hundredths at most. -/
def SameTax (derivation : Derivation) (rate : ℚ≥0) : Prop :=
  OnLines derivation rate fun line line' =>
    |line.totalTaxAmount - line'.totalTaxAmount| ≤ 2 / 100

/-- Inside a state a taxable line is charged the combined rate in two parts. -/
def SameRates (derivation : Derivation) (rate : ℚ≥0) : Prop :=
  OnLines derivation rate fun line line' => line.taxTreatment = .taxable →
    line.cgstRate + line.sgstRate = rate ∧ line'.igstRate = rate

/-- The taxes on a delivery differ by two hundredths at most. -/
def SameDelivery (rate : ℚ≥0) : Prop :=
  OnDeliveries rate fun shipping shipping' =>
    |shipping.totalTaxAmount - shipping'.totalTaxAmount| ≤ 2 / 100

section Lines

variable {derivation : Derivation} {rate : ℚ≥0}

lemma onLines_iff {related : CalculatedGstLineItem → CalculatedGstLineItem → Prop} :
    OnLines derivation rate related ↔ ∀ within across, TwoSupplies within across →
      ∀ item ∈ within.items, derivation.Derives rate item →
        related (calculateLine false within.discountMap item)
          (calculateLine true within.discountMap item) := by
  have hlines : ∀ within across, TwoSupplies within across → ∀ (i : ℕ) item,
      within.items[i]? = some item →
      (calculateOrderGst within).items[i]? =
        some (calculateLine false within.discountMap item) ∧
      (calculateOrderGst across).items[i]? =
        some (calculateLine true within.discountMap item) := by
    intro within across htwo i item hitem
    rw [calculateOrderGst_items, calculateOrderGst_items, List.getElem?_map, List.getElem?_map,
      htwo.items_eq, htwo.discountMap_eq, htwo.within_eq, htwo.across_eq, hitem]
    exact ⟨rfl, rfl⟩
  constructor
  · intro h within across htwo item hitem hderives
    obtain ⟨i, hi⟩ := List.mem_iff_getElem?.mp hitem
    obtain ⟨hwithin, hacross⟩ := hlines within across htwo i item hi
    exact h within across htwo i item hi hderives _ hwithin _ hacross
  · intro h within across htwo i item hi hderives line hline line' hline'
    obtain ⟨hwithin, hacross⟩ := hlines within across htwo i item hi
    rw [hwithin] at hline
    rw [hacross] at hline'
    cases hline
    cases hline'
    exact h within across htwo item (List.mem_of_getElem? hi) hderives

/-- With equal sums of rates, an inclusive price contains the same net amount. -/
lemma netTaxableAmount_eq {item : GstLineItemInput} (h : derivation.Derives rate item)
    (hhalf : chargedHalf rate + chargedHalf rate = rate) (discountMap : String → Option ℚ) :
    (calculateLine true discountMap item).netTaxableAmount =
      (calculateLine false discountMap item).netTaxableAmount := by
  have htotal : (ratesFor true item).totalRate = (ratesFor false item).totalRate := by
    by_cases htaxable : item.taxTreatment.getD .taxable = .taxable
    · rw [h.ratesFor_within htaxable, h.ratesFor_across htaxable, GstRates.totalRate,
        GstRates.totalRate, hhalf]
      ring
    · rw [ratesFor, ratesFor, if_neg htaxable, if_neg htaxable]
  simp only [calculateLine, netTaxable, htotal]

/-- The taxes on a net amount inside a state and across states: the cess is the same. -/
lemma taxesOn_sub {item : GstLineItemInput} (h : derivation.Derives rate item)
    (htaxable : item.taxTreatment.getD .taxable = .taxable) {net : ℚ} (hnet : 0 < net) :
    (taxesOn false .taxable (ratesFor false item) net).total -
        (taxesOn true .taxable (ratesFor true item) net).total =
      splitTax (chargedHalf rate) net - roundToTwoDecimals (net * rate / 100) := by
  rw [h.ratesFor_within htaxable, h.ratesFor_across htaxable]
  simp only [taxesOn, hnet, and_self, Bool.false_eq_true, if_false, if_true, GstAmounts.total,
    splitTax]
  ring

lemma sameTax_of_halves (hhalf : chargedHalf rate + chargedHalf rate = rate) :
    SameTax derivation rate := by
  refine onLines_iff.mpr fun within across htwo item hitem hderives => ?_
  rw [calculateLine_totalTaxAmount, calculateLine_totalTaxAmount, calculateLine_amounts,
    calculateLine_amounts, netTaxableAmount_eq hderives hhalf]
  set net := (calculateLine false within.discountMap item).netTaxableAmount
  by_cases htaxed : item.taxTreatment.getD .taxable = .taxable ∧ 0 < net
  · rw [htaxed.1, taxesOn_sub hderives htaxed.1 htaxed.2]
    exact splitTax_agrees hhalf net
  · rw [taxesOn, taxesOn, if_neg htaxed, if_neg htaxed, sub_self, abs_zero]
    norm_num

lemma sameRates_of_halves (hhalf : chargedHalf rate + chargedHalf rate = rate) :
    SameRates derivation rate := by
  refine onLines_iff.mpr fun within across htwo item hitem hderives htaxable => ?_
  have hwithin := hderives.ratesFor_within htaxable
  have hacross := hderives.ratesFor_across htaxable
  refine ⟨?_, congrArg GstRates.igstRate hacross⟩
  show (ratesFor false item).cgstRate + (ratesFor false item).sgstRate = rate
  rw [hwithin, hhalf]

end Lines

/-- The taxes on a delivery inside a state and across states. -/
lemma calculateShipping_sub {fee : ℚ} (hfee : 0 < fee) (rate : ℚ≥0) :
    (calculateShipping false fee rate).totalTaxAmount -
        (calculateShipping true fee rate).totalTaxAmount =
      splitTax (chargedHalf rate) fee - roundToTwoDecimals (fee * rate / 100) := by
  have hwithin : (calculateShipping false fee rate).totalTaxAmount =
      roundToTwoDecimals (splitTax (chargedHalf rate) fee + 0) := by
    simp [calculateShipping, hfee, splitTax, chargedHalf]
  have hacross : (calculateShipping true fee rate).totalTaxAmount =
      roundToTwoDecimals (0 + 0 + roundToTwoDecimals (fee * rate / 100)) := by
    simp [calculateShipping, hfee]
  have hmem : splitTax (chargedHalf rate) fee ∈ hundredths :=
    add_mem (roundToTwoDecimals_mem _) (roundToTwoDecimals_mem _)
  rw [hwithin, hacross, add_zero, add_zero, zero_add, roundToTwoDecimals_of_mem hmem,
    roundToTwoDecimals_of_mem (roundToTwoDecimals_mem _)]

lemma onDeliveries_iff {rate : ℚ≥0}
    {related : GstShippingCalculation → GstShippingCalculation → Prop} :
    OnDeliveries rate related ↔ ∀ within across, TwoSupplies within across →
      within.shippingGstRate = some rate → related (calculateShipping false within.fee rate)
        (calculateShipping true within.fee rate) := by
  have hshipping : ∀ params : OrderGstParams, params.shippingGstRate = some rate →
      (calculateOrderGst params).shipping =
        calculateShipping params.isInterState params.fee rate := by
    intro params hrate
    show calculateShipping params.isInterState params.fee
      ((params.shippingGstRate.map NNRat.cast).getD 0) = _
    rw [hrate]
    rfl
  refine forall₄_congr fun within across htwo hrate => ?_
  rw [hshipping within hrate, hshipping across (htwo.shippingGstRate_eq.trans hrate),
    htwo.fee_eq, htwo.within_eq, htwo.across_eq]

lemma sameDelivery_of_halves {rate : ℚ≥0} (hhalf : chargedHalf rate + chargedHalf rate = rate) :
    SameDelivery rate := by
  refine onDeliveries_iff.mpr fun within across htwo hrate => ?_
  rcases within.fee_nonneg.eq_or_lt with hzero | hpos
  · have hfree : ∀ isInterState, (calculateShipping isInterState 0 rate).totalTaxAmount = 0 := by
      intro isInterState
      simp [calculateShipping]
    rw [← hzero, hfree, hfree, sub_zero, abs_zero]
    norm_num
  · rw [calculateShipping_sub hpos]
    exact splitTax_agrees hhalf _

/-! ## An order that shows the difference -/

/-- A lamp at this price with rates derived from this one. -/
def lamp (derivation : Derivation) (rate : ℚ≥0) (price : ℕ) : GstLineItemInput where
  id := "a"
  productId := "p1"
  productName := "Lamp"
  sku := none
  hsnCode := "9405"
  quantity := 1
  unitPrice := price
  taxRate := rate
  cgstRate := (derivation.rates rate).1
  sgstRate := (derivation.rates rate).2.1
  igstRate := (derivation.rates rate).2.2
  cessRate := none
  taxTreatment := none
  gstRuleId := none
  isInclusive := none

/-- The order of a lamp from Maharashtra, delivered for its price. -/
def lampOrder (derivation : Derivation) (rate : ℚ≥0) (price : ℕ) (customerState : String) :
    OrderGstParams where
  sellerState := "27"
  customerState := customerState
  items := [lamp derivation rate price]
  totalDiscount := none
  shippingFee := some price
  isFreeShipping := none
  shippingGstRate := some rate

section Lamp

variable {derivation : Derivation} {rate : ℚ≥0}

lemma lamp_derives (derivation : Derivation) (rate : ℚ≥0) (price : ℕ) :
    derivation.Derives rate (lamp derivation rate price) := ⟨rfl, rfl⟩

lemma lampOrder_twoSupplies (derivation : Derivation) (rate : ℚ≥0) (price : ℕ) :
    TwoSupplies (lampOrder derivation rate price "27") (lampOrder derivation rate price "29") where
  within_eq := by
    show (determinePlaceOfSupply "27" "27").isInterState = false
    decide +kernel
  across_eq := by
    show (determinePlaceOfSupply "27" "29").isInterState = true
    decide +kernel
  items_eq := rfl
  totalDiscount_eq := rfl
  shippingFee_eq := rfl
  isFreeShipping_eq := rfl
  shippingGstRate_eq := rfl

lemma natCast_mem_hundredths (n : ℕ) : (n : ℚ) ∈ hundredths :=
  Grid.mem_grid.mpr ⟨n * 100, by push_cast; ring⟩

lemma lampOrder_fee (derivation : Derivation) (rate : ℚ≥0) (price : ℕ) (state : String) :
    (lampOrder derivation rate price state).fee = price := by
  show roundToTwoDecimals (max 0 (price : ℚ)) = price
  rw [max_eq_right price.cast_nonneg, roundToTwoDecimals_of_mem (natCast_mem_hundredths price)]

lemma lampOrder_discountMap (derivation : Derivation) (rate : ℚ≥0) (price : ℕ) (state : String) :
    ((lampOrder derivation rate price state).discountMap "a").getD 0 = 0 := by
  have hdiscount : (lampOrder derivation rate price state).discount = 0 := by
    show roundToTwoDecimals (max 0 0) = 0
    rw [max_self, roundToTwoDecimals_zero]
  rw [OrderGstParams.discountMap, hdiscount, allocateDiscounts, if_pos (.inl le_rfl)]
  simp [lampOrder, lamp, GstLineItemInput.gross]

lemma lampOrder_net (isInterState : Bool) (price : ℕ) (state : String) :
    (calculateLine isInterState (lampOrder derivation rate price state).discountMap
      (lamp derivation rate price)).netTaxableAmount = price := by
  have hmem := natCast_mem_hundredths price
  have hgross : grossLineTotal (lamp derivation rate price) = price := by
    show roundToTwoDecimals (((price : ℚ≥0) : ℚ) * ((1 : ℕ) : ℚ)) = price
    rw [Nat.cast_one, mul_one, NNRat.cast_natCast, roundToTwoDecimals_of_mem hmem]
  show roundToTwoDecimals (max 0 (grossLineTotal (lamp derivation rate price) -
    ((lampOrder derivation rate price state).discountMap "a").getD 0)) = price
  rw [lampOrder_discountMap, hgross, sub_zero, max_eq_right price.cast_nonneg,
    roundToTwoDecimals_of_mem hmem]

lemma halves_of_sameTax (h : SameTax derivation rate) :
    chargedHalf rate + chargedHalf rate = rate := by
  refine add_halves_of_agrees fun price hprice => ?_
  have hlamp := onLines_iff.mp h _ _ (lampOrder_twoSupplies derivation rate price) _
    (List.mem_singleton_self _) (lamp_derives derivation rate price)
  rw [calculateLine_totalTaxAmount, calculateLine_totalTaxAmount, calculateLine_amounts,
    calculateLine_amounts, lampOrder_net, lampOrder_net] at hlamp
  rw [← taxesOn_sub (lamp_derives derivation rate price) rfl (Nat.cast_pos.mpr hprice)]
  exact hlamp

lemma halves_of_sameRates (h : SameRates derivation rate) :
    chargedHalf rate + chargedHalf rate = rate := by
  have hrates := (onLines_iff.mp h _ _ (lampOrder_twoSupplies derivation rate 0) _
    (List.mem_singleton_self _) (lamp_derives derivation rate 0) rfl).1
  have hwithin := (lamp_derives derivation rate 0).ratesFor_within rfl
  calc chargedHalf rate + chargedHalf rate
      = (ratesFor false (lamp derivation rate 0)).cgstRate +
          (ratesFor false (lamp derivation rate 0)).sgstRate := by rw [hwithin]
    _ = rate := hrates

lemma halves_of_sameDelivery (h : SameDelivery rate) :
    chargedHalf rate + chargedHalf rate = rate := by
  refine add_halves_of_agrees fun price hprice => ?_
  have hlamp := onDeliveries_iff.mp h _ _ (lampOrder_twoSupplies .engine rate price) rfl
  rwa [lampOrder_fee, calculateShipping_sub (Nat.cast_pos.mpr hprice)] at hlamp

end Lamp

/-- **The place of supply.**  The taxes inside a state and across states agree for all amounts, on
lines and on deliveries, exactly if half of the rate has two decimals, and exactly then the two
halves add up to the combined rate. -/
theorem place_of_supply_iff (derivation : Derivation) (rate : ℚ≥0) :
    (SameTax derivation rate ↔ (rate / 2 : ℚ) ∈ hundredths) ∧
      (SameRates derivation rate ↔ (rate / 2 : ℚ) ∈ hundredths) ∧
      (SameDelivery rate ↔ (rate / 2 : ℚ) ∈ hundredths) := by
  rw [← chargedHalf_iff]
  exact ⟨⟨halves_of_sameTax, sameTax_of_halves⟩, ⟨halves_of_sameRates, sameRates_of_halves⟩,
    ⟨halves_of_sameDelivery, sameDelivery_of_halves⟩⟩

/-- A quarter of a percent. -/
def quarterPercent : ℚ≥0 := ⟨1 / 4, by norm_num⟩

/-- A quarter of a percent on 1000 is 2.50 across states.  Inside a state it is 0.13 percent and
0.13 percent, which makes 2.60. -/
theorem quarter_charged_more : ¬∀ (derivation : Derivation) (rate : ℚ≥0),
    (rate : ℚ) ∈ hundredths →
      SameTax derivation rate ∧ SameRates derivation rate ∧ SameDelivery rate := by
  intro h
  have hmem : (quarterPercent : ℚ) ∈ hundredths := mem_hundredths (by decide +kernel)
  have hlines := (h .catalog quarterPercent hmem).1 _ _
    (lampOrder_twoSupplies .catalog quarterPercent 1000) 0 _ rfl (lamp_derives _ _ _)
  have hdiffer := hlines _ rfl _ rfl
  revert hdiffer
  decide +kernel

end MeeoServer
