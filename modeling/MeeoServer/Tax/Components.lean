/-
# The components of the tax

The totals of an order are the sums of their columns: all amounts are hundredths, so rounding
them once more changes nothing.  Central and state tax are charged inside a state, integrated
tax across states, and none of them on a line that is not taxable.
-/
import MeeoServer.Tax.Reconciliation

namespace MeeoServer

/-- Only integrated tax across states, none of it inside one. -/
structure GstAmounts.Separated (taxes : GstAmounts) (isInterState : Bool) : Prop where
  cgst_eq : isInterState = true → taxes.cgstAmount = 0
  sgst_eq : isInterState = true → taxes.sgstAmount = 0
  igst_eq : isInterState = false → taxes.igstAmount = 0

lemma taxesOn_separated (isInterState : Bool) (treatment : TaxTreatment) (rates : GstRates)
    (net : ℚ) : (taxesOn isInterState treatment rates net).Separated isInterState := by
  unfold taxesOn
  split
  · cases isInterState with
    | true => exact ⟨fun _ => rfl, fun _ => rfl, fun h => Bool.noConfusion h⟩
    | false => exact ⟨fun h => Bool.noConfusion h, fun h => Bool.noConfusion h, fun _ => rfl⟩
  · exact ⟨fun _ => rfl, fun _ => rfl, fun _ => rfl⟩

lemma taxesOn_of_ne_taxable {treatment : TaxTreatment} (h : treatment ≠ .taxable)
    (isInterState : Bool) (rates : GstRates) (net : ℚ) :
    taxesOn isInterState treatment rates net = ⟨0, 0, 0, 0⟩ := by
  rw [taxesOn, if_neg fun hnet => h hnet.1]

namespace CalculatedGstLineItem

/-- The taxes of a line of the invoice. -/
def amounts (line : CalculatedGstLineItem) : GstAmounts :=
  ⟨line.cgstAmount, line.sgstAmount, line.igstAmount, line.cessAmount⟩

end CalculatedGstLineItem

namespace GstShippingCalculation

/-- The taxes on the delivery: there is no cess on it. -/
def amounts (shipping : GstShippingCalculation) : GstAmounts :=
  ⟨shipping.cgstAmount, shipping.sgstAmount, shipping.igstAmount, 0⟩

end GstShippingCalculation

namespace GstTotals

/-- The taxes of the order. -/
def amounts (totals : GstTotals) : GstAmounts :=
  ⟨totals.totalCgstAmount, totals.totalSgstAmount, totals.totalIgstAmount,
    totals.totalCessAmount⟩

end GstTotals

namespace GstCalculationResult

/-- The totals of an order are the sums of their columns. -/
structure TotalsAdd (result : GstCalculationResult) : Prop where
  cgst_eq : result.totals.totalCgstAmount =
    (result.items.map (·.cgstAmount)).sum + result.shipping.cgstAmount
  sgst_eq : result.totals.totalSgstAmount =
    (result.items.map (·.sgstAmount)).sum + result.shipping.sgstAmount
  igst_eq : result.totals.totalIgstAmount =
    (result.items.map (·.igstAmount)).sum + result.shipping.igstAmount
  cess_eq : result.totals.totalCessAmount = (result.items.map (·.cessAmount)).sum
  tax_eq : result.totals.totalTaxAmount =
    (result.items.map (·.totalTaxAmount)).sum + result.shipping.totalTaxAmount
  taxable_eq : result.totals.totalTaxableAmount =
    (result.items.map (·.netTaxableAmount)).sum + result.shipping.shippingFee

/-- The kinds of tax exclude each other, in the lines, the delivery and the totals. -/
structure Separated (result : GstCalculationResult) : Prop where
  line : ∀ line ∈ result.items, line.amounts.Separated result.placeOfSupply.isInterState
  shipping : result.shipping.amounts.Separated result.placeOfSupply.isInterState
  totals : result.totals.amounts.Separated result.placeOfSupply.isInterState

/-- A line that is not taxable bears no tax. -/
def UntaxedFree (result : GstCalculationResult) : Prop :=
  ∀ line ∈ result.items, line.taxTreatment ≠ .taxable →
    line.amounts = ⟨0, 0, 0, 0⟩ ∧ line.totalTaxAmount = 0

end GstCalculationResult

/-! ## The lines and the delivery -/

section Line

variable (isInterState : Bool) (discountMap : String → Option ℚ) (item : GstLineItemInput)

lemma calculateLine_amounts : (calculateLine isInterState discountMap item).amounts =
    taxesOn isInterState (item.taxTreatment.getD .taxable) (ratesFor isInterState item)
      (calculateLine isInterState discountMap item).netTaxableAmount := rfl

lemma calculateLine_valid : (calculateLine isInterState discountMap item).amounts.Valid :=
  taxesOn_valid _ _ _ _ (ratesFor_nonneg _ item)

lemma calculateLine_totalTaxAmount :
    (calculateLine isInterState discountMap item).totalTaxAmount =
      (calculateLine isInterState discountMap item).amounts.total :=
  roundToTwoDecimals_of_mem (calculateLine_valid isInterState discountMap item).total_mem

lemma calculateLine_net_mem :
    (calculateLine isInterState discountMap item).netTaxableAmount ∈ hundredths := by
  show netTaxable _ _ _ _ ∈ hundredths
  unfold netTaxable
  split
  · exact roundToTwoDecimals_mem _
  · exact roundToTwoDecimals_mem _

end Line

lemma calculateShipping_separated (isInterState : Bool) (fee rate : ℚ) :
    (calculateShipping isInterState fee rate).amounts.Separated isInterState := by
  cases isInterState with
  | true =>
    refine ⟨fun _ => ?_, fun _ => ?_, fun h => Bool.noConfusion h⟩
    · simp [GstShippingCalculation.amounts, calculateShipping]
    · simp [GstShippingCalculation.amounts, calculateShipping]
  | false =>
    refine ⟨fun h => Bool.noConfusion h, fun h => Bool.noConfusion h, fun _ => ?_⟩
    simp [GstShippingCalculation.amounts, calculateShipping]

namespace OrderGstParams

variable (params : OrderGstParams)

/-- The fee that is charged for the delivery. -/
def fee : ℚ :=
  if params.isFreeShipping.getD false then 0
  else roundToTwoDecimals (max 0 (params.shippingFee.getD 0))

lemma fee_mem : params.fee ∈ hundredths := by
  unfold fee
  split
  · exact zero_mem _
  · exact roundToTwoDecimals_mem _

lemma fee_nonneg : 0 ≤ params.fee := by
  unfold fee
  split
  · exact le_rfl
  · exact roundToTwoDecimals_nonneg (le_max_left _ _)

/-- The shares in the discount, by line. -/
def discountMap : String → Option ℚ :=
  allocateDiscounts (params.items.map GstLineItemInput.gross) params.discount

end OrderGstParams

section Order

variable (params : OrderGstParams)

lemma calculateOrderGst_items : (calculateOrderGst params).items =
    params.items.map (calculateLine params.isInterState params.discountMap) := rfl

lemma shipping_valid : (calculateOrderGst params).shipping.Valid := by
  have hrate : (0 : ℚ) ≤ (params.shippingGstRate.map NNRat.cast).getD 0 := by
    cases params.shippingGstRate with
    | none => exact le_rfl
    | some rate => exact rate.cast_nonneg
  exact calculateShipping_valid params.isInterState params.fee_nonneg hrate

/-- A column of the lines is a sum of money if each of its entries is. -/
lemma column_mem (column : CalculatedGstLineItem → ℚ)
    (h : ∀ item, column (calculateLine params.isInterState params.discountMap item) ∈
      hundredths) :
    ((calculateOrderGst params).items.map column).sum ∈ hundredths := by
  refine Grid.sum_mem fun x hx => ?_
  rw [calculateOrderGst_items, List.map_map] at hx
  obtain ⟨item, -, rfl⟩ := List.mem_map.mp hx
  exact h item

/-- The tax column is the sum of the others. -/
lemma totalTax_column : ((calculateOrderGst params).items.map (·.totalTaxAmount)).sum =
    ((calculateOrderGst params).items.map (·.cgstAmount)).sum +
      ((calculateOrderGst params).items.map (·.sgstAmount)).sum +
      ((calculateOrderGst params).items.map (·.igstAmount)).sum +
      ((calculateOrderGst params).items.map (·.cessAmount)).sum := by
  rw [← List.sum_map_add, ← List.sum_map_add, ← List.sum_map_add]
  refine congrArg List.sum (List.map_congr_left fun line hline => ?_)
  rw [calculateOrderGst_items] at hline
  obtain ⟨item, -, rfl⟩ := List.mem_map.mp hline
  exact calculateLine_totalTaxAmount _ _ _

/-- Rounded once more, the totals are what they were. -/
theorem calculateOrderGst_totalsAdd : (calculateOrderGst params).TotalsAdd := by
  have hvalid := calculateLine_valid params.isInterState params.discountMap
  have hshipping := shipping_valid params
  set result := calculateOrderGst params with hresult
  have hc : (result.items.map (·.cgstAmount)).sum + result.shipping.cgstAmount ∈ hundredths :=
    add_mem (column_mem params _ fun i => (hvalid i).cgst_mem) hshipping.cgst_mem
  have hs : (result.items.map (·.sgstAmount)).sum + result.shipping.sgstAmount ∈ hundredths :=
    add_mem (column_mem params _ fun i => (hvalid i).sgst_mem) hshipping.sgst_mem
  have hi : (result.items.map (·.igstAmount)).sum + result.shipping.igstAmount ∈ hundredths :=
    add_mem (column_mem params _ fun i => (hvalid i).igst_mem) hshipping.igst_mem
  have he : (result.items.map (·.cessAmount)).sum ∈ hundredths :=
    column_mem params _ fun i => (hvalid i).cess_mem
  have hnet : (result.items.map (·.netTaxableAmount)).sum + result.shipping.shippingFee ∈
      hundredths :=
    add_mem (column_mem params (·.netTaxableAmount)
      (calculateLine_net_mem params.isInterState params.discountMap)) params.fee_mem
  have hcgst : result.totals.totalCgstAmount =
      (result.items.map (·.cgstAmount)).sum + result.shipping.cgstAmount :=
    roundToTwoDecimals_of_mem hc
  have hsgst : result.totals.totalSgstAmount =
      (result.items.map (·.sgstAmount)).sum + result.shipping.sgstAmount :=
    roundToTwoDecimals_of_mem hs
  have higst : result.totals.totalIgstAmount =
      (result.items.map (·.igstAmount)).sum + result.shipping.igstAmount :=
    roundToTwoDecimals_of_mem hi
  have hcess : result.totals.totalCessAmount = (result.items.map (·.cessAmount)).sum :=
    roundToTwoDecimals_of_mem he
  refine ⟨hcgst, hsgst, higst, hcess, ?_, roundToTwoDecimals_of_mem hnet⟩
  have htax : result.totals.totalTaxAmount = roundToTwoDecimals
      (result.totals.totalCgstAmount + result.totals.totalSgstAmount +
        result.totals.totalIgstAmount + result.totals.totalCessAmount) := rfl
  rw [htax, hcgst, hsgst, higst, hcess,
    roundToTwoDecimals_of_mem (add_mem (add_mem (add_mem hc hs) hi) he), totalTax_column,
    hshipping.tax_eq]
  ring

/-- A column that is zero in every line adds up to zero. -/
lemma column_eq_zero {column : CalculatedGstLineItem → ℚ}
    (h : ∀ line ∈ (calculateOrderGst params).items, column line = 0) :
    ((calculateOrderGst params).items.map column).sum = 0 := by
  refine List.sum_eq_zero fun x hx => ?_
  obtain ⟨line, hline, rfl⟩ := List.mem_map.mp hx
  exact h line hline

theorem calculateOrderGst_separated : (calculateOrderGst params).Separated := by
  have hline : ∀ line ∈ (calculateOrderGst params).items,
      line.amounts.Separated params.isInterState := by
    intro line hline
    rw [calculateOrderGst_items] at hline
    obtain ⟨item, -, rfl⟩ := List.mem_map.mp hline
    rw [calculateLine_amounts]
    exact taxesOn_separated _ _ _ _
  have hshipping : (calculateOrderGst params).shipping.amounts.Separated params.isInterState :=
    calculateShipping_separated _ _ _
  have hadd := calculateOrderGst_totalsAdd params
  have hplace : (calculateOrderGst params).placeOfSupply.isInterState = params.isInterState := rfl
  refine ⟨hline, hshipping, ⟨?_, ?_, ?_⟩⟩
  · intro hinter
    have hzero := column_eq_zero params fun line hl => (hline line hl).cgst_eq hinter
    show (calculateOrderGst params).totals.totalCgstAmount = 0
    rw [hadd.cgst_eq]
    exact (congrArg₂ (· + ·) hzero (hshipping.cgst_eq hinter)).trans (add_zero 0)
  · intro hinter
    have hzero := column_eq_zero params fun line hl => (hline line hl).sgst_eq hinter
    show (calculateOrderGst params).totals.totalSgstAmount = 0
    rw [hadd.sgst_eq]
    exact (congrArg₂ (· + ·) hzero (hshipping.sgst_eq hinter)).trans (add_zero 0)
  · intro hinter
    have hzero := column_eq_zero params fun line hl => (hline line hl).igst_eq hinter
    show (calculateOrderGst params).totals.totalIgstAmount = 0
    rw [hadd.igst_eq]
    exact (congrArg₂ (· + ·) hzero (hshipping.igst_eq hinter)).trans (add_zero 0)

theorem calculateOrderGst_untaxedFree : (calculateOrderGst params).UntaxedFree := by
  intro line hline htreatment
  rw [calculateOrderGst_items] at hline
  obtain ⟨item, -, rfl⟩ := List.mem_map.mp hline
  have hamounts : (calculateLine params.isInterState params.discountMap item).amounts =
      ⟨0, 0, 0, 0⟩ := by
    rw [calculateLine_amounts]
    exact taxesOn_of_ne_taxable htreatment _ _ _
  refine ⟨hamounts, ?_⟩
  rw [calculateLine_totalTaxAmount, hamounts]
  simp [GstAmounts.total]

/-- **The components of the tax.**  In the calculation of an order all totals are the sums of
their columns, central and state tax exclude integrated tax, and what is not taxable bears no
tax. -/
theorem components_consistent : (calculateOrderGst params).TotalsAdd ∧
    (calculateOrderGst params).Separated ∧ (calculateOrderGst params).UntaxedFree :=
  ⟨calculateOrderGst_totalsAdd params, calculateOrderGst_separated params,
    calculateOrderGst_untaxedFree params⟩

end Order

/-! ## Prices that contain their tax -/

lemma roundToTwoDecimals_near (x : ℚ) : |roundToTwoDecimals x - x| ≤ 1 / 200 := by
  have h := Grid.abs_roundHalfUp_sub_le (n := 100) (by decide) x
  norm_num at h
  rw [roundToTwoDecimals]
  linarith

lemma le_roundToTwoDecimals_iff {x y : ℚ} (hy : y ∈ hundredths) :
    y ≤ roundToTwoDecimals x ↔ y - 1 / 200 ≤ x := by
  have h := Grid.le_roundHalfUp_iff (n := 100) (by decide) (x := x) hy
  norm_num at h
  rw [roundToTwoDecimals, h]
  norm_num

/-- At most two and a half hundredths are at most two. -/
lemma abs_le_of_mem {x : ℚ} (hx : x ∈ hundredths) (h : |x| ≤ 1 / 40) : |x| ≤ 2 / 100 := by
  have htwo : (2 / 100 : ℚ) ∈ hundredths := mem_hundredths (by decide +kernel)
  have habs : |x| ∈ hundredths := by
    rcases abs_choice x with h | h
    · rwa [h]
    · rw [h]
      exact neg_mem hx
  refine Grid.le_of_lt_add (by decide) habs htwo ?_
  norm_num
  linarith

namespace CalculatedGstLineItem

def totalRate (line : CalculatedGstLineItem) : ℚ :=
  line.cgstRate + line.sgstRate + line.igstRate + line.cessRate

/-- The net amount and the tax of a line account for the price after the discount. -/
structure Decomposes (line : CalculatedGstLineItem) : Prop where
  near : |line.netTaxableAmount + line.totalTaxAmount - line.finalLineTotal| ≤ 2 / 100
  final_eq : line.finalLineTotal = line.grossLineTotal - line.allocatedDiscount

end CalculatedGstLineItem

/-- The taxes on a net amount are those of its rates, up to three roundings. -/
lemma taxesOn_near (isInterState : Bool) (item : GstLineItemInput) {net : ℚ} (hnet : 0 < net)
    (htaxable : item.taxTreatment.getD .taxable = .taxable) :
    |(taxesOn isInterState (item.taxTreatment.getD .taxable) (ratesFor isInterState item)
      net).total - net * (ratesFor isInterState item).totalRate / 100| ≤ 3 / 200 := by
  set rates := ratesFor isInterState item with hrates
  have hround : ∀ rate : ℚ, |roundToTwoDecimals (net * rate / 100) - net * rate / 100| ≤ 1 / 200 :=
    fun rate => roundToTwoDecimals_near _
  obtain ⟨-, -, -, hcess⟩ := ratesFor_nonneg isInterState item
  -- the code skips a cess of nothing, which rounds to the same
  have hcessAmount : (if 0 < rates.cessRate then
      roundToTwoDecimals (net * rates.cessRate / 100) else 0) =
      roundToTwoDecimals (net * rates.cessRate / 100) := by
    split
    · rfl
    · rename_i hpos
      have hzero : rates.cessRate = 0 := le_antisymm (not_lt.mp hpos) hcess
      rw [hzero, mul_zero, zero_div, roundToTwoDecimals_zero]
  have hcessNear := abs_le.mp (hround rates.cessRate)
  rw [taxesOn, if_pos ⟨htaxable, hnet⟩, hcessAmount]
  -- between states there are two roundings, within one there are three
  cases isInterState with
  | true =>
    have hzero : rates.cgstRate = 0 ∧ rates.sgstRate = 0 := by
      rw [hrates, ratesFor, if_pos htaxable]
      exact ⟨rfl, rfl⟩
    have higst := abs_le.mp (hround rates.igstRate)
    simp only [if_true, GstAmounts.total, GstRates.totalRate, hzero.1, hzero.2]
    rw [abs_le]
    constructor <;> linarith
  | false =>
    have hzero : rates.igstRate = 0 := by
      rw [hrates, ratesFor, if_pos htaxable]
      rfl
    have hcgst := abs_le.mp (hround rates.cgstRate)
    have hsgst := abs_le.mp (hround rates.sgstRate)
    simp only [Bool.false_eq_true, if_false, GstAmounts.total, GstRates.totalRate, hzero]
    rw [abs_le]
    constructor <;> linarith

lemma OrderGstParams.discountMap_mem (params : OrderGstParams) (id : String) :
    (params.discountMap id).getD 0 ∈ hundredths := by
  rw [discountMap, allocation_valid.allocateDiscounts_eq, Allocation.credit]
  refine add_mem (Allocation.lastShare_mem id) ?_
  split
  · exact allocation_valid.remainder_mem
  · exact zero_mem _

section Inclusive

variable {params : OrderGstParams} {item : GstLineItemInput}

/-- What is left of the price of an inclusive line after the discount, and its net amount. -/
lemma inclusive_line (params : OrderGstParams) (hinclusive : item.isInclusive.getD false = true)
    (hle : (params.discountMap item.id).getD 0 ≤ grossLineTotal item) :
    let line := calculateLine params.isInterState params.discountMap item
    let price := line.grossLineTotal - line.allocatedDiscount
    price ∈ hundredths ∧ 0 ≤ price ∧ line.finalLineTotal = price ∧
      line.netTaxableAmount = roundToTwoDecimals (price / (1 + line.totalRate / 100)) := by
  intro line price
  have hmem : price ∈ hundredths :=
    sub_mem (grossLineTotal_mem item) (params.discountMap_mem item.id)
  have hnonneg : 0 ≤ price := sub_nonneg.mpr hle
  refine ⟨hmem, hnonneg, ?_, ?_⟩
  · have hfinal : line.finalLineTotal = roundToTwoDecimals price := by
      simp only [line, price, calculateLine, hinclusive, if_true]
    rw [hfinal, roundToTwoDecimals_of_mem hmem]
  · have hnet : line.netTaxableAmount =
        roundToTwoDecimals (max 0 price / (1 + line.totalRate / 100)) := by
      simp only [line, price, calculateLine, netTaxable, hinclusive, if_true]
      rfl
    rw [hnet, max_eq_right hnonneg]

/-- Divided and multiplied by the rate, a price is what it was up to the rounding of its net
amount. -/
lemma net_near (price : ℚ) {rate : ℚ} (hrate : 0 ≤ rate) (hhigh : rate ≤ 100) :
    |roundToTwoDecimals (price / (1 + rate / 100)) * (1 + rate / 100) - price| ≤ 1 / 100 := by
  have hpos : (0 : ℚ) < 1 + rate / 100 := by positivity
  have hnear := roundToTwoDecimals_near (price / (1 + rate / 100))
  have hfactor : roundToTwoDecimals (price / (1 + rate / 100)) * (1 + rate / 100) - price =
      (roundToTwoDecimals (price / (1 + rate / 100)) - price / (1 + rate / 100)) *
        (1 + rate / 100) := by
    rw [sub_mul, div_mul_cancel₀ _ hpos.ne']
  rw [hfactor, abs_mul, abs_of_pos hpos]
  calc _ ≤ 1 / 200 * (1 + rate / 100) := mul_le_mul_of_nonneg_right hnear hpos.le
    _ ≤ 1 / 100 := by linarith

lemma calculateLine_totalRate_nonneg (isInterState : Bool) (discountMap : String → Option ℚ)
    (item : GstLineItemInput) :
    0 ≤ (calculateLine isInterState discountMap item).totalRate := by
  obtain ⟨hc, hs, hi, he⟩ := ratesFor_nonneg isInterState item
  exact add_nonneg (add_nonneg (add_nonneg hc hs) hi) he

/-- A taxable line accounts for its price, whatever its rates are. -/
lemma taxable_near (hinclusive : item.isInclusive.getD false = true)
    (hle : (params.discountMap item.id).getD 0 ≤ grossLineTotal item)
    (htaxable : item.taxTreatment.getD .taxable = .taxable)
    (hrate : (calculateLine params.isInterState params.discountMap item).totalRate ≤ 100) :
    let line := calculateLine params.isInterState params.discountMap item
    |line.netTaxableAmount + line.totalTaxAmount - line.finalLineTotal| ≤ 1 / 40 := by
  intro line
  obtain ⟨hmem, hnonneg, hfinal, hnet⟩ :=
    inclusive_line params hinclusive hle
  have htax : line.totalTaxAmount = (taxesOn params.isInterState
      (item.taxTreatment.getD .taxable) (ratesFor params.isInterState item)
      line.netTaxableAmount).total := calculateLine_totalTaxAmount _ _ _
  have hrate0 := calculateLine_totalRate_nonneg params.isInterState params.discountMap item
  have hback := abs_le.mp (net_near (line.grossLineTotal - line.allocatedDiscount) hrate0 hrate)
  have hnet0 : 0 ≤ line.netTaxableAmount := by
    rw [hnet]
    exact roundToTwoDecimals_nonneg (div_nonneg hnonneg (by positivity))
  rw [← hnet] at hback
  rw [hfinal, abs_le]
  rcases hnet0.eq_or_lt with hzero | hpos
  · -- nothing is taxed, and the price is less than two hundredths
    have hnone : line.totalTaxAmount = 0 := by
      rw [htax, ← hzero, taxesOn, if_neg fun h => lt_irrefl _ h.2]
      simp [GstAmounts.total]
    rw [← hzero] at hback
    rw [hnone, ← hzero]
    constructor <;> linarith
  · have htaxNear := abs_le.mp (taxesOn_near params.isInterState item hpos htaxable)
    rw [← htax] at htaxNear
    have hsplit : line.netTaxableAmount * (1 + line.totalRate / 100) = line.netTaxableAmount +
        line.netTaxableAmount * (ratesFor params.isInterState item).totalRate / 100 := by
      show line.netTaxableAmount * (1 + (ratesFor params.isInterState item).totalRate / 100) = _
      ring
    rw [hsplit] at hback
    constructor <;> linarith

/-- A line that is not taxable is charged the whole price, but its net amount is without the
cess. -/
lemma untaxed_near_iff (hinclusive : item.isInclusive.getD false = true)
    (hle : (params.discountMap item.id).getD 0 ≤ grossLineTotal item)
    (huntaxed : item.taxTreatment.getD .taxable ≠ .taxable) :
    let line := calculateLine params.isInterState params.discountMap item
    |line.netTaxableAmount + line.totalTaxAmount - line.finalLineTotal| ≤ 2 / 100 ↔
      (line.grossLineTotal - line.allocatedDiscount) * line.cessRate ≤
        1 / 40 * (100 + line.cessRate) := by
  intro line
  obtain ⟨hmem, hnonneg, hfinal, hnet⟩ :=
    inclusive_line params hinclusive hle
  have htax : line.totalTaxAmount = 0 := by
    rw [show line.totalTaxAmount = _ from calculateLine_totalTaxAmount _ _ _,
      calculateLine_amounts, taxesOn_of_ne_taxable huntaxed]
    simp [GstAmounts.total]
  have htotal : line.totalRate = line.cessRate := by
    show (ratesFor params.isInterState item).totalRate =
      (ratesFor params.isInterState item).cessRate
    rw [ratesFor, if_neg huntaxed]
    simp [GstRates.totalRate]
  have hcess : 0 ≤ line.cessRate := (ratesFor_nonneg params.isInterState item).2.2.2
  have hpos : (0 : ℚ) < 100 + line.cessRate := by linarith
  set price := line.grossLineTotal - line.allocatedDiscount
  -- the part of the price that is taken out as a cess is not charged again
  have hquotient : price / (1 + line.cessRate / 100) = price - price * line.cessRate /
      (100 + line.cessRate) := by
    have h1 : (1 : ℚ) + line.cessRate / 100 ≠ 0 := by positivity
    field_simp
    ring
  have hnetle : line.netTaxableAmount ≤ price := by
    rw [hnet, htotal, hquotient]
    refine roundToTwoDecimals_le hmem (sub_le_self _ ?_)
    exact div_nonneg (mul_nonneg hnonneg hcess) hpos.le
  have htwo : (2 / 100 : ℚ) ∈ hundredths := mem_hundredths (by decide +kernel)
  have hlow : price - 2 / 100 ≤ line.netTaxableAmount ↔
      price * line.cessRate / (100 + line.cessRate) ≤ 1 / 40 := by
    rw [hnet, htotal, hquotient, le_roundToTwoDecimals_iff (sub_mem hmem htwo)]
    constructor <;> intro h <;> linarith
  rw [htax, hfinal, add_zero, abs_sub_comm, abs_of_nonneg (sub_nonneg.mpr hnetle),
    ← div_le_iff₀ hpos, ← hlow]
  constructor <;> intro h <;> linarith

end Inclusive

/-- **Prices that contain their tax.**  A line of an invoice accounts for its price exactly if it
is taxable, or the cess in its price is at most two and a half hundredths: the net amount of a
line that is not taxable is without a cess that nobody charges. -/
theorem decomposes_iff {params : OrderGstParams} {line : CalculatedGstLineItem}
    (hline : line ∈ (calculateOrderGst params).items) (hinclusive : line.isInclusive = true)
    (hrate : line.totalRate ≤ 100) (hhigh : line.allocatedDiscount ≤ line.grossLineTotal) :
    line.Decomposes ↔ line.taxTreatment = .taxable ∨
      (line.grossLineTotal - line.allocatedDiscount) * line.cessRate ≤
        1 / 40 * (100 + line.cessRate) := by
  rw [calculateOrderGst_items] at hline
  obtain ⟨item, -, rfl⟩ := List.mem_map.mp hline
  obtain ⟨hmem, -, hfinal, -⟩ := inclusive_line params hinclusive hhigh
  have hdecomposes : (calculateLine params.isInterState params.discountMap item).Decomposes ↔
      |(calculateLine params.isInterState params.discountMap item).netTaxableAmount +
        (calculateLine params.isInterState params.discountMap item).totalTaxAmount -
        (calculateLine params.isInterState params.discountMap item).finalLineTotal| ≤ 2 / 100 :=
    ⟨fun h => h.near, fun h => ⟨h, hfinal⟩⟩
  rw [hdecomposes]
  by_cases htaxable : item.taxTreatment.getD .taxable = .taxable
  · refine iff_of_true ?_ (.inl htaxable)
    have htax : (calculateLine params.isInterState params.discountMap item).totalTaxAmount ∈
        hundredths := roundToTwoDecimals_mem _
    refine abs_le_of_mem (sub_mem (add_mem (calculateLine_net_mem _ _ _) htax) ?_)
      (taxable_near hinclusive hhigh htaxable hrate)
    rw [hfinal]
    exact hmem
  · exact (untaxed_near_iff hinclusive hhigh htaxable).trans
      ⟨.inr, fun h => h.resolve_left htaxable⟩

/-- A cart of one line, at a price with a cess of 23 percent in it. -/
def cessCart (treatment : TaxTreatment) : OrderGstParams where
  sellerState := "27"
  customerState := "27"
  items :=
    [⟨"a", "p1", "Lamp", none, "9405", 1, 123, 21, none, none, none, some 23, some treatment, none,
      some true⟩]
  totalDiscount := none
  shippingFee := none
  isFreeShipping := none
  shippingGstRate := none

/-- The line of such a cart. -/
def cessLine (treatment : TaxTreatment) : CalculatedGstLineItem :=
  calculateLine (cessCart treatment).isInterState (cessCart treatment).discountMap
    ⟨"a", "p1", "Lamp", none, "9405", 1, 123, 21, none, none, none, some 23, some treatment, none,
      some true⟩

lemma cessLine_mem (treatment : TaxTreatment) :
    cessLine treatment ∈ (calculateOrderGst (cessCart treatment)).items :=
  List.mem_singleton_self _

theorem decomposes_iff_taxable : (cessLine .taxable).Decomposes ↔
    (cessLine .taxable).taxTreatment = .taxable ∨
      ((cessLine .taxable).grossLineTotal - (cessLine .taxable).allocatedDiscount) *
        (cessLine .taxable).cessRate ≤ 1 / 40 * (100 + (cessLine .taxable).cessRate) :=
  decomposes_iff (cessLine_mem .taxable) rfl (by decide +kernel) (by decide +kernel)

/-- An exempt line at 123 with a cess of 23 percent: its net amount is 100, its tax is
nothing, and 123 are charged. -/
theorem exempt_cess_unaccounted : ¬∀ (params : OrderGstParams) (line : CalculatedGstLineItem),
    line ∈ (calculateOrderGst params).items → line.isInclusive = true → line.totalRate ≤ 100 →
    0 ≤ line.allocatedDiscount → line.allocatedDiscount ≤ line.grossLineTotal →
    line.Decomposes := by
  intro h
  have hnear := (h (cessCart .exempt) (cessLine .exempt) (cessLine_mem .exempt) rfl
    (by decide +kernel) (by decide +kernel) (by decide +kernel)).near
  revert hnear
  decide +kernel

end MeeoServer
