/-
# The order total and the invoice lines

`calculateOrderGst` adds the lines of an invoice up one by one and computes the grand total by
a formula of its own.  The two agree up to two quantities that can be read off the order: the
discount that no line is granted, and the tax inside the prices of inclusive lines, which the
formula adds once more as soon as one line is exclusive.

All amounts are hundredths, so nothing is lost where they are added; only the shares of the
discount are rounded.
-/
import MeeoServer.Tax.Allocation

namespace MeeoServer

/-! ## What an order grants and taxes -/

namespace OrderGstParams

variable (params : OrderGstParams)

def isInterState : Bool :=
  (determinePlaceOfSupply params.sellerState params.customerState).isInterState

def grossTotal : ℚ := (params.items.map grossLineTotal).sum

def discount : ℚ := roundToTwoDecimals (max 0 (params.totalDiscount.getD 0))

/-- The proportional share of a line in the discount. -/
def share (item : GstLineItemInput) : ℚ :=
  roundToTwoDecimals (params.discount * (grossLineTotal item / params.grossTotal))

/-- What the rounded shares leave of the discount. -/
def remainder : ℚ := params.discount - (params.items.map params.share).sum

/-- The first of the lines with the highest gross total. -/
def largest : Option GstLineItemInput := params.items.argmax grossLineTotal

/-- The share of the last line with this identifier. -/
def lastShare (id : String) : ℚ :=
  ((params.items.reverse.find? fun i => i.id = id).map params.share).getD 0

/-- The discount that is filed under an identifier: lines that share one share the discount of
the last of them, and the largest line takes the remainder. -/
def credit (id : String) : ℚ :=
  params.lastShare id +
    if params.largest.map GstLineItemInput.id = some id then params.remainder else 0

/-- The discount that a line is granted: a line whose price is without tax does not become
negative. -/
def granted (item : GstLineItemInput) : ℚ :=
  if item.isInclusive.getD false then params.credit item.id
  else min (grossLineTotal item) (params.credit item.id)

/-- The tax on a line after the discount. -/
def taxes (item : GstLineItemInput) : GstAmounts :=
  let rates := ratesFor params.isInterState item
  taxesOn params.isInterState (item.taxTreatment.getD .taxable) rates
    (netTaxable (item.isInclusive.getD false) rates (grossLineTotal item)
      (params.credit item.id))

end OrderGstParams

def GstAmounts.total (taxes : GstAmounts) : ℚ :=
  taxes.cgstAmount + taxes.sgstAmount + taxes.igstAmount + taxes.cessAmount

namespace OrderGstParams

variable (params : OrderGstParams)

/-- The part of the discount that no line is granted. -/
def discountLost : ℚ := params.discount - (params.items.map params.granted).sum

/-- Some line has a price without tax. -/
def hasExclusive : Bool := params.items.any fun i => !(i.isInclusive.getD false)

/-- The tax inside the prices of inclusive lines, in an order that also has an exclusive
line. -/
def taxCountedTwice : ℚ :=
  if params.hasExclusive then
    ((params.items.filter fun i => i.isInclusive.getD false).map
      fun i => (params.taxes i).total).sum
  else 0

end OrderGstParams

/-! ## The allocation in closed form -/

lemma grossLineTotal_mem (item : GstLineItemInput) : grossLineTotal item ∈ hundredths :=
  roundToTwoDecimals_mem _

lemma grossLineTotal_nonneg (item : GstLineItemInput) : 0 ≤ grossLineTotal item :=
  roundToTwoDecimals_nonneg (mul_nonneg item.unitPrice.cast_nonneg item.quantity.cast_nonneg)

namespace OrderGstParams

variable {params : OrderGstParams}

lemma grossTotal_mem : params.grossTotal ∈ hundredths := by
  refine Grid.sum_mem fun x hx => ?_
  obtain ⟨item, -, rfl⟩ := List.mem_map.mp hx
  exact grossLineTotal_mem item

lemma grossTotal_nonneg : 0 ≤ params.grossTotal := by
  refine List.sum_nonneg fun x hx => ?_
  obtain ⟨item, -, rfl⟩ := List.mem_map.mp hx
  exact grossLineTotal_nonneg item

lemma discount_mem : params.discount ∈ hundredths := roundToTwoDecimals_mem _

lemma discount_nonneg : 0 ≤ params.discount := roundToTwoDecimals_nonneg (le_max_left _ _)

lemma discount_le (h : params.totalDiscount.getD 0 ≤ params.grossTotal) :
    params.discount ≤ params.grossTotal :=
  Grid.roundHalfUp_le (by decide) grossTotal_mem (max_le grossTotal_nonneg h)

lemma share_mem (item : GstLineItemInput) : params.share item ∈ hundredths :=
  roundToTwoDecimals_mem _

lemma remainder_mem : params.remainder ∈ hundredths := by
  refine sub_mem discount_mem (Grid.sum_mem fun x hx => ?_)
  obtain ⟨item, -, rfl⟩ := List.mem_map.mp hx
  exact share_mem item

lemma lastShare_mem (id : String) : params.lastShare id ∈ hundredths := by
  unfold lastShare
  cases params.items.reverse.find? fun i => i.id = id with
  | none => exact zero_mem _
  | some item => exact share_mem item

lemma credit_mem (id : String) : params.credit id ∈ hundredths := by
  refine add_mem (lastShare_mem id) ?_
  split
  · exact remainder_mem
  · exact zero_mem _

end OrderGstParams

/-- The lines as the allocation sees them. -/
def GstLineItemInput.gross (item : GstLineItemInput) : GrossLine := ⟨item.id, grossLineTotal item⟩

@[simp] lemma GstLineItemInput.gross_id (item : GstLineItemInput) : item.gross.id = item.id := rfl

/-- The largest of the images. -/
lemma argmax_map {α β γ : Type*} [LinearOrder γ] (f : β → γ) (g : α → β) (l : List α) :
    (l.map g).argmax f = (l.argmax (f ∘ g)).map g := by
  induction l using List.reverseRecOn with
  | nil => rfl
  | append_singleton l a ih =>
    rw [List.map_append, List.map_singleton, List.argmax_concat, List.argmax_concat, ih]
    cases l.argmax (f ∘ g) with
    | none => rfl
    | some m =>
      by_cases hlt : f (g m) < f (g a)
      · simp [hlt]
      · simp [hlt]

namespace OrderGstParams

variable {params : OrderGstParams}

lemma allocation_valid :
    Allocation.Valid (params.items.map GstLineItemInput.gross) params.discount where
  gross_mem i hi := by
    obtain ⟨item, -, rfl⟩ := List.mem_map.mp hi
    exact grossLineTotal_mem item
  gross_nonneg i hi := by
    obtain ⟨item, -, rfl⟩ := List.mem_map.mp hi
    exact grossLineTotal_nonneg item
  discount_mem := discount_mem
  discount_nonneg := discount_nonneg

lemma grossSubtotal_map :
    Allocation.grossSubtotal (params.items.map GstLineItemInput.gross) = params.grossTotal := by
  rw [Allocation.grossSubtotal, List.map_map]
  rfl

/-- The allocation of a discount that the lines can bear. -/
lemma allocation_credit (h : params.totalDiscount.getD 0 ≤ params.grossTotal) (id : String) :
    Allocation.credit (params.items.map GstLineItemInput.gross) params.discount id =
      params.credit id := by
  have hcapped : Allocation.cappedDiscount (params.items.map GstLineItemInput.gross)
      params.discount = params.discount := by
    rw [Allocation.cappedDiscount, grossSubtotal_map]
    exact min_eq_left (discount_le h)
  have hshare : Allocation.share (params.items.map GstLineItemInput.gross) params.discount ∘
      GstLineItemInput.gross = params.share := by
    funext item
    rw [Function.comp_apply, Allocation.share, Allocation.exactShare, hcapped, grossSubtotal_map]
    rfl
  have hlast : Allocation.lastShare (params.items.map GstLineItemInput.gross) params.discount id =
      params.lastShare id := by
    rw [Allocation.lastShare, lastShare, ← List.map_reverse, List.find?_map, Option.map_map,
      hshare]
    rfl
  have hremainder : Allocation.remainder (params.items.map GstLineItemInput.gross)
      params.discount = params.remainder := by
    rw [Allocation.remainder, hcapped, List.map_map, hshare]
    rfl
  have hlargest : (Allocation.largest (params.items.map GstLineItemInput.gross)).map
      GrossLine.id = params.largest.map GstLineItemInput.id := by
    rw [Allocation.largest, argmax_map, Option.map_map]
    rfl
  rw [Allocation.credit, credit, hlast, hremainder, hlargest]

/-- The map of the allocation holds the credits. -/
lemma allocateDiscounts_eq (h : params.totalDiscount.getD 0 ≤ params.grossTotal) (id : String) :
    ((allocateDiscounts (params.items.map GstLineItemInput.gross) params.discount) id).getD 0 =
      params.credit id := by
  rw [allocation_valid.allocateDiscounts_eq, allocation_credit h]

end OrderGstParams

/-! ## The lines -/

/-- Taxes are sums of money. -/
structure GstAmounts.Valid (taxes : GstAmounts) : Prop where
  cgst_mem : taxes.cgstAmount ∈ hundredths
  sgst_mem : taxes.sgstAmount ∈ hundredths
  igst_mem : taxes.igstAmount ∈ hundredths
  cess_mem : taxes.cessAmount ∈ hundredths
  total_nonneg : 0 ≤ taxes.total

lemma GstAmounts.Valid.total_mem {taxes : GstAmounts} (h : taxes.Valid) :
    taxes.total ∈ hundredths :=
  add_mem (add_mem (add_mem h.cgst_mem h.sgst_mem) h.igst_mem) h.cess_mem

lemma ratesFor_nonneg (isInterState : Bool) (item : GstLineItemInput) :
    0 ≤ (ratesFor isInterState item).cgstRate ∧ 0 ≤ (ratesFor isInterState item).sgstRate ∧
      0 ≤ (ratesFor isInterState item).igstRate ∧ 0 ≤ (ratesFor isInterState item).cessRate := by
  have hhalf : 0 ≤ roundToTwoDecimals (item.taxRate / 2) :=
    roundToTwoDecimals_nonneg (div_nonneg item.taxRate.cast_nonneg (by norm_num))
  have hrate : ∀ rate : Option ℚ≥0,
      0 ≤ (rate.map NNRat.cast).getD (roundToTwoDecimals (item.taxRate / 2)) := by
    rintro (_ | rate)
    · exact hhalf
    · exact rate.cast_nonneg
  have hcess : (0 : ℚ) ≤ (item.cessRate.getD 0 : ℚ≥0) := NNRat.cast_nonneg _
  unfold ratesFor
  split
  · split
    · exact ⟨le_rfl, le_rfl, NNRat.cast_nonneg _, hcess⟩
    · exact ⟨hrate _, hrate _, le_rfl, hcess⟩
  · exact ⟨le_rfl, le_rfl, le_rfl, hcess⟩

lemma taxesOn_valid (isInterState : Bool) (treatment : TaxTreatment) (rates : GstRates) (net : ℚ)
    (h : 0 ≤ rates.cgstRate ∧ 0 ≤ rates.sgstRate ∧ 0 ≤ rates.igstRate ∧ 0 ≤ rates.cessRate) :
    (taxesOn isInterState treatment rates net).Valid := by
  obtain ⟨hcgst, hsgst, higst, hcess⟩ := h
  unfold taxesOn
  split
  · rename_i hnet
    have htax : ∀ rate, 0 ≤ rate → 0 ≤ roundToTwoDecimals (net * rate / 100) := fun rate hrate =>
      roundToTwoDecimals_nonneg (div_nonneg (mul_nonneg hnet.2.le hrate) (by norm_num))
    set cess := if 0 < rates.cessRate then roundToTwoDecimals (net * rates.cessRate / 100) else 0
    have hmem : cess ∈ hundredths := by
      unfold cess
      split
      · exact roundToTwoDecimals_mem _
      · exact zero_mem _
    have hnonneg : 0 ≤ cess := by
      unfold cess
      split
      · exact htax _ hcess
      · exact le_rfl
    dsimp only
    split
    · have hi := htax _ higst
      exact ⟨zero_mem _, zero_mem _, roundToTwoDecimals_mem _, hmem, by
        simp only [GstAmounts.total]; linarith⟩
    · have hc := htax _ hcgst
      have hs := htax _ hsgst
      exact ⟨roundToTwoDecimals_mem _, roundToTwoDecimals_mem _, zero_mem _, hmem, by
        simp only [GstAmounts.total]; linarith⟩
  · exact ⟨zero_mem _, zero_mem _, zero_mem _, zero_mem _, by simp [GstAmounts.total]⟩

namespace OrderGstParams

variable {params : OrderGstParams}

lemma taxes_valid (item : GstLineItemInput) : (params.taxes item).Valid :=
  taxesOn_valid _ _ _ _ (ratesFor_nonneg _ item)

lemma granted_mem (item : GstLineItemInput) : params.granted item ∈ hundredths := by
  unfold granted
  split
  · exact credit_mem _
  · exact Grid.min_mem (grossLineTotal_mem _) (credit_mem _)

/-- A line of the invoice: its gross total less what it is granted, and the tax on top if its
price is without tax. -/
lemma finalLineTotal_eq {discountMap : String → Option ℚ} {item : GstLineItemInput}
    (h : (discountMap item.id).getD 0 = params.credit item.id) :
    (calculateLine params.isInterState discountMap item).finalLineTotal =
      grossLineTotal item - params.granted item +
        if item.isInclusive.getD false then 0 else (params.taxes item).total := by
  have hgross := grossLineTotal_mem item
  have hcredit := params.credit_mem item.id
  cases hi : item.isInclusive.getD false with
  | true =>
    simp only [calculateLine, granted, h, hi, if_true]
    rw [roundToTwoDecimals_of_mem (sub_mem hgross hcredit), add_zero]
  | false =>
    have htaxes := params.taxes_valid item
    have hnet : netTaxable false (ratesFor params.isInterState item) (grossLineTotal item)
        (params.credit item.id) = grossLineTotal item - params.granted item := by
      simp only [netTaxable, granted, hi, Bool.false_eq_true, if_false]
      rw [roundToTwoDecimals_of_mem (Grid.max_mem (zero_mem _) (sub_mem hgross hcredit))]
      rcases le_total (grossLineTotal item) (params.credit item.id) with hle | hle
      · rw [min_eq_left hle, max_eq_left (by linarith), sub_self]
      · rw [min_eq_right hle, max_eq_right (by linarith)]
    have htotal : (taxesOn params.isInterState (item.taxTreatment.getD .taxable)
        (ratesFor params.isInterState item) (grossLineTotal item - params.granted item)).total =
        (params.taxes item).total := by
      simp only [taxes, hi, hnet]
    simp only [calculateLine, h, hi, hnet, Bool.false_eq_true, if_false]
    rw [← GstAmounts.total, htotal, roundToTwoDecimals_of_mem htaxes.total_mem,
      roundToTwoDecimals_of_mem (add_mem (sub_mem hgross (granted_mem item)) htaxes.total_mem)]

/-- The taxes of a line as it is calculated. -/
lemma calculateLine_taxes {discountMap : String → Option ℚ} {item : GstLineItemInput}
    (h : (discountMap item.id).getD 0 = params.credit item.id) :
    let line := calculateLine params.isInterState discountMap item
    line.cgstAmount = (params.taxes item).cgstAmount ∧
      line.sgstAmount = (params.taxes item).sgstAmount ∧
      line.igstAmount = (params.taxes item).igstAmount ∧
      line.cessAmount = (params.taxes item).cessAmount := by
  simp only [calculateLine, taxes, h]
  exact ⟨trivial, trivial, trivial, trivial⟩

end OrderGstParams

/-! ## The totals -/

/-- The charge for the delivery is a sum of money, and its taxes add up. -/
structure GstShippingCalculation.Valid (shipping : GstShippingCalculation) : Prop where
  cgst_mem : shipping.cgstAmount ∈ hundredths
  sgst_mem : shipping.sgstAmount ∈ hundredths
  igst_mem : shipping.igstAmount ∈ hundredths
  tax_eq : shipping.totalTaxAmount =
    shipping.cgstAmount + shipping.sgstAmount + shipping.igstAmount
  final_mem : shipping.finalShippingTotal ∈ hundredths
  final_nonneg : 0 ≤ shipping.finalShippingTotal

lemma calculateShipping_valid (isInterState : Bool) {fee rate : ℚ} (hfee : 0 ≤ fee)
    (hrate : 0 ≤ rate) : (calculateShipping isInterState fee rate).Valid := by
  have hhalf : 0 ≤ roundToTwoDecimals (rate / 2) :=
    roundToTwoDecimals_nonneg (div_nonneg hrate (by norm_num))
  have htax : ∀ r, 0 ≤ r → 0 ≤ roundToTwoDecimals (fee * r / 100) := fun r hr =>
    roundToTwoDecimals_nonneg (div_nonneg (mul_nonneg hfee hr) (by norm_num))
  set shipping := calculateShipping isInterState fee rate with hshipping
  have hamounts : (shipping.cgstAmount ∈ hundredths ∧ 0 ≤ shipping.cgstAmount) ∧
      (shipping.sgstAmount ∈ hundredths ∧ 0 ≤ shipping.sgstAmount) ∧
      (shipping.igstAmount ∈ hundredths ∧ 0 ≤ shipping.igstAmount) := by
    have hzero : (0 : ℚ) ∈ hundredths ∧ (0 : ℚ) ≤ 0 := ⟨zero_mem _, le_rfl⟩
    simp only [hshipping, calculateShipping]
    by_cases hpos : 0 < fee
    · cases isInterState with
      | true =>
        simp only [hpos, not_true, and_true, and_false, if_true, if_false]
        exact ⟨hzero, hzero, roundToTwoDecimals_mem _, htax _ hrate⟩
      | false =>
        simp only [hpos, Bool.false_eq_true, not_false_eq_true, and_true, and_false, if_true,
          if_false]
        exact ⟨⟨roundToTwoDecimals_mem _, htax _ hhalf⟩, ⟨roundToTwoDecimals_mem _, htax _ hhalf⟩,
          hzero⟩
    · simp only [hpos, false_and, if_false]
      exact ⟨hzero, hzero, hzero⟩
  obtain ⟨⟨hc, hc'⟩, ⟨hs, hs'⟩, ⟨hi, hi'⟩⟩ := hamounts
  have htotal : shipping.totalTaxAmount =
      shipping.cgstAmount + shipping.sgstAmount + shipping.igstAmount :=
    roundToTwoDecimals_of_mem (add_mem (add_mem hc hs) hi)
  refine ⟨hc, hs, hi, htotal, roundToTwoDecimals_mem _, ?_⟩
  have hnonneg : 0 ≤ shipping.totalTaxAmount := by
    rw [htotal]
    linarith
  exact roundToTwoDecimals_nonneg (add_nonneg hfee hnonneg)

namespace OrderGstParams

variable {params : OrderGstParams}

/-- The sum of one column over the taxes of all lines. -/
def taxSum (params : OrderGstParams) (column : GstAmounts → ℚ) : ℚ :=
  (params.items.map fun i => column (params.taxes i)).sum

lemma taxSum_mem (column : GstAmounts → ℚ)
    (h : ∀ i, column (params.taxes i) ∈ hundredths) :
    params.taxSum column ∈ hundredths := by
  refine Grid.sum_mem fun x hx => ?_
  obtain ⟨item, -, rfl⟩ := List.mem_map.mp hx
  exact h item

lemma taxSum_total : params.taxSum GstAmounts.total =
    params.taxSum GstAmounts.cgstAmount + params.taxSum GstAmounts.sgstAmount +
      params.taxSum GstAmounts.igstAmount + params.taxSum GstAmounts.cessAmount := by
  simp only [taxSum, GstAmounts.total, List.sum_map_add]

lemma taxSum_total_nonneg : 0 ≤ params.taxSum GstAmounts.total := by
  refine List.sum_nonneg fun x hx => ?_
  obtain ⟨item, -, rfl⟩ := List.mem_map.mp hx
  exact (taxes_valid item).total_nonneg

/-- **The grand total.**  The gross total less the discount, the delivery, and the tax of every
line if one of them is exclusive. -/
theorem grandTotal_eq (h : params.totalDiscount.getD 0 ≤ params.grossTotal) :
    (calculateOrderGst params).totals.grandTotal =
      params.grossTotal - params.discount +
        (calculateOrderGst params).shipping.finalShippingTotal +
        if params.hasExclusive then params.taxSum GstAmounts.total else 0 := by
  set discountMap := allocateDiscounts (params.items.map GstLineItemInput.gross) params.discount
    with hmap
  -- each line gets the credit of the allocation, so that its taxes are those of `taxes`
  have hcredit : ∀ item : GstLineItemInput,
      (discountMap item.id).getD 0 = params.credit item.id := fun item =>
    allocateDiscounts_eq h item.id
  have hcolumn : ∀ (f : CalculatedGstLineItem → ℚ) (column : GstAmounts → ℚ),
      (∀ item, f (calculateLine params.isInterState discountMap item) =
        column (params.taxes item)) →
      ((params.items.map (calculateLine params.isInterState discountMap)).map f).sum =
        params.taxSum column := by
    intro f column hf
    rw [List.map_map]
    exact congrArg List.sum (List.map_congr_left fun item _ => hf item)
  have hcgst := hcolumn (·.cgstAmount) (·.cgstAmount)
    fun item => (calculateLine_taxes (hcredit item)).1
  have hsgst := hcolumn (·.sgstAmount) (·.sgstAmount)
    fun item => (calculateLine_taxes (hcredit item)).2.1
  have higst := hcolumn (·.igstAmount) (·.igstAmount)
    fun item => (calculateLine_taxes (hcredit item)).2.2.1
  have hcess := hcolumn (·.cessAmount) (·.cessAmount)
    fun item => (calculateLine_taxes (hcredit item)).2.2.2
  -- the shipping is computed from a fee and a rate that are not negative
  have hfee : 0 ≤ if params.isFreeShipping.getD false then 0
      else roundToTwoDecimals (max 0 (params.shippingFee.getD 0)) := by
    split
    · exact le_rfl
    · exact roundToTwoDecimals_nonneg (le_max_left _ _)
  have hrate : (0 : ℚ) ≤ (params.shippingGstRate.map NNRat.cast).getD 0 := by
    cases params.shippingGstRate with
    | none => exact le_rfl
    | some rate => exact rate.cast_nonneg
  have hshipping := calculateShipping_valid params.isInterState hfee hrate
  set shipping := (calculateOrderGst params).shipping with hship
  have hship' : calculateShipping params.isInterState _ _ = shipping := rfl
  rw [hship'] at hshipping
  -- every sum that the code rounds is of hundredths already
  have hc := taxSum_mem (·.cgstAmount) fun i => (params.taxes_valid i).cgst_mem
  have hs := taxSum_mem (·.sgstAmount) fun i => (params.taxes_valid i).sgst_mem
  have hi := taxSum_mem (·.igstAmount) fun i => (params.taxes_valid i).igst_mem
  have he := taxSum_mem (·.cessAmount) fun i => (params.taxes_valid i).cess_mem
  have hgrand : (calculateOrderGst params).totals.grandTotal =
      max 0 (roundToTwoDecimals (roundToTwoDecimals params.grossTotal - params.discount +
        shipping.finalShippingTotal +
        if params.hasExclusive then
          roundToTwoDecimals (params.taxSum (·.cgstAmount) + shipping.cgstAmount) +
            roundToTwoDecimals (params.taxSum (·.sgstAmount) + shipping.sgstAmount) +
            roundToTwoDecimals (params.taxSum (·.igstAmount) + shipping.igstAmount) +
            roundToTwoDecimals (params.taxSum (·.cessAmount)) - shipping.totalTaxAmount
        else 0)) := by
    rw [← hcgst, ← hsgst, ← higst, ← hcess]
    rfl
  -- the tax of the delivery is in the column sums and is taken out again
  have hsum : params.taxSum (·.cgstAmount) + shipping.cgstAmount +
      (params.taxSum (·.sgstAmount) + shipping.sgstAmount) +
      (params.taxSum (·.igstAmount) + shipping.igstAmount) + params.taxSum (·.cessAmount) -
      shipping.totalTaxAmount = params.taxSum GstAmounts.total := by
    rw [hshipping.tax_eq, taxSum_total]
    ring
  have htotal := taxSum_mem GstAmounts.total fun i => (params.taxes_valid i).total_mem
  have hle := discount_le h
  rw [hgrand, roundToTwoDecimals_of_mem grossTotal_mem,
    roundToTwoDecimals_of_mem (add_mem hc hshipping.cgst_mem),
    roundToTwoDecimals_of_mem (add_mem hs hshipping.sgst_mem),
    roundToTwoDecimals_of_mem (add_mem hi hshipping.igst_mem), roundToTwoDecimals_of_mem he, hsum]
  have hbase : params.grossTotal - params.discount + shipping.finalShippingTotal ∈ hundredths :=
    add_mem (sub_mem grossTotal_mem discount_mem) hshipping.final_mem
  have hnonneg := hshipping.final_nonneg
  split
  · rw [roundToTwoDecimals_of_mem (add_mem hbase htotal), max_eq_right]
    have htax : 0 ≤ params.taxSum GstAmounts.total := taxSum_total_nonneg
    linarith
  · rw [add_zero, roundToTwoDecimals_of_mem hbase, max_eq_right]
    linarith

/-- **The lines of the invoice.**  Together they come to the gross total less what the lines are
granted, and the tax of the exclusive lines. -/
theorem sum_finalLineTotal (h : params.totalDiscount.getD 0 ≤ params.grossTotal) :
    ((calculateOrderGst params).items.map CalculatedGstLineItem.finalLineTotal).sum =
      params.grossTotal - (params.items.map params.granted).sum +
        (params.items.map fun i =>
          if i.isInclusive.getD false then 0 else (params.taxes i).total).sum := by
  have hitems : (calculateOrderGst params).items = params.items.map (calculateLine
      params.isInterState
      (allocateDiscounts (params.items.map GstLineItemInput.gross) params.discount)) := rfl
  have hline : ∀ item : GstLineItemInput, _ := fun item =>
    finalLineTotal_eq (allocateDiscounts_eq h item.id)
  have hsum : ((calculateOrderGst params).items.map CalculatedGstLineItem.finalLineTotal).sum +
      (params.items.map params.granted).sum = params.grossTotal +
        (params.items.map fun i =>
          if i.isInclusive.getD false then 0 else (params.taxes i).total).sum := by
    rw [hitems, List.map_map, grossTotal, ← List.sum_map_add, ← List.sum_map_add]
    refine congrArg List.sum (List.map_congr_left fun item _ => ?_)
    rw [Function.comp_apply, hline item]
    ring
  linarith

/-- The tax of all lines is that of the exclusive and that of the inclusive ones. -/
lemma taxSum_total_split : params.taxSum GstAmounts.total =
    (params.items.map fun i =>
      if i.isInclusive.getD false then 0 else (params.taxes i).total).sum +
    ((params.items.filter fun i => i.isInclusive.getD false).map
      fun i => (params.taxes i).total).sum := by
  unfold taxSum
  induction params.items with
  | nil => simp
  | cons item rest ih =>
    rw [List.map_cons, List.sum_cons, ih, List.map_cons, List.sum_cons]
    cases hi : item.isInclusive.getD false with
    | true => simp [hi]; ring
    | false => simp [hi]; ring

/-- Without exclusive lines no tax is put on top. -/
lemma exclusiveTax_eq_zero (h : params.hasExclusive = false) :
    (params.items.map fun i =>
      if i.isInclusive.getD false then 0 else (params.taxes i).total).sum = 0 := by
  refine List.sum_eq_zero fun x hx => ?_
  obtain ⟨item, hitem, rfl⟩ := List.mem_map.mp hx
  have hi : item.isInclusive.getD false = true := by
    simpa using List.any_eq_false.mp h item hitem
  rw [if_pos hi]

end OrderGstParams

/-! ## Reconciliation -/

/-- The grand total is the sum of the lines of the invoice and the delivery. -/
def GstCalculationResult.Reconciles (result : GstCalculationResult) : Prop :=
  result.totals.grandTotal =
    (result.items.map CalculatedGstLineItem.finalLineTotal).sum +
      result.shipping.finalShippingTotal

instance (result : GstCalculationResult) : Decidable result.Reconciles := by
  unfold GstCalculationResult.Reconciles
  infer_instance

/-- **When the totals reconcile.**  The grand total is the sum of the invoice lines exactly if
the discount that no line is granted equals the tax that is counted twice. -/
theorem reconciles_iff (params : OrderGstParams)
    (h : params.totalDiscount.getD 0 ≤ params.grossTotal) :
    (calculateOrderGst params).Reconciles ↔
      params.discountLost = params.taxCountedTwice := by
  rw [GstCalculationResult.Reconciles, params.grandTotal_eq h, params.sum_finalLineTotal h,
    OrderGstParams.discountLost, OrderGstParams.taxCountedTwice]
  have hsplit := params.taxSum_total_split
  cases hex : params.hasExclusive with
  | true =>
    simp only [if_true]
    constructor <;> intro heq <;> linarith
  | false =>
    have hzero := params.exclusiveTax_eq_zero hex
    simp only [Bool.false_eq_true, if_false]
    constructor <;> intro heq <;> linarith

/-- A cart of one exclusive line, with a discount. -/
def deskCart : OrderGstParams where
  sellerState := "27"
  customerState := "29"
  items :=
    [⟨"b", "p2", "Desk", none, "9403", 3, 333 / 10, 18, none, none, none, none, none, none,
      none⟩]
  totalDiscount := some (1234 / 100)
  shippingFee := some 10
  isFreeShipping := none
  shippingGstRate := some 18

theorem reconciles_iff_desk : deskCart.totalDiscount.getD 0 ≤ deskCart.grossTotal ∧
    ((calculateOrderGst deskCart).Reconciles ↔
      deskCart.discountLost = deskCart.taxCountedTwice) :=
  ⟨by decide +kernel, reconciles_iff deskCart (by decide +kernel)⟩

/-- The price of the first line contains its tax, that of the second does not. -/
def mixedCart : OrderGstParams where
  sellerState := "27"
  customerState := "27"
  items :=
    [⟨"a", "p1", "Lamp", none, "9405", 1, 118, 18, none, none, none, none, none, none, some true⟩,
      ⟨"b", "p2", "Desk", none, "9403", 1, 100, 18, none, none, none, none, none, none,
        some false⟩]
  totalDiscount := none
  shippingFee := none
  isFreeShipping := none
  shippingGstRate := none

/-- In a mixed cart the totals differ by the tax in the price of the inclusive line. -/
theorem mixed_cart_differs : ¬∀ params : OrderGstParams,
    params.totalDiscount.getD 0 ≤ params.grossTotal → (calculateOrderGst params).Reconciles := by
  intro h
  have hmixed := h mixedCart (by decide +kernel)
  revert hmixed
  decide +kernel

/-! ## The kinds of orders that reconcile -/

namespace OrderGstParams

variable {params : OrderGstParams}

/-- With distinct identifiers the credits come to the discount. -/
theorem sum_credit (hids : (params.items.map GstLineItemInput.id).Nodup)
    (h : params.totalDiscount.getD 0 ≤ params.grossTotal) :
    (params.items.map fun i => params.credit i.id).sum = params.discount := by
  have hids' : ((params.items.map GstLineItemInput.gross).map GrossLine.id).Nodup := by
    rw [List.map_map]
    exact hids
  have hsum := allocation_valid.sum_credit hids'
  simp only [allocation_credit h, Allocation.cappedDiscount, grossSubtotal_map,
    min_eq_left (discount_le h), List.map_map] at hsum
  exact hsum

/-- Orders whose lines have distinct identifiers, all with prices of the same kind, reconcile as
long as no exclusive line is credited more than it costs. -/
theorem reconciles_of_uniform (hids : (params.items.map GstLineItemInput.id).Nodup)
    (h : params.totalDiscount.getD 0 ≤ params.grossTotal)
    (huniform : params.hasExclusive = false ∨
      ∀ i ∈ params.items, i.isInclusive.getD false = false)
    (hcredit : ∀ i ∈ params.items, i.isInclusive.getD false = false →
      params.credit i.id ≤ grossLineTotal i) :
    (calculateOrderGst params).Reconciles := by
  have hgranted : (params.items.map params.granted).sum = params.discount := by
    rw [← sum_credit hids h]
    refine congrArg List.sum (List.map_congr_left fun item hitem => ?_)
    unfold granted
    split
    · rfl
    · rename_i hi
      exact min_eq_right (hcredit item hitem (by simpa using hi))
  have htwice : params.taxCountedTwice = 0 := by
    unfold taxCountedTwice
    rcases huniform with hinclusive | hexclusive
    · rw [hinclusive]
      rfl
    · have hnil : params.items.filter (fun i => i.isInclusive.getD false) = [] := by
        rw [List.filter_eq_nil_iff]
        intro i hi
        rw [hexclusive i hi]
        decide
      rw [hnil]
      simp
  rw [reconciles_iff params h, discountLost, hgranted, htwice, sub_self]

end OrderGstParams

end MeeoServer
