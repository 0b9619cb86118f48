/-
# The GST engine

`tax/services/gstEngine.service.ts`, with exact numbers: `roundToTwoDecimals` is rounding half
up to the hundredth.  Prices and rates are not negative, as the schemas of the callers and of
the tax rules demand.
-/
import MeeoServer.Numeric.Grid
import MeeoServer.Tax.IndianStates
import Mathlib.Data.NNRat.Defs
import Mathlib.Logic.Function.Basic

namespace MeeoServer

/-- Standard rounding helper: round to 2 decimal places using half-up arithmetic. -/
def roundToTwoDecimals (value : ℚ) : ℚ := roundHalfUp 100 value

inductive TaxTreatment where
  | taxable
  | nilRated
  | exempt
  | zeroRated
  | nonTaxable
deriving DecidableEq, Repr

structure GstLineItemInput where
  /-- CartItem ID or Variant ID. -/
  id : String
  productId : String
  productName : String
  sku : Option String
  hsnCode : String
  quantity : ℕ
  unitPrice : ℚ≥0
  /-- Combined statutory rate e.g. 18.0. -/
  taxRate : ℚ≥0
  cgstRate : Option ℚ≥0
  sgstRate : Option ℚ≥0
  igstRate : Option ℚ≥0
  cessRate : Option ℚ≥0
  taxTreatment : Option TaxTreatment
  gstRuleId : Option String
  isInclusive : Option Bool
deriving DecidableEq

structure CalculatedGstLineItem where
  id : String
  productId : String
  productName : String
  sku : Option String
  hsnCode : String
  quantity : ℕ
  unitPrice : ℚ
  grossLineTotal : ℚ
  allocatedDiscount : ℚ
  netTaxableAmount : ℚ
  taxTreatment : TaxTreatment
  cgstRate : ℚ
  sgstRate : ℚ
  igstRate : ℚ
  cessRate : ℚ
  cgstAmount : ℚ
  sgstAmount : ℚ
  igstAmount : ℚ
  cessAmount : ℚ
  totalTaxAmount : ℚ
  finalLineTotal : ℚ
  isInclusive : Bool
  gstRuleId : Option String
deriving DecidableEq

structure GstShippingCalculation where
  shippingFee : ℚ
  taxableAmount : ℚ
  sacCode : String
  gstRate : ℚ
  cgstRate : ℚ
  sgstRate : ℚ
  igstRate : ℚ
  cgstAmount : ℚ
  sgstAmount : ℚ
  igstAmount : ℚ
  totalTaxAmount : ℚ
  finalShippingTotal : ℚ
deriving DecidableEq

structure PlaceOfSupply where
  sellerStateCode : String
  sellerStateName : String
  customerStateCode : String
  customerStateName : String
  isInterState : Bool
deriving DecidableEq

structure GstTotals where
  grossSubtotal : ℚ
  totalDiscount : ℚ
  totalTaxableAmount : ℚ
  totalCgstAmount : ℚ
  totalSgstAmount : ℚ
  totalIgstAmount : ℚ
  totalCessAmount : ℚ
  totalTaxAmount : ℚ
  shippingTotal : ℚ
  grandTotal : ℚ
deriving DecidableEq

structure GstCalculationResult where
  placeOfSupply : PlaceOfSupply
  items : List CalculatedGstLineItem
  shipping : GstShippingCalculation
  totals : GstTotals
  calculationVersion : String
deriving DecidableEq

structure OrderGstParams where
  sellerState : String
  customerState : String
  items : List GstLineItemInput
  totalDiscount : Option ℚ
  shippingFee : Option ℚ
  isFreeShipping : Option Bool
  shippingGstRate : Option ℚ≥0
deriving DecidableEq

def CALCULATION_VERSION : String := "v1.0"

/-- Standard Courier / Postal Delivery. -/
def DEFAULT_SHIPPING_SAC : String := "9968"

/-- `a || b` on texts. -/
def orText (a b : String) : String := if a = "" then b else a

/-- The code and the name of one end of a supply; 97 is Other Territory / Export. -/
def supplyEnd (stateInput : String) (state : Option IndianStateInfo) : String × String :=
  (orText ((state.map IndianStateInfo.code).getD "") "97",
    orText ((state.map IndianStateInfo.name).getD "")
      (orText (String.ofList (JsString.trim stateInput.toList)) "Other Territory"))

/-- Determines whether a transaction is an intra-state or inter-state supply. -/
def determinePlaceOfSupply (sellerStateInput customerStateInput : String) : PlaceOfSupply :=
  let sellerState := normalizeIndianState sellerStateInput
  let customerState := normalizeIndianState customerStateInput
  let seller := supplyEnd sellerStateInput sellerState
  let customer := supplyEnd customerStateInput customerState
  { sellerStateCode := seller.1
    sellerStateName := seller.2
    customerStateCode := customer.1
    customerStateName := customer.2
    -- Supply is inter-state if origin and destination differ or if export/non-domestic
    isInterState := sellerState.isNone || customerState.isNone || seller.1 != customer.1 }

/-! ## The allocation of the discount -/

structure GrossLine where
  id : String
  grossTotal : ℚ
deriving DecidableEq

/-- The variables of the loop of `allocateDiscounts`. -/
structure AllocationLoop where
  discountMap : String → Option ℚ
  allocatedSum : ℚ
  largestItem : Option GrossLine

/-- The body of the loop. -/
def allocateItem (cappedDiscount grossSubtotal : ℚ) (loop : AllocationLoop) (item : GrossLine) :
    AllocationLoop :=
  let largestItem := loop.largestItem.map fun largest =>
    if largest.grossTotal < item.grossTotal then item else largest
  let ratio := item.grossTotal / grossSubtotal
  let itemDiscount := roundToTwoDecimals (cappedDiscount * ratio)
  { discountMap := Function.update loop.discountMap item.id (some itemDiscount)
    allocatedSum := loop.allocatedSum + itemDiscount
    largestItem := largestItem }

/-- Apportions order-level discounts proportionally across line items, reconciling any rounding
discrepancies (the penny problem) onto the largest line item. -/
def allocateDiscounts (items : List GrossLine) (totalDiscount : ℚ) : String → Option ℚ :=
  let grossSubtotal := (items.map GrossLine.grossTotal).sum
  if totalDiscount ≤ 0 ∨ grossSubtotal ≤ 0 then
    items.foldl (fun discountMap item => Function.update discountMap item.id (some 0))
      fun _ => none
  else
    let cappedDiscount := min totalDiscount grossSubtotal
    let loop := items.foldl (allocateItem cappedDiscount grossSubtotal)
      ⟨fun _ => none, 0, items.head?⟩
    let difference := roundToTwoDecimals (cappedDiscount - loop.allocatedSum)
    match loop.largestItem with
    | some largestItem =>
      if 1 / 10000 < |difference| then
        let currentLargest := (loop.discountMap largestItem.id).getD 0
        Function.update loop.discountMap largestItem.id
          (some (roundToTwoDecimals (currentLargest + difference)))
      else loop.discountMap
    | none => loop.discountMap

/-! ## The tax of a line -/

structure GstRates where
  cgstRate : ℚ
  sgstRate : ℚ
  igstRate : ℚ
  cessRate : ℚ

structure GstAmounts where
  cgstAmount : ℚ
  sgstAmount : ℚ
  igstAmount : ℚ
  cessAmount : ℚ

/-- The rates of a line, based on Place of Supply. -/
def ratesFor (isInterState : Bool) (item : GstLineItemInput) : GstRates :=
  let cessRate := item.cessRate.getD 0
  if item.taxTreatment.getD .taxable = .taxable then
    if isInterState then
      ⟨0, 0, item.igstRate.getD item.taxRate, cessRate⟩
    else
      let half := roundToTwoDecimals (item.taxRate / 2)
      ⟨(item.cgstRate.map NNRat.cast).getD half, (item.sgstRate.map NNRat.cast).getD half, 0,
        cessRate⟩
  else
    ⟨0, 0, 0, cessRate⟩

def GstRates.totalRate (rates : GstRates) : ℚ :=
  rates.cgstRate + rates.sgstRate + rates.igstRate + rates.cessRate

/-- The taxes on a net amount. -/
def taxesOn (isInterState : Bool) (treatment : TaxTreatment) (rates : GstRates)
    (netTaxableAmount : ℚ) : GstAmounts :=
  if treatment = .taxable ∧ 0 < netTaxableAmount then
    let cessAmount := if 0 < rates.cessRate then
      roundToTwoDecimals (netTaxableAmount * rates.cessRate / 100) else 0
    if isInterState then
      ⟨0, 0, roundToTwoDecimals (netTaxableAmount * rates.igstRate / 100), cessAmount⟩
    else
      ⟨roundToTwoDecimals (netTaxableAmount * rates.cgstRate / 100),
        roundToTwoDecimals (netTaxableAmount * rates.sgstRate / 100), 0, cessAmount⟩
  else
    ⟨0, 0, 0, 0⟩

def grossLineTotal (item : GstLineItemInput) : ℚ :=
  roundToTwoDecimals (item.unitPrice * item.quantity)

/-- Net Taxable Value.  Inclusive: Taxable = (Gross - Discount) / (1 + Rate / 100).  Exclusive:
Taxable = Gross - Discount. -/
def netTaxable (isInclusive : Bool) (rates : GstRates) (grossLineTotal allocatedDiscount : ℚ) :
    ℚ :=
  if isInclusive then
    let discountedGross := max 0 (grossLineTotal - allocatedDiscount)
    roundToTwoDecimals (discountedGross / (1 + rates.totalRate / 100))
  else
    roundToTwoDecimals (max 0 (grossLineTotal - allocatedDiscount))

/-- The body of the loop over the lines. -/
def calculateLine (isInterState : Bool) (discountMap : String → Option ℚ)
    (item : GstLineItemInput) : CalculatedGstLineItem :=
  let allocatedDiscount := (discountMap item.id).getD 0
  let isInclusive := item.isInclusive.getD false
  let treatment := item.taxTreatment.getD .taxable
  let rates := ratesFor isInterState item
  let netTaxableAmount := netTaxable isInclusive rates (grossLineTotal item) allocatedDiscount
  let taxes := taxesOn isInterState treatment rates netTaxableAmount
  let totalTaxAmount := roundToTwoDecimals
    (taxes.cgstAmount + taxes.sgstAmount + taxes.igstAmount + taxes.cessAmount)
  { id := item.id
    productId := item.productId
    productName := item.productName
    sku := item.sku
    hsnCode := item.hsnCode
    quantity := item.quantity
    unitPrice := item.unitPrice
    grossLineTotal := grossLineTotal item
    allocatedDiscount := allocatedDiscount
    netTaxableAmount := netTaxableAmount
    taxTreatment := treatment
    cgstRate := rates.cgstRate
    sgstRate := rates.sgstRate
    igstRate := rates.igstRate
    cessRate := rates.cessRate
    cgstAmount := taxes.cgstAmount
    sgstAmount := taxes.sgstAmount
    igstAmount := taxes.igstAmount
    cessAmount := taxes.cessAmount
    totalTaxAmount := totalTaxAmount
    finalLineTotal :=
      if isInclusive then roundToTwoDecimals (grossLineTotal item - allocatedDiscount)
      else roundToTwoDecimals (netTaxableAmount + totalTaxAmount)
    isInclusive := isInclusive
    gstRuleId := item.gstRuleId }

/-- Shipping GST (statutory rate resolved for SAC 9968, 0 if exempt/unspecified). -/
def calculateShipping (isInterState : Bool) (shippingFee shippingGstRate : ℚ) :
    GstShippingCalculation :=
  let half := roundToTwoDecimals (shippingGstRate / 2)
  let rates : GstRates :=
    if 0 < shippingFee then
      if isInterState then ⟨0, 0, shippingGstRate, 0⟩ else ⟨half, half, 0, 0⟩
    else ⟨0, 0, 0, 0⟩
  let igstAmount := if 0 < shippingFee ∧ isInterState then
    roundToTwoDecimals (shippingFee * rates.igstRate / 100) else 0
  let cgstAmount := if 0 < shippingFee ∧ ¬isInterState then
    roundToTwoDecimals (shippingFee * rates.cgstRate / 100) else 0
  let sgstAmount := if 0 < shippingFee ∧ ¬isInterState then
    roundToTwoDecimals (shippingFee * rates.sgstRate / 100) else 0
  let shippingTaxAmount := roundToTwoDecimals (cgstAmount + sgstAmount + igstAmount)
  { shippingFee := shippingFee
    taxableAmount := shippingFee
    sacCode := DEFAULT_SHIPPING_SAC
    gstRate := shippingGstRate
    cgstRate := rates.cgstRate
    sgstRate := rates.sgstRate
    igstRate := rates.igstRate
    cgstAmount := cgstAmount
    sgstAmount := sgstAmount
    igstAmount := igstAmount
    totalTaxAmount := shippingTaxAmount
    finalShippingTotal := roundToTwoDecimals (shippingFee + shippingTaxAmount) }

/-- Executes the statutory GST calculation for the complete checkout / order. -/
def calculateOrderGst (params : OrderGstParams) : GstCalculationResult :=
  let pos := determinePlaceOfSupply params.sellerState params.customerState
  let totalDiscount := roundToTwoDecimals (max 0 (params.totalDiscount.getD 0))
  let shippingFee := if params.isFreeShipping.getD false then 0
    else roundToTwoDecimals (max 0 (params.shippingFee.getD 0))
  let grossSubtotal := roundToTwoDecimals (params.items.map grossLineTotal).sum
  let discountMap := allocateDiscounts
    (params.items.map fun i => ⟨i.id, grossLineTotal i⟩) totalDiscount
  let items := params.items.map (calculateLine pos.isInterState discountMap)
  let shipping := calculateShipping pos.isInterState shippingFee
    ((params.shippingGstRate.map NNRat.cast).getD 0)
  let totalTaxableAmount := roundToTwoDecimals
    ((items.map CalculatedGstLineItem.netTaxableAmount).sum + shippingFee)
  let totalCgstAmount := roundToTwoDecimals
    ((items.map CalculatedGstLineItem.cgstAmount).sum + shipping.cgstAmount)
  let totalSgstAmount := roundToTwoDecimals
    ((items.map CalculatedGstLineItem.sgstAmount).sum + shipping.sgstAmount)
  let totalIgstAmount := roundToTwoDecimals
    ((items.map CalculatedGstLineItem.igstAmount).sum + shipping.igstAmount)
  let totalCessAmount := roundToTwoDecimals
    (items.map CalculatedGstLineItem.cessAmount).sum
  let totalTaxAmount := roundToTwoDecimals
    (totalCgstAmount + totalSgstAmount + totalIgstAmount + totalCessAmount)
  -- one line whose price is without tax puts the tax of all lines on top
  let grandTotal := roundToTwoDecimals
    (grossSubtotal - totalDiscount + shipping.finalShippingTotal +
      if params.items.any fun i => !(i.isInclusive.getD false) then
        totalCgstAmount + totalSgstAmount + totalIgstAmount + totalCessAmount -
          shipping.totalTaxAmount
      else 0)
  { placeOfSupply := pos
    items := items
    shipping := shipping
    totals :=
      { grossSubtotal := grossSubtotal
        totalDiscount := totalDiscount
        totalTaxableAmount := totalTaxableAmount
        totalCgstAmount := totalCgstAmount
        totalSgstAmount := totalSgstAmount
        totalIgstAmount := totalIgstAmount
        totalCessAmount := totalCessAmount
        totalTaxAmount := totalTaxAmount
        shippingTotal := shipping.finalShippingTotal
        grandTotal := max 0 grandTotal }
    calculationVersion := CALCULATION_VERSION }

end MeeoServer
