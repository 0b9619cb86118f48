/-
# Tax invoices

`tax/services/invoice.service.ts`.  An order keeps a snapshot of its taxes, which
`orders/services/orderCreation.service.ts` writes; an invoice is put together from it, from the
order and from the present default seller.
-/
import MeeoServer.Schema.Payments
import MeeoServer.Tax.Sellers
import MeeoServer.Text.IsoDate

namespace MeeoServer.Invoices

open SellerTax

/-! ## The rows -/

abbrev OrderItemId := ℕ

structure OrderItemTaxSnapshot where
  hsnCode : String
  allocatedDiscountAmount : ℚ
  netTaxableAmount : ℚ
  cgstRate : ℚ
  sgstRate : ℚ
  igstRate : ℚ
  cgstAmount : ℚ
  sgstAmount : ℚ
  igstAmount : ℚ
  cessAmount : ℚ
  totalTaxAmount : ℚ
deriving DecidableEq

structure InvoicedItem where
  id : OrderItemId
  productName : String
  sku : Option String
  unitPrice : ℚ
  quantity : ℕ
  discountTotal : ℚ
  taxTotal : ℚ
  total : ℚ
  taxSnapshot : Option OrderItemTaxSnapshot
deriving DecidableEq

structure OrderTaxSnapshot where
  sellerProfileId : Option SellerId
  sellerLegalName : String
  sellerTradeName : String
  sellerGstin : String
  sellerStateCode : String
  customerGstin : Option String
  placeOfSupplyStateCode : String
  placeOfSupplyStateName : String
  isInterState : Bool
  totalTaxableAmount : ℚ
  totalCgstAmount : ℚ
  totalSgstAmount : ℚ
  totalIgstAmount : ℚ
  totalCessAmount : ℚ
  shippingTaxableAmount : ℚ
  shippingGstRate : ℚ
  shippingCgstAmount : ℚ
  shippingSgstAmount : ℚ
  shippingIgstAmount : ℚ
deriving DecidableEq

structure SuccessfulPayment where
  paymentMethod : Option String
  provider : Provider
  status : PaymentStatus
  paidAmount : ℚ
deriving DecidableEq

/-- An order, with the rows that `include` adds to it. -/
structure InvoicedOrder where
  id : OrderId
  orderNumber : String
  userId : Option UserId
  status : OrderStatus
  currency : String
  subtotal : ℚ
  discountTotal : ℚ
  taxTotal : ℚ
  shippingTotal : ℚ
  grandTotal : ℚ
  createdAt : Millis
  address : Option Storefront.AddressSnapshot
  items : List InvoicedItem
  taxSnapshot : Option OrderTaxSnapshot
  /-- Those that have succeeded. -/
  payments : List SuccessfulPayment
deriving DecidableEq

/-- `tx.orderTaxSnapshot.create` -/
def createTaxSnapshot (defaultSeller : SellerTaxProfile) (customerGstin : Option String)
    (gst : GstCalculationResult) : OrderTaxSnapshot where
  sellerProfileId := some defaultSeller.id
  sellerLegalName := defaultSeller.legalBusinessName
  sellerTradeName := defaultSeller.tradeName
  sellerGstin := defaultSeller.gstin
  sellerStateCode := defaultSeller.stateCode
  customerGstin := customerGstin
  placeOfSupplyStateCode := gst.placeOfSupply.customerStateCode
  placeOfSupplyStateName := gst.placeOfSupply.customerStateName
  isInterState := gst.placeOfSupply.isInterState
  totalTaxableAmount := gst.totals.totalTaxableAmount
  totalCgstAmount := gst.totals.totalCgstAmount
  totalSgstAmount := gst.totals.totalSgstAmount
  totalIgstAmount := gst.totals.totalIgstAmount
  totalCessAmount := gst.totals.totalCessAmount
  shippingTaxableAmount := gst.shipping.taxableAmount
  shippingGstRate := gst.shipping.gstRate
  shippingCgstAmount := gst.shipping.cgstAmount
  shippingSgstAmount := gst.shipping.sgstAmount
  shippingIgstAmount := gst.shipping.igstAmount

/-! ## The amount in words -/

def units : List String :=
  ["", "One", "Two", "Three", "Four", "Five", "Six", "Seven", "Eight", "Nine"]

def teens : List String :=
  ["Ten", "Eleven", "Twelve", "Thirteen", "Fourteen", "Fifteen", "Sixteen", "Seventeen",
    "Eighteen", "Nineteen"]

def tens : List String :=
  ["", "", "Twenty", "Thirty", "Forty", "Fifty", "Sixty", "Seventy", "Eighty", "Ninety"]

def convertTwoDigits (n : ℕ) : String :=
  if n < 10 then units.getD n ""
  else if n < 20 then teens.getD (n - 10) ""
  else
    let rem := n % 10
    tens.getD (n / 10) "" ++ if 0 < rem then " " ++ units.getD rem "" else ""

def convertThreeDigits (n : ℕ) : String :=
  let hundred := n / 100
  let rest := n % 100
  let str := if 0 < hundred then units.getD hundred "undefined" ++ " Hundred" else ""
  if 0 < rest then str ++ (if str ≠ "" then " and " else "") ++ convertTwoDigits rest else str

/-- Converts a positive monetary number into English words (Indian numbering system).  Nothing
is said of the rupees of a negative one. -/
def numberToIndianWords (amount : ℚ) : String :=
  let whole := ⌊amount⌋
  let paise := ⌊(amount - whole) * 100 + 1 / 2⌋.toNat
  if whole = 0 then if 0 < paise then s!"{paise}/100 Only" else "Zero Rupees Only"
  else
    let rupees := whole.toNat
    let crore := rupees / 10000000
    let lakh := rupees % 10000000 / 100000
    let thousand := rupees % 100000 / 1000
    let remaining := rupees % 1000
    let parts := (if 0 < crore then [convertTwoDigits crore ++ " Crore"] else []) ++
      (if 0 < lakh then [convertTwoDigits lakh ++ " Lakh"] else []) ++
      (if 0 < thousand then [convertTwoDigits thousand ++ " Thousand"] else []) ++
      if 0 < remaining then [convertThreeDigits remaining] else []
    "Rupees " ++ " ".intercalate parts ++
      (if 0 < paise then " and " ++ convertTwoDigits paise ++ " Paise" else "") ++ " Only"

example : numberToIndianWords 125400 =
    "Rupees One Lakh Twenty Five Thousand Four Hundred Only" := by decide +kernel

/-! ## The invoice -/

structure Supplier where
  legalName : String
  tradeName : String
  gstin : String
  stateCode : String
  stateName : String
  address : String
  city : String
  postalCode : String
deriving DecidableEq

structure Recipient where
  name : String
  phone : Option String
  address : String
  city : String
  state : String
  stateCode : String
  postalCode : String
  customerGstin : Option String
deriving DecidableEq

structure InvoicePlaceOfSupply where
  stateCode : String
  stateName : String
  isInterState : Bool
deriving DecidableEq

structure InvoiceItem where
  serialNumber : ℕ
  itemId : OrderItemId
  productName : String
  sku : Option String
  hsnCode : String
  quantity : ℕ
  unitPrice : ℚ
  grossAmount : ℚ
  discountAmount : ℚ
  taxableAmount : ℚ
  cgstRate : ℚ
  cgstAmount : ℚ
  sgstRate : ℚ
  sgstAmount : ℚ
  igstRate : ℚ
  igstAmount : ℚ
  cessAmount : ℚ
  totalTaxAmount : ℚ
  lineTotal : ℚ
deriving DecidableEq

structure ShippingCharge where
  description : String
  sacCode : String
  taxableAmount : ℚ
  gstRate : ℚ
  cgstAmount : ℚ
  sgstAmount : ℚ
  igstAmount : ℚ
  totalTaxAmount : ℚ
  totalShipping : ℚ
deriving DecidableEq

structure InvoiceTotals where
  subtotal : ℚ
  totalDiscount : ℚ
  totalTaxableAmount : ℚ
  totalCgstAmount : ℚ
  totalSgstAmount : ℚ
  totalIgstAmount : ℚ
  totalCessAmount : ℚ
  totalTaxAmount : ℚ
  shippingTotal : ℚ
  grandTotal : ℚ
  currency : String
  amountInWords : String
deriving DecidableEq

structure TaxInvoice where
  documentType : String
  complianceRule : String
  invoiceNumber : String
  invoiceDate : String
  orderId : OrderId
  orderNumber : String
  orderStatus : OrderStatus
  reverseChargeApplicable : Bool
  supplier : Supplier
  recipient : Recipient
  placeOfSupply : InvoicePlaceOfSupply
  items : List InvoiceItem
  shipping : ShippingCharge
  totals : InvoiceTotals
  paymentSummary : Option SuccessfulPayment
  footerNotes : String
deriving DecidableEq

/-- `text || alternative`, for a text that may be missing. -/
def presentOr (text : Option String) (alternative : String) : String :=
  orText (text.getD "") alternative

/-- The two lines of an address. -/
def addressText (addressLine1 : String) (addressLine2 : Option String) : String :=
  addressLine1 ++
    match addressLine2 with
    | some line => if line = "" then "" else ", " ++ line
    | none => ""

def supplierOf (snapshot : Option OrderTaxSnapshot) (defaultSeller : SellerTaxProfile) :
    Supplier where
  legalName := presentOr (snapshot.map OrderTaxSnapshot.sellerLegalName)
    defaultSeller.legalBusinessName
  tradeName := presentOr (snapshot.map OrderTaxSnapshot.sellerTradeName) defaultSeller.tradeName
  gstin := presentOr (snapshot.map OrderTaxSnapshot.sellerGstin) defaultSeller.gstin
  stateCode := presentOr (snapshot.map OrderTaxSnapshot.sellerStateCode) defaultSeller.stateCode
  stateName := defaultSeller.stateName
  address := addressText defaultSeller.addressLine1 defaultSeller.addressLine2
  city := defaultSeller.city
  postalCode := defaultSeller.postalCode

section

variable (order : InvoicedOrder)

def recipientOf : Recipient where
  name := presentOr (order.address.map (·.recipientName)) "Valued Customer"
  phone := (order.address.bind (·.phone)).filter (· ≠ "")
  address := match order.address with
    | some address => addressText address.addressLine1 address.addressLine2
    | none => ""
  city := presentOr (order.address.map (·.city)) ""
  state := presentOr (order.address.map (·.state)) ""
  stateCode := presentOr (order.taxSnapshot.map (·.placeOfSupplyStateCode)) "27"
  postalCode := presentOr (order.address.map (·.postalCode)) ""
  customerGstin := (order.taxSnapshot.bind (·.customerGstin)).filter (· ≠ "")

def placeOfSupplyOf : InvoicePlaceOfSupply where
  stateCode := presentOr (order.taxSnapshot.map (·.placeOfSupplyStateCode)) "27"
  stateName := presentOr (order.taxSnapshot.map (·.placeOfSupplyStateName))
    (presentOr (order.address.map (·.state)) "Maharashtra")
  isInterState := (order.taxSnapshot.map (·.isInterState)).getD false

/-- Line item details. -/
def invoiceItem (idx : ℕ) (item : InvoicedItem) : InvoiceItem :=
  let gross := item.unitPrice * item.quantity
  let discount := (item.taxSnapshot.map (·.allocatedDiscountAmount)).getD item.discountTotal
  let recorded (amount : OrderItemTaxSnapshot → ℚ) : ℚ := (item.taxSnapshot.map amount).getD 0
  { serialNumber := idx + 1
    itemId := item.id
    productName := item.productName
    sku := item.sku
    hsnCode := presentOr (item.taxSnapshot.map (·.hsnCode)) "UNCLASSIFIED"
    quantity := item.quantity
    unitPrice := item.unitPrice
    grossAmount := gross
    discountAmount := discount
    taxableAmount := (item.taxSnapshot.map (·.netTaxableAmount)).getD (max 0 (gross - discount))
    cgstRate := recorded (·.cgstRate)
    cgstAmount := recorded (·.cgstAmount)
    sgstRate := recorded (·.sgstRate)
    sgstAmount := recorded (·.sgstAmount)
    igstRate := recorded (·.igstRate)
    igstAmount := recorded (·.igstAmount)
    cessAmount := recorded (·.cessAmount)
    totalTaxAmount := (item.taxSnapshot.map (·.totalTaxAmount)).getD item.taxTotal
    lineTotal := item.total }

/-- The shipping row. -/
def shippingOf : ShippingCharge :=
  let recorded (amount : OrderTaxSnapshot → ℚ) : ℚ := (order.taxSnapshot.map amount).getD 0
  { description := "Shipping and Freight Delivery Service"
    sacCode := "9968"
    taxableAmount := (order.taxSnapshot.map (·.shippingTaxableAmount)).getD order.shippingTotal
    gstRate := recorded (·.shippingGstRate)
    cgstAmount := recorded (·.shippingCgstAmount)
    sgstAmount := recorded (·.shippingSgstAmount)
    igstAmount := recorded (·.shippingIgstAmount)
    totalTaxAmount := recorded (·.shippingCgstAmount) + recorded (·.shippingSgstAmount) +
      recorded (·.shippingIgstAmount)
    totalShipping := order.shippingTotal }

def totalsOf : InvoiceTotals :=
  let recorded (amount : OrderTaxSnapshot → ℚ) : ℚ := (order.taxSnapshot.map amount).getD 0
  { subtotal := order.subtotal
    totalDiscount := order.discountTotal
    totalTaxableAmount := (order.taxSnapshot.map (·.totalTaxableAmount)).getD
      (order.subtotal - order.discountTotal)
    totalCgstAmount := recorded (·.totalCgstAmount)
    totalSgstAmount := recorded (·.totalSgstAmount)
    totalIgstAmount := recorded (·.totalIgstAmount)
    totalCessAmount := recorded (·.totalCessAmount)
    totalTaxAmount := order.taxTotal
    shippingTotal := order.shippingTotal
    grandTotal := order.grandTotal
    currency := order.currency
    amountInWords := numberToIndianWords order.grandTotal }

/-- What is put together once the rows have been read. -/
def taxInvoice (defaultSeller : SellerTaxProfile) : TaxInvoice where
  documentType := "TAX INVOICE"
  complianceRule := "Rule 46, CGST Rules 2017"
  invoiceNumber := "INV-" ++ order.orderNumber
  invoiceDate := toISOString order.createdAt
  orderId := order.id
  orderNumber := order.orderNumber
  orderStatus := order.status
  reverseChargeApplicable := false
  supplier := supplierOf order.taxSnapshot defaultSeller
  recipient := recipientOf order
  placeOfSupply := placeOfSupplyOf order
  items := order.items.zipIdx.map fun (item, idx) => invoiceItem idx item
  shipping := shippingOf order
  totals := totalsOf order
  paymentSummary := order.payments.head?
  footerNotes := "This is a computer-generated tax invoice. No physical signature is required " ++
    "under IT Act 2000."

/-- The order may be invoiced to this user. -/
def InvoicedOrder.mayRequest (requestedByUserId : Option UserId) (isAdmin : Bool) : Bool :=
  isAdmin || order.userId.isNone || order.userId = requestedByUserId

end

/-- Generates a complete, statutory Indian GST Tax Invoice data model; `newId` is the identifier
of a seller profile that may have to be seeded. -/
def generateTaxInvoice (orders : OrderId → Option InvoicedOrder) (newId : SellerId)
    (orderId : OrderId) (requestedByUserId : Option UserId) (isAdmin : Bool) :
    SellerTax.Service TaxInvoice :=
  match orders orderId with
  | none => throw ⟨"Order not found", 404⟩
  | some order =>
    if !order.mayRequest requestedByUserId isAdmin then
      throw ⟨"Unauthorized access to this order invoice", 403⟩
    else do
      let defaultSeller ← getDefaultSellerProfile newId
      pure (taxInvoice order defaultSeller)

end MeeoServer.Invoices
