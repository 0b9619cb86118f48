/-
# Validation at checkout

The rate of an item (`tax/services/taxRule.service.ts`), the lines of a cart with their prices,
and the addresses (`orders/services/orderValidation.service.ts`).
-/
import MeeoServer.Schema.Database
import MeeoServer.Storefront.Tables

namespace MeeoServer.Storefront

variable (tables : Tables)

/-! ## Tax rules -/

structure TaxDetails where
  hsnCode : String
  taxTreatment : TaxTreatment
  cgstRate : ℚ≥0
  sgstRate : ℚ≥0
  igstRate : ℚ≥0
  cessRate : ℚ≥0
  combinedRate : ℚ≥0
  gstRuleId : Option GstRuleId
deriving DecidableEq

/-- The active rules for a code at a date, the latest one first. -/
def rulesFor (hsnCode : String) (transactionDate : Millis) : List GstRule :=
  (tables.gstRules.filter fun rule =>
    rule.hsnCode = hsnCode && rule.status = .active && rule.effectiveFrom ≤ transactionDate &&
      rule.effectiveTo.all (transactionDate ≤ ·)).insertionSort
    fun a b => b.effectiveFrom < a.effectiveFrom ∨
      (a.effectiveFrom = b.effectiveFrom ∧ b.version ≤ a.version)

/-- The code itself and its chapter, heading and subheading, the longest first. -/
def hsnCandidates (hsnCode : String) : List String :=
  let cleanHsn := JsString.withoutSpaces (JsString.trim hsnCode.toList)
  (cleanHsn :: ([6, 4, 2].filter (· < cleanHsn.length)).map cleanHsn.take).map String.ofList

/-- Resolves the legally applicable approved tax rule for an HSN code as of a specific
transaction date. -/
def resolveApplicableRule (hsnCode : String) (transactionDate : Millis) :
    Except AppError (Option GstRule) :=
  match (hsnCandidates hsnCode).find? fun c => rulesFor tables c transactionDate ≠ [] with
  | none => .ok none
  | some candidate =>
    match rulesFor tables candidate transactionDate with
    | first :: second :: _ =>
      -- overlapping rules that differ
      if first.igstRate ≠ second.igstRate ∨ first.taxTreatment ≠ second.taxTreatment then
        .error ⟨s!"Conflicting active GST rules found for HSN \"{candidate}\" as of date " ++
          s!"{toISOString transactionDate}. Legal audit required.", 409⟩
      else .ok (some first)
    | rules => .ok rules.head?

/-- Half of the rate of the catalogue, as each of two taxes. -/
def halfRate (catalogRate : ℚ≥0) : ℚ≥0 := (fixedTwo (catalogRate / 2)).toNNRat

/-- Directly resolves tax details from an in-memory product object. -/
def resolveTaxDetailsFromProduct (product : Product) (transactionDate : Millis) :
    Except AppError TaxDetails :=
  let hsnCode := product.hsnCode.getD ""
  let catalogRate := product.taxRate
  if hsnCode = "" then
    .ok ⟨"UNCLASSIFIED", if 0 < catalogRate then .taxable else .nilRated, halfRate catalogRate,
      halfRate catalogRate, catalogRate, 0, catalogRate, none⟩
  else do
    match ← resolveApplicableRule tables hsnCode transactionDate with
    | some rule =>
      pure ⟨rule.hsnCode, rule.taxTreatment, rule.cgstRate, rule.sgstRate, rule.igstRate,
        rule.cessRate, rule.igstRate, some rule.id⟩
    | none =>
      pure ⟨hsnCode, .taxable, halfRate catalogRate, halfRate catalogRate, catalogRate, 0,
        catalogRate, none⟩

/-! ## Carts -/

structure ValidatedCartItem where
  cartItemId : CartItemId
  variantId : VariantId
  productId : ProductId
  productName : String
  sku : String
  unitPrice : ℚ≥0
  compareAtPrice : Option ℚ≥0
  quantity : ℕ
  lineTotal : ℚ
  tax : TaxDetails
  taxTotal : ℚ
  availableStock : ℤ
deriving DecidableEq

structure ValidatedCart where
  cartId : CartId
  items : List ValidatedCartItem
  subtotal : ℚ
deriving DecidableEq

/-- The body of the loop over the cart. -/
def validateCartItem (now : Millis) (item : CartItem) : Except AppError ValidatedCartItem :=
  match tables.variant item.variantId with
  | none => .error default
  | some variant =>
    match tables.product variant.productId with
    | none => .error ⟨"Product \"Unknown\" is no longer available for purchase", 400⟩
    | some product =>
      let availableStock := tables.stock.available variant.id
      if product.status ≠ .active ∨ product.deletedAt.isSome then
        .error ⟨s!"Product \"{product.name}\" is no longer available for purchase", 400⟩
      else if variant.status ≠ .active then
        .error ⟨s!"Product variant ({variant.sku}) for \"{product.name}\" is currently inactive",
          400⟩
      else if availableStock < item.quantity then
        .error ⟨s!"Insufficient stock for \"{product.name}\" ({variant.sku}). " ++
          s!"In stock: {availableStock}, in cart: {item.quantity}", 400⟩
      else do
        let lineTotal := fixedTwo (variant.price * item.quantity)
        let taxDetails ← resolveTaxDetailsFromProduct tables product now
        pure
          { cartItemId := item.id
            variantId := variant.id
            productId := product.id
            productName := product.name
            sku := variant.sku
            unitPrice := variant.price
            compareAtPrice := variant.compareAtPrice
            quantity := item.quantity
            lineTotal := lineTotal
            tax := taxDetails
            taxTotal := fixedTwo (lineTotal * taxDetails.combinedRate / 100)
            availableStock := availableStock }

def emptyCart : AppError := ⟨"Cannot proceed to checkout with an empty shopping cart", 400⟩

/-- Resolves and validates the shopping cart, re-calculating canonical pricing directly from
the database. -/
def validateCartAndItems (userId : UserId) (cartId : Option CartId) (now : Millis) :
    Except AppError ValidatedCart :=
  match tables.carts.find? fun c => cartId.all (c.id = ·) && c.userId = some userId with
  | none => .error emptyCart
  | some cart =>
    if cart.items = [] then .error emptyCart
    else do
      let items ← cart.items.mapM (validateCartItem tables now)
      pure ⟨cart.id, items, fixedTwo (items.map ValidatedCartItem.lineTotal).sum⟩

/-! ## Addresses -/

/-- The part of the request that a checkout reads. -/
structure CheckoutInput where
  cartId : Option CartId
  shippingAddressId : Option AddressId
  shippingAddress : Option AddressSnapshot
  billingAddressId : Option AddressId
  billingAddress : Option AddressSnapshot
  couponCode : Option String
  promoCode : Option String
  customerGstin : Option String
  notes : Option String
  isCod : Bool
  currency : String
deriving DecidableEq

/-- A saved address of the user; `kind` is the word for it in the message. -/
def savedAddress (kind : String) (userId : UserId) (id : AddressId) :
    Except AppError AddressSnapshot :=
  let notFound : AppError :=
    ⟨s!"Specified {kind} address not found or does not belong to user", 404⟩
  match tables.addresses.find? fun a => a.id = id with
  | none => .error notFound
  | some address => if address.userId ≠ userId then .error notFound else .ok address.snapshot

structure ResolvedAddresses where
  shippingAddress : AddressSnapshot
  billingAddress : AddressSnapshot
deriving DecidableEq

/-- Resolves and verifies shipping and billing address snapshots from database address ID or
inline payload. -/
def resolveAddresses (userId : UserId) (input : CheckoutInput) :
    Except AppError ResolvedAddresses := do
  let shippingAddress ←
    match input.shippingAddressId, input.shippingAddress with
    | some id, _ => savedAddress tables "shipping" userId id
    | none, some address => pure address
    | none, none =>
      throw ⟨"A valid delivery shipping address is required for checkout", 400⟩
  let billingAddress ←
    match input.billingAddressId, input.billingAddress with
    | some id, _ => savedAddress tables "billing" userId id
    | none, some address => pure address
    | none, none => pure shippingAddress
  pure ⟨shippingAddress, billingAddress⟩

end MeeoServer.Storefront
