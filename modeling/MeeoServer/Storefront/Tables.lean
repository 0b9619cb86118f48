/-
# The tables behind a checkout

The rows of `prisma/schema` that a checkout reads and writes: carts and catalogue, addresses,
coupons, promotions and their usages, tax rules and seller profiles, and the orders.  Amounts
are exact numbers of rupees.  Identifiers are numbers; the identifier of an order is its
position in the table.
-/
import MeeoServer.Promotions.Cache
import MeeoServer.Schema.Orders
import MeeoServer.Tax.GstEngine
import MeeoServer.Text.IsoDate

namespace MeeoServer.Storefront

abbrev CartId := ℕ
abbrev CartItemId := ℕ
abbrev AddressId := ℕ
abbrev CouponId := ℕ
abbrev GstRuleId := ℕ

inductive ProductStatus where
  | draft
  | active
  | inactive
  | archived
deriving DecidableEq, Repr

structure Product where
  id : ProductId
  categoryId : Option CategoryId
  brandId : Option BrandId
  name : String
  status : ProductStatus
  taxRate : ℚ≥0
  hsnCode : Option String
  deletedAt : Option Millis
deriving DecidableEq

structure ProductVariant where
  id : VariantId
  productId : ProductId
  sku : String
  price : ℚ≥0
  compareAtPrice : Option ℚ≥0
  status : ProductStatus
deriving DecidableEq

structure CartItem where
  id : CartItemId
  variantId : VariantId
  quantity : ℕ
deriving DecidableEq, Repr

structure Cart where
  id : CartId
  userId : Option UserId
  items : List CartItem
deriving DecidableEq, Repr

/-- What an order keeps of an address, and what a request may hold instead of one. -/
structure AddressSnapshot where
  recipientName : String
  phone : Option String
  addressLine1 : String
  addressLine2 : Option String
  city : String
  state : String
  postalCode : String
  country : String
  latitude : Option ℚ
  longitude : Option ℚ
deriving DecidableEq

structure Address where
  id : AddressId
  userId : UserId
  snapshot : AddressSnapshot
deriving DecidableEq

inductive CouponType where
  | percentage
  | fixedAmount
  | freeShipping
deriving DecidableEq, Repr

inductive CouponStatus where
  | active
  | inactive
  | expired
deriving DecidableEq, Repr

structure Coupon where
  id : CouponId
  code : String
  type : CouponType
  value : ℚ
  minimumOrderAmount : Option ℚ
  maximumDiscountAmount : Option ℚ
  usageLimit : Option ℕ
  usageLimitPerUser : Option ℕ
  startsAt : Option Millis
  expiresAt : Option Millis
  status : CouponStatus
deriving DecidableEq

structure CouponUsage where
  couponId : CouponId
  userId : UserId
  orderId : OrderId
  discountAmount : ℚ
deriving DecidableEq

structure PromotionUsage where
  promotionId : PromotionId
  userId : UserId
  orderId : OrderId
  discountAmount : ℚ
deriving DecidableEq

inductive GstRuleStatus where
  | draft
  | approved
  | scheduled
  | active
  | retired
deriving DecidableEq, Repr

structure GstRule where
  id : GstRuleId
  hsnCode : String
  taxTreatment : TaxTreatment
  cgstRate : ℚ≥0
  sgstRate : ℚ≥0
  igstRate : ℚ≥0
  cessRate : ℚ≥0
  effectiveFrom : Millis
  effectiveTo : Option Millis
  status : GstRuleStatus
  version : ℕ
deriving DecidableEq

structure SellerTaxProfile where
  legalBusinessName : String
  tradeName : String
  gstin : String
  stateCode : String
  isActive : Bool
  isDefaultPlatformSeller : Bool
deriving DecidableEq

/-- The five amounts of a preview and of an order. -/
structure Financials where
  subtotal : ℚ
  discountTotal : ℚ
  taxTotal : ℚ
  shippingTotal : ℚ
  grandTotal : ℚ
deriving DecidableEq

structure OrderLine where
  productId : ProductId
  variantId : VariantId
  productName : String
  sku : String
  unitPrice : ℚ
  quantity : ℕ
  discountTotal : ℚ
  taxTotal : ℚ
  total : ℚ
deriving DecidableEq

/-- An order with the rows that are created together with it. -/
structure PlacedOrder where
  orderNumber : String
  userId : UserId
  cartId : CartId
  status : OrderStatus
  currency : String
  financials : Financials
  notes : Option String
  items : List OrderLine
  address : AddressSnapshot
  /-- The amount of the payment that is to be collected upon delivery. -/
  codPayment : Option ℚ
deriving DecidableEq

structure Tables where
  products : List Product
  variants : List ProductVariant
  stock : Stock
  carts : List Cart
  addresses : List Address
  coupons : List Coupon
  couponUsages : List CouponUsage
  promotions : PromotionTable
  promotionUsages : List PromotionUsage
  promotionCache : PromotionCache
  gstRules : List GstRule
  sellers : List SellerTaxProfile
  standardShippingFee : Option ℚ
  orders : List PlacedOrder

namespace Tables

variable (tables : Tables)

def product (id : ProductId) : Option Product := tables.products.find? fun p => p.id = id

def variant (id : VariantId) : Option ProductVariant := tables.variants.find? fun v => v.id = id

/-- How often a user has redeemed a promotion. -/
def redemptions (promotionId : PromotionId) (userId : UserId) : ℕ :=
  tables.promotionUsages.countP fun u => u.promotionId = promotionId && u.userId = userId

end Tables

/-- Tables that keep two unique keys: `(cartId, variantId)` of the cart items, and the
identifier of a promotion, in the rows that the cache got from the table too.  An item of a
cart has a positive quantity: setting it to zero deletes the item. -/
structure Store extends Tables where
  quantities_pos : ∀ cart ∈ carts, ∀ item ∈ cart.items, 0 < item.quantity
  cartItems_nodup : ∀ cart ∈ carts, (cart.items.map CartItem.variantId).Nodup
  cached_nodup : ∀ promos ∈ promotionCache.automatic, (promos.map Promotion.id).Nodup

end MeeoServer.Storefront
