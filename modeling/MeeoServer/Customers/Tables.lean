/-
# The tables behind the customer endpoints

The rows that belong to a customer: orders, payments and their attempts, carts, saved addresses
and idempotency keys; and the tables that all customers share.  The identifiers are columns here,
since a client may send any of them, and the tables list their rows in the order of creation.

The order of a payment says whose payment it is, and the payment whose attempt an attempt is.
-/
import MeeoServer.Orders.Creation
import MeeoServer.Payments.Provider
import MeeoServer.Storefront.Checkout
import MeeoServer.Table.Updates

namespace MeeoServer.Customers

open Storefront

abbrev AttemptId := ℕ

/-! ## Rows -/

structure StatusChange where
  previousStatus : Option OrderStatus
  newStatus : OrderStatus
  changedBy : Option UserId
  reason : String
deriving DecidableEq

/-- An order with the rows that were created together with it and its history. -/
structure Order extends PlacedOrder where
  id : OrderId
  /-- The reference to the cart, which becomes null when the cart is deleted. -/
  cart : Option CartId
  statusHistory : List StatusChange
deriving DecidableEq

structure Payment where
  id : PaymentId
  orderId : OrderId
  provider : String
  paymentMethod : Option String
  status : PaymentStatus
  currency : String
  amount : ℚ
  paidAmount : ℚ
deriving DecidableEq

structure PaymentAttempt where
  id : AttemptId
  paymentId : PaymentId
  attemptNumber : ℕ
  providerPaymentId : Option Razorpay.ProviderId
  status : PaymentAttemptStatus
  amount : ℚ
  failureCode : Option String
  failureMessage : Option String
deriving DecidableEq

structure SavedAddress extends Address where
  label : Option String
  isDefault : Bool
deriving DecidableEq

structure AppliedPromotion where
  id : PromotionId
  name : Option String
  code : Option String
  type : Option PromotionType
  discountAmount : ℚ
deriving DecidableEq

/-- A payment, as the answer about its order lists it. -/
structure PaymentSummary where
  id : PaymentId
  provider : String
  paymentMethod : Option String
  status : PaymentStatus
  amount : ℚ
  paidAmount : ℚ
deriving DecidableEq

/-- What an endpoint answers about an order. -/
structure OrderResponse where
  id : OrderId
  orderNumber : String
  userId : UserId
  status : OrderStatus
  currency : String
  financials : Financials
  notes : Option String
  shippingAddress : AddressSnapshot
  items : List OrderLine
  /-- Code, type and discount. -/
  coupon : Option (String × CouponType × ℚ)
  promotions : List AppliedPromotion
  statusHistory : List StatusChange
  reservations : List Hold
  payments : List PaymentSummary
deriving DecidableEq

structure IdempotencyKey where
  key : Key
  userId : UserId
  status : IdempotencyStatus
  responseBody : Option OrderResponse
  createdAt : Millis
deriving DecidableEq

/-- The tables that no customer has rows of his own in. -/
structure Catalogue where
  products : List Product
  variants : List ProductVariant
  stock : Stock
  coupons : List Coupon
  couponUsages : List CouponUsage
  promotions : PromotionTable
  promotionUsages : List PromotionUsage
  promotionCache : PromotionCache
  gstRules : List GstRule
  sellers : List SellerTaxProfile
  standardShippingFee : Option ℚ

structure Shop where
  clock : Millis
  catalogue : Catalogue
  orders : List Order
  payments : List Payment
  attempts : List PaymentAttempt
  carts : List Cart
  addresses : List SavedAddress
  keys : List IdempotencyKey

/-- What the server draws for a request: the identifiers of new rows and the number of a new
order, the answer of the gateway and the identifier that may take its place, and the choice among
the rows of a query without an order. -/
structure Draw where
  orderId : OrderId
  orderNumber : String
  paymentId : PaymentId
  attemptId : AttemptId
  cartId : CartId
  cartItemId : CartItemId
  addressId : AddressId
  reply : Razorpay.Reply
  randomId : String
  pick : ℕ

/-- What a request does. -/
abbrev Handler (α : Type) := EStateM AppError Shop α

/-- The answer to a violated unique constraint. -/
def alreadyExists : AppError := ⟨"A record with this value already exists", 409⟩

/-- The answer to an update of a row that is not there. -/
def recordNotFound : AppError := ⟨"Record not found", 404⟩

namespace Catalogue

variable (c : Catalogue)

def product (id : ProductId) : Option Product := c.products.find? fun p => p.id = id

def variant (id : VariantId) : Option ProductVariant := c.variants.find? fun v => v.id = id

end Catalogue

/-- The attempt with the higher number. -/
def laterAttempt (best : Option PaymentAttempt) (a : PaymentAttempt) : Option PaymentAttempt :=
  match best with
  | some b => if b.attemptNumber < a.attemptNumber then some a else some b
  | none => some a

namespace Shop

variable (s : Shop)

/-! ## The tables of a checkout -/

/-- The tables as a checkout reads them. -/
def tables : Tables where
  products := s.catalogue.products
  variants := s.catalogue.variants
  stock := s.catalogue.stock
  carts := s.carts
  addresses := s.addresses.map SavedAddress.toAddress
  coupons := s.catalogue.coupons
  couponUsages := s.catalogue.couponUsages
  promotions := s.catalogue.promotions
  promotionUsages := s.catalogue.promotionUsages
  promotionCache := s.catalogue.promotionCache
  gstRules := s.catalogue.gstRules
  sellers := s.catalogue.sellers
  standardShippingFee := s.catalogue.standardShippingFee
  orders := s.orders.map Order.toPlacedOrder

/-- The shop after a checkout has changed the shared tables. -/
def withShared (t : Tables) : Shop :=
  { s with
    catalogue :=
      { products := t.products
        variants := t.variants
        stock := t.stock
        coupons := t.coupons
        couponUsages := t.couponUsages
        promotions := t.promotions
        promotionUsages := t.promotionUsages
        promotionCache := t.promotionCache
        gstRules := t.gstRules
        sellers := t.sellers
        standardShippingFee := t.standardShippingFee } }

def withStock (stock : Stock) : Shop :=
  { s with catalogue := { s.catalogue with stock := stock } }

/-! ## Queries -/

def order (id : OrderId) : Option Order := s.orders.find? fun o => o.id = id

def payment (id : PaymentId) : Option Payment := s.payments.find? fun p => p.id = id

/-- The attempt of a payment with the highest number. -/
def latestAttempt (id : PaymentId) : Option PaymentAttempt :=
  (s.attempts.filter fun a => a.paymentId = id).foldl laterAttempt none

/-! ## Whose rows they are -/

def orderIsOf (v : UserId) (id : OrderId) : Bool :=
  s.orders.any fun o => o.id = id && o.userId = v

def paymentIsOf (v : UserId) (id : PaymentId) : Bool :=
  s.payments.any fun p => p.id = id && s.orderIsOf v p.orderId

/-! ## Statements -/

/-- `order.update` of the status, with the new row of the history. -/
def setOrderStatus (id : OrderId) (status : OrderStatus) (change : StatusChange) : Shop :=
  { s with
    orders := Table.updateWhere (fun o => o.id = id)
      (fun o => { o with status := status, statusHistory := o.statusHistory ++ [change] })
      s.orders }

/-- `payment.update` and `payment.updateMany` of the status and the paid amount. -/
def updatePayments (p : Payment → Bool) (status : PaymentStatus) (paidAmount : Option ℚ) : Shop :=
  { s with
    payments := Table.updateWhere p
      (fun row => { row with status := status, paidAmount := paidAmount.getD row.paidAmount })
      s.payments }

/-- `paymentAttempt.update`, where there is an attempt to update. -/
def updateAttempt (id : Option AttemptId) (status : PaymentAttemptStatus)
    (failure : Option (String × String)) : Shop :=
  { s with
    attempts := Table.updateWhere (fun a => some a.id = id)
      (fun a =>
        { a with
          status := status
          failureCode := (failure.map Prod.fst).or a.failureCode
          failureMessage := (failure.map Prod.snd).or a.failureMessage })
      s.attempts }

/-- `cart.deleteMany`; the orders that refer to the cart lose the reference. -/
def deleteCart (id : CartId) : Shop :=
  { s with
    carts := s.carts.filter fun c => c.id ≠ id
    orders := Table.updateWhere (fun o => o.cart = some id) (fun o => { o with cart := none })
      s.orders }

/-- Change the items of a cart. -/
def updateCart (id : CartId) (f : List CartItem → List CartItem) : Shop :=
  { s with
    carts := Table.updateWhere (fun c => c.id = id) (fun c => { c with items := f c.items })
      s.carts }

/-- `order.create`. -/
def insertOrder (o : Order) : Shop := { s with orders := s.orders ++ [o] }

/-- `payment.create`. -/
def insertPayment (p : Payment) : Shop := { s with payments := s.payments ++ [p] }

/-- `paymentAttempt.create`. -/
def insertAttempt (a : PaymentAttempt) : Shop := { s with attempts := s.attempts ++ [a] }

/-- `cart.create`. -/
def insertCart (c : Cart) : Shop := { s with carts := s.carts ++ [c] }

/-- `address.create`. -/
def insertAddress (a : SavedAddress) : Shop := { s with addresses := s.addresses ++ [a] }

/-- `address.delete`. -/
def deleteAddress (p : SavedAddress → Bool) : Shop :=
  { s with addresses := s.addresses.filter fun a => !p a }

/-- `address.update` and `address.updateMany`. -/
def updateAddresses (p : SavedAddress → Bool) (f : SavedAddress → SavedAddress) : Shop :=
  { s with addresses := Table.updateWhere p f s.addresses }

end Shop

end MeeoServer.Customers
