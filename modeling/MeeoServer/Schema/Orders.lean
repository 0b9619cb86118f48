/-
# The order tables

The rows of `prisma/schema/Orders`, the transition table of
`orders/services/orderStatus.service.ts`, and the idempotency keys of
`prisma/schema/Infrastructure`.  Amounts of money are whole paise: the columns are
`DECIMAL(12, 2)`.
-/
import MeeoServer.Schema.Stock

namespace MeeoServer

abbrev Paise := ℤ

inductive OrderStatus where
  | pending
  | paymentPending
  | confirmed
  | processing
  | shipped
  | delivered
  | cancelled
  | expired
  | refunded
deriving DecidableEq, Repr

/-- The name of a status in messages. -/
def OrderStatus.name : OrderStatus → String
  | .pending => "PENDING"
  | .paymentPending => "PAYMENT_PENDING"
  | .confirmed => "CONFIRMED"
  | .processing => "PROCESSING"
  | .shipped => "SHIPPED"
  | .delivered => "DELIVERED"
  | .cancelled => "CANCELLED"
  | .expired => "EXPIRED"
  | .refunded => "REFUNDED"

open OrderStatus in
/-- Valid order status transitions state machine. -/
def ALLOWED_ORDER_TRANSITIONS : OrderStatus → List OrderStatus
  | pending => [paymentPending, confirmed, cancelled, expired]
  | paymentPending => [confirmed, pending, cancelled, expired]
  | confirmed => [processing, cancelled, refunded]
  | processing => [shipped, cancelled, refunded]
  | shipped => [delivered, cancelled, refunded]
  | delivered => [refunded]
  | cancelled => []
  | expired => []
  | refunded => []

/-- The statuses of an order that has been called off. -/
def OrderStatus.dead : OrderStatus → Bool
  | .cancelled | .expired => true
  | _ => false

/-- The statuses of an order that is being fulfilled, or has been. -/
def OrderStatus.fulfilling : OrderStatus → Bool
  | .confirmed | .processing | .shipped | .delivered => true
  | _ => false

/-- The key under which a client repeats a checkout. -/
abbrev Key := ℕ

structure Order where
  userId : UserId
  status : OrderStatus
  grandTotal : Paise
  items : List OrderItem
  createdAt : Millis
  /-- Not a column: the key of the call that created the order, and the lock row that this
  call had inserted for it.  No program reads it. -/
  placedUnder : Option (Key × ℕ)
deriving DecidableEq, Repr

structure OrderStatusHistory where
  orderId : OrderId
  previousStatus : Option OrderStatus
  newStatus : OrderStatus
deriving DecidableEq, Repr

/-- The orders and their status history.  Orders are never deleted. -/
structure OrderBook where
  orders : List Order
  statusHistory : List OrderStatusHistory

namespace OrderBook

def statusOf (b : OrderBook) (o : OrderId) : Option OrderStatus :=
  (b.orders[o]?).map Order.status

/-- `order.create` together with its first history row. -/
def createOrder (b : OrderBook) (order : Order) : OrderBook where
  orders := b.orders ++ [order]
  statusHistory := b.statusHistory ++ [⟨b.orders.length, none, order.status⟩]

/-- `order.update` of the status, followed by `orderStatusHistory.create`.  Every path that
changes a status executes these two statements, with the previous status it has read. -/
def changeStatus (b : OrderBook) (o : OrderId) (previousStatus newStatus : OrderStatus) :
    OrderBook where
  orders := b.orders.modify o fun order => { order with status := newStatus }
  statusHistory := b.statusHistory ++ [⟨o, some previousStatus, newStatus⟩]

end OrderBook

/-! ## Idempotency keys -/

inductive IdempotencyStatus where
  | processing
  | completed
  | failed
deriving DecidableEq, Repr

structure IdempotencyKey where
  id : ℕ
  userId : UserId
  status : IdempotencyStatus
  /-- The stored response, identified by the order it describes. -/
  responseBody : Option OrderId
  createdAt : Millis
deriving DecidableEq, Repr

/-- The keys in use; `key` is unique, and `nextId` is the identifier of the next row. -/
structure IdempotencyTable where
  rows : Key → Option IdempotencyKey
  nextId : ℕ

end MeeoServer
