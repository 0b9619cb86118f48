/-
# The payment tables and the gateway

The rows of `prisma/schema/Payments`, and what the server and the gateway know of each other:
the gateway orders that were created for payments, the payments that customers have made to
them, and the refunds that were asked for.  None of the tables is deleted from.
-/
import MeeoServer.Schema.Orders

namespace MeeoServer

abbrev PaymentId := ℕ
abbrev GatewayOrderId := ℕ
abbrev GatewayPaymentId := ℕ

inductive PaymentStatus where
  | pending
  | processing
  | requiresAction
  | success
  | failed
  | cancelled
  | partiallyRefunded
  | refunded
  | paid
deriving DecidableEq, Repr

/-- The name of a status in messages. -/
def PaymentStatus.name : PaymentStatus → String
  | .pending => "PENDING"
  | .processing => "PROCESSING"
  | .requiresAction => "REQUIRES_ACTION"
  | .success => "SUCCESS"
  | .failed => "FAILED"
  | .cancelled => "CANCELLED"
  | .partiallyRefunded => "PARTIALLY_REFUNDED"
  | .refunded => "REFUNDED"
  | .paid => "PAID"

/-- A payment that a customer could still pay. -/
def PaymentStatus.isOpen : PaymentStatus → Bool
  | .pending | .processing | .requiresAction => true
  | _ => false

/-- A payment that has been paid, whatever was refunded since. -/
def PaymentStatus.settled : PaymentStatus → Bool
  | .success | .partiallyRefunded | .refunded => true
  | _ => false

inductive Provider where
  | razorpay
  | cod
  | other
deriving DecidableEq, Repr

structure Payment where
  orderId : OrderId
  provider : Provider
  status : PaymentStatus
  amount : Paise
  paidAmount : Paise
  refundedAmount : Paise
deriving DecidableEq, Repr

inductive PaymentAttemptStatus where
  | pending
  | processing
  | success
  | failed
  | cancelled
deriving DecidableEq, Repr

structure PaymentAttempt where
  paymentId : PaymentId
  attemptNumber : ℕ
  providerPaymentId : Option GatewayOrderId
  status : PaymentAttemptStatus
  amount : Paise
deriving DecidableEq, Repr

inductive PaymentTransactionType where
  | authorize
  | capture
  | charge
  | void
  | refund
  | reversal
deriving DecidableEq, Repr

inductive TransactionStatus where
  | pending
  | processing
  | success
  | failed
deriving DecidableEq, Repr

/-- What the client posts after the checkout of the gateway has closed. -/
structure VerifyPaymentInput where
  orderId : OrderId
  razorpayOrderId : GatewayOrderId
  razorpayPaymentId : GatewayPaymentId
  razorpaySignature : ℕ
deriving DecidableEq, Repr

structure PaymentTransaction where
  paymentId : PaymentId
  paymentAttemptId : Option ℕ
  type : PaymentTransactionType
  status : TransactionStatus
  amount : Paise
  /-- The input of the verification that recorded the row. -/
  providerResponse : Option VerifyPaymentInput
deriving DecidableEq, Repr

inductive RefundStatus where
  | pending
  | processing
  | success
  | failed
  | cancelled
deriving DecidableEq, Repr

structure Refund where
  paymentId : PaymentId
  amount : Paise
  status : RefundStatus
deriving DecidableEq, Repr

structure PaymentLedger where
  payments : List Payment
  attempts : List PaymentAttempt
  transactions : List PaymentTransaction
  refunds : List Refund

namespace PaymentLedger

/-- `payment.update`. -/
def updatePayment (l : PaymentLedger) (id : PaymentId) (f : Payment → Payment) : PaymentLedger :=
  { l with payments := l.payments.modify id f }

/-- `paymentAttempt.update` of the status, where there is an attempt to update. -/
def updateAttempt (l : PaymentLedger) (id : Option ℕ) (status : PaymentAttemptStatus) :
    PaymentLedger :=
  match id with
  | some id => { l with attempts := l.attempts.modify id fun a => { a with status := status } }
  | none => l

/-- `paymentTransaction.create`. -/
def createTransaction (l : PaymentLedger) (t : PaymentTransaction) : PaymentLedger :=
  { l with transactions := l.transactions ++ [t] }

/-- `refund.create`. -/
def createRefund (l : PaymentLedger) (r : Refund) : PaymentLedger :=
  { l with refunds := l.refunds ++ [r] }

/-- The attempt of a payment with the highest number. -/
def latestAttempt (l : PaymentLedger) (id : PaymentId) : Option (Row PaymentAttempt) :=
  (Table.findMany (fun a => a.paymentId = id) l.attempts).foldl
    (fun best a => match best with
      | some b => if b.val.attemptNumber < a.val.attemptNumber then some a else some b
      | none => some a) none

end PaymentLedger

/-! ## The gateway -/

/-- A gateway order, as `createPaymentIntent` obtains it: its identifier, which the gateway
(or the fallback of the provider) makes up afresh, is its position. -/
structure GatewayOrder where
  /-- The payment the gateway order was created for. -/
  paymentId : PaymentId
  amount : Paise
deriving DecidableEq, Repr

structure Gateway where
  orders : List GatewayOrder
  /-- The payments captured so far, each for one gateway order. -/
  captured : List (GatewayOrderId × GatewayPaymentId)
  /-- The refunds that were asked for. -/
  refundRequests : List (PaymentId × Paise)

/-- How signatures are checked: the HMAC of the gateway, and the secret, if one is
configured. -/
structure GatewayConfig where
  keySecret : Option ℕ
  hmac : ℕ → GatewayOrderId → GatewayPaymentId → ℕ

/-- A gateway with a secret, for examples. -/
def GatewayConfig.sample : GatewayConfig :=
  ⟨some 9, fun secret order payment => secret * 1000 + order * 100 + payment⟩

/-- No secret is configured, so no signature is checked. -/
def GatewayConfig.unchecked : GatewayConfig := ⟨none, fun _ _ _ => 0⟩

end MeeoServer
