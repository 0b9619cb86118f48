/-
# The gateway provider

`payments/providers/razorpayPayment.provider.ts`, with the three services that use it: an
attempt stores what the provider returned for the gateway order, a verification stores which
payment the gateway has captured, and a refund hands the provider the identifier that the
successful attempt has stored.

The identifiers are texts here, since the provider looks at how they begin.  How the gateway
answers a request, and whether it has executed it, is an argument of the call: any answer may
come back, or none.
-/
import MeeoServer.Payments.Creation
import MeeoServer.Payments.Settlement
import MeeoServer.Process.Interleaving

namespace MeeoServer.Razorpay

open Proc

/-- An identifier that the gateway or the provider has made up. -/
abbrev ProviderId := String

/-- `text.startsWith(start)` -/
def startsWith (text start : String) : Bool := start.toList.isPrefixOf text.toList

lemma startsWith_append (start rest : String) : startsWith (start ++ rest) start = true := by
  simp [startsWith]

structure Config where
  keyId : String
  keySecret : String
  /-- `NODE_ENV` is `test`. -/
  test : Bool
  hmac : String → String → String
  /-- The text of the identifier of a row: hexadecimal digits and hyphens. -/
  uuid : ℕ → String
  uuid_start : ∀ n, startsWith (uuid n) "pay_" = false

/-- The gateway is asked at all: there are credentials, and this is no test. -/
def Config.live (config : Config) : Bool :=
  config.keyId ≠ "" && config.keySecret ≠ "" && !config.test

/-- How a request to the gateway ends: with a response, or with an exception. -/
inductive Reply where
  | responded (ok : Bool) (id : Option ProviderId)
  | failed
deriving DecidableEq

/-- The identifier in an answer of the gateway that was taken for a success. -/
def Reply.id? : Reply → Option ProviderId
  | responded true (some id) => if id = "" then none else some id
  | _ => none

/-! ## The tables -/

structure Order where
  userId : Option UserId
  status : OrderStatus
  grandTotal : Paise
deriving DecidableEq

structure Attempt where
  paymentId : PaymentId
  attemptNumber : ℕ
  providerPaymentId : ProviderId
  status : PaymentAttemptStatus
  amount : Paise
deriving DecidableEq

structure Transaction where
  paymentId : PaymentId
  type : PaymentTransactionType
  status : TransactionStatus
  amount : Paise
  providerTransactionId : ProviderId
deriving DecidableEq

structure Refund where
  paymentId : PaymentId
  amount : Paise
  status : RefundStatus
  providerRefundId : ProviderId
deriving DecidableEq

/-- A refund request that has reached the gateway, and whether it was accepted. -/
structure RefundRequest where
  providerPaymentId : ProviderId
  amount : Paise
  accepted : Bool
deriving DecidableEq

structure Books where
  orders : List Order
  payments : List Payment
  attempts : List Attempt
  transactions : List Transaction
  refunds : List Refund
  /-- At the gateway. -/
  refundRequests : List RefundRequest

structure VerifyInput where
  orderId : OrderId
  razorpayOrderId : ProviderId
  razorpayPaymentId : ProviderId
  razorpaySignature : String
deriving DecidableEq

inductive Commit where
  | createPayment (orderId : OrderId) (provider : Provider) (amount : Paise)
  | createAttempt (attempt : Attempt)
  | markPaymentPending (orderId : OrderId)
  | verifyPayment (input : VerifyInput) (payment : Row Payment) (latestAttempt : Option ℕ)
      (orderStatus : Option OrderStatus)
  /-- At the gateway: a refund request arrives. -/
  | requestRefund (request : RefundRequest)
  | processRefund (input : CreateRefundInput) (payment : Payment) (refundAmount : Paise)
      (providerRefundId : ProviderId)

namespace Books

def setOrderStatus (s : Books) (orderId : OrderId) (status : OrderStatus) : Books :=
  { s with orders := s.orders.modify orderId fun order => { order with status := status } }

/-- The attempt of a payment with the highest number. -/
def latestAttempt (s : Books) (id : PaymentId) : Option (Row Attempt) :=
  (Table.findMany (fun a => a.paymentId = id) s.attempts).foldl
    (fun best a => match best with
      | some b => if b.val.attemptNumber < a.val.attemptNumber then some a else some b
      | none => some a) none

end Books

/-- `paymentAttempt.update` of the status, where there is an attempt to update. -/
def succeedAttempt (attempts : List Attempt) : Option ℕ → List Attempt
  | some id => attempts.modify id fun a => { a with status := .success }
  | none => attempts

def Commit.apply : Commit → Books → Option Books
  | createPayment orderId provider amount, s =>
    some { s with payments := s.payments ++ [⟨orderId, provider, .pending, amount, 0, 0⟩] }
  | createAttempt attempt, s => some { s with attempts := s.attempts ++ [attempt] }
  | markPaymentPending orderId, s => some (s.setOrderStatus orderId .paymentPending)
  | verifyPayment input payment latestAttempt orderStatus, s =>
    let s := { s with
      payments := s.payments.modify payment.id fun p =>
        { p with status := .success, paidAmount := payment.val.amount }
      attempts := succeedAttempt s.attempts latestAttempt
      transactions := s.transactions ++
        [⟨payment.id, .charge, .success, payment.val.amount, input.razorpayPaymentId⟩] }
    some <|
      if orderStatus.all (· = .confirmed) then s
      else s.setOrderStatus payment.val.orderId .confirmed
  | requestRefund request, s => some { s with refundRequests := s.refundRequests ++ [request] }
  | processRefund input payment refundAmount providerRefundId, s =>
    let row : Row Payment := ⟨input.paymentId, payment⟩
    let full := MeeoServer.Commit.isFullyRefunded row refundAmount
    let s := { s with
      refunds := s.refunds ++ [⟨input.paymentId, refundAmount, .success, providerRefundId⟩]
      transactions := s.transactions ++
        [⟨input.paymentId, .refund, .success, refundAmount, providerRefundId⟩]
      payments := s.payments.modify input.paymentId fun p =>
        { p with
          refundedAmount := MeeoServer.Commit.newRefundedTotal row refundAmount
          status := if full then .refunded else .partiallyRefunded } }
    some (if full then s.setOrderStatus payment.orderId .refunded else s)

/-! ## The provider -/

/-- The identifier of a gateway order; without an answer of the gateway the provider makes one
up. -/
def createPaymentIntent (config : Config) (reply : Reply) (randomId : String) : ProviderId :=
  let fallback := "order_" ++ randomId
  if config.live then reply.id?.getD fallback else fallback

/-- How a refund request ends: the gateway has executed it or not, and its answer. -/
structure RefundOutcome where
  accepted : Bool
  reply : Reply
deriving DecidableEq

abbrev Service (α : Type) := Proc Books Commit AppError α

/-- The identifier of a refund.  The status of the result is SUCCESS in every case. -/
def createRefund (config : Config) (providerPaymentId : ProviderId) (amount : Paise)
    (outcome : RefundOutcome) (randomId : String) : Service ProviderId :=
  let fallback := "rfnd_" ++ randomId
  if config.live && startsWith providerPaymentId "pay_" then
    Proc.tryCatch
      (do
        let _ ← Proc.commit (.requestRefund ⟨providerPaymentId, amount, outcome.accepted⟩)
        pure (outcome.reply.id?.getD fallback))
      fun _ => pure fallback
  else pure fallback

/-! ## The services -/

/-- Creates a new incremented payment attempt for a payment. -/
def createNextAttempt (paymentId : PaymentId) (amount : Paise) (providerPaymentId : ProviderId) :
    Service Unit := do
  let db ← Proc.read
  let attemptNumber := ((db.latestAttempt paymentId).map fun a => a.val.attemptNumber).getD 0 + 1
  let _ ← Proc.commit (.createAttempt ⟨paymentId, attemptNumber, providerPaymentId, .processing,
    amount⟩)
  pure ()

/-- The end of `initializePayment`: the order leaves PENDING. -/
def markPaymentPending (orderId : OrderId) (order : Order) : Service Unit :=
  if order.status = .pending then do
    let _ ← Proc.commit (.markPaymentPending orderId)
    pure ()
  else pure ()

/-- Initializes a payment session and gateway intent for an order. -/
def initializePayment (config : Config) (userId : Option UserId)
    (input : CreatePaymentIntentInput) (reply : Reply) (randomId : String) (pick : ℕ) :
    Service Unit := do
  let db ← Proc.read
  match db.orders[input.orderId]? with
  | none => throw ⟨"Order not found", 404⟩
  | some order =>
    if ∃ user ∈ userId, ∃ owner ∈ order.userId, owner ≠ user then
      throw ⟨"Forbidden: You cannot initialize payment for another user's order", 403⟩
    else if order.status ≠ .pending ∧ order.status ≠ .paymentPending then
      throw ⟨s!"Cannot create payment for order in \"{order.status.name}\" status. " ++
        "Order must be PENDING or PAYMENT_PENDING", 400⟩
    else
      let providerPaymentId := createPaymentIntent config reply randomId
      let db ← Proc.read
      match Table.findFirst (fun p => p.orderId = input.orderId ∧ p.status.isOpen) pick
        db.payments with
      | some payment => do
        createNextAttempt payment.id order.grandTotal providerPaymentId
        markPaymentPending input.orderId order
      | none => do
        let db ← Proc.commit (.createPayment input.orderId input.provider order.grandTotal)
        createNextAttempt (db.payments.length - 1) order.grandTotal providerPaymentId
        markPaymentPending input.orderId order

/-- Direct synchronous payment verification for Razorpay client checkout callback. -/
def verifyPayment (config : Config) (input : VerifyInput) (pick : ℕ) : Service Unit :=
  if config.keySecret ≠ "" ∧
      input.razorpaySignature ≠
        config.hmac config.keySecret (input.razorpayOrderId ++ "|" ++ input.razorpayPaymentId) then
    throw ⟨"Invalid payment signature verification", 400⟩
  else do
    let db ← Proc.read
    match Table.findFirst (fun p => p.orderId = input.orderId) pick db.payments with
    | none => throw ⟨s!"No payment found for order {input.orderId}", 404⟩
    | some payment =>
      if payment.val.status = .success then pure ()
      else
        let latestAttempt := (db.latestAttempt payment.id).map Row.id
        let orderStatus := db.orders[payment.val.orderId]?.map Order.status
        let _ ← Proc.commit (.verifyPayment input payment latestAttempt orderStatus)
        pure ()

/-- The checks of `processRefund`, and the amount that it refunds. -/
def refundAmount (payment : Payment) (amount : Option ℚ) : Except AppError Paise :=
  if payment.status ≠ .success ∧ payment.status ≠ .partiallyRefunded then
    throw ⟨s!"Cannot refund payment in \"{payment.status.name}\" status. " ++
      "Only SUCCESS or PARTIALLY_REFUNDED payments can be refunded.", 400⟩
  else
    let maxRefundable := payment.paidAmount - payment.refundedAmount
    if maxRefundable ≤ 0 then throw ⟨"Payment is already fully refunded", 400⟩
    else
      let refundAmount := (amount.map toFixed2).getD maxRefundable
      if refundAmount ≤ 0 then throw ⟨"Refund amount must be greater than 0", 400⟩
      else if maxRefundable < refundAmount then
        throw ⟨s!"Requested refund amount ({rupees refundAmount}) exceeds " ++
          s!"refundable balance ({rupees maxRefundable})", 400⟩
      else .ok refundAmount

/-- What the provider is given as the payment to refund:
`successfulAttempt?.providerPaymentId || payment.id`. -/
def refundedPaymentId (config : Config) (db : Books) (paymentId : PaymentId) (pick : ℕ) :
    ProviderId :=
  match Table.findFirst (fun a => a.paymentId = paymentId ∧ a.status = .success) pick
    db.attempts with
  | some attempt =>
    if attempt.val.providerPaymentId = "" then config.uuid paymentId
    else attempt.val.providerPaymentId
  | none => config.uuid paymentId

/-- Issues a full or partial refund for a successful payment. -/
def processRefund (config : Config) (input : CreateRefundInput) (outcome : RefundOutcome)
    (randomId : String) (pick : ℕ) : Service Unit := do
  let db ← Proc.read
  match db.payments[input.paymentId]? with
  | none => throw ⟨"Payment record not found", 404⟩
  | some payment =>
    match refundAmount payment input.amount with
    | .error error => throw error
    | .ok amount => do
      let providerPaymentId := refundedPaymentId config db input.paymentId pick
      let providerRefundId ← createRefund config providerPaymentId amount outcome randomId
      let _ ← Proc.commit (.processRefund input payment amount providerRefundId)
      pure ()

inductive Call where
  | initializePayment (userId : Option UserId) (input : CreatePaymentIntentInput)
      (reply : Reply) (randomId : String) (pick : ℕ)
  | verifyPayment (input : VerifyInput) (pick : ℕ)
  | processRefund (input : CreateRefundInput) (outcome : RefundOutcome) (randomId : String)
      (pick : ℕ)

/-- The three services on one store, any number of calls at once; nothing else happens. -/
def gatewayServer (config : Config) : Machine Books Commit AppError Call Empty where
  apply := Commit.apply
  proc
    | .initializePayment userId input reply randomId pick =>
      Razorpay.initializePayment config userId input reply randomId pick
    | .verifyPayment input pick => Razorpay.verifyPayment config input pick
    | .processRefund input outcome randomId pick =>
      Razorpay.processRefund config input outcome randomId pick
  environ e := e.elim

end MeeoServer.Razorpay
