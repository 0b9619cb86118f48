/-
# Starting a payment

`payments/services/paymentCreation.service.ts`, with `createNextAttempt` of
`payments/services/paymentAttempt.service.ts` and `createPaymentIntent` of
`payments/providers/razorpayPayment.provider.ts`.  The gateway order is made outside every
transaction; if the gateway cannot be reached, the provider makes up an identifier of its own,
so in either case a fresh one comes back.
-/
import MeeoServer.Schema.Commit

namespace MeeoServer

open Proc

variable {I G : Database → Database → Prop} {s₀ : Database}

/-- Creates a new incremented payment attempt for a payment. -/
def createNextAttempt (paymentId : PaymentId) (amount : Paise)
    (providerPaymentId : GatewayOrderId) : Service Unit := do
  let db ← Proc.read
  let lastAttempt := db.ledger.latestAttempt paymentId
  let attemptNumber := (lastAttempt.map fun a => a.val.attemptNumber).getD 0 + 1
  let _ ← Proc.commit (.createNextAttempt paymentId attemptNumber providerPaymentId amount)
  pure ()

/-- A gateway order for a payment, and the attempt that records it. -/
def startAttempt (paymentId : PaymentId) (amount : Paise) : Service Unit := do
  let db ← Proc.commit (.createPaymentIntent paymentId amount)
  let providerPaymentId := db.gateway.orders.length - 1
  createNextAttempt paymentId amount providerPaymentId

structure CreatePaymentIntentInput where
  orderId : OrderId
  provider : Provider
deriving DecidableEq

/-- A payment of the order that can still be paid; the query has no order. -/
def openPayment (l : PaymentLedger) (orderId : OrderId) (pick : ℕ) : Option (Row Payment) :=
  Table.findFirst (fun p => p.orderId = orderId ∧ p.status.isOpen) pick l.payments

/-- The end of `initializePayment`: the order leaves PENDING. -/
def markPaymentPending (orderId : OrderId) (order : Order) : Service Unit :=
  if order.status = .pending then do
    let _ ← Proc.commit (.markPaymentPending orderId)
    pure ()
  else
    pure ()

/-- Initializes a payment session and gateway intent for an order. -/
def initializePayment (userId : Option UserId) (input : CreatePaymentIntentInput) (pick : ℕ) :
    Service Unit := do
  let db ← Proc.read
  match db.book.orders[input.orderId]? with
  | none => throw ⟨"Order not found", 404⟩
  | some order =>
    if ∃ user ∈ userId, order.userId ≠ user then
      throw ⟨"Forbidden: You cannot initialize payment for another user's order", 403⟩
    else if order.status ≠ .pending ∧ order.status ≠ .paymentPending then
      throw ⟨s!"Cannot create payment for order in \"{order.status.name}\" status. " ++
        "Order must be PENDING or PAYMENT_PENDING", 400⟩
    else
      let db ← Proc.read
      -- an open payment is used again, whatever its amount
      match openPayment db.ledger input.orderId pick with
      | some payment => do
        startAttempt payment.id order.grandTotal
        markPaymentPending input.orderId order
      | none => do
        let db ← Proc.commit (.createPayment input.orderId input.provider order.grandTotal)
        startAttempt (db.ledger.payments.length - 1) order.grandTotal
        markPaymentPending input.orderId order

/-- Retries a payment attempt on an existing pending/failed payment. -/
def retryPayment (userId : Option UserId) (paymentId : PaymentId) : Service Unit := do
  let db ← Proc.read
  match db.ledger.payments[paymentId]? with
  | none => throw ⟨"Payment record not found", 404⟩
  | some payment =>
    if ∃ user ∈ userId, ∃ order ∈ db.book.orders[payment.orderId]?, order.userId ≠ user then
      throw ⟨"Forbidden: You cannot retry payment for another user's order", 403⟩
    else if payment.status = .success ∨ payment.status = .refunded then
      throw ⟨s!"Cannot retry payment with status \"{payment.status.name}\"", 400⟩
    else
      -- the status of the order is not looked at
      startAttempt paymentId payment.amount
      let _ ← Proc.commit (.markProcessing paymentId)
      pure ()

/-! ## What the start of a payment commits -/

/-- The batches of `startAttempt`: the gateway order of the attempt was made for its
payment. -/
def AttemptBatch (I : Database → Database → Prop) (paymentId : PaymentId) (s : Database) :
    Commit → Prop
  | .createPaymentIntent id _ => id = paymentId
  | .createNextAttempt id _ providerPaymentId amount => id = paymentId ∧
      Seen I s fun s₀ => s₀.gateway.orders[providerPaymentId]? = some ⟨paymentId, amount⟩
  | _ => False

/-- The batches of `initializePayment`: a payment is created only for an order that could
still be paid when it was read. -/
def InitializeBatch (I : Database → Database → Prop) (orderId : OrderId) (s : Database)
    (c : Commit) : Prop :=
  (∃ paymentId, AttemptBatch I paymentId s c) ∨ c = .markPaymentPending orderId ∨
    ∃ provider amount, c = .createPayment orderId provider amount ∧
      Seen I s fun s₀ => s₀.book.statusOf orderId = some .pending ∨
        s₀.book.statusOf orderId = some .paymentPending

section Emits

variable {orderId : OrderId} {paymentId : PaymentId} {amount : Paise}

lemma startAttempt_emits {Spec : Database → Commit → Prop}
    (htrans : ∀ {s t u}, I s t → I t u → I s u)
    (hSpec : ∀ s c, AttemptBatch I paymentId s c → Spec s c) :
    (startAttempt paymentId amount).Emits Commit.apply I G Spec Any s₀ := by
  refine emits_commit (fun s _ => hSpec s _ rfl) fun s s' _ happ _ => ?_
  refine emits_read fun t ht => emits_commit (fun u hu => hSpec u _ ⟨rfl, s', htrans ht hu, ?_⟩)
    fun _ _ _ _ _ => emits_pure
  obtain rfl := Option.some.inj happ
  simp

lemma markPaymentPending_emits {order : Order} {Spec : Database → Commit → Prop}
    (hSpec : ∀ s, Spec s (.markPaymentPending orderId)) :
    (markPaymentPending orderId order).Emits Commit.apply I G Spec Any s₀ := by
  unfold markPaymentPending
  split
  · exact emits_commit (fun s _ => hSpec s) fun _ _ _ _ _ => emits_pure
  · exact emits_pure

lemma initializePayment_emits {userId : Option UserId} {input : CreatePaymentIntentInput}
    {pick : ℕ} (htrans : ∀ {s t u}, I s t → I t u → I s u) :
    (initializePayment userId input pick).Emits Commit.apply I G
      (InitializeBatch I input.orderId) Any s₀ := by
  have session : ∀ (paymentId : PaymentId) (order : Order) (s : Database),
      (startAttempt paymentId order.grandTotal >>= fun _ =>
        markPaymentPending input.orderId order).Emits Commit.apply I G
        (InitializeBatch I input.orderId) Any s := by
    intro paymentId order s
    refine Emits.andThen ?_ fun _ _ => markPaymentPending_emits fun _ => Or.inr (Or.inl rfl)
    exact startAttempt_emits htrans fun _ _ h => Or.inl ⟨paymentId, h⟩
  refine emits_read fun s _ => ?_
  split
  · exact emits_throw
  · rename_i order horder
    split
    · exact emits_throw
    · split
      · exact emits_throw
      · rename_i hstatus
        refine emits_read fun t ht => ?_
        split
        · exact session _ _ _
        · refine emits_commit (fun u hu => Or.inr (Or.inr ⟨_, _, rfl, s, htrans ht hu, ?_⟩))
            fun _ _ _ _ _ => session _ _ _
          by_cases hp : order.status = .pending
          · left
            simp [OrderBook.statusOf, horder, hp]
          · right
            have hpp : order.status = .paymentPending := by
              by_contra hpp
              exact hstatus ⟨hp, hpp⟩
            simp [OrderBook.statusOf, horder, hpp]

lemma retryPayment_emits {userId : Option UserId}
    (htrans : ∀ {s t u}, I s t → I t u → I s u) :
    (retryPayment userId paymentId).Emits Commit.apply I G
      (fun s c => AttemptBatch I paymentId s c ∨ c = .markProcessing paymentId) Any s₀ := by
  refine emits_read fun s _ => ?_
  split
  · exact emits_throw
  · split
    · exact emits_throw
    · split
      · exact emits_throw
      · refine Emits.andThen ?_ fun _ _ => ?_
        · exact startAttempt_emits htrans fun _ _ h => Or.inl h
        · exact emits_commit (fun _ _ => Or.inr rfl) fun _ _ _ _ _ => emits_pure

end Emits

end MeeoServer
