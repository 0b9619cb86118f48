/-
# Settling a payment

`payments/services/paymentVerification.service.ts` and
`payments/services/paymentRefund.service.ts`: the verification of a checkout, the recording
of a failure, the manual update by an administrator, and the refund.  Each reads the payment,
with its order and an attempt, before its transaction begins.
-/
import MeeoServer.Inventory.Services
import Mathlib.Data.Rat.Floor

namespace MeeoServer

open Proc

variable {I G : Database → Database → Prop} {s₀ : Database}

/-- Some payment of an order; the query has no order. -/
def paymentOfOrder (l : PaymentLedger) (orderId : OrderId) (pick : ℕ) : Option (Row Payment) :=
  Table.findFirst (fun p => p.orderId = orderId) pick l.payments

/-- The check of the HMAC, which is made only if a secret is configured. -/
def GatewayConfig.accepts (config : GatewayConfig) (input : VerifyPaymentInput) : Bool :=
  match config.keySecret with
  | some keySecret =>
    input.razorpaySignature = config.hmac keySecret input.razorpayOrderId input.razorpayPaymentId
  | none => true

/-- Direct synchronous payment verification for Razorpay client checkout callback. -/
def verifyPayment (config : GatewayConfig) (input : VerifyPaymentInput) (pick : ℕ) :
    Service Unit :=
  if config.accepts input = false then
    throw ⟨"Invalid payment signature verification", 400⟩
  else do
    let db ← Proc.read
    match paymentOfOrder db.ledger input.orderId pick with
    | none => throw ⟨s!"No payment found for order {input.orderId}", 404⟩
    | some payment =>
      if payment.val.status = .success then
        pure ()
      else
        let latestAttempt := (db.ledger.latestAttempt payment.id).map Row.id
        let orderStatus := db.book.statusOf payment.val.orderId
        -- the query of the callback; neither the payment nor the order is read again
        let tx ← Proc.read
        let _ ← Proc.commit (.verifyPayment input payment orderStatus latestAttempt
          (tx.stock.activeHolds payment.val.orderId))
        pure ()

/-- Direct recording of client-side payment failure or user cancellation. -/
def recordPaymentFailure (orderId : OrderId) (pick : ℕ) : Service Unit := do
  let db ← Proc.read
  match paymentOfOrder db.ledger orderId pick with
  | none => throw ⟨s!"No payment found for order {orderId}", 404⟩
  | some payment =>
    if payment.val.status = .success then
      pure ()
    else
      let latestAttempt := (db.ledger.latestAttempt payment.id).map Row.id
      let _ ← Proc.commit (.recordPaymentFailure payment latestAttempt)
      pure ()

/-- Admin manual payment update (e.g. for COD collection, offline wire transfer, or manual
adjustment). -/
def updatePaymentStatus (paymentId : PaymentId) (input : UpdatePaymentStatusInput) :
    Service Unit := do
  let db ← Proc.read
  match db.ledger.payments[paymentId]? with
  | none => throw ⟨"Payment record not found", 404⟩
  | some payment =>
    let orderStatus := db.book.statusOf payment.orderId
    let _ ← Proc.commit (.updatePaymentStatus ⟨paymentId, payment⟩ orderStatus input)
    let _ ← Proc.read
    pure ()

/-! ## Refunds -/

/-- `Number(x.toFixed(2))` for an amount in rupees, as whole paise: the nearest one, and the
one further from zero if two are equally near. -/
def toFixed2 (x : ℚ) : Paise :=
  if x < 0 then -⌊-x * 100 + 1 / 2⌋ else ⌊x * 100 + 1 / 2⌋

/-- An amount in rupees, as a message shows it: without the zeros at its end. -/
def rupees (amount : Paise) : String :=
  let sign := if amount < 0 then "-" else ""
  let whole := amount.natAbs / 100
  let part := amount.natAbs % 100
  if part = 0 then s!"{sign}{whole}"
  else if part % 10 = 0 then s!"{sign}{whole}.{part / 10}"
  else if part < 10 then s!"{sign}{whole}.0{part}"
  else s!"{sign}{whole}.{part}"

structure CreateRefundInput where
  paymentId : PaymentId
  /-- In rupees. -/
  amount : Option ℚ
deriving DecidableEq

/-- The refund at the gateway; if it cannot be reached, the provider answers all the same. -/
def createRefund (paymentId : PaymentId) (amount : Paise) : Service Unit :=
  Proc.attempt (.requestRefund paymentId amount)

/-- Issues a full or partial refund for a successful payment.  The amounts are those of the
read, the gateway is asked before the transaction begins. -/
def processRefund (input : CreateRefundInput) (pick : ℕ) : Service Unit := do
  let db ← Proc.read
  match db.ledger.payments[input.paymentId]? with
  | none => throw ⟨"Payment record not found", 404⟩
  | some payment =>
    if payment.status ≠ .success ∧ payment.status ≠ .partiallyRefunded then
      throw ⟨s!"Cannot refund payment in \"{payment.status.name}\" status. " ++
        "Only SUCCESS or PARTIALLY_REFUNDED payments can be refunded.", 400⟩
    else
      let maxRefundable := payment.paidAmount - payment.refundedAmount
      if maxRefundable ≤ 0 then
        throw ⟨"Payment is already fully refunded", 400⟩
      else
        let refundAmount := (input.amount.map toFixed2).getD maxRefundable
        if refundAmount ≤ 0 then
          throw ⟨"Refund amount must be greater than 0", 400⟩
        else if maxRefundable < refundAmount then
          throw ⟨s!"Requested refund amount ({rupees refundAmount}) exceeds " ++
            s!"refundable balance ({rupees maxRefundable})", 400⟩
        else
          let successfulAttempt := (Table.findFirst
            (fun a => a.paymentId = input.paymentId ∧ a.status = .success) pick
            db.ledger.attempts).map Row.id
          let orderStatus := db.book.statusOf payment.orderId
          -- if the gateway cannot be reached, the provider answers in its place
          createRefund input.paymentId refundAmount
          let _ ← Proc.commit (.processRefund ⟨input.paymentId, payment⟩ orderStatus
            successfulAttempt refundAmount)
          pure ()

/-! ## What the settlement of a payment commits -/

/-- The batch of a verification: the signature was accepted, and the payment was read as a
payment of the order that was not yet paid. -/
def VerifyBatch (I : Database → Database → Prop) (config : GatewayConfig)
    (input : VerifyPaymentInput) (s : Database) (c : Commit) : Prop :=
  ∃ payment orderStatus latestAttempt holds,
    c = .verifyPayment input payment orderStatus latestAttempt holds ∧
      config.accepts input = true ∧
      (Seen I s fun s₀ => s₀.ledger.payments[payment.id]? = some payment.val ∧
        payment.val.orderId = input.orderId ∧ payment.val.status ≠ .success ∧
        orderStatus = s₀.book.statusOf payment.val.orderId) ∧
      ReadHolds I s payment.val.orderId holds

/-- The batch of a failure. -/
def FailureBatch (I : Database → Database → Prop) (orderId : OrderId) (s : Database)
    (c : Commit) : Prop :=
  ∃ payment latestAttempt, c = .recordPaymentFailure payment latestAttempt ∧
    Seen I s fun s₀ => s₀.ledger.payments[payment.id]? = some payment.val ∧
      payment.val.orderId = orderId ∧ payment.val.status ≠ .success

/-- The batch of a manual update. -/
def ManualBatch (I : Database → Database → Prop) (paymentId : PaymentId)
    (input : UpdatePaymentStatusInput) (s : Database) (c : Commit) : Prop :=
  ∃ payment orderStatus, c = .updatePaymentStatus ⟨paymentId, payment⟩ orderStatus input ∧
    Seen I s fun s₀ => s₀.ledger.payments[paymentId]? = some payment ∧
      orderStatus = s₀.book.statusOf payment.orderId

/-- The batch of a refund: the amount was refundable when the payment was read. -/
def RefundBatch (I : Database → Database → Prop) (paymentId : PaymentId) (s : Database)
    (c : Commit) : Prop :=
  ∃ payment orderStatus successfulAttempt refundAmount,
    c = .processRefund ⟨paymentId, payment⟩ orderStatus successfulAttempt refundAmount ∧
      (Seen I s fun s₀ => s₀.ledger.payments[paymentId]? = some payment ∧
        orderStatus = s₀.book.statusOf payment.orderId) ∧
      (payment.status = .success ∨ payment.status = .partiallyRefunded) ∧
      0 < refundAmount ∧ refundAmount ≤ payment.paidAmount - payment.refundedAmount

section Emits

variable {orderId : OrderId} {paymentId : PaymentId} {pick : ℕ}

lemma verifyPayment_emits {config : GatewayConfig} {input : VerifyPaymentInput}
    (htrans : ∀ {s t u}, I s t → I t u → I s u) :
    (verifyPayment config input pick).Emits Commit.apply I G (VerifyBatch I config input)
      Any s₀ := by
  unfold verifyPayment
  split
  · exact emits_throw
  · rename_i haccepts
    refine emits_read fun s _ => ?_
    split
    · exact emits_throw
    · rename_i payment hpayment
      obtain ⟨hrow, horder⟩ := Table.findFirst_eq_some hpayment
      split
      · exact emits_pure
      · rename_i hstatus
        refine emits_read fun t ht => emits_commit (fun u hu => ?_)
          fun _ _ _ _ _ => emits_pure
        refine ⟨payment, _, _, _, rfl, by simpa using haccepts, ⟨s, htrans ht hu, hrow, ?_⟩,
          ⟨t, hu, rfl⟩⟩
        exact ⟨by simpa using horder, hstatus, rfl⟩

lemma recordPaymentFailure_emits :
    (recordPaymentFailure orderId pick).Emits Commit.apply I G (FailureBatch I orderId)
      Any s₀ := by
  refine emits_read fun s _ => ?_
  split
  · exact emits_throw
  · rename_i payment hpayment
    obtain ⟨hrow, horder⟩ := Table.findFirst_eq_some hpayment
    split
    · exact emits_pure
    · rename_i hstatus
      refine emits_commit (fun t ht => ?_) fun _ _ _ _ _ => emits_pure
      exact ⟨payment, _, rfl, s, ht, hrow, by simpa using horder, hstatus⟩

lemma updatePaymentStatus_emits {input : UpdatePaymentStatusInput} :
    (updatePaymentStatus paymentId input).Emits Commit.apply I G (ManualBatch I paymentId input)
      Any s₀ := by
  refine emits_read fun s _ => ?_
  split
  · exact emits_throw
  · rename_i payment hrow
    exact emits_commit (fun t ht => ⟨payment, _, rfl, s, ht, hrow, rfl⟩)
      fun _ _ _ _ _ => emits_read fun _ _ => emits_pure

/-- The request at the gateway stands between the read and the transaction, so the caller
says that it leaves the rest of the store alone. -/
lemma processRefund_emits {input : CreateRefundInput}
    (htrans : ∀ {s t u}, I s t → I t u → I s u)
    (hrequest : ∀ {s t : Database} {id : PaymentId} {amount : Paise},
      Commit.apply (.requestRefund id amount) s = some t → I s t) :
    (processRefund input pick).Emits Commit.apply I G
      (fun s c => RefundBatch I input.paymentId s c ∨
        ∃ amount, c = .requestRefund input.paymentId amount) Any s₀ := by
  refine emits_read fun s _ => ?_
  split
  · exact emits_throw
  · rename_i payment hrow
    dsimp only
    split
    · exact emits_throw
    · rename_i hstatus
      split
      · exact emits_throw
      · split
        · exact emits_throw
        · rename_i hpos
          split
          · exact emits_throw
          · rename_i hmax
            have hrefundable : payment.status = .success ∨
                payment.status = .partiallyRefunded := by
              by_cases h : payment.status = .success
              · exact Or.inl h
              · exact Or.inr (by_contra fun h' => hstatus ⟨h, h'⟩)
            -- the gateway is asked in between, and its failure is swallowed
            refine emits_attempt_bind (fun t _ => Or.inr ⟨_, rfl⟩) (fun t ht => ?_)
              fun t t' ht happ _ => ?_
            all_goals
              refine emits_commit (fun u hu => Or.inl ?_) fun _ _ _ _ _ => emits_pure
              refine ⟨payment, _, _, _, rfl, ⟨s, ?_, hrow, rfl⟩, hrefundable,
                not_le.mp hpos, not_lt.mp hmax⟩
            · exact htrans ht hu
            · exact htrans (htrans ht (hrequest happ)) hu

end Emits

end MeeoServer
