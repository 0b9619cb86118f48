/-
# The server

The calls of the modelled services, and the machine that runs them: `Machine.proc` starts the
program of a call, the environment lets time pass and captures the payments that customers
make at the gateway.

`Call.Spec` says which batches a call commits, with what the call has read; `server_rely` and
`server_solo` instantiate the rules for interleaved and for sequential runs with it.
-/
import MeeoServer.Process.Sequential
import MeeoServer.Orders.Creation
import MeeoServer.Orders.Status
import MeeoServer.Payments.Creation
import MeeoServer.Payments.Settlement

namespace MeeoServer

open Proc

inductive Call where
  | reserveStock (input : ReserveStockInput)
  | confirmReservation (reservationId : ℕ) (orderId : Option OrderId)
  | releaseReservation (reservationId : ℕ)
  | expireStaleReservations
  | addStock (variantId : VariantId) (quantity : ℕ)
  | removeStock (variantId : VariantId) (quantity : ℕ)
  | adjustStock (input : AdjustStockInput)
  | createOrder (userId : UserId) (checkout : Except AppError Checkout)
      (idempotencyKey : Option Key)
  | updateOrderStatus (orderId : OrderId) (newStatus : OrderStatus) (pick : ℕ)
  | cancelOrder (orderId : OrderId) (userId : Option UserId) (isAdmin : Bool) (pick : ℕ)
  | confirmOrder (orderId : OrderId) (pick : ℕ)
  | processOrder (orderId : OrderId) (pick : ℕ)
  | shipOrder (orderId : OrderId) (pick : ℕ)
  | deliverOrder (orderId : OrderId) (pick : ℕ)
  | expireStaleOrders (olderThanMinutes pick : ℕ)
  | initializePayment (userId : Option UserId) (input : CreatePaymentIntentInput) (pick : ℕ)
  | retryPayment (userId : Option UserId) (paymentId : PaymentId)
  | verifyPayment (input : VerifyPaymentInput) (pick : ℕ)
  | recordPaymentFailure (orderId : OrderId) (pick : ℕ)
  | updatePaymentStatus (paymentId : PaymentId) (input : UpdatePaymentStatusInput)
  | processRefund (input : CreateRefundInput) (pick : ℕ)

/-- The program that serves a call; its result is sent to the client. -/
def Call.proc (config : GatewayConfig) : Call → Service Unit
  | .reserveStock input => MeeoServer.reserveStock input
  | .confirmReservation id orderId => MeeoServer.confirmReservation id orderId
  | .releaseReservation id => MeeoServer.releaseReservation id
  | .expireStaleReservations => MeeoServer.expireStaleReservations
  | .addStock v quantity => MeeoServer.addStock v quantity
  | .removeStock v quantity => MeeoServer.removeStock v quantity
  | .adjustStock input => MeeoServer.adjustStock input
  | .createOrder userId checkout key => do
    let _ ← MeeoServer.createOrder userId checkout key
    pure ()
  | .updateOrderStatus orderId newStatus pick =>
    MeeoServer.updateOrderStatus orderId newStatus pick
  | .cancelOrder orderId userId isAdmin pick => MeeoServer.cancelOrder orderId userId isAdmin pick
  | .confirmOrder orderId pick => MeeoServer.confirmOrder orderId pick
  | .processOrder orderId pick => MeeoServer.processOrder orderId pick
  | .shipOrder orderId pick => MeeoServer.shipOrder orderId pick
  | .deliverOrder orderId pick => MeeoServer.deliverOrder orderId pick
  | .expireStaleOrders olderThanMinutes pick =>
    MeeoServer.expireStaleOrders olderThanMinutes pick
  | .initializePayment userId input pick => MeeoServer.initializePayment userId input pick
  | .retryPayment userId paymentId => MeeoServer.retryPayment userId paymentId
  | .verifyPayment input pick => MeeoServer.verifyPayment config input pick
  | .recordPaymentFailure orderId pick => MeeoServer.recordPaymentFailure orderId pick
  | .updatePaymentStatus paymentId input => MeeoServer.updatePaymentStatus paymentId input
  | .processRefund input pick => MeeoServer.processRefund input pick

/-- What happens by itself. -/
inductive Environ where
  /-- Time passes. -/
  | elapse (time : Millis)
  /-- The gateway captures a payment for one of its orders. -/
  | capture (order : GatewayOrderId) (payment : GatewayPaymentId)
deriving DecidableEq

def Environ.apply : Environ → Database → Database
  | .elapse time, db => { db with clock := db.clock + time }
  | .capture order payment, db =>
    if order < db.gateway.orders.length then
      { db with
        gateway := { db.gateway with captured := db.gateway.captured ++ [(order, payment)] } }
    else db

section Environ

variable (e : Environ) (s : Database)

@[simp] lemma Environ.apply_stock : (e.apply s).stock = s.stock := by
  cases e with
  | elapse time => rfl
  | capture order payment => simp only [apply]; split <;> rfl

@[simp] lemma Environ.apply_book : (e.apply s).book = s.book := by
  cases e with
  | elapse time => rfl
  | capture order payment => simp only [apply]; split <;> rfl

@[simp] lemma Environ.apply_ledger : (e.apply s).ledger = s.ledger := by
  cases e with
  | elapse time => rfl
  | capture order payment => simp only [apply]; split <;> rfl

@[simp] lemma Environ.apply_keys : (e.apply s).keys = s.keys := by
  cases e with
  | elapse time => rfl
  | capture order payment => simp only [apply]; split <;> rfl

@[simp] lemma Environ.apply_gatewayOrders :
    (e.apply s).gateway.orders = s.gateway.orders := by
  cases e with
  | elapse time => rfl
  | capture order payment => simp only [apply]; split <;> rfl

end Environ

def server (config : GatewayConfig) : Machine Database Commit AppError Call Environ where
  apply := Commit.apply
  proc := Call.proc config
  environ := Environ.apply

/-! ## What the calls commit -/

/-- The batches of a call, with what the call has read. -/
def Call.Spec (I : Database → Database → Prop) (config : GatewayConfig) :
    Call → Database → Commit → Prop
  | .reserveStock input => fun _ c => ∃ expiresAt, c = .reserveStock input expiresAt
  | .confirmReservation _ orderId => fun s c =>
    ∃ h, ReadActive I s h ∧ c = .confirmReservation h orderId
  | .releaseReservation _ => fun s c => ∃ h, ReadActive I s h ∧ c = .releaseReservation h
  | .expireStaleReservations => fun s c => ∃ h, ReadActive I s h ∧ c = .expireReservation h
  | .addStock v quantity => fun _ c => c = .addStock v quantity
  | .removeStock v quantity => fun _ c => c = .removeStock v quantity
  | .adjustStock input => fun _ c => ∃ delta, c = .adjustStock input delta
  | .createOrder userId checkout key => fun _ => CheckoutBatch userId checkout key
  | .updateOrderStatus orderId newStatus _ => TransitionBatch I orderId newStatus
  | .cancelOrder orderId _ _ _ => TransitionBatch I orderId .cancelled
  | .confirmOrder orderId _ => fun s c =>
    ConfirmBatch I orderId s c ∨ TransitionBatch I orderId .confirmed s c
  | .processOrder orderId _ => TransitionBatch I orderId .processing
  | .shipOrder orderId _ => TransitionBatch I orderId .shipped
  | .deliverOrder orderId _ => TransitionBatch I orderId .delivered
  | .expireStaleOrders _ _ => fun s c => ∃ orderId, TransitionBatch I orderId .expired s c
  | .initializePayment _ input _ => InitializeBatch I input.orderId
  | .retryPayment _ paymentId => fun s c =>
    AttemptBatch I paymentId s c ∨ c = .markProcessing paymentId
  | .verifyPayment input _ => VerifyBatch I config input
  | .recordPaymentFailure orderId _ => FailureBatch I orderId
  | .updatePaymentStatus paymentId input => ManualBatch I paymentId input
  | .processRefund input _ => fun s c =>
    RefundBatch I input.paymentId s c ∨ ∃ amount, c = .requestRefund input.paymentId amount

/-- Every call commits only its own batches.  Two things depend on how the calls are run: what
the request of a refund leaves alone, and how old the list of `expireStaleReservations` may
be. -/
lemma Call.emits {I G : Database → Database → Prop} {config : GatewayConfig}
    (htrans : ∀ {s t u}, I s t → I t u → I s u)
    (hrequest : ∀ {s t : Database} {id : PaymentId} {amount : Paise},
      Commit.apply (.requestRefund id amount) s = some t → I s t)
    (hsweep : ∀ s, MeeoServer.expireStaleReservations.Emits Commit.apply I G
      (fun s c => ∃ h, ReadActive I s h ∧ c = .expireReservation h) Any s)
    (x : Call) (s : Database) :
    (x.proc config).Emits Commit.apply I G (x.Spec I config) Any s := by
  have transition : ∀ (orderId : OrderId) (newStatus : OrderStatus) (pick : ℕ),
      (MeeoServer.updateOrderStatus orderId newStatus pick).Emits Commit.apply I G
        (TransitionBatch I orderId newStatus) Any s :=
    fun _ _ _ => updateOrderStatus_emits htrans fun _ _ h => h
  cases x with
  | reserveStock input => exact reserveStock_emits input
  | confirmReservation id orderId => exact confirmReservation_emits id orderId
  | releaseReservation id => exact releaseReservation_emits id
  | expireStaleReservations => exact hsweep s
  | addStock v quantity => exact addStock_emits v quantity
  | removeStock v quantity => exact removeStock_emits v quantity
  | adjustStock input => exact adjustStock_emits input
  | createOrder userId checkout key => exact createOrder_emits.andThen fun _ _ => emits_pure
  | updateOrderStatus orderId newStatus pick => exact transition _ _ _
  | cancelOrder orderId userId isAdmin pick => exact cancelOrder_emits htrans
  | confirmOrder orderId pick => exact confirmOrder_emits htrans
  | processOrder orderId pick => exact transition _ _ _
  | shipOrder orderId pick => exact transition _ _ _
  | deliverOrder orderId pick => exact transition _ _ _
  | expireStaleOrders olderThanMinutes pick => exact expireStaleOrders_emits htrans
  | initializePayment userId input pick => exact initializePayment_emits htrans
  | retryPayment userId paymentId => exact retryPayment_emits htrans
  | verifyPayment input pick => exact verifyPayment_emits htrans
  | recordPaymentFailure orderId pick => exact recordPaymentFailure_emits
  | updatePaymentStatus paymentId input => exact updatePaymentStatus_emits
  | processRefund input pick => exact processRefund_emits htrans hrequest

/-- A status change is committed only by the calls that have read and checked it. -/
lemma Call.Spec.transition {I : Database → Database → Prop} {config : GatewayConfig} {x : Call}
    {s : Database} {orderId : OrderId} {previousStatus newStatus : OrderStatus}
    {codPayment : Option (Row Payment)} {holds : List Hold}
    (h : Call.Spec I config x s
      (.updateOrderStatus orderId previousStatus newStatus codPayment holds)) :
    Transition I s orderId previousStatus newStatus codPayment holds := by
  have ofBatch : ∀ {o : OrderId} {new : OrderStatus}, TransitionBatch I o new s
      (.updateOrderStatus orderId previousStatus newStatus codPayment holds) →
      Transition I s orderId previousStatus newStatus codPayment holds := by
    rintro o new ⟨_, _, _, heq, ht⟩
    cases heq
    exact ht
  cases x with
  | updateOrderStatus o new pick => exact ofBatch h
  | cancelOrder o userId isAdmin pick => exact ofBatch h
  | processOrder o pick | shipOrder o pick | deliverOrder o pick => exact ofBatch h
  | confirmOrder o pick =>
    rcases h with ⟨_, heq, -⟩ | h
    · cases heq
    · exact ofBatch h
  | expireStaleOrders olderThanMinutes pick =>
    obtain ⟨o, h⟩ := h
    exact ofBatch h
  | _ =>
    simp [Call.Spec, CheckoutBatch, InitializeBatch, AttemptBatch, VerifyBatch, FailureBatch,
      ManualBatch, RefundBatch] at h

/-! ## Interleaved runs -/

/-- The rule for interleaved runs, for any relation that every commit stays within. -/
theorem server_rely_of {config : GatewayConfig} {Allowed : Call → Prop}
    {Cond : Database → Commit → Prop} {R : Database → Database → Prop} (hrefl : ∀ s, R s s)
    (htrans : ∀ {s t u}, R s t → R t u → R s u) (henv : ∀ e s, R s (Environ.apply e s))
    (hrequest : ∀ {s t : Database} {id : PaymentId} {amount : Paise},
      Commit.apply (.requestRefund id amount) s = some t → R s t)
    (hcommit : ∀ {x s c s'}, Allowed x → Call.Spec R config x s c → Cond s c →
      Commit.apply c s = some s' → R s s') :
    Rely (server config) Allowed Cond R (Call.Spec R config) where
  refl := hrefl
  trans := htrans
  env := henv
  commit := hcommit
  emits x s _ := Call.emits (I := R) (G := R) htrans hrequest
    (fun _ => expireStaleReservations_emits hrefl htrans fun _ _ h => h) x s

/-! ## Sequential runs -/

/-- The stores differ at most in what the gateway knows. -/
def UpToGateway (s t : Database) : Prop := ∃ gateway, t = { s with gateway := gateway }

/-- The rule for sequential runs. -/
theorem server_solo (config : GatewayConfig) (Allowed : Call → Prop) :
    Solo (server config) Allowed UpToGateway (Call.Spec UpToGateway config) where
  refl s := ⟨s.gateway, rfl⟩
  emits x s _ := by
    refine Call.emits ?_ ?_ ?_ x s
    · rintro s t u ⟨g, rfl⟩ ⟨g', rfl⟩
      exact ⟨g', rfl⟩
    · intro s t id amount happ
      obtain rfl := Option.some.inj happ
      exact ⟨_, rfl⟩
    · intro s
      refine expireStaleReservations_solo (fun s => ⟨s.gateway, rfl⟩) ?_
      rintro s t ⟨g, rfl⟩
      rfl

end MeeoServer
