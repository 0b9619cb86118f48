/-
# Money and orders that have been called off

The calls are served one after another.  Calling an order off fails its pending payments and
does nothing to the others, and the services that open or pay a payment do not look at the
status of its order.  In the sequential runs in which an order is called off only when its
other payments are settled and refunded, and no payment of a dead order is opened or paid, no
money is kept for a dead order.
-/
import MeeoServer.Orders.Conservation

namespace MeeoServer

/-- Nothing is kept of a payment, and nobody can pay it. -/
structure Payment.Closed (p : Payment) : Prop where
  amounts : p.paidAmount = p.refundedAmount
  status : p.status.isOpen = false

instance (p : Payment) : Decidable p.Closed :=
  decidable_of_iff (p.paidAmount = p.refundedAmount ∧ p.status.isOpen = false)
    ⟨fun h => ⟨h.1, h.2⟩, fun h => ⟨h.1, h.2⟩⟩

/-- The order has been called off. -/
def Database.isDead (s : Database) (o : OrderId) : Bool :=
  (s.book.statusOf o).any OrderStatus.dead

/-- The payments of the orders that have been called off are closed. -/
def NoMoneyKept (s : Database) : Prop :=
  ∀ p ∈ s.ledger.payments, s.isDead p.orderId = true → p.Closed

instance (s : Database) : Decidable (NoMoneyKept s) := by
  unfold NoMoneyKept
  infer_instance

/-- The calls that place, pay, refund and end orders. -/
def Call.placesOrPays : Call → Bool
  | .createOrder .. | .initializePayment .. | .retryPayment .. | .verifyPayment ..
  | .updatePaymentStatus .. | .processRefund .. | .updateOrderStatus .. | .cancelOrder ..
  | .expireStaleOrders .. => true
  | _ => false

/-- What was paid for an order that is called off has been refunded, and none of its payments is
at the gateway (those that are pending, the batch fails); no payment of a dead order is retried,
and none is marked as open or as paid by hand. -/
def ClosesPayments (s : Database) : Commit → Prop
  | .updateOrderStatus orderId _ newStatus _ _ =>
    newStatus.dead = true → ∀ p ∈ s.ledger.payments, p.orderId = orderId →
      p.paidAmount = p.refundedAmount ∧ p.status ≠ .processing ∧ p.status ≠ .requiresAction
  | .markProcessing id => ∀ p ∈ s.ledger.payments[id]?, s.isDead p.orderId = false
  | .updatePaymentStatus payment _ input =>
    ∀ p ∈ s.ledger.payments[payment.id]?, s.isDead p.orderId = true →
      input.status.isOpen = false ∧
        (input.status = .success →
          (input.paidAmount.map Nat.cast).getD payment.val.amount = p.refundedAmount)
  | _ => True

instance (s : Database) (c : Commit) : Decidable (ClosesPayments s c) := by
  unfold ClosesPayments
  split <;> infer_instance

/-! ## One batch -/

lemma Database.isDead_eq_true {s : Database} {o : OrderId} :
    s.isDead o = true ↔ ∃ st, s.book.statusOf o = some st ∧ st.dead = true := by
  cases h : s.book.statusOf o <;> simp [Database.isDead, h]

/-- What `failPending` leaves of a payment. -/
lemma mem_failPending {l : PaymentLedger} {o : OrderId} {p' : Payment}
    (h : p' ∈ (Commit.failPending l o).payments) :
    ∃ p ∈ l.payments, p'.orderId = p.orderId ∧
      (p' = p ∧ ¬ (p.orderId = o ∧ p.status = .pending) ∨
        p.orderId = o ∧ p' = { p with status := .failed }) := by
  obtain ⟨p, hp, rfl⟩ := List.mem_map.mp h
  by_cases hpending : p.orderId = o ∧ p.status = .pending
  · exact ⟨p, hp, by simp [hpending], Or.inr ⟨hpending.1, by simp [hpending]⟩⟩
  · exact ⟨p, hp, by simp [hpending], Or.inl ⟨by simp [hpending], hpending⟩⟩

@[simp] lemma payments_createTransaction (l : PaymentLedger) (t : PaymentTransaction) :
    (l.createTransaction t).payments = l.payments := rfl

@[simp] lemma payments_updateAttempt (l : PaymentLedger) (a : Option ℕ)
    (st : PaymentAttemptStatus) : (l.updateAttempt a st).payments = l.payments := by
  cases a <;> rfl

/-- A row after an update is an old row, or the updated one. -/
lemma mem_updatePayment {l : PaymentLedger} {id : PaymentId} {f : Payment → Payment}
    {p' : Payment} (h : p' ∈ (l.updatePayment id f).payments) :
    p' ∈ l.payments ∨ ∃ p, l.payments[id]? = some p ∧ p' = f p := by
  obtain ⟨i, hi⟩ := List.mem_iff_getElem?.mp h
  simp only [PaymentLedger.updatePayment, List.getElem?_modify] at hi
  by_cases hid : id = i
  · subst hid
    obtain ⟨p, hp, rfl⟩ := Option.map_eq_some_iff.mp hi
    exact Or.inr ⟨p, hp, by simp⟩
  · exact Or.inl (List.mem_of_getElem? (by simpa [hid] using hi))

section Batches

variable {config : GatewayConfig} {x : Call} {s s' : Database} {c : Commit}

/-- A payment is created for an order that is alive. -/
lemma Call.Spec.createPayment {o : OrderId} {provider : Provider} {amount : Paise}
    (h : Call.Spec UpToGateway config x s (.createPayment o provider amount)) :
    s.isDead o = false := by
  cases x with
  | initializePayment userId input pick =>
    rcases h with ⟨_, hattempt⟩ | heq | ⟨_, _, heq, s₁, ⟨gateway, rfl⟩, hstatus⟩
    · exact False.elim hattempt
    · cases heq
    · cases heq
      rcases hstatus with hst | hst <;> simp [Database.isDead, hst, OrderStatus.dead]
  | _ =>
    simp [Call.Spec, CheckoutBatch, TransitionBatch, ConfirmBatch, AttemptBatch, VerifyBatch,
      FailureBatch, ManualBatch, RefundBatch] at h

/-- A verification writes the payment and the status of its order as they are. -/
lemma Call.Spec.verifyPayment {input : VerifyPaymentInput} {payment : Row Payment}
    {orderStatus : Option OrderStatus} {latestAttempt : Option ℕ} {holds : List Hold}
    (h : Call.Spec UpToGateway config x s
      (.verifyPayment input payment orderStatus latestAttempt holds)) :
    s.ledger.payments[payment.id]? = some payment.val ∧
      orderStatus = s.book.statusOf payment.val.orderId := by
  cases x with
  | verifyPayment input pick =>
    obtain ⟨_, _, _, _, heq, -, ⟨s₁, ⟨gateway, rfl⟩, hrow, -, -, hstatus⟩, -⟩ := h
    cases heq
    exact ⟨hrow, hstatus⟩
  | _ =>
    simp [Call.Spec, CheckoutBatch, TransitionBatch, ConfirmBatch, InitializeBatch, AttemptBatch,
      FailureBatch, ManualBatch, RefundBatch] at h

/-- What is refunded has been paid and not been refunded yet. -/
lemma Call.Spec.processRefund {payment : Row Payment} {orderStatus : Option OrderStatus}
    {successfulAttempt : Option ℕ} {refundAmount : Paise}
    (h : Call.Spec UpToGateway config x s
      (.processRefund payment orderStatus successfulAttempt refundAmount)) :
    s.ledger.payments[payment.id]? = some payment.val ∧
      payment.val.refundedAmount < payment.val.paidAmount := by
  cases x with
  | processRefund input pick =>
    rcases h with ⟨_, _, _, _, heq, ⟨s₁, ⟨gateway, rfl⟩, hrow, -⟩, -, hpos, hmax⟩ | ⟨_, heq⟩
    · cases heq
      exact ⟨hrow, sub_pos.mp (hpos.trans_le hmax)⟩
    · cases heq
  | _ =>
    simp [Call.Spec, CheckoutBatch, TransitionBatch, ConfirmBatch, InitializeBatch, AttemptBatch,
      VerifyBatch, FailureBatch, ManualBatch] at h

/-- An order to which a batch gives a live status is not dead after it. -/
lemma isDead_of_statusChange (happ : c.apply s = some s') {o : OrderId} {prev new : OrderStatus}
    (h : c.statusChange = some (o, prev, new)) (hnew : new.dead = false) :
    s'.isDead o = false := by
  have hbook : s'.book = s.book.changeStatus o prev new := by
    rw [(Commit.apply_eq_some happ).2.1]
    cases c with
    | createOrder checkout expiresAt placedUnder => cases h
    | _ => simp only [Commit.bookAfter, h]
  cases ho : s.book.orders[o]? <;>
    simp [Database.isDead, hbook, OrderBook.statusOf, OrderBook.changeStatus, ho, hnew]

/-- An order that is dead after a batch was dead before, or the batch has called it off. -/
lemma isDead_of_apply (happ : c.apply s = some s') {o : OrderId} (h : s'.isDead o = true) :
    s.isDead o = true ∨ ∃ prev new codPayment holds,
      c = .updateOrderStatus o prev new codPayment holds ∧ new.dead = true := by
  obtain ⟨st, hst, hdead⟩ := Database.isDead_eq_true.mp h
  rw [(Commit.apply_eq_some happ).2.1] at hst
  rcases Commit.dead_of_bookAfter hst hdead with ⟨st', hst', hdead'⟩ | ⟨prev, cod, holds, rfl⟩
  · exact Or.inl (Database.isDead_eq_true.mpr ⟨st', hst', hdead'⟩)
  · exact Or.inr ⟨prev, st, cod, holds, rfl, hdead⟩

/-- A verification makes the order of the payment live. -/
lemma isDead_of_verifyPayment (happ : c.apply s = some s') {input : VerifyPaymentInput}
    {payment : Row Payment} {orderStatus : Option OrderStatus} {latestAttempt : Option ℕ}
    {holds : List Hold} (hc : c = .verifyPayment input payment orderStatus latestAttempt holds)
    (hread : orderStatus = s.book.statusOf payment.val.orderId) :
    s'.isDead payment.val.orderId = false := by
  subst hc
  by_contra hdead
  rw [Bool.not_eq_false] at hdead
  rcases isDead_of_apply happ hdead with h | ⟨_, _, _, _, heq, -⟩
  · obtain ⟨st, hst, hd⟩ := Database.isDead_eq_true.mp h
    have hne : ¬ st = .confirmed := by
      rintro rfl
      cases hd
    have hchange : Commit.statusChange (.verifyPayment input payment orderStatus latestAttempt
        holds) = some (payment.val.orderId, st, .confirmed) := by
      simp [Commit.statusChange, hread, hst, hne]
    have hlive := isDead_of_statusChange happ hchange rfl
    rw [hdead] at hlive
    cases hlive
  · cases heq

/-- The payments of an order that is called off. -/
lemma closed_of_calledOff {o : OrderId} {prev new : OrderStatus} {cod : Option (Row Payment)}
    {holds : List Hold} (hspec : Call.Spec UpToGateway config x s (.updateOrderStatus o prev new
      cod holds))
    (hcond : ClosesPayments s (.updateOrderStatus o prev new cod holds)) (hnew : new.dead = true)
    {p' : Payment} (hp' : p' ∈ (Commit.ledgerAfter s (.updateOrderStatus o prev new cod
      holds)).payments) (ho : p'.orderId = o) : p'.Closed := by
  have hcod : cod = none := by
    cases cod with
    | none => rfl
    | some q =>
      obtain ⟨rfl, -⟩ := hspec.transition.cod q rfl
      cases hnew
  subst hcod
  simp only [Commit.ledgerAfter, hnew, if_true, Commit.settleCod] at hp'
  obtain ⟨p, hp, hsame, hcase⟩ := mem_failPending hp'
  obtain ⟨hamounts, hprocessing, haction⟩ := hcond hnew p hp (hsame.symm.trans ho)
  rcases hcase with ⟨rfl, hnot⟩ | ⟨-, rfl⟩
  · refine ⟨hamounts, ?_⟩
    cases hstatus : p'.status with
    | pending => exact absurd ⟨ho, hstatus⟩ hnot
    | processing => exact absurd hstatus hprocessing
    | requiresAction => exact absurd hstatus haction
    | _ => rfl
  · exact ⟨hamounts, rfl⟩

/-- A batch that settles the payment of a delivery, or fails pending payments, closes the
payments of the orders that were dead. -/
lemma closed_of_updateOrderStatus {o : OrderId} {prev new : OrderStatus}
    {cod : Option (Row Payment)} {holds : List Hold}
    (hspec : Call.Spec UpToGateway config x s (.updateOrderStatus o prev new cod holds))
    (happ : Commit.apply (.updateOrderStatus o prev new cod holds) s = some s')
    (h : NoMoneyKept s) {p' : Payment} (hp' : p' ∈ s'.ledger.payments)
    (hbefore : s.isDead p'.orderId = true) (hafter : s'.isDead p'.orderId = true) :
    p'.Closed := by
  have hsettled : ∀ p ∈ (Commit.settleCod s.ledger cod).payments, p.orderId = p'.orderId →
      p.Closed := by
    intro p hp ho
    cases cod with
    | none => exact h p hp (ho ▸ hbefore)
    | some q =>
      obtain ⟨rfl, s₁, ⟨gateway, rfl⟩, hrow, horder, -⟩ := hspec.transition.cod q rfl
      rcases mem_updatePayment hp with hold | ⟨p₁, hp₁, rfl⟩
      · exact h p hold (ho ▸ hbefore)
      · -- the payment of the delivered order, which is alive
        obtain rfl : q.val = p₁ := Option.some.inj (hrow.symm.trans hp₁)
        have hlive := isDead_of_statusChange happ rfl rfl
        rw [← horder, ho, hafter] at hlive
        cases hlive
  rw [(Commit.apply_eq_some happ).2.2.1] at hp'
  simp only [Commit.ledgerAfter] at hp'
  split at hp'
  · obtain ⟨p, hp, hsame, ⟨rfl, -⟩ | ⟨-, rfl⟩⟩ := mem_failPending hp'
    · exact hsettled p' hp rfl
    · exact ⟨(hsettled p hp rfl).amounts, rfl⟩
  · exact hsettled p' hp' rfl

/-- **The step lemma.** -/
lemma NoMoneyKept.of_apply (hspec : Call.Spec UpToGateway config x s c)
    (hcond : ClosesPayments s c) (happ : c.apply s = some s') (h : NoMoneyKept s) :
    NoMoneyKept s' := by
  intro p' hp' hafter
  have hledger := (Commit.apply_eq_some happ).2.2.1
  rcases isDead_of_apply happ hafter with hbefore | ⟨prev, new, cod, holds, rfl, hnew⟩
  swap
  · rw [hledger] at hp'
    exact closed_of_calledOff hspec hcond hnew hp' rfl
  have hold : p' ∈ s.ledger.payments → p'.Closed := fun hp => h p' hp hbefore
  cases c with
  | updateOrderStatus o prev new cod holds =>
    exact closed_of_updateOrderStatus hspec happ h hp' hbefore hafter
  | createOrder checkout expiresAt placedUnder =>
    rw [hledger] at hp'
    simp only [Commit.ledgerAfter] at hp'
    split at hp'
    · rcases List.mem_append.mp hp' with hp | hp
      · exact hold hp
      · -- the new order did not exist before
        obtain rfl := List.mem_singleton.mp hp
        simp [Database.isDead, OrderBook.statusOf] at hbefore
    · exact hold hp'
  | createPayment orderId provider amount =>
    rw [hledger] at hp'
    rcases List.mem_append.mp hp' with hp | hp
    · exact hold hp
    · obtain rfl := List.mem_singleton.mp hp
      rw [hspec.createPayment] at hbefore
      cases hbefore
  | markProcessing id =>
    rw [hledger] at hp'
    rcases mem_updatePayment hp' with hp | ⟨p, hp, rfl⟩
    · exact hold hp
    · rw [hcond p hp] at hbefore
      cases hbefore
  | verifyPayment input payment orderStatus latestAttempt holds =>
    obtain ⟨hrow, hstatus⟩ := hspec.verifyPayment
    have hlive := isDead_of_verifyPayment happ rfl hstatus
    rw [hledger] at hp'
    simp only [Commit.ledgerAfter, Commit.verifiedLedger, payments_createTransaction,
      payments_updateAttempt] at hp'
    rcases mem_updatePayment hp' with hp | ⟨p, hp, rfl⟩
    · exact hold hp
    · obtain rfl : payment.val = p := Option.some.inj (hrow.symm.trans hp)
      rw [hafter] at hlive
      cases hlive
  | recordPaymentFailure payment latestAttempt =>
    rw [hledger] at hp'
    simp only [Commit.ledgerAfter, Commit.failedLedger, payments_createTransaction,
      payments_updateAttempt] at hp'
    rcases mem_updatePayment hp' with hp | ⟨p, hp, rfl⟩
    · exact hold hp
    · exact ⟨(h p (List.mem_of_getElem? hp) hbefore).amounts, rfl⟩
  | updatePaymentStatus payment orderStatus input =>
    rw [hledger] at hp'
    simp only [Commit.ledgerAfter, Commit.manualLedger, payments_createTransaction] at hp'
    rcases mem_updatePayment hp' with hp | ⟨p, hp, rfl⟩
    · exact hold hp
    · obtain ⟨hopen, hpaid⟩ := hcond p hp hbefore
      refine ⟨?_, hopen⟩
      dsimp only
      split
      · exact hpaid ‹_›
      · exact (h p (List.mem_of_getElem? hp) hbefore).amounts
  | processRefund payment orderStatus successfulAttempt refundAmount =>
    obtain ⟨hrow, hlt⟩ := hspec.processRefund
    rw [hledger] at hp'
    rcases mem_updatePayment hp' with hp | ⟨p, hp, rfl⟩
    · exact hold hp
    · -- nothing of the payment is left to be refunded
      obtain rfl : payment.val = p := Option.some.inj (hrow.symm.trans hp)
      have hclosed := h payment.val (List.mem_of_getElem? hrow) hbefore
      exact absurd hclosed.amounts hlt.ne'
  | _ =>
    rw [hledger] at hp'
    exact hold hp'

end Batches

/-! ## Whole runs -/

/-- **No money is kept for a dead order**, in the sequential runs in which an order is called off
only when what was paid for it has been refunded and no payment of it is at the gateway, and in
which no payment of a dead order is retried or marked as open or paid: every payment of an order
that is CANCELLED or EXPIRED is closed. -/
theorem noMoneyKept_of_reachable (config : GatewayConfig) (Allowed : Call → Prop)
    {s₀ s : Database} (h₀ : NoMoneyKept s₀)
    (hr : (server config).SeqReachable Allowed ClosesPayments s₀ s) : NoMoneyKept s := by
  refine (server_solo config Allowed).invariant hr h₀ (fun e s hs => ?_)
    fun _ hspec hcond happ hs => hs.of_apply hspec hcond happ
  simpa [server, NoMoneyKept, Database.isDead] using hs

/-- An order is placed, its payment is started, and the order is cancelled. -/
theorem noMoneyKept_of_reachable_cancelled :
    ∃ s, (server .sample).SeqReachable (fun x => x.placesOrPays = true) ClosesPayments
        (.stocked 5) s ∧
      s.isDead 0 = true ∧ s.ledger.payments.map Payment.status = [.failed] ∧ NoMoneyKept s := by
  obtain ⟨s, hr, heq⟩ := Machine.exists_seqReachable_of_execSeq
    (server .sample) (fun x => x.placesOrPays = true) ClosesPayments
    [.inl (.createOrder 7 (.ok ⟨7, [⟨0, 2, "Tee", "TEE-1"⟩], 1000, false⟩) none),
      .inl (.initializePayment (some 7) ⟨0, .razorpay⟩ 0),
      .inl (.cancelOrder 0 (some 7) false 0)]
    (.stocked 5) (fun s => (s.isDead 0, s.ledger.payments.map Payment.status))
    (true, [.failed]) (by decide)
  obtain ⟨hdead, hstatus⟩ := Prod.ext_iff.mp heq
  exact ⟨s, hr, hdead, hstatus,
    noMoneyKept_of_reachable .sample _ (fun p hp => absurd hp List.not_mem_nil) hr⟩

/-- Without the condition money is kept: an order is paid and then cancelled. -/
theorem money_kept :
    ¬ ∀ (config : GatewayConfig) (s₀ s : Database), NoMoneyKept s₀ →
      (server config).SeqReachable (fun x => x.placesOrPays = true) Free s₀ s → NoMoneyKept s := by
  intro h
  obtain ⟨s, hr, hkept⟩ := Machine.exists_seqReachable_of_execSeq
    (server .sample) (fun x => x.placesOrPays = true) Free
    [.inl (.createOrder 7 (.ok ⟨7, [⟨0, 2, "Tee", "TEE-1"⟩], 1000, false⟩) none),
      .inl (.initializePayment (some 7) ⟨0, .razorpay⟩ 0), .inr (.capture 0 3),
      .inl (.verifyPayment ⟨0, 0, 3, 9003⟩ 0), .inl (.cancelOrder 0 (some 7) false 0)]
    (.stocked 5) (fun s => decide (NoMoneyKept s)) false (by decide)
  have hclosed := h .sample (.stocked 5) s (fun p hp => absurd hp List.not_mem_nil) hr
  exact absurd hclosed (of_decide_eq_false hkept)

end MeeoServer
