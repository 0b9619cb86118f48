/-
# Refunds

The amount that can still be refunded is computed from the payment as it was read, the gateway
is asked for the refund, and then the new total is written, again from the payment as it was
read.  A payment stays consistent in every run in which no other refund of it comes between
the read and the write.
-/
import MeeoServer.Server.Growth

namespace MeeoServer

/-- The sum of the successful refunds of a payment. -/
def PaymentLedger.refundTotal (l : PaymentLedger) (id : PaymentId) : Paise :=
  (l.refunds.map fun r => if r.paymentId = id ∧ r.status = .success then r.amount else 0).sum

/-- The records of a paid payment agree: what the refunds add up to is the refunded amount, it
is not more than what was paid, and the status says how much of it there is. -/
structure Consistent (l : PaymentLedger) (id : PaymentId) (p : Payment) : Prop where
  row : l.payments[id]? = some p
  paid : 0 < p.paidAmount
  refundTotal : l.refundTotal id = p.refundedAmount
  nonneg : 0 ≤ p.refundedAmount
  le_paid : p.refundedAmount ≤ p.paidAmount
  refunded : p.status = .refunded ↔ p.refundedAmount = p.paidAmount
  partiallyRefunded : p.status = .partiallyRefunded ↔
    0 < p.refundedAmount ∧ p.refundedAmount < p.paidAmount

/-- The records of the payment `id` agree. -/
def RefundsAgree (id : PaymentId) (s : Database) : Prop := ∃ p, Consistent s.ledger id p

/-- A refund is written while the refunded amount is the one it was computed from. -/
def RefundedAsRead (s : Database) : Commit → Prop
  | .processRefund payment _ _ _ =>
    (s.ledger.payments[payment.id]?).map Payment.refundedAmount = some payment.val.refundedAmount
  | _ => True

instance (s : Database) (c : Commit) : Decidable (RefundedAsRead s c) := by
  unfold RefundedAsRead
  split <;> infer_instance

def Call.isRefund : Call → Bool
  | .processRefund .. => true
  | _ => false

/-- Refunds leave the paid amounts alone. -/
def KeepsPaid (s s' : Database) : Prop :=
  Table.Keeps Payment.paidAmount s.ledger.payments s'.ledger.payments

lemma refundTotal_append (l : PaymentLedger) (r : Refund) (id : PaymentId) :
    (l.createRefund r).refundTotal id =
      l.refundTotal id + if r.paymentId = id ∧ r.status = .success then r.amount else 0 := by
  simp [PaymentLedger.refundTotal, PaymentLedger.createRefund]

/-- The batches of `processRefund`, seen from the ledger. -/
lemma ledger_of_refund {I : Database → Database → Prop} {config : GatewayConfig} {x : Call}
    {s s' : Database} {c : Commit} (hx : x.isRefund = true) (hspec : Call.Spec I config x s c)
    (happ : c.apply s = some s') :
    s'.ledger = s.ledger ∨ ∃ payment orderStatus successfulAttempt refundAmount,
      c = .processRefund payment orderStatus successfulAttempt refundAmount ∧
        RefundBatch I payment.id s c ∧
        s'.ledger = Commit.refundedLedger s.ledger payment successfulAttempt refundAmount := by
  cases x with
  | processRefund input pick =>
    rcases hspec with hrefund | ⟨amount, rfl⟩
    · have hbatch := hrefund
      obtain ⟨payment, orderStatus, attempt, amount, rfl, -⟩ := hrefund
      exact Or.inr ⟨_, _, _, _, rfl, hbatch, (Commit.apply_eq_some happ).2.2.1⟩
    · exact Or.inl (Commit.apply_eq_some happ).2.2.1
  | _ => cases hx

lemma refund_rely (config : GatewayConfig) (Cond : Database → Commit → Prop) :
    Rely (server config) (fun x => x.isRefund = true) Cond KeepsPaid
      (Call.Spec KeepsPaid config) := by
  refine server_rely_of (fun _ => Table.Keeps.refl _ _) (fun h h' => Table.Keeps.trans h h')
    (fun e s => ?_) (fun happ => ?_) fun hx hspec _ happ => ?_
  · rw [KeepsPaid, Environ.apply_ledger]
    exact Table.Keeps.refl _ _
  · obtain rfl := Option.some.inj happ
    exact Table.Keeps.refl _ _
  · rcases ledger_of_refund hx hspec happ with hsame | ⟨_, _, _, _, -, -, hledger⟩
    · rw [KeepsPaid, hsame]
      exact Table.Keeps.refl _ _
    · rw [KeepsPaid, hledger]
      exact Table.Keeps.modify _ _ fun _ => rfl

/-- **The step lemma**: a refund that is computed from the present amounts keeps the payment
consistent. -/
lemma Consistent.refund {l : PaymentLedger} {id : PaymentId} {p : Payment}
    (h : Consistent l id p) {payment : Row Payment} (hid : payment.id = id)
    (hpaid : payment.val.paidAmount = p.paidAmount)
    (hread : payment.val.refundedAmount = p.refundedAmount) {amount : Paise} (hpos : 0 < amount)
    (hmax : amount ≤ payment.val.paidAmount - payment.val.refundedAmount)
    (attempt : Option ℕ) :
    ∃ p', Consistent (Commit.refundedLedger l payment attempt amount) id p' := by
  subst hid
  have hnonneg := h.nonneg
  -- the total was computed from the row as it is now
  have htotal : Commit.newRefundedTotal payment amount = p.refundedAmount + amount := by
    rw [Commit.newRefundedTotal, hread]
  -- the bound makes the comparison of the code an equality
  have hfull : Commit.isFullyRefunded payment amount = true ↔
      p.refundedAmount + amount = p.paidAmount := by
    rw [Commit.isFullyRefunded, decide_eq_true_iff, htotal, hpaid]
    exact ⟨fun hge => le_antisymm (by linarith) hge, fun heq => heq.ge⟩
  refine ⟨_, ⟨Table.getElem?_modify_self _ h.row, h.paid, ?_, ?_, ?_, ?_, ?_⟩⟩
  · show (l.createRefund ⟨payment.id, amount, .success⟩).refundTotal payment.id = _
    rw [refundTotal_append, h.refundTotal, htotal]
    simp
  · rw [htotal]
    linarith
  · rw [htotal]
    linarith
  · rw [htotal, ← hfull]
    cases Commit.isFullyRefunded payment amount <;> simp
  · rw [htotal]
    cases hcase : Commit.isFullyRefunded payment amount with
    | true =>
      have := hfull.mp hcase
      simp [this]
    | false =>
      have hne : ¬ p.refundedAmount + amount = p.paidAmount := by
        rw [← hfull, hcase]
        decide
      have hle : p.refundedAmount + amount ≤ p.paidAmount := by linarith
      simp only [Bool.false_eq_true, if_false, true_iff]
      exact ⟨by linarith, lt_of_le_of_ne hle hne⟩

/-- A refund of another payment changes nothing. -/
lemma Consistent.other {l : PaymentLedger} {id : PaymentId} {p : Payment}
    (h : Consistent l id p) {payment : Row Payment} (hid : payment.id ≠ id) (amount : Paise)
    (attempt : Option ℕ) :
    Consistent (Commit.refundedLedger l payment attempt amount) id p where
  row := by
    show (l.payments.modify payment.id _)[id]? = some p
    rw [List.getElem?_modify_ne _ _ hid, h.row]
  paid := h.paid
  refundTotal := by
    show (l.createRefund ⟨payment.id, amount, .success⟩).refundTotal id = _
    rw [refundTotal_append, h.refundTotal]
    simp [hid]
  nonneg := h.nonneg
  le_paid := h.le_paid
  refunded := h.refunded
  partiallyRefunded := h.partiallyRefunded

/-- **Refund safety**, in the runs in which every refund is written while the refunded amount
is the one it was computed from: the refunds of a payment never add up to more than was paid,
and the refunded amount and the status say what they add up to. -/
theorem refundsAgree_of_reachable (config : GatewayConfig) {s₀ : Database} {id : PaymentId}
    (h₀ : RefundsAgree id s₀) {cfg : Config Database Commit AppError}
    (hr : (server config).Reachable (fun x => x.isRefund = true) RefundedAsRead s₀ cfg) :
    RefundsAgree id cfg.store := by
  refine (refund_rely config _).invariant hr h₀ ?_ ?_
  · intro e s hs
    simpa [server, RefundsAgree] using hs
  · rintro x s c s' hx hspec hcond happ ⟨p, hp⟩
    rcases ledger_of_refund hx hspec happ with hsame | ⟨⟨i, payment⟩, _, attempt, amount, rfl,
      ⟨payment', _, _, _, heq, ⟨s₁, hkeeps, hrow, -⟩, -, hpos, hmax⟩, hledger⟩
    · rw [RefundsAgree, hsame]
      exact ⟨p, hp⟩
    · cases heq
      rw [RefundsAgree, hledger]
      by_cases hid : i = id
      · subst hid
        -- the paid amount never changes, the refunded one has not changed since the read
        obtain ⟨q, hq, hpaid⟩ := hkeeps.getElem? hrow
        obtain rfl : p = q := Option.some.inj (hp.row.symm.trans hq)
        have hread : p.refundedAmount = payment.refundedAmount := by
          simpa [RefundedAsRead, hp.row] using hcond
        exact hp.refund (rfl : (⟨i, payment⟩ : Row Payment).id = i) hpaid.symm hread.symm hpos
          hmax attempt
      · exact ⟨p, hp.other hid amount attempt⟩

/-- A payment of 100 rupees, from which nothing has been refunded yet. -/
def paidStore : Database :=
  { Database.stocked 0 with
    book := ⟨[⟨7, .confirmed, 10000, [], 0, none⟩], [⟨0, none, .confirmed⟩]⟩
    ledger := ⟨[⟨0, .razorpay, .success, 10000, 10000, 0⟩], [], [], []⟩ }

lemma paidStore_refundsAgree : RefundsAgree 0 paidStore :=
  ⟨_, ⟨rfl, by decide, by decide, by decide, by decide, by decide, by decide⟩⟩

/-- Two refunds of 60 and of 40 rupees, one after the other. -/
theorem refundsAgree_of_reachable_two :
    ∃ cfg, (server .unchecked).Reachable (fun x => x.isRefund = true) RefundedAsRead paidStore
        cfg ∧
      cfg.store.ledger.refundTotal 0 = 10000 ∧ RefundsAgree 0 cfg.store := by
  obtain ⟨cfg, hr, htotal⟩ := Machine.exists_reachable_of_exec
    (server .unchecked) (fun x => x.isRefund = true) RefundedAsRead
    [.call (.processRefund ⟨0, some 60⟩ 0), .step 0 .ok, .step 0 .ok, .step 0 .ok,
      .call (.processRefund ⟨0, some 40⟩ 0), .step 1 .ok, .step 1 .ok, .step 1 .ok]
    paidStore (fun s => s.ledger.refundTotal 0) 10000 (by decide +kernel)
  exact ⟨cfg, hr, htotal, refundsAgree_of_reachable .unchecked paidStore_refundsAgree hr⟩

/-- Without the condition more is refunded than was paid: two refunds of 60 rupees read the
same payment of 100. -/
theorem refunds_exceed_paid :
    ¬ ∀ (config : GatewayConfig) (s₀ : Database) (id : PaymentId)
      (cfg : Config Database Commit AppError), RefundsAgree id s₀ →
      (server config).Reachable (fun x => x.isRefund = true) Free s₀ cfg →
      RefundsAgree id cfg.store := by
  intro h
  obtain ⟨cfg, hr, heq⟩ := Machine.exists_reachable_of_exec
    (server .unchecked) (fun x => x.isRefund = true) Free
    [.call (.processRefund ⟨0, some 60⟩ 0), .call (.processRefund ⟨0, some 60⟩ 0),
      .step 0 .ok, .step 1 .ok, .step 0 .ok, .step 0 .ok, .step 1 .ok, .step 1 .ok]
    paidStore (fun s => (s.ledger.refundTotal 0, s.ledger.payments))
    (12000, [⟨0, .razorpay, .partiallyRefunded, 10000, 10000, 6000⟩]) (by decide +kernel)
  obtain ⟨p, hp⟩ := h .unchecked paidStore 0 cfg paidStore_refundsAgree hr
  have htotal : cfg.store.ledger.refundTotal 0 = 12000 := (Prod.ext_iff.mp heq).1
  have hrows : cfg.store.ledger.payments =
      [⟨0, .razorpay, .partiallyRefunded, 10000, 10000, 6000⟩] := (Prod.ext_iff.mp heq).2
  have hle : cfg.store.ledger.refundTotal 0 ≤ p.paidAmount := hp.refundTotal.le.trans hp.le_paid
  have hrow := hp.row
  rw [hrows] at hrow
  obtain rfl := Option.some.inj hrow
  rw [htotal] at hle
  exact absurd hle (by decide)

end MeeoServer
