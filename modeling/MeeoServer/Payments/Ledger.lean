/-
# The totals of a payment and its transactions

Four services write the amounts of a payment, and each of them appends a row to the ledger.
The verification, the manual update and the settlement upon delivery set the paid amount, while
their rows add up, so they agree only the first time.  A manual REFUNDED writes no amount at all.
-/
import MeeoServer.Payments.States

namespace MeeoServer

/-! ## Sums of the ledger -/

namespace PaymentTransaction

variable (t : PaymentTransaction)

/-- What a row adds to the charges. -/
def charged : Paise := if t.type = .charge ∧ t.status = .success then t.amount else 0

/-- What a row adds to the refunds. -/
def refunded : Paise := if t.type = .refund ∧ t.status = .success then t.amount else 0

end PaymentTransaction

namespace PaymentLedger

variable (l : PaymentLedger) (id : PaymentId)

/-- The sum over the rows of a payment. -/
def total (amount : PaymentTransaction → Paise) : Paise :=
  ((l.transactions.filter fun t => t.paymentId = id).map amount).sum

/-- The amounts of a payment are those of its rows, and a payment that is REFUNDED has been
refunded. -/
structure Agrees (p : Payment) : Prop where
  paid : p.paidAmount = l.total id PaymentTransaction.charged
  refunded : p.refundedAmount = l.total id PaymentTransaction.refunded
  full : p.status = .refunded → p.refundedAmount = p.paidAmount

end PaymentLedger

/-- Every row of the ledger is about a payment, and the amounts of all payments agree with it. -/
structure LedgerAgrees (l : PaymentLedger) : Prop where
  references : ∀ t ∈ l.transactions, t.paymentId < l.payments.length
  agrees : ∀ id p, l.payments[id]? = some p → l.Agrees id p

/-! ## One write -/

section Writes

variable {l l' : PaymentLedger} {id : PaymentId}

lemma total_append {t : PaymentTransaction} (amount : PaymentTransaction → Paise)
    (h : l'.transactions = l.transactions ++ [t]) :
    l'.total id amount = l.total id amount + if t.paymentId = id then amount t else 0 := by
  unfold PaymentLedger.total
  rw [h, List.filter_append, List.map_append, List.sum_append]
  by_cases hid : t.paymentId = id
  · simp [hid]
  · simp [hid]

/-- A payment that was just created has no rows. -/
lemma LedgerAgrees.total_length (h : LedgerAgrees l) (amount : PaymentTransaction → Paise) :
    l.total l.payments.length amount = 0 := by
  have hnone : (l.transactions.filter fun t => t.paymentId = l.payments.length) = [] := by
    rw [List.filter_eq_nil_iff]
    intro t ht heq
    have hlt := h.references t ht
    rw [of_decide_eq_true heq] at hlt
    exact lt_irrefl _ hlt
  unfold PaymentLedger.total
  rw [hnone]
  rfl

/-- **The step lemma**: a service that writes a payment and appends a row about it keeps the
ledger in agreement exactly if the amounts grow by what the row says. -/
lemma LedgerAgrees.write_iff {m : PaymentLedger} (h : LedgerAgrees l) {t : PaymentTransaction}
    {p : Payment} {f : Payment → Payment} (hrow : l.payments[t.paymentId]? = some p)
    (hpayments : m.payments = l.payments.modify t.paymentId f)
    (htransactions : m.transactions = l.transactions ++ [t]) :
    LedgerAgrees m ↔ (f p).paidAmount = p.paidAmount + t.charged ∧
      (f p).refundedAmount = p.refundedAmount + t.refunded ∧
      ((f p).status = .refunded → (f p).refundedAmount = (f p).paidAmount) := by
  have hself : m.payments[t.paymentId]? = some (f p) := by
    rw [hpayments]
    exact Table.getElem?_modify_self f hrow
  have hold := h.agrees t.paymentId p hrow
  have hpaid : m.total t.paymentId PaymentTransaction.charged = p.paidAmount + t.charged := by
    rw [total_append _ htransactions, if_pos rfl, hold.paid]
  have hrefunded : m.total t.paymentId PaymentTransaction.refunded =
      p.refundedAmount + t.refunded := by
    rw [total_append _ htransactions, if_pos rfl, hold.refunded]
  constructor
  · intro h'
    have hnew := h'.agrees t.paymentId (f p) hself
    exact ⟨hnew.paid.trans hpaid, hnew.refunded.trans hrefunded, hnew.full⟩
  · rintro ⟨hpaid', hrefunded', hfull⟩
    constructor
    · intro u hu
      rw [hpayments, List.length_modify]
      rw [htransactions] at hu
      rcases List.mem_append.mp hu with hu | hu
      · exact h.references u hu
      · obtain rfl := List.mem_singleton.mp hu
        exact (List.getElem?_eq_some_iff.mp hrow).1
    · intro id q hq
      by_cases hid : t.paymentId = id
      · subst hid
        obtain rfl : f p = q := Option.some.inj (hself.symm.trans hq)
        exact ⟨hpaid'.trans hpaid.symm, hrefunded'.trans hrefunded.symm, hfull⟩
      · -- the other payments and their rows are as they were
        rw [hpayments, List.getElem?_modify_ne _ _ hid] at hq
        have hother := h.agrees id q hq
        refine ⟨?_, ?_, hother.full⟩
        · rw [total_append _ htransactions, if_neg hid, add_zero, hother.paid]
        · rw [total_append _ htransactions, if_neg hid, add_zero, hother.refunded]

/-- A new payment, of which nothing is paid. -/
lemma LedgerAgrees.create (h : LedgerAgrees l) {p : Payment}
    (hpayments : l'.payments = l.payments ++ [p]) (htransactions : l'.transactions = l.transactions)
    (hpaid : p.paidAmount = 0) (hrefunded : p.refundedAmount = 0)
    (hstatus : p.status ≠ .refunded) : LedgerAgrees l' := by
  have htotal : ∀ id amount, l'.total id amount = l.total id amount := by
    intro id amount
    unfold PaymentLedger.total
    rw [htransactions]
  constructor
  · intro t ht
    rw [htransactions] at ht
    rw [hpayments, List.length_append]
    exact Nat.lt_add_right _ (h.references t ht)
  · intro id q hq
    rw [hpayments] at hq
    by_cases hlt : id < l.payments.length
    · rw [List.getElem?_append_left hlt] at hq
      have hold := h.agrees id q hq
      exact ⟨(htotal _ _).symm ▸ hold.paid, (htotal _ _).symm ▸ hold.refunded, hold.full⟩
    · have hle : l.payments.length ≤ id := not_lt.mp hlt
      rw [List.getElem?_append_right hle, List.getElem?_singleton] at hq
      obtain ⟨hzero, hq⟩ := Option.ite_none_right_eq_some.mp hq
      obtain rfl := Option.some.inj hq
      obtain rfl : id = l.payments.length := le_antisymm (Nat.sub_eq_zero_iff_le.mp hzero) hle
      refine ⟨?_, ?_, fun hst => absurd hst hstatus⟩
      · rw [htotal, h.total_length, hpaid]
      · rw [htotal, h.total_length, hrefunded]

/-- Writes to other columns, by which no payment becomes REFUNDED. -/
lemma LedgerAgrees.of_kept (h : LedgerAgrees l) (hlength : l'.payments.length = l.payments.length)
    (hkept : ∀ (id : PaymentId) (q : Payment), l'.payments[id]? = some q →
      ∃ p, l.payments[id]? = some p ∧ q.paidAmount = p.paidAmount ∧
        q.refundedAmount = p.refundedAmount ∧ (q.status = .refunded → p.status = .refunded))
    (htransactions : l'.transactions = l.transactions) : LedgerAgrees l' := by
  constructor
  · intro t ht
    rw [hlength]
    exact h.references t (htransactions ▸ ht)
  · intro id q hq
    obtain ⟨p, hp, hpaid, hrefunded, hstatus⟩ := hkept id q hq
    have hold := h.agrees id p hp
    have htotal : ∀ amount, l'.total id amount = l.total id amount := by
      intro amount
      unfold PaymentLedger.total
      rw [htransactions]
    refine ⟨?_, ?_, fun hst => ?_⟩
    · rw [htotal, hpaid, hold.paid]
    · rw [htotal, hrefunded, hold.refunded]
    · rw [hpaid, hrefunded, hold.full (hstatus hst)]

/-- The payment that an update of the status leaves. -/
lemma LedgerAgrees.updateStatus (h : LedgerAgrees l) (id : PaymentId) {st : PaymentStatus}
    (hst : st ≠ .refunded) :
    LedgerAgrees (l.updatePayment id fun p => { p with status := st }) := by
  refine h.of_kept (List.length_modify _ _ _) (fun i q hq => ?_) rfl
  have hq' : (l.payments.modify id fun p => { p with status := st })[i]? = some q := hq
  rw [List.getElem?_modify] at hq'
  cases hp : l.payments[i]? with
  | none => simp [hp] at hq'
  | some p =>
    rw [hp] at hq'
    by_cases hid : id = i
    · obtain rfl : { p with status := st } = q := by simpa [hid] using hq'
      exact ⟨p, rfl, rfl, rfl, fun h' => absurd h' hst⟩
    · obtain rfl : p = q := by simpa [hid] using hq'
      exact ⟨p, rfl, rfl, rfl, fun h' => h'⟩

lemma LedgerAgrees.failPending (h : LedgerAgrees l) (orderId : OrderId) :
    LedgerAgrees (Commit.failPending l orderId) := by
  refine h.of_kept (List.length_map _) (fun i q hq => ?_) rfl
  have hq' : (l.payments.map fun p => if p.orderId = orderId ∧ p.status = .pending then
    { p with status := .failed } else p)[i]? = some q := hq
  rw [List.getElem?_map] at hq'
  obtain ⟨p, hp, rfl⟩ := Option.map_eq_some_iff.mp hq'
  refine ⟨p, hp, ?_⟩
  split_ifs
  · exact ⟨rfl, rfl, fun hst => nomatch hst⟩
  · exact ⟨rfl, rfl, fun hst => hst⟩

end Writes

/-! ## One batch -/

/-- A payment is charged by a verification, by hand or upon delivery only while nothing of it is
paid, and it is marked as REFUNDED by hand only if it has been refunded. -/
def KeepsLedger (s : Database) : Commit → Prop
  | .verifyPayment _ payment _ _ _ => ∀ p ∈ s.ledger.payments[payment.id]?, p.paidAmount = 0
  | .updatePaymentStatus payment _ input => ∀ p ∈ s.ledger.payments[payment.id]?,
    (input.status = .success → p.paidAmount = 0) ∧
      (input.status = .refunded → p.refundedAmount = p.paidAmount)
  | .updateOrderStatus _ _ _ codPayment _ =>
    ∀ payment ∈ codPayment, ∀ p ∈ s.ledger.payments[payment.id]?, p.paidAmount = 0
  | _ => True

instance (s : Database) (c : Commit) : Decidable (KeepsLedger s c) := by
  apply Commit.casesOn (motive := fun c => Decidable (KeepsLedger s c)) (t := c) <;> intros <;>
    dsimp only [KeepsLedger] <;> infer_instance

/-- The payment that a batch has read and is about to write. -/
def Commit.paymentRead : Commit → Option (Row Payment)
  | .verifyPayment _ payment _ _ _ => some payment
  | .recordPaymentFailure payment _ => some payment
  | .updatePaymentStatus payment _ _ => some payment
  | .processRefund payment _ _ _ => some payment
  | .updateOrderStatus _ _ _ codPayment _ => codPayment
  | _ => none

section Batches

variable {config : GatewayConfig} {x : Call} {s s' : Database} {c : Commit}

/-- Nobody else runs, so the payment is written as it was read. -/
lemma Call.Spec.paymentRead (h : Call.Spec UpToGateway config x s c) :
    ∀ payment ∈ c.paymentRead, s.ledger.payments[payment.id]? = some payment.val := by
  intro payment hpayment
  -- only four batches write a row that was read, and each belongs to one call
  cases c with
  | verifyPayment input row orderStatus latestAttempt holds =>
    obtain rfl : row = payment := Option.some.inj hpayment
    cases x with
    | verifyPayment input pick =>
      obtain ⟨_, _, _, _, heq, -, ⟨s₁, ⟨gateway, rfl⟩, hrow, -⟩, -⟩ := h
      cases heq
      exact hrow
    | _ =>
      simp [Call.Spec, CheckoutBatch, TransitionBatch, ConfirmBatch, InitializeBatch, AttemptBatch,
        FailureBatch, ManualBatch, RefundBatch] at h
  | recordPaymentFailure row latestAttempt =>
    obtain rfl : row = payment := Option.some.inj hpayment
    cases x with
    | recordPaymentFailure orderId pick =>
      obtain ⟨_, _, heq, s₁, ⟨gateway, rfl⟩, hrow, -⟩ := h
      cases heq
      exact hrow
    | _ =>
      simp [Call.Spec, CheckoutBatch, TransitionBatch, ConfirmBatch, InitializeBatch, AttemptBatch,
        VerifyBatch, ManualBatch, RefundBatch] at h
  | updatePaymentStatus row orderStatus input =>
    obtain rfl : row = payment := Option.some.inj hpayment
    cases x with
    | updatePaymentStatus paymentId input =>
      obtain ⟨_, _, heq, s₁, ⟨gateway, rfl⟩, hrow, -⟩ := h
      cases heq
      exact hrow
    | _ =>
      simp [Call.Spec, CheckoutBatch, TransitionBatch, ConfirmBatch, InitializeBatch, AttemptBatch,
        VerifyBatch, FailureBatch, RefundBatch] at h
  | processRefund row orderStatus successfulAttempt refundAmount =>
    obtain rfl : row = payment := Option.some.inj hpayment
    cases x with
    | processRefund input pick =>
      rcases h with ⟨_, _, _, _, heq, ⟨s₁, ⟨gateway, rfl⟩, hrow, -⟩, -⟩ | ⟨_, heq⟩
      · cases heq
        exact hrow
      · cases heq
    | _ =>
      simp [Call.Spec, CheckoutBatch, TransitionBatch, ConfirmBatch, InitializeBatch, AttemptBatch,
        VerifyBatch, FailureBatch, ManualBatch] at h
  | updateOrderStatus orderId previousStatus newStatus codPayment holds =>
    obtain ⟨-, s₁, ⟨gateway, rfl⟩, hrow, -⟩ := h.transition.cod payment hpayment
    exact hrow
  | _ => cases hpayment

/-- What is refunded is not more than what is left. -/
lemma Call.Spec.refundAmount {payment : Row Payment} {orderStatus : Option OrderStatus}
    {successfulAttempt : Option ℕ} {refundAmount : Paise}
    (h : Call.Spec UpToGateway config x s
      (.processRefund payment orderStatus successfulAttempt refundAmount)) :
    refundAmount ≤ payment.val.paidAmount - payment.val.refundedAmount := by
  cases x with
  | processRefund input pick =>
    rcases h with ⟨_, _, _, _, heq, -, -, -, hmax⟩ | ⟨_, heq⟩
    · cases heq
      exact hmax
    · cases heq
  | _ =>
    simp [Call.Spec, CheckoutBatch, TransitionBatch, ConfirmBatch, InitializeBatch, AttemptBatch,
      VerifyBatch, FailureBatch, ManualBatch] at h

/-- **One batch** keeps the ledger in agreement exactly if it meets the condition. -/
theorem ledgerAgrees_iff_keepsLedger (hspec : Call.Spec UpToGateway config x s c)
    (happ : c.apply s = some s') (hs : LedgerAgrees s.ledger) :
    LedgerAgrees s'.ledger ↔ KeepsLedger s c := by
  have hread := hspec.paymentRead
  rw [(Commit.apply_eq_some happ).2.2.1]
  cases c with
  | verifyPayment input payment orderStatus latestAttempt holds =>
    have hrow := hread payment rfl
    have hwrite := hs.write_iff (m := Commit.verifiedLedger s.ledger input payment latestAttempt)
      (t := ⟨payment.id, latestAttempt, .charge, .success, payment.val.amount, some input⟩)
      (f := fun p => { p with status := .success, paidAmount := payment.val.amount }) hrow
      (by cases latestAttempt <;> rfl) (by cases latestAttempt <;> rfl)
    refine hwrite.trans ?_
    simp [KeepsLedger, hrow, PaymentTransaction.charged, PaymentTransaction.refunded]
  | recordPaymentFailure payment latestAttempt =>
    have hrow := hread payment rfl
    have hwrite := hs.write_iff (m := Commit.failedLedger s.ledger payment latestAttempt)
      (t := ⟨payment.id, latestAttempt, .charge, .failed, payment.val.amount, none⟩)
      (f := fun p => { p with status := .failed }) hrow
      (by cases latestAttempt <;> rfl) (by cases latestAttempt <;> rfl)
    refine hwrite.trans ?_
    simp [KeepsLedger, PaymentTransaction.charged, PaymentTransaction.refunded]
  | updatePaymentStatus payment orderStatus input =>
    have hrow := hread payment rfl
    have hwrite := hs.write_iff (m := Commit.manualLedger s.ledger payment input) hrow rfl rfl
    refine hwrite.trans ?_
    obtain ⟨status, paidAmount, hstatus⟩ := input
    simp only [manualStatuses, List.mem_cons, List.not_mem_nil, or_false] at hstatus
    rcases hstatus with rfl | rfl | rfl | rfl | rfl | rfl <;>
      simp [KeepsLedger, hrow, PaymentTransaction.charged, PaymentTransaction.refunded,
        Commit.transactionStatus]
  | processRefund payment orderStatus successfulAttempt refundAmount =>
    have hrow := hread payment rfl
    have hmax := hspec.refundAmount
    have hwrite := hs.write_iff
      (m := Commit.refundedLedger s.ledger payment successfulAttempt refundAmount)
      (t := ⟨payment.id, successfulAttempt, .refund, .success, refundAmount, none⟩) hrow rfl rfl
    refine hwrite.trans (iff_of_true ⟨?_, ?_, fun hst => ?_⟩ trivial)
    · simp [PaymentTransaction.charged]
    · simp [PaymentTransaction.refunded, Commit.newRefundedTotal]
    · -- a payment is marked as refunded when nothing is left
      by_cases hfull : Commit.isFullyRefunded payment refundAmount = true
      · have hle : payment.val.paidAmount ≤ Commit.newRefundedTotal payment refundAmount :=
          of_decide_eq_true hfull
        unfold Commit.newRefundedTotal at hle ⊢
        exact le_antisymm (by linarith) hle
      · simp [hfull] at hst
  | updateOrderStatus orderId previousStatus newStatus codPayment holds =>
    have hcod := hspec.transition.cod
    cases codPayment with
    | none =>
      refine iff_of_true ?_ (by simp [KeepsLedger])
      simp only [Commit.ledgerAfter, Commit.settleCod]
      split_ifs
      · exact hs.failPending orderId
      · exact hs
    | some payment =>
      obtain ⟨rfl, -⟩ := hcod payment rfl
      have hrow := hread payment rfl
      have hwrite := hs.write_iff (m := Commit.settleCod s.ledger (some payment))
        (t := ⟨payment.id, none, .charge, .success, payment.val.amount, none⟩)
        (f := fun p => { p with status := .success, paidAmount := payment.val.amount }) hrow rfl rfl
      refine hwrite.trans ?_
      simp [KeepsLedger, hrow, PaymentTransaction.charged, PaymentTransaction.refunded]
  | createOrder checkout expiresAt placedUnder =>
    refine iff_of_true ?_ trivial
    simp only [Commit.ledgerAfter]
    split_ifs
    · exact hs.create rfl rfl rfl rfl (by simp)
    · exact hs
  | createPayment orderId provider amount =>
    exact iff_of_true (hs.create rfl rfl rfl rfl (by simp)) trivial
  | markProcessing paymentId => exact iff_of_true (hs.updateStatus paymentId (by decide)) trivial
  | createNextAttempt paymentId attemptNumber providerPaymentId amount =>
    exact iff_of_true (hs.of_kept rfl (fun _ q hq => ⟨q, hq, rfl, rfl, fun h => h⟩) rfl) trivial
  | _ => exact iff_of_true hs trivial

end Batches

/-! ## Whole runs -/

/-- **The amounts of all payments agree with the ledger**, in the sequential runs in which a
payment is charged only while nothing of it is paid, and marked as REFUNDED by hand only if it
has been refunded. -/
theorem ledger_agrees (config : GatewayConfig) (Allowed : Call → Prop) {s₀ s : Database}
    (h₀ : LedgerAgrees s₀.ledger) (hr : (server config).SeqReachable Allowed KeepsLedger s₀ s) :
    LedgerAgrees s.ledger := by
  refine (server_solo config Allowed).invariant (P := fun s => LedgerAgrees s.ledger) hr h₀
    (fun e s hs => ?_) fun _ hspec hcond happ hs =>
      (ledgerAgrees_iff_keepsLedger hspec happ hs).mpr hcond
  show LedgerAgrees (e.apply s).ledger
  rwa [Environ.apply_ledger]

/-- The calls that write payments. -/
def Call.writesPayments : Call → Bool
  | .initializePayment .. | .retryPayment .. | .verifyPayment .. | .recordPaymentFailure ..
  | .updatePaymentStatus .. | .processRefund .. | .updateOrderStatus .. => true
  | _ => false

lemma startedStore_ledgerAgrees : LedgerAgrees startedStore.ledger := by
  constructor
  · simp [startedStore]
  · intro id p hp
    cases id with
    | zero =>
      obtain rfl := Option.some.inj hp
      constructor <;> decide
    | succ id => simp [startedStore] at hp

/-- A payment is verified and then refunded in two parts. -/
theorem ledger_agrees_refunded :
    ∃ s, (server .sample).SeqReachable (fun x => x.writesPayments = true) KeepsLedger
        startedStore s ∧
      s.ledger.statusOf 0 = some .refunded ∧ LedgerAgrees s.ledger := by
  obtain ⟨s, hr, hstatus⟩ := Machine.exists_seqReachable_of_execSeq
    (server .sample) (fun x => x.writesPayments = true) KeepsLedger
    [.inl (.verifyPayment ⟨0, 0, 3, 9003⟩ 0), .inl (.processRefund ⟨0, some 60⟩ 0),
      .inl (.processRefund ⟨0, none⟩ 0)]
    startedStore (fun s => s.ledger.statusOf 0) (some .refunded) (by decide +kernel)
  exact ⟨s, hr, hstatus, ledger_agrees .sample _ startedStore_ledgerAgrees hr⟩

/-- SUCCESS, as an administrator sets it for a payment in cash. -/
def markPaid : UpdatePaymentStatusInput := ⟨.success, none, by decide⟩

/-- Without the condition they do not: SUCCESS is set twice, and the ledger has two charges. -/
theorem charged_by_hand_twice :
    ¬ ∀ (config : GatewayConfig) (s₀ s : Database), LedgerAgrees s₀.ledger →
      (server config).SeqReachable (fun x => x.writesPayments = true) Free s₀ s →
      LedgerAgrees s.ledger := by
  intro h
  obtain ⟨s, hr, heq⟩ := Machine.exists_seqReachable_of_execSeq
    (server .sample) (fun x => x.writesPayments = true) Free
    [.inl (.updatePaymentStatus 0 markPaid), .inl (.updatePaymentStatus 0 markPaid)]
    startedStore (fun s => (s.ledger.payments[0]?.map Payment.paidAmount,
      s.ledger.total 0 PaymentTransaction.charged)) (some 10000, 20000) (by decide +kernel)
  obtain ⟨hpaid, htotal⟩ := Prod.mk.inj heq
  obtain ⟨p, hp, hamount⟩ := Option.map_eq_some_iff.mp hpaid
  have hagrees := (h .sample startedStore s startedStore_ledgerAgrees hr).agrees 0 p hp
  have hsame := hagrees.paid
  rw [hamount, htotal] at hsame
  exact absurd hsame (by decide)

end MeeoServer
