/-
# The states of a payment

Verification, failure, retry and refund each check the status of the payment on a read and
write the new status later.  A payment is settled when it has been paid, whatever was refunded
since.  In the runs in which the first three only write to payments that are not settled, a
payment is charged at most once, and a refunded payment stays refunded.
-/
import MeeoServer.Server.Growth

namespace MeeoServer

open Relation

/-- The successful charges of a payment. -/
def PaymentLedger.charges (l : PaymentLedger) (id : PaymentId) : ℕ :=
  l.transactions.countP fun t => t.paymentId = id ∧ t.type = .charge ∧ t.status = .success

def PaymentLedger.statusOf (l : PaymentLedger) (id : PaymentId) : Option PaymentStatus :=
  (l.payments[id]?).map Payment.status

/-- The payment that a verification, a failure or a retry is about to write. -/
def Commit.writesStatus : Commit → Option PaymentId
  | .verifyPayment _ payment _ _ _ => some payment.id
  | .recordPaymentFailure payment _ => some payment.id
  | .markProcessing id => some id
  | _ => none

/-- A verification, a failure or a retry is written while the payment is not settled. -/
def WritesUnsettled (s : Database) (c : Commit) : Prop :=
  ∀ id ∈ c.writesStatus, ∀ st ∈ s.ledger.statusOf id, st.settled = false

instance (s : Database) (c : Commit) : Decidable (WritesUnsettled s c) := by
  unfold WritesUnsettled
  infer_instance

/-- The calls on one payment. -/
def Call.onPayment : Call → Bool
  | .verifyPayment .. | .recordPaymentFailure .. | .retryPayment .. | .processRefund .. => true
  | _ => false

/-- A payment is charged at most once, and then it is settled. -/
structure ChargedOnce (id : PaymentId) (s : Database) : Prop where
  once : s.ledger.charges id ≤ 1
  settled : 0 < s.ledger.charges id → ∃ st ∈ s.ledger.statusOf id, st.settled = true

/-- Something has been refunded. -/
def IsRefunded (id : PaymentId) (s : Database) : Prop :=
  ∃ st ∈ s.ledger.statusOf id, st = .refunded ∨ st = .partiallyRefunded

/-! ## One batch -/

namespace PaymentLedger

variable (l : PaymentLedger) (id : PaymentId)

lemma charges_createTransaction (t : PaymentTransaction) :
    (l.createTransaction t).charges id = l.charges id +
      if t.paymentId = id ∧ t.type = .charge ∧ t.status = .success then 1 else 0 := by
  simp [charges, createTransaction, List.countP_append, List.countP_singleton]

@[simp] lemma statusOf_updateAttempt (a : Option ℕ) (st : PaymentAttemptStatus) :
    (l.updateAttempt a st).statusOf id = l.statusOf id := by
  cases a <;> rfl

@[simp] lemma statusOf_createTransaction (t : PaymentTransaction) :
    (l.createTransaction t).statusOf id = l.statusOf id := rfl

@[simp] lemma statusOf_createRefund (r : Refund) :
    (l.createRefund r).statusOf id = l.statusOf id := rfl

@[simp] lemma charges_updateAttempt (a : Option ℕ) (st : PaymentAttemptStatus) :
    (l.updateAttempt a st).charges id = l.charges id := by
  cases a <;> rfl

@[simp] lemma charges_updatePayment (i : PaymentId) (f : Payment → Payment) :
    (l.updatePayment i f).charges id = l.charges id := rfl

@[simp] lemma charges_createRefund (r : Refund) :
    (l.createRefund r).charges id = l.charges id := rfl

/-- A payment that is written has the status it is written with. -/
lemma statusOf_updatePayment_self {f : Payment → Payment} {st : PaymentStatus}
    (h : st ∈ (l.updatePayment id f).statusOf id) : ∃ p, (f p).status = st := by
  rw [updatePayment, statusOf, List.getElem?_modify_eq, Option.mem_def, Option.map_eq_map,
    Option.map_map] at h
  obtain ⟨p, -, hp⟩ := Option.map_eq_some_iff.mp h
  exact ⟨p, hp⟩

/-- The other payments keep theirs. -/
lemma statusOf_updatePayment_ne {i : PaymentId} (f : Payment → Payment) (h : i ≠ id) :
    (l.updatePayment i f).statusOf id = l.statusOf id := by
  rw [updatePayment, statusOf, List.getElem?_modify_ne _ _ h, statusOf]

end PaymentLedger

/-- What one batch does to the status and to the charges of a payment. -/
inductive PaymentStep (l l' : PaymentLedger) (id : PaymentId) : Prop
  | same : l'.statusOf id = l.statusOf id → l'.charges id = l.charges id → PaymentStep l l' id
  /-- A verification, which charges the payment. -/
  | verified : (∃ st ∈ l.statusOf id, st.settled = false) →
      (∀ st ∈ l'.statusOf id, st = .success) → l'.charges id = l.charges id + 1 →
      PaymentStep l l' id
  /-- A failure or a retry. -/
  | reopened : (∃ st ∈ l.statusOf id, st.settled = false) → l'.charges id = l.charges id →
      PaymentStep l l' id
  | refunded : (∀ st ∈ l'.statusOf id, st = .refunded ∨ st = .partiallyRefunded) →
      l'.charges id = l.charges id → PaymentStep l l' id
  /-- The payment did not exist before. -/
  | created : l.statusOf id = none → l'.charges id = l.charges id → PaymentStep l l' id

section Batches

variable {config : GatewayConfig} {x : Call} {s s' : Database} {c : Commit} {id : PaymentId}

/-- A batch that writes a payment finds it unsettled, if there is such a payment. -/
lemma WritesUnsettled.exists (h : WritesUnsettled s c) (hid : c.writesStatus = some id)
    {p : Payment} (hp : s.ledger.payments[id]? = some p) :
    ∃ st ∈ s.ledger.statusOf id, st.settled = false := by
  have hst : s.ledger.statusOf id = some p.status := by rw [PaymentLedger.statusOf, hp]; rfl
  exact ⟨p.status, hst, h id hid p.status hst⟩

/-- The calls on one payment, and those that start a payment. -/
def Call.onPayments (x : Call) : Bool :=
  x.onPayment || match x with
    | .initializePayment .. => true
    | _ => false

/-- **The step lemma.** -/
lemma paymentStep_of_apply (hx : x.onPayments = true) (hspec : Call.Spec Grows config x s c)
    (hcond : WritesUnsettled s c) (happ : c.apply s = some s') :
    PaymentStep s.ledger s'.ledger id := by
  have hledger := (Commit.apply_eq_some happ).2.2.1
  rw [hledger]
  -- an intent or a next attempt leaves every payment as it is
  have attempt : ∀ {paymentId : PaymentId}, AttemptBatch Grows paymentId s c →
      PaymentStep s.ledger (c.ledgerAfter s) id := by
    intro paymentId h
    cases c <;> first | exact False.elim h | exact .same rfl rfl
  cases x with
  | verifyPayment input pick =>
    obtain ⟨payment, orderStatus, latestAttempt, holds, rfl, -, ⟨s₁, hgrows, hrow, -⟩, -⟩ := hspec
    obtain ⟨p, hp, -⟩ := hgrows.payments.getElem? hrow
    simp only [Commit.ledgerAfter, Commit.verifiedLedger]
    -- only the payment that was read is written, and a settled one is excluded by the condition
    by_cases hid : payment.id = id
    · subst hid
      refine .verified (hcond.exists rfl hp) (fun st hst => ?_) ?_
      · rw [PaymentLedger.statusOf_createTransaction, PaymentLedger.statusOf_updateAttempt] at hst
        obtain ⟨p, rfl⟩ := PaymentLedger.statusOf_updatePayment_self _ _ hst
        rfl
      · simp [PaymentLedger.charges_createTransaction]
    · refine .same ?_ ?_
      · simp [PaymentLedger.statusOf_updatePayment_ne _ _ _ hid]
      · simp [PaymentLedger.charges_createTransaction, hid]
  | recordPaymentFailure orderId pick =>
    obtain ⟨payment, latestAttempt, rfl, s₁, hgrows, hrow, -⟩ := hspec
    obtain ⟨p, hp, -⟩ := hgrows.payments.getElem? hrow
    simp only [Commit.ledgerAfter, Commit.failedLedger]
    have hcharges : ((s.ledger.updatePayment payment.id fun p =>
        { p with status := .failed }).updateAttempt latestAttempt .failed |>.createTransaction
        ⟨payment.id, latestAttempt, .charge, .failed, payment.val.amount, none⟩).charges id =
        s.ledger.charges id := by
      simp [PaymentLedger.charges_createTransaction]
    by_cases hid : payment.id = id
    · subst hid
      exact .reopened (hcond.exists rfl hp) hcharges
    · refine .same ?_ hcharges
      simp [PaymentLedger.statusOf_updatePayment_ne _ _ _ hid]
  | retryPayment userId paymentId =>
    rcases hspec with h | rfl
    · exact attempt h
    · by_cases hid : paymentId = id
      · subst hid
        cases hp : s.ledger.payments[paymentId]? with
        | none =>
          refine .same ?_ rfl
          simp [Commit.ledgerAfter, PaymentLedger.statusOf, PaymentLedger.updatePayment, hp]
        | some p => exact .reopened (hcond.exists rfl hp) rfl
      · exact .same (PaymentLedger.statusOf_updatePayment_ne _ _ _ hid) rfl
  | initializePayment userId input pick =>
    rcases hspec with ⟨paymentId, h⟩ | rfl | ⟨provider, amount, rfl, -⟩
    · exact attempt h
    · exact .same rfl rfl
    -- an id below the length is an old payment, any other can only be the new one
    · by_cases hid : id < s.ledger.payments.length
      · refine .same ?_ rfl
        simp [Commit.ledgerAfter, PaymentLedger.statusOf, List.getElem?_append_left hid]
      · refine .created ?_ rfl
        simp [PaymentLedger.statusOf, List.getElem?_eq_none (not_lt.mp hid)]
  | processRefund input pick =>
    rcases hspec with ⟨payment, orderStatus, attempt, amount, rfl, -⟩ | ⟨amount, rfl⟩
    · simp only [Commit.ledgerAfter, Commit.refundedLedger]
      by_cases hid : input.paymentId = id
      · refine .refunded (fun st hst => ?_) ?_
        · rw [← hid] at hst
          obtain ⟨p, rfl⟩ := PaymentLedger.statusOf_updatePayment_self _ _ hst
          dsimp only
          split
          · exact Or.inl rfl
          · exact Or.inr rfl
        · simp [PaymentLedger.charges_createTransaction]
      · refine .same ?_ ?_
        · rw [PaymentLedger.statusOf_updatePayment_ne _ _ _ hid]
          rfl
        · simp [PaymentLedger.charges_createTransaction]
    · exact .same rfl rfl
  | _ => cases hx

end Batches

/-! ## Whole runs -/

/-- A payment that is there, stays. -/
lemma statusOf_isSome_of_apply {s s' : Database} {c : Commit} {id : PaymentId}
    {st : PaymentStatus} (happ : c.apply s = some s') (h : s.ledger.statusOf id = some st) :
    ∃ st', s'.ledger.statusOf id = some st' := by
  obtain ⟨p, hp, -⟩ := Option.map_eq_some_iff.mp h
  obtain ⟨p', hp', -⟩ := (Commit.grows happ).payments.getElem? hp
  exact ⟨p'.status, by rw [PaymentLedger.statusOf, hp']; rfl⟩

lemma ChargedOnce.charges_eq_zero {s : Database} {id : PaymentId} (hs : ChargedOnce id s)
    (h : ∃ st ∈ s.ledger.statusOf id, st.settled = false) : s.ledger.charges id = 0 := by
  obtain ⟨st, hst, hunsettled⟩ := h
  by_contra hne
  obtain ⟨st', hst', hsettled⟩ := hs.settled (Nat.pos_of_ne_zero hne)
  obtain rfl : st = st' := Option.some.inj (hst.symm.trans hst')
  rw [hunsettled] at hsettled
  cases hsettled

lemma ChargedOnce.environ {s : Database} {id : PaymentId} (hs : ChargedOnce id s)
    (e : Environ) : ChargedOnce id (e.apply s) := by
  have honce := hs.once
  have hsettled := hs.settled
  constructor
  · rwa [Environ.apply_ledger]
  · rwa [Environ.apply_ledger]

lemma ChargedOnce.of_step {s s' : Database} {c : Commit} {id : PaymentId}
    (hs : ChargedOnce id s) (happ : c.apply s = some s')
    (h : PaymentStep s.ledger s'.ledger id) : ChargedOnce id s' := by
  cases h with
  | same hstatus hcharges =>
    constructor
    · rw [hcharges]
      exact hs.once
    · rw [hcharges, hstatus]
      exact hs.settled
  | verified hbefore hafter hcharges =>
    -- an unsettled payment has not been charged yet
    rw [hs.charges_eq_zero hbefore] at hcharges
    obtain ⟨st, hst, -⟩ := hbefore
    obtain ⟨st', hst'⟩ := statusOf_isSome_of_apply happ hst
    refine ⟨hcharges.le, fun _ => ⟨st', hst', ?_⟩⟩
    rw [hafter st' hst']
    rfl
  | reopened hbefore hcharges =>
    rw [hs.charges_eq_zero hbefore] at hcharges
    exact ⟨by omega, fun hpos => by omega⟩
  | refunded hafter hcharges =>
    -- both statuses of a refunded payment are settled
    have honce := hs.once
    rw [← hcharges] at honce
    refine ⟨honce, fun hpos => ?_⟩
    rw [hcharges] at hpos
    obtain ⟨st, hst, -⟩ := hs.settled hpos
    obtain ⟨st', hst'⟩ := statusOf_isSome_of_apply happ hst
    refine ⟨st', hst', ?_⟩
    rcases hafter st' hst' with rfl | rfl <;> rfl
  | created hnone hcharges =>
    have hzero : s.ledger.charges id = 0 := by
      by_contra hne
      obtain ⟨st, hst, -⟩ := hs.settled (Nat.pos_of_ne_zero hne)
      rw [hnone] at hst
      cases hst
    exact ⟨by omega, fun hpos => by omega⟩

lemma IsRefunded.of_step {s s' : Database} {c : Commit} {id : PaymentId}
    (hs : IsRefunded id s) (happ : c.apply s = some s')
    (h : PaymentStep s.ledger s'.ledger id) : IsRefunded id s' := by
  obtain ⟨st, hst, hrefunded⟩ := hs
  -- a refunded payment is settled, so neither a verification nor a retry writes it
  have hnot : ¬ ∃ st ∈ s.ledger.statusOf id, st.settled = false := by
    rintro ⟨st', hst', hunsettled⟩
    obtain rfl : st = st' := Option.some.inj (hst.symm.trans hst')
    rcases hrefunded with rfl | rfl <;> cases hunsettled
  cases h with
  | same hstatus hcharges => exact ⟨st, hstatus ▸ hst, hrefunded⟩
  | verified hbefore hafter hcharges => exact absurd hbefore hnot
  | reopened hbefore hcharges => exact absurd hbefore hnot
  | refunded hafter hcharges =>
    obtain ⟨st', hst'⟩ := statusOf_isSome_of_apply happ hst
    exact ⟨st', hst', hafter st' hst'⟩
  | created hnone hcharges =>
    rw [hnone] at hst
    cases hst

/-- **The payment state machine**, in the runs in which a verification, a failure or a retry is
written only to a payment that is not settled: the payment is charged at most once, and once
something has been refunded it stays REFUNDED or PARTIALLY_REFUNDED. -/
theorem charges_le_one (config : GatewayConfig) {s₀ : Database} {id : PaymentId}
    (h₀ : ChargedOnce id s₀) {cfg : Config Database Commit AppError}
    (hr : (server config).Reachable (fun x => x.onPayment = true) WritesUnsettled s₀ cfg) :
    cfg.store.ledger.charges id ≤ 1 ∧
      ∀ cfg', ReflTransGen
          ((server config).Step (fun x => x.onPayment = true) WritesUnsettled) cfg cfg' →
        IsRefunded id cfg.store → IsRefunded id cfg'.store := by
  have hrely := server_rely config (fun x => x.onPayment = true) WritesUnsettled
  have hstep : ∀ {x s c s'}, x.onPayment = true → Call.Spec Grows config x s c →
      WritesUnsettled s c → c.apply s = some s' → PaymentStep s.ledger s'.ledger id :=
    fun hx => paymentStep_of_apply (by simp [Call.onPayments, hx])
  have hcharged : ChargedOnce id cfg.store := by
    refine hrely.invariant hr h₀ (fun e s hs => hs.environ e) fun hx hspec hcond happ hs => ?_
    exact hs.of_step happ (hstep hx hspec hcond happ)
  refine ⟨hcharged.once, fun cfg' hsteps hrefunded => ?_⟩
  refine hrely.preserved hr hsteps hrefunded (fun e s hs => ?_) fun hx hspec hcond happ hs => ?_
  · simpa [server, IsRefunded] using hs
  · exact hs.of_step happ (hstep hx hspec hcond happ)

/-- An order whose payment of 100 rupees has been started. -/
def startedStore : Database :=
  { Database.stocked 5 with
    book := ⟨[⟨7, .paymentPending, 10000, [], 0, none⟩],
      [⟨0, none, .pending⟩, ⟨0, some .pending, .paymentPending⟩]⟩
    ledger := ⟨[⟨0, .razorpay, .pending, 10000, 0, 0⟩], [⟨0, 1, some 0, .processing, 10000⟩], [],
      []⟩
    gateway := ⟨[⟨0, 10000⟩], [], []⟩ }

lemma startedStore_chargedOnce : ChargedOnce 0 startedStore :=
  ⟨by decide, fun h => absurd h (by decide)⟩

/-- The payment is verified and then refunded in full. -/
theorem charges_le_one_refunded :
    ∃ cfg, (server .sample).Reachable (fun x => x.onPayment = true) WritesUnsettled
        startedStore cfg ∧
      cfg.store.ledger.statusOf 0 = some .refunded ∧ cfg.store.ledger.charges 0 ≤ 1 := by
  obtain ⟨cfg, hr, hstatus⟩ := Machine.exists_reachable_of_exec
    (server .sample) (fun x => x.onPayment = true) WritesUnsettled
    [.call (.verifyPayment ⟨0, 0, 3, 9003⟩ 0), .step 0 .ok, .step 0 .ok, .step 0 .ok,
      .call (.processRefund ⟨0, none⟩ 0), .step 1 .ok, .step 1 .ok, .step 1 .ok]
    startedStore (fun s => s.ledger.statusOf 0) (some .refunded) (by decide)
  exact ⟨cfg, hr, hstatus, (charges_le_one .sample startedStore_chargedOnce hr).1⟩

/-- Without the condition a payment is charged twice: the verification that paid it is replayed
after the refund. -/
theorem charged_twice :
    ¬ ∀ (config : GatewayConfig) (s₀ : Database) (id : PaymentId)
      (cfg : Config Database Commit AppError), ChargedOnce id s₀ →
      (server config).Reachable (fun x => x.onPayment = true) Free s₀ cfg →
      cfg.store.ledger.charges id ≤ 1 := by
  intro h
  obtain ⟨cfg, hr, htwo⟩ := Machine.exists_reachable_of_exec
    (server .sample) (fun x => x.onPayment = true) Free
    [.call (.verifyPayment ⟨0, 0, 3, 9003⟩ 0), .step 0 .ok, .step 0 .ok, .step 0 .ok,
      .call (.processRefund ⟨0, none⟩ 0), .step 1 .ok, .step 1 .ok, .step 1 .ok,
      .call (.verifyPayment ⟨0, 0, 3, 9003⟩ 0), .step 2 .ok, .step 2 .ok, .step 2 .ok]
    startedStore (fun s => s.ledger.charges 0) 2 (by decide)
  have hle := h .sample startedStore 0 cfg startedStore_chargedOnce hr
  rw [htwo] at hle
  exact absurd hle (by decide)

end MeeoServer
