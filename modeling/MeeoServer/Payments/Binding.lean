/-
# Which payment a gateway payment pays

A signature says that the gateway has captured a payment for one of its orders; it does not
say which order of the shop that was.  Only the attempts know: each records the gateway order
that was made for its payment.  The verification does not compare the two, so a captured
payment is bound to its order exactly in the runs in which they happen to agree.
-/
import MeeoServer.Payments.States

namespace MeeoServer

open Table

/-- Some attempt of the payment records the gateway order. -/
def PaymentLedger.hasAttempt (l : PaymentLedger) (id : PaymentId) (g : GatewayOrderId) : Prop :=
  ∃ a ∈ l.attempts, a.paymentId = id ∧ a.providerPaymentId = some g

instance (l : PaymentLedger) (id : PaymentId) (g : GatewayOrderId) :
    Decidable (l.hasAttempt id g) := by
  unfold PaymentLedger.hasAttempt
  infer_instance

/-- A successful charge that a verification has recorded, with the input it was given. -/
def PaymentTransaction.chargedBy (t : PaymentTransaction) (input : VerifyPaymentInput) : Prop :=
  t.type = .charge ∧ t.status = .success ∧ t.providerResponse = some input

/-- The charge belongs to a payment of the order that was named, an attempt of this payment
records the gateway order, and the gateway has captured the payment. -/
structure Bound (s : Database) (t : PaymentTransaction) (input : VerifyPaymentInput) : Prop where
  attempt : s.ledger.hasAttempt t.paymentId input.razorpayOrderId
  order : ∃ p, s.ledger.payments[t.paymentId]? = some p ∧ p.orderId = input.orderId
  captured : (input.razorpayOrderId, input.razorpayPaymentId) ∈ s.gateway.captured

/-- Every charge of a verification is bound. -/
def ChargesBound (s : Database) : Prop :=
  ∀ t ∈ s.ledger.transactions, ∀ input, t.chargedBy input → Bound s t input

/-- The charges that were made with the gateway order `g`. -/
def PaymentLedger.uses (l : PaymentLedger) (g : GatewayOrderId) : ℕ :=
  l.transactions.countP fun t => t.type = .charge ∧ t.status = .success ∧
    ∃ input ∈ t.providerResponse, input.razorpayOrderId = g

/-! ## Conditions on a run -/

/-- No signature is forged: a verification that was accepted names a captured payment. -/
def Genuine (s : Database) : Commit → Prop
  | .verifyPayment input _ _ _ _ =>
    (input.razorpayOrderId, input.razorpayPaymentId) ∈ s.gateway.captured
  | _ => True

instance (s : Database) (c : Commit) : Decidable (Genuine s c) := by
  unfold Genuine
  split <;> infer_instance

/-- A verification names a gateway order that an attempt of its payment records. -/
def NamesAttempt (s : Database) : Commit → Prop
  | .verifyPayment input payment _ _ _ => s.ledger.hasAttempt payment.id input.razorpayOrderId
  | _ => True

instance (s : Database) (c : Commit) : Decidable (NamesAttempt s c) := by
  unfold NamesAttempt
  split <;> infer_instance

/-- The signature is genuine, it is for an attempt of the payment, and the payment has not been
paid. -/
def PaysAttempt (s : Database) (c : Commit) : Prop :=
  Genuine s c ∧ NamesAttempt s c ∧ WritesUnsettled s c

instance (s : Database) (c : Commit) : Decidable (PaysAttempt s c) :=
  inferInstanceAs (Decidable (_ ∧ _ ∧ _))

/-- The calls that start and verify payments. -/
def Call.paysOnline : Call → Bool
  | .initializePayment .. | .retryPayment .. | .verifyPayment .. => true
  | _ => false

/-! ## The invariant -/

/-- The gateway order of an attempt was made for its payment. -/
def AttemptsBound (s : Database) : Prop :=
  ∀ a ∈ s.ledger.attempts, ∀ g ∈ a.providerPaymentId,
    ∃ o, s.gateway.orders[g]? = some o ∧ o.paymentId = a.paymentId

structure Binding (s : Database) : Prop where
  attempts : AttemptsBound s
  charged : ∀ id, ChargedOnce id s
  bound : ChargesBound s

/-- A gateway order was made for one payment, and a payment is charged once. -/
lemma Binding.uses_le_one {s : Database} (h : Binding s) (g : GatewayOrderId) :
    s.ledger.uses g ≤ 1 := by
  by_contra hlt
  have hpos : 0 < s.ledger.uses g := by omega
  obtain ⟨t, ht, huse⟩ := List.countP_pos_iff.mp hpos
  -- every charge made with `g` is one of the payment `g` was made for
  have hpayment : ∀ t ∈ s.ledger.transactions, (t.type = .charge ∧ t.status = .success ∧
      ∃ input ∈ t.providerResponse, input.razorpayOrderId = g) →
      ∃ o, s.gateway.orders[g]? = some o ∧ o.paymentId = t.paymentId := by
    rintro t ht ⟨htype, hstatus, input, hinput, rfl⟩
    obtain ⟨a, ha, hid, hg⟩ := (h.bound t ht input ⟨htype, hstatus, hinput⟩).attempt
    rw [← hid]
    exact h.attempts a ha _ hg
  obtain ⟨o, ho, hid⟩ := hpayment t ht (by simpa using huse)
  have hle : s.ledger.uses g ≤ s.ledger.charges t.paymentId := by
    refine List.countP_mono_left fun t' ht' huse' => ?_
    have huse' : t'.type = .charge ∧ t'.status = .success ∧
        ∃ input ∈ t'.providerResponse, input.razorpayOrderId = g := by simpa using huse'
    obtain ⟨o', ho', hid'⟩ := hpayment t' ht' huse'
    obtain rfl : o = o' := Option.some.inj (ho.symm.trans ho')
    simp [← hid', hid, huse'.1, huse'.2.1]
  have honce := (h.charged t.paymentId).once
  omega

lemma Bound.grows {s s' : Database} {t : PaymentTransaction} {input : VerifyPaymentInput}
    (h : Bound s t input) (hg : Grows s s')
    (hc : ∀ x ∈ s.gateway.captured, x ∈ s'.gateway.captured) : Bound s' t input where
  attempt := by
    obtain ⟨a, ha, hid, hprovider⟩ := h.attempt
    obtain ⟨a', ha', hfixed⟩ := hg.attempts.mem ha
    exact ⟨a', ha', (congrArg Prod.fst hfixed).trans hid,
      (congrArg Prod.snd hfixed).trans hprovider⟩
  order := by
    obtain ⟨p, hp, horder⟩ := h.order
    obtain ⟨p', hp', hfixed⟩ := hg.payments.getElem? hp
    exact ⟨p', hp', (congrArg Prod.fst hfixed).trans horder⟩
  captured := hc _ h.captured

/-! ## One batch -/

section Batches

variable {config : GatewayConfig} {x : Call} {s s' : Database} {c : Commit}

lemma captured_of_apply (happ : c.apply s = some s') :
    s'.gateway.captured = s.gateway.captured := by
  rw [(Commit.apply_eq_some happ).2.2.2.1]
  cases c <;> rfl

lemma AttemptsBound.of_step (h : AttemptsBound s) (hspec : Call.Spec Grows config x s c)
    (hx : x.paysOnline = true) (happ : c.apply s = some s') : AttemptsBound s' := by
  have hgrows := Commit.grows happ
  have hledger := (Commit.apply_eq_some happ).2.2.1
  have hold : ∀ a ∈ s.ledger.attempts, ∀ g ∈ a.providerPaymentId,
      ∃ o, s'.gateway.orders[g]? = some o ∧ o.paymentId = a.paymentId := by
    intro a ha g hg
    obtain ⟨o, ho, hid⟩ := h a ha g hg
    obtain ⟨o', ho', rfl⟩ := hgrows.gatewayOrders.getElem? ho
    exact ⟨o', ho', hid⟩
  have attempt : ∀ {paymentId : PaymentId}, AttemptBatch Grows paymentId s c →
      AttemptsBound s' := by
    intro paymentId hbatch
    cases c with
    | createPaymentIntent id amount => rwa [AttemptsBound, hledger]
    | createNextAttempt id number g amount =>
      -- the call itself has made the gateway order for this payment
      obtain ⟨rfl, s₀, hs₀, ho⟩ := hbatch
      intro a ha
      rw [hledger] at ha
      rcases List.mem_append.mp ha with ha | ha
      · exact hold a ha
      · obtain rfl := List.mem_singleton.mp ha
        rintro g' ⟨⟩
        obtain ⟨o', ho', rfl⟩ := (hs₀.trans hgrows).gatewayOrders.getElem? ho
        exact ⟨_, ho', rfl⟩
    | _ => exact False.elim hbatch
  cases x with
  | initializePayment userId input pick =>
    rcases hspec with ⟨paymentId, hbatch⟩ | rfl | ⟨provider, amount, rfl, -⟩
    · exact attempt hbatch
    · rwa [AttemptsBound, hledger]
    · rwa [AttemptsBound, hledger]
  | retryPayment userId paymentId =>
    rcases hspec with hbatch | rfl
    · exact attempt hbatch
    · rwa [AttemptsBound, hledger]
  | verifyPayment input pick =>
    obtain ⟨payment, orderStatus, latestAttempt, holds, rfl, -⟩ := hspec
    rw [AttemptsBound, hledger]
    cases latestAttempt with
    | none => exact hold
    | some i => exact forall_mem_modify hold fun a ha => hold a ha
  | _ => cases hx

lemma ChargesBound.of_step (h : ChargesBound s) (hspec : Call.Spec Grows config x s c)
    (hx : x.onPayments = true) (hcond : Genuine s c ∧ NamesAttempt s c)
    (happ : c.apply s = some s') : ChargesBound s' := by
  have hgrows := Commit.grows happ
  have hledger := (Commit.apply_eq_some happ).2.2.1
  have hcaptured := captured_of_apply happ
  have hold : ∀ t ∈ s.ledger.transactions, ∀ input, t.chargedBy input → Bound s' t input :=
    fun t ht input hcharged => (h t ht input hcharged).grows hgrows (by simp [hcaptured])
  -- a row that is not a successful charge has nothing to say
  have hother : ∀ {t : PaymentTransaction}, ¬(t.type = .charge ∧ t.status = .success) →
      s'.ledger.transactions = s.ledger.transactions ++ [t] → ChargesBound s' := by
    intro t hnot htransactions t' ht' input hcharged
    rw [htransactions] at ht'
    rcases List.mem_append.mp ht' with ht' | ht'
    · exact hold t' ht' input hcharged
    · obtain rfl := List.mem_singleton.mp ht'
      exact absurd ⟨hcharged.1, hcharged.2.1⟩ hnot
  have hsame : (c.ledgerAfter s).transactions = s.ledger.transactions → ChargesBound s' := by
    intro htransactions
    rwa [ChargesBound, hledger, htransactions]
  have attempt : ∀ {paymentId : PaymentId}, AttemptBatch Grows paymentId s c →
      ChargesBound s' := by
    intro paymentId hbatch
    cases c with
    | createPaymentIntent id amount => exact hsame rfl
    | createNextAttempt id number g amount => exact hsame rfl
    | _ => exact False.elim hbatch
  cases x with
  | initializePayment userId input pick =>
    rcases hspec with ⟨paymentId, hbatch⟩ | rfl | ⟨provider, amount, rfl, -⟩
    · exact attempt hbatch
    · exact hsame rfl
    · exact hsame rfl
  | retryPayment userId paymentId =>
    rcases hspec with hbatch | rfl
    · exact attempt hbatch
    · exact hsame rfl
  | recordPaymentFailure orderId pick =>
    obtain ⟨payment, latestAttempt, rfl, -⟩ := hspec
    refine hother (t := ⟨payment.id, latestAttempt, .charge, .failed, payment.val.amount, none⟩)
      (by simp) ?_
    rw [hledger]
    cases latestAttempt <;> rfl
  | processRefund input pick =>
    rcases hspec with ⟨payment, orderStatus, successfulAttempt, amount, rfl, -⟩ | ⟨amount, rfl⟩
    · refine hother (t := ⟨input.paymentId, successfulAttempt, .refund, .success, amount, none⟩)
        (by simp) ?_
      rw [hledger]
      rfl
    · exact hsame rfl
  | verifyPayment input pick =>
    obtain ⟨payment, orderStatus, latestAttempt, holds, rfl, -, ⟨s₁, hs₁, hrow, horder, -⟩, -⟩ :=
      hspec
    intro t ht input' hcharged
    have htransactions : s'.ledger.transactions = s.ledger.transactions ++
        [⟨payment.id, latestAttempt, .charge, .success, payment.val.amount, some input⟩] := by
      rw [hledger]
      cases latestAttempt <;> rfl
    rw [htransactions] at ht
    rcases List.mem_append.mp ht with ht | ht
    · exact hold t ht input' hcharged
    · -- the new charge
      obtain rfl := List.mem_singleton.mp ht
      obtain rfl : input = input' := Option.some.inj hcharged.2.2
      have hbound : Bound s ⟨payment.id, latestAttempt, .charge, .success, payment.val.amount,
          some input⟩ input := by
        obtain ⟨p, hp, hfixed⟩ := hs₁.payments.getElem? hrow
        exact ⟨hcond.2, ⟨p, hp, (congrArg Prod.fst hfixed).trans horder⟩, hcond.1⟩
      exact hbound.grows hgrows (by simp [hcaptured])
  | _ => cases hx

end Batches

/-! ## Whole runs -/

lemma Environ.captured_subset (e : Environ) (s : Database) :
    ∀ x ∈ s.gateway.captured, x ∈ (e.apply s).gateway.captured := by
  intro x hx
  cases e with
  | elapse time => exact hx
  | capture order payment =>
    simp only [Environ.apply]
    split
    · exact List.mem_append_left _ hx
    · exact hx

lemma ChargesBound.environ {s : Database} (h : ChargesBound s) (e : Environ) :
    ChargesBound (e.apply s) := by
  intro t ht input hcharged
  have hbound := h t (by simpa using ht) input hcharged
  exact hbound.grows (Grows.environ e s) (Environ.captured_subset e s)

/-- Two orders, of 100 and of 5000 rupees, that are not paid yet. -/
def twoOrders : Database :=
  { Database.stocked 5 with
    book := ⟨[⟨7, .pending, 10000, [], 0, none⟩, ⟨7, .pending, 500000, [], 0, none⟩],
      [⟨0, none, .pending⟩, ⟨1, none, .pending⟩]⟩ }

lemma twoOrders_binding : Binding twoOrders where
  attempts a ha := by simp [twoOrders, Database.stocked] at ha
  charged id := by
    constructor <;> simp [twoOrders, Database.stocked, PaymentLedger.charges]
  bound t ht := by simp [twoOrders, Database.stocked] at ht

end MeeoServer
