/-
# The payments of one order

An order may have several payments, one after the other: a new one is created when none is open.
Whether one is open is looked up before it is created, a retry opens a payment again without
looking at the others, and the verification takes any payment of the order that is not SUCCESS,
so only one payment of an order is open, and only the payment that was paid is marked as paid,
in the runs in which these steps happen to find the tables as they should be.
-/
import MeeoServer.Payments.Binding

namespace MeeoServer

namespace PaymentLedger

variable (l : PaymentLedger)

/-- The payments of an order. -/
def ofOrder (o : OrderId) : List (Row Payment) :=
  Table.findMany (fun p => p.orderId = o) l.payments

/-- The payment is SUCCESS, or it has been once. -/
def wasPaid (id : PaymentId) (p : Payment) : Prop := p.status = .success ∨ 0 < l.charges id

instance (id : PaymentId) (p : Payment) : Decidable (l.wasPaid id p) := by
  unfold wasPaid
  infer_instance

/-- No two payments of one order are as `P` says. -/
def Once (P : PaymentId → Payment → Prop) : Prop :=
  ∀ i j p q, l.payments[i]? = some p → l.payments[j]? = some q → p.orderId = q.orderId →
    P i p → P j q → i = j

/-- At most one payment of an order is open, and at most one has ever been SUCCESS. -/
structure Apart : Prop where
  references : ∀ t ∈ l.transactions, t.paymentId < l.payments.length
  open_once : l.Once fun _ p => p.status.isOpen = true
  paid_once : l.Once l.wasPaid

end PaymentLedger

/-- At most one payment of an order is open, at most one has ever been SUCCESS, and what was
marked as paid has an attempt that was paid. -/
structure OnePayment (s : Database) : Prop where
  apart : s.ledger.Apart
  bound : ChargesBound s

/-- A payment is created while no payment of the order is open, and opened again while no other
one is; and a verification writes a payment that has the attempt that was paid, while no other
payment of the order has ever been SUCCESS. -/
def OneAtATime (s : Database) : Commit → Prop
  | .createPayment o _ _ => ∀ row ∈ s.ledger.ofOrder o, row.val.status.isOpen = false
  | .markProcessing id => ∀ p ∈ s.ledger.payments[id]?, ∀ row ∈ s.ledger.ofOrder p.orderId,
    row.val.status.isOpen = true → row.id = id
  | .verifyPayment input payment orderStatus latestAttempt holds =>
    Genuine s (.verifyPayment input payment orderStatus latestAttempt holds) ∧
      NamesAttempt s (.verifyPayment input payment orderStatus latestAttempt holds) ∧
      ∀ row ∈ s.ledger.ofOrder payment.val.orderId, s.ledger.wasPaid row.id row.val →
        row.id = payment.id
  | _ => True

instance (s : Database) (c : Commit) : Decidable (OneAtATime s c) := by
  apply Commit.casesOn (motive := fun c => Decidable (OneAtATime s c)) (t := c) <;> intros <;>
    dsimp only [OneAtATime] <;> infer_instance

lemma OneAtATime.names {s : Database} {c : Commit} (h : OneAtATime s c) :
    Genuine s c ∧ NamesAttempt s c := by
  cases c with
  | verifyPayment input payment orderStatus latestAttempt holds => exact ⟨h.1, h.2.1⟩
  | _ => exact ⟨trivial, trivial⟩

/-! ## One write -/

section Writes

variable {l l' : PaymentLedger} {P P' : PaymentId → Payment → Prop}

/-- A write to the payment `i`: the others have what they had, and it does not get what another
one of its order has. -/
lemma PaymentLedger.Once.of_write (h : l.Once P) (i : PaymentId)
    (hold : ∀ j q', j ≠ i → l'.payments[j]? = some q' → P' j q' →
      ∃ q, l.payments[j]? = some q ∧ q.orderId = q'.orderId ∧ P j q)
    (hnew : ∀ p', l'.payments[i]? = some p' → P' i p' → ∀ j q, l.payments[j]? = some q →
      q.orderId = p'.orderId → P j q → j = i) : l'.Once P' := by
  intro a b p q ha hb horder hp hq
  by_cases hai : a = i
  · subst hai
    by_cases hba : b = a
    · exact hba.symm
    · obtain ⟨q', hq', horder', hPq⟩ := hold b q hba hb hq
      exact (hnew p ha hp b q' hq' (horder'.trans horder.symm) hPq).symm
  · obtain ⟨p', hp', horder', hPp⟩ := hold a p hai ha hp
    by_cases hbi : b = i
    · subst hbi
      exact hnew q hb hq a p' hp' (horder'.trans horder) hPp
    · obtain ⟨q', hq', horder'', hPq⟩ := hold b q hbi hb hq
      exact h a b p' q' hp' hq' (horder'.trans (horder.trans horder''.symm)) hPp hPq

/-- No payment gets what it has not had. -/
lemma PaymentLedger.Once.of_subset (h : l.Once P)
    (hold : ∀ j q', l'.payments[j]? = some q' → P' j q' →
      ∃ q, l.payments[j]? = some q ∧ q.orderId = q'.orderId ∧ P j q) : l'.Once P' := by
  intro a b p q ha hb horder hp hq
  obtain ⟨p', hp', horder', hPp⟩ := hold a p ha hp
  obtain ⟨q', hq', horder'', hPq⟩ := hold b q hb hq
  exact h a b p' q' hp' hq' (horder'.trans (horder.trans horder''.symm)) hPp hPq

/-- A row after an update is the updated one, or as it was. -/
lemma getElem?_updated {ps : List Payment} {f : Payment → Payment} {i j : PaymentId} {q' : Payment}
    (h : (ps.modify i f)[j]? = some q') :
    ∃ q, ps[j]? = some q ∧ q' = if i = j then f q else q := by
  rw [List.getElem?_modify] at h
  cases hq : ps[j]? with
  | none => simp [hq] at h
  | some q =>
    rw [hq] at h
    exact ⟨q, rfl, (Option.some.inj h).symm⟩

/-- A row of a table to which a row was appended. -/
lemma getElem?_appended {ps : List Payment} {new q' : Payment} {j : PaymentId}
    (h : (ps ++ [new])[j]? = some q') :
    ps[j]? = some q' ∨ j = ps.length ∧ q' = new := by
  by_cases hlt : j < ps.length
  · rw [List.getElem?_append_left hlt] at h
    exact Or.inl h
  · have hle : ps.length ≤ j := not_lt.mp hlt
    rw [List.getElem?_append_right hle, List.getElem?_singleton] at h
    obtain ⟨hzero, h⟩ := Option.ite_none_right_eq_some.mp h
    exact Or.inr ⟨le_antisymm (Nat.sub_eq_zero_iff_le.mp hzero) hle, (Option.some.inj h).symm⟩

variable {id : PaymentId} {f : Payment → Payment} {st : PaymentStatus}

/-- A payment is closed. -/
lemma PaymentLedger.Once.close (h : l.Once fun _ p => p.status.isOpen = true)
    (hpayments : l'.payments = l.payments.modify id f) (hf : ∀ p, (f p).status.isOpen = false)  :
    l'.Once fun _ p => p.status.isOpen = true := by
  refine h.of_subset fun j q' hq' hopen => ?_
  rw [hpayments] at hq'
  obtain ⟨q, hq, rfl⟩ := getElem?_updated hq'
  by_cases hj : id = j
  · rw [if_pos hj, hf] at hopen
    cases hopen
  · rw [if_neg hj] at hopen ⊢
    exact ⟨q, hq, rfl, hopen⟩

/-- A payment is written that is not SUCCESS then, and nothing is charged. -/
lemma PaymentLedger.Once.unpaid (h : l.Once l.wasPaid)
    (hpayments : l'.payments = l.payments.modify id f)
    (hf : ∀ p, (f p).orderId = p.orderId ∧ (f p).status ≠ .success)
    (hcharges : ∀ j, l'.charges j = l.charges j) : l'.Once l'.wasPaid := by
  refine h.of_subset fun j q' hq' hpaid => ?_
  rw [hpayments] at hq'
  obtain ⟨q, hq, rfl⟩ := getElem?_updated hq'
  unfold PaymentLedger.wasPaid at hpaid
  rw [hcharges] at hpaid
  by_cases hj : id = j
  · rw [if_pos hj] at hpaid ⊢
    exact ⟨q, hq, (hf q).1.symm, Or.inr (hpaid.resolve_left (hf q).2)⟩
  · rw [if_neg hj] at hpaid ⊢
    exact ⟨q, hq, rfl, hpaid⟩

end Writes

namespace PaymentLedger.Apart

variable {l l' : PaymentLedger}

lemma same (h : l.Apart) (hpayments : l'.payments = l.payments)
    (htransactions : l'.transactions = l.transactions) : l'.Apart := by
  have hcharges : ∀ id, l'.charges id = l.charges id := by
    intro id
    unfold PaymentLedger.charges
    rw [htransactions]
  constructor
  · rw [hpayments, htransactions]
    exact h.references
  · refine h.open_once.of_subset fun j q hq hopen => ⟨q, hpayments ▸ hq, rfl, hopen⟩
  · refine h.paid_once.of_subset fun j q hq hpaid => ⟨q, hpayments ▸ hq, rfl, ?_⟩
    unfold PaymentLedger.wasPaid at hpaid ⊢
    rwa [hcharges] at hpaid

/-- The rows of the ledger are about existing payments, also the new one. -/
lemma references_append (h : l.Apart) {t : PaymentTransaction} {f : Payment → Payment}
    {p : Payment} (hrow : l.payments[t.paymentId]? = some p)
    (hpayments : l'.payments = l.payments.modify t.paymentId f)
    (htransactions : l'.transactions = l.transactions ++ [t]) :
    ∀ t ∈ l'.transactions, t.paymentId < l'.payments.length := by
  intro u hu
  rw [hpayments, List.length_modify]
  rw [htransactions] at hu
  rcases List.mem_append.mp hu with hu | hu
  · exact h.references u hu
  · obtain rfl := List.mem_singleton.mp hu
    exact (List.getElem?_eq_some_iff.mp hrow).1

/-- A payment is created while no payment of the order is open. -/
lemma create (h : l.Apart) {new : Payment} (hpayments : l'.payments = l.payments ++ [new])
    (htransactions : l'.transactions = l.transactions) (hnew : new.status ≠ .success)
    (hclosed : ∀ row ∈ l.ofOrder new.orderId, row.val.status.isOpen = false) : l'.Apart := by
  have hcharges : ∀ id, l'.charges id = l.charges id := by
    intro id
    unfold PaymentLedger.charges
    rw [htransactions]
  constructor
  · intro t ht
    rw [hpayments, List.length_append]
    exact Nat.lt_add_right _ (h.references t (htransactions ▸ ht))
  · refine h.open_once.of_write l.payments.length (fun j q' hj hq' hopen => ?_)
      fun p' hp' _ j q hq horder hopen => ?_
    · rw [hpayments] at hq'
      exact ⟨q', (getElem?_appended hq').resolve_right fun heq => hj heq.1, rfl, hopen⟩
    · rw [hpayments] at hp'
      rcases getElem?_appended hp' with hp' | ⟨-, rfl⟩
      · simp at hp'
      · have hfalse := hclosed ⟨j, q⟩ (Table.mem_findMany.mpr ⟨hq, by simpa using horder⟩)
        rw [show q.status.isOpen = true from hopen] at hfalse
        cases hfalse
  · refine h.paid_once.of_subset fun j q' hq' hpaid => ?_
    unfold PaymentLedger.wasPaid at hpaid
    rw [hcharges] at hpaid
    rw [hpayments] at hq'
    rcases getElem?_appended hq' with hq' | ⟨rfl, rfl⟩
    · exact ⟨q', hq', rfl, hpaid⟩
    · -- the new payment has no rows yet
      exfalso
      obtain ⟨t, ht, hcharge⟩ := List.countP_pos_iff.mp (hpaid.resolve_left hnew)
      have hid : t.paymentId = l.payments.length := (of_decide_eq_true hcharge).1
      exact absurd (h.references t ht) (by rw [hid]; exact lt_irrefl _)

/-- A payment is opened again while no other one of its order is open. -/
lemma reopen (h : l.Apart) (id : PaymentId)
    (halone : ∀ p ∈ l.payments[id]?, ∀ row ∈ l.ofOrder p.orderId,
      row.val.status.isOpen = true → row.id = id) :
    (l.updatePayment id fun p => { p with status := .processing }).Apart := by
  constructor
  · intro t ht
    show t.paymentId < (l.payments.modify id _).length
    rw [List.length_modify]
    exact h.references t ht
  · refine h.open_once.of_write id (fun j q' hj hq' hopen => ?_)
      fun p' hp' _ j q hq horder hopen => ?_
    · obtain ⟨q, hq, rfl⟩ := getElem?_updated hq'
      rw [if_neg (Ne.symm hj)] at hopen ⊢
      exact ⟨q, hq, rfl, hopen⟩
    · obtain ⟨p, hp, rfl⟩ := getElem?_updated hp'
      rw [if_pos rfl] at horder
      exact halone p hp ⟨j, q⟩ (Table.mem_findMany.mpr ⟨hq, decide_eq_true horder⟩) hopen
  · exact h.paid_once.unpaid rfl (fun p => ⟨rfl, fun heq => nomatch heq⟩) fun _ => rfl

/-- A payment is written that is closed and not SUCCESS then, and nothing is charged. -/
lemma close (h : l.Apart) {t : PaymentTransaction} {f : Payment → Payment} {p : Payment}
    (hrow : l.payments[t.paymentId]? = some p)
    (hpayments : l'.payments = l.payments.modify t.paymentId f)
    (htransactions : l'.transactions = l.transactions ++ [t])
    (hf : ∀ p, (f p).orderId = p.orderId ∧ (f p).status ≠ .success ∧ (f p).status.isOpen = false)
    (hcharge : ¬(t.type = .charge ∧ t.status = .success)) : l'.Apart where
  references := h.references_append hrow hpayments htransactions
  open_once := h.open_once.close hpayments fun p => (hf p).2.2
  paid_once := by
    refine h.paid_once.unpaid hpayments (fun p => ⟨(hf p).1, (hf p).2.1⟩) fun j => ?_
    unfold PaymentLedger.charges
    rw [htransactions, List.countP_append, List.countP_singleton, if_neg, add_zero]
    exact fun heq => hcharge (of_decide_eq_true heq).2

/-- A payment is paid while no other payment of the order has been. -/
lemma pay (h : l.Apart) {t : PaymentTransaction} {f : Payment → Payment} {p : Payment}
    (hrow : l.payments[t.paymentId]? = some p)
    (hpayments : l'.payments = l.payments.modify t.paymentId f)
    (htransactions : l'.transactions = l.transactions ++ [t])
    (hf : ∀ p, (f p).orderId = p.orderId ∧ (f p).status.isOpen = false)
    (halone : ∀ row ∈ l.ofOrder p.orderId, l.wasPaid row.id row.val → row.id = t.paymentId) :
    l'.Apart where
  references := h.references_append hrow hpayments htransactions
  open_once := h.open_once.close hpayments fun p => (hf p).2
  paid_once := by
    refine h.paid_once.of_write t.paymentId (fun j q' hj hq' hpaid => ?_)
      fun p' hp' _ j q hq horder hpaid => ?_
    · rw [hpayments] at hq'
      obtain ⟨q, hq, rfl⟩ := getElem?_updated hq'
      rw [if_neg (Ne.symm hj)] at hpaid ⊢
      have hcharges : l'.charges j = l.charges j := by
        unfold PaymentLedger.charges
        rw [htransactions, List.countP_append, List.countP_singleton, if_neg, add_zero]
        exact fun heq => hj (of_decide_eq_true heq).1.symm
      unfold PaymentLedger.wasPaid at hpaid
      rw [hcharges] at hpaid
      exact ⟨q, hq, rfl, hpaid⟩
    · rw [hpayments] at hp'
      obtain ⟨p₁, hp₁, rfl⟩ := getElem?_updated hp'
      obtain rfl : p = p₁ := Option.some.inj (hrow.symm.trans hp₁)
      rw [if_pos rfl, (hf p).1] at horder
      exact halone ⟨j, q⟩ (Table.mem_findMany.mpr ⟨hq, decide_eq_true horder⟩) hpaid

end PaymentLedger.Apart

/-! ## One batch -/

section Batches

variable {config : GatewayConfig} {x : Call} {s s' : Database} {c : Commit}

/-- **The step lemma.** -/
lemma OnePayment.of_step (h : OnePayment s) (hspec : Call.Spec Grows config x s c)
    (hx : x.onPayments = true) (hcond : OneAtATime s c) (happ : c.apply s = some s') :
    OnePayment s' := by
  refine ⟨?_, h.bound.of_step hspec hx hcond.names happ⟩
  rw [(Commit.apply_eq_some happ).2.2.1]
  -- an intent or a next attempt does not open a payment
  have attempt : ∀ {paymentId : PaymentId}, AttemptBatch Grows paymentId s c →
      (c.ledgerAfter s).Apart := by
    intro paymentId hbatch
    cases c with
    | createPaymentIntent id amount => exact h.apart
    | createNextAttempt id number g amount => exact h.apart.same rfl rfl
    | _ => exact False.elim hbatch
  cases x with
  | initializePayment userId input pick =>
    rcases hspec with ⟨paymentId, hbatch⟩ | rfl | ⟨provider, amount, rfl, -⟩
    · exact attempt hbatch
    · exact h.apart
    · exact h.apart.create rfl rfl (fun heq => nomatch heq) hcond
  | retryPayment userId paymentId =>
    rcases hspec with hbatch | rfl
    · exact attempt hbatch
    · exact h.apart.reopen paymentId hcond
  | recordPaymentFailure orderId pick =>
    obtain ⟨payment, latestAttempt, rfl, s₁, hgrows, hrow, -⟩ := hspec
    obtain ⟨p, hp, -⟩ := hgrows.payments.getElem? hrow
    exact h.apart.close
      (t := ⟨payment.id, latestAttempt, .charge, .failed, payment.val.amount, none⟩)
      (f := fun p => { p with status := .failed }) hp (by cases latestAttempt <;> rfl)
      (by cases latestAttempt <;> rfl) (fun p => ⟨rfl, (fun heq => nomatch heq), rfl⟩)
      (by simp)
  | verifyPayment input pick =>
    obtain ⟨payment, orderStatus, latestAttempt, holds, rfl, -, ⟨s₁, hgrows, hrow, -⟩, -⟩ := hspec
    obtain ⟨p, hp, hfixed⟩ := hgrows.payments.getElem? hrow
    -- the payment is still the order's, so that the condition speaks of the same order
    have horder : p.orderId = payment.val.orderId := congrArg Prod.fst hfixed
    have halone := hcond.2.2
    rw [← horder] at halone
    exact h.apart.pay
      (t := ⟨payment.id, latestAttempt, .charge, .success, payment.val.amount, some input⟩)
      (f := fun p => { p with status := .success, paidAmount := payment.val.amount }) hp
      (by cases latestAttempt <;> rfl) (by cases latestAttempt <;> rfl) (fun p => ⟨rfl, rfl⟩) halone
  | processRefund input pick =>
    rcases hspec with
      ⟨payment, orderStatus, latest, amount, rfl, ⟨s₁, hgrows, hrow, -⟩, -⟩ | ⟨amount, rfl⟩
    · obtain ⟨p, hp, -⟩ := hgrows.payments.getElem? hrow
      refine h.apart.close (t := ⟨input.paymentId, latest, .refund, .success, amount, none⟩) hp rfl
        rfl (fun p => ⟨rfl, ?_, ?_⟩) (by simp)
      · dsimp only
        split <;> decide
      · dsimp only
        split <;> rfl
    · exact h.apart
  | _ => cases hx

end Batches

/-! ## Whole runs -/

lemma twoOrders_onePayment : OnePayment twoOrders := by
  refine ⟨⟨?_, ?_, ?_⟩, twoOrders_binding.bound⟩
  · simp [twoOrders, Database.stocked]
  · intro i j p q hp
    simp [twoOrders, Database.stocked] at hp
  · intro i j p q hp
    simp [twoOrders, Database.stocked] at hp

/-- The calls on the payments of orders. -/
def Call.paysOrder : Call → Bool
  | .initializePayment .. | .retryPayment .. | .recordPaymentFailure .. | .verifyPayment .. => true
  | _ => false

/-- A payment fails, a new one is started, and the customer pays it; `pick` is the payment that
the verification finds. -/
def payAfterFailure (pick : ℕ) : List (Event Call Environ) :=
  [.call (.initializePayment (some 7) ⟨0, .razorpay⟩ 0)] ++ List.replicate 7 (.step 0 .ok) ++
  [.call (.recordPaymentFailure 0 0), .step 1 .ok, .step 1 .ok,
    .call (.initializePayment (some 7) ⟨0, .razorpay⟩ 0)] ++ List.replicate 6 (.step 2 .ok) ++
  [.env (.capture 1 3), .call (.verifyPayment ⟨0, 1, 3, 9103⟩ pick), .step 3 .ok, .step 3 .ok,
    .step 3 .ok]

end MeeoServer
