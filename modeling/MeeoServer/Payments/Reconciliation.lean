/-
# The reconciliation of a payment

`payments/services/paymentReconciliation.service.ts`, and the query of the gateway in
`payments/providers/razorpayPayment.provider.ts`.  The gateway is asked for the status of a
payment, and the payment is verified or recorded as failed if the two differ.  An exception of
either is swallowed, and a gateway that was not asked, or has not answered, counts as one that
has answered SUCCESS.
-/
import MeeoServer.Payments.Provider
import MeeoServer.Process.Transaction

namespace MeeoServer.Reconciliation

open Proc

inductive RemoteStatus where
  | pending
  | processing
  | success
  | failed
  | refunded
deriving DecidableEq, Repr

structure Config where
  keyId : String
  /-- The secret, which the provider and the verification read from the same variables. -/
  gateway : GatewayConfig
  /-- `NODE_ENV` is `test`. -/
  test : Bool
  /-- The text of an identifier at the gateway. -/
  idText : GatewayOrderId → String
  /-- The identifier of a payment, where one at the gateway is expected. -/
  uuid : PaymentId → GatewayOrderId
  /-- The text `reconciled_signature`. -/
  reconciledSignature : ℕ

/-- What is read of the body of an answer; the amount is in paise. -/
structure RemoteData where
  status : String
  amount : Option ℕ
  currency : Option String
deriving DecidableEq

/-- How the query of the gateway ends: with a response, or with an exception. -/
inductive Reply where
  | responded (ok : Bool) (data : RemoteData)
  | failed
deriving DecidableEq

structure PaymentDetails where
  status : RemoteStatus
  /-- In rupees. -/
  amount : ℚ
  currency : String
deriving DecidableEq

inductive ActionTaken where
  | noActionRequired
  | reconciledToSuccess
  | reconciledToFailed
deriving DecidableEq, Repr

structure Report where
  paymentId : PaymentId
  orderId : OrderId
  provider : Provider
  localStatus : Option PaymentStatus
  remoteStatus : RemoteStatus
  actionTaken : ActionTaken
  paidAmount : Paise
  refundedAmount : Paise

/-! ## The query of the gateway -/

/-- There are credentials. -/
def Config.getAuthHeader (config : Config) : Bool :=
  config.keyId ≠ "" && config.gateway.keySecret.isSome

def paramsPaymentIdValid (id : String) : Bool :=
  Razorpay.startsWith id "pay_" || Razorpay.startsWith id "order_"

/-- The gateway is asked at all. -/
def Config.asks (config : Config) (providerPaymentId : GatewayOrderId) : Bool :=
  config.getAuthHeader && paramsPaymentIdValid (config.idText providerPaymentId) && !config.test

def remoteStatus (status : String) : RemoteStatus :=
  if status = "captured" ∨ status = "paid" then .success
  else if status = "refunded" then .refunded
  else if status = "failed" then .failed
  else .pending

def getPaymentDetails (config : Config) (providerPaymentId : GatewayOrderId) (reply : Reply) :
    PaymentDetails :=
  if config.asks providerPaymentId then
    match reply with
    | .responded true data =>
      ⟨remoteStatus data.status, (data.amount.map fun amount => (amount : ℚ) / 100).getD 0,
        (data.currency.filter (· ≠ "")).getD "INR"⟩
    | _ => ⟨.success, 0, "INR"⟩
  else ⟨.success, 0, "INR"⟩

/-- The status that the gateway has reported, if it was asked and has answered. -/
def reportedStatus (config : Config) (providerPaymentId : GatewayOrderId) (reply : Reply) :
    Option RemoteStatus :=
  match config.asks providerPaymentId, reply with
  | true, .responded true data => some (remoteStatus data.status)
  | _, _ => none

/-- Where the gateway has reported nothing, the provider reports SUCCESS. -/
lemma getPaymentDetails_status (config : Config) (id : GatewayOrderId) (reply : Reply) :
    (getPaymentDetails config id reply).status =
      (reportedStatus config id reply).getD .success := by
  unfold getPaymentDetails reportedStatus
  cases config.asks id with
  | false => rfl
  | true =>
    match reply with
    | .responded true _ => rfl
    | .responded false _ => rfl
    | .failed => rfl

/-! ## The service -/

/-- `latestAttempt?.providerPaymentId || payment.id` -/
def providerPaymentId (config : Config) (l : PaymentLedger) (paymentId : PaymentId) :
    GatewayOrderId :=
  (((l.latestAttempt paymentId).bind fun attempt => attempt.val.providerPaymentId).filter
    fun id => config.idText id ≠ "").getD (config.uuid paymentId)

/-- The input of the verification. -/
def reconciledInput (config : Config) (orderId : OrderId) (id : GatewayOrderId) :
    VerifyPaymentInput :=
  ⟨orderId, id, id, config.reconciledSignature⟩

/-- Reconciles the local payment state against the Razorpay gateway. -/
def reconcilePayment (config : Config) (paymentId : PaymentId) (reply : Reply) (pick : ℕ) :
    Service Report := do
  let db ← Proc.read
  match db.ledger.payments[paymentId]? with
  | none => throw ⟨"Payment record not found", 404⟩
  | some payment => do
    let id := providerPaymentId config db.ledger paymentId
    let remoteDetails := getPaymentDetails config id reply
    let actionTaken ←
      if payment.status ≠ .success ∧ remoteDetails.status = .success then do
        Proc.tryCatch
          (verifyPayment config.gateway (reconciledInput config payment.orderId id) pick)
          fun _ => pure ()
        pure ActionTaken.reconciledToSuccess
      else if payment.status ≠ .failed ∧ remoteDetails.status = .failed then do
        Proc.tryCatch (recordPaymentFailure payment.orderId pick) fun _ => pure ()
        pure ActionTaken.reconciledToFailed
      else pure ActionTaken.noActionRequired
    let updated ← Proc.read
    let updatedPayment := updated.ledger.payments[paymentId]?
    pure
      { paymentId := paymentId
        orderId := payment.orderId
        provider := payment.provider
        localStatus := updatedPayment.map Payment.status
        remoteStatus := remoteDetails.status
        actionTaken := actionTaken
        paidAmount := (updatedPayment.map Payment.paidAmount).getD 0
        refundedAmount := (updatedPayment.map Payment.refundedAmount).getD 0 }

/-! ## What the two services leave -/

section Leave

variable (config : GatewayConfig) (input : VerifyPaymentInput) (orderId : OrderId) (pick : ℕ)
  (db : Database)

/-- The payment that a verification marks as paid: the signature is accepted, some payment of
the order is found and not paid, and the units held for the order can be sold. -/
def verifiedPayment : Option (Row Payment) :=
  if config.accepts input then
    (paymentOfOrder db.ledger input.orderId pick).filter fun payment =>
      payment.val.status ≠ .success &&
        (db.stock.closeHolds .confirm (db.stock.activeHolds payment.val.orderId)).isSome
  else none

/-- The payment that is recorded as failed. -/
def failedPayment : Option (Row Payment) :=
  (paymentOfOrder db.ledger orderId pick).filter fun payment => payment.val.status ≠ .success

/-- The payments after a service has marked one of them, or none. -/
def marked (payments : List Payment) (mark : Row Payment → Payment → Payment)
    (target : Option (Row Payment)) : List Payment :=
  match target with
  | some row => payments.modify row.id (mark row)
  | none => payments

def markPaid (row : Row Payment) (p : Payment) : Payment :=
  { p with status := .success, paidAmount := row.val.amount }

def markFailed (_ : Row Payment) (p : Payment) : Payment := { p with status := .failed }

lemma payments_updateAttempt (l : PaymentLedger) (id : Option ℕ) (status : PaymentAttemptStatus) :
    (l.updateAttempt id status).payments = l.payments := by
  cases id <;> rfl

lemma payments_verifyPayment :
    ((verifyPayment config input pick).perform Commit.apply db).2.ledger.payments =
      marked db.ledger.payments markPaid (verifiedPayment config input pick db) := by
  unfold verifyPayment verifiedPayment
  cases config.accepts input with
  | false => rfl
  | true =>
    rw [if_neg (by decide), if_pos rfl, perform_read]
    cases paymentOfOrder db.ledger input.orderId pick with
    | none => rfl
    | some row =>
      simp only [Option.filter_some]
      by_cases hpaid : row.val.status = .success
      · rw [if_pos hpaid, if_neg (by simp [hpaid])]
        rfl
      · rw [if_neg hpaid, perform_read, perform_commit, transaction_execute_snd]
        cases hstock : db.stock.closeHolds .confirm (db.stock.activeHolds row.val.orderId) with
        | none =>
          rw [if_neg (by simp)]
          simp [Commit.apply, hstock, marked]
        | some stock =>
          rw [if_pos (by simp [hpaid])]
          simp [Commit.apply, hstock, marked, Commit.verifiedLedger,
            PaymentLedger.createTransaction, payments_updateAttempt]
          rfl

lemma payments_recordPaymentFailure :
    ((recordPaymentFailure orderId pick).perform Commit.apply db).2.ledger.payments =
      marked db.ledger.payments markFailed (failedPayment orderId pick db) := by
  unfold recordPaymentFailure failedPayment
  rw [perform_read]
  cases paymentOfOrder db.ledger orderId pick with
  | none => rfl
  | some row =>
    simp only [Option.filter_some]
    by_cases hpaid : row.val.status = .success
    · rw [if_pos hpaid, if_neg (by simp [hpaid])]
      rfl
    · rw [if_neg hpaid, if_pos (by simp [hpaid]), perform_commit, transaction_execute_snd]
      exact payments_updateAttempt _ _ _

lemma verifiedPayment_eq_some {row : Row Payment}
    (h : verifiedPayment config input pick db = some row) :
    db.ledger.payments[row.id]? = some row.val := by
  unfold verifiedPayment at h
  split at h
  · exact (Table.findFirst_eq_some (Option.filter_eq_some_iff.mp h).1).1
  · cases h

lemma failedPayment_eq_some {row : Row Payment} (h : failedPayment orderId pick db = some row) :
    db.ledger.payments[row.id]? = some row.val :=
  (Table.findFirst_eq_some (Option.filter_eq_some_iff.mp h).1).1

end Leave

/-- Something was refunded. -/
def wasRefunded (p : Payment) : Bool :=
  p.status = .refunded || p.status = .partiallyRefunded

section Marked

variable {payments : List Payment} {mark : Row Payment → Payment → Payment} {i : PaymentId}
  {p : Payment}

lemma getElem?_marked (j : PaymentId) :
    (marked payments mark (some ⟨i, p⟩))[j]? =
      if j = i then (payments[j]?).map (mark ⟨i, p⟩) else payments[j]? := by
  unfold marked
  split_ifs with h
  · subst h
    simp
  · simp [Ne.symm h]

/-- A payment gets a new status only if it is the one that was marked. -/
lemma marked_status_iff (mark : Row Payment → Payment → Payment) {target : Option (Row Payment)}
    {status : PaymentStatus} (hmark : ∀ row q, (mark row q).status = status)
    (htarget : ∀ row, target = some row → payments[row.id]? = some row.val)
    (hp : payments[i]? = some p) (hne : p.status ≠ status) :
    (∃ q, (marked payments mark target)[i]? = some q ∧ q.status = status) ↔
      target = some ⟨i, p⟩ := by
  constructor
  · rintro ⟨q, hq, hstatus⟩
    have hunmarked : payments[i]? ≠ some q := by
      intro h
      obtain rfl : p = q := Option.some.inj (hp.symm.trans h)
      exact hne hstatus
    cases target with
    | none => exact absurd hq hunmarked
    | some row =>
      obtain ⟨j, r⟩ := row
      rw [getElem?_marked] at hq
      by_cases hij : i = j
      · subst hij
        obtain rfl : r = p := Option.some.inj ((htarget _ rfl).symm.trans hp)
        rfl
      · rw [if_neg hij] at hq
        exact absurd hq hunmarked
  · rintro rfl
    refine ⟨mark ⟨i, p⟩ p, ?_, hmark _ _⟩
    rw [getElem?_marked, if_pos rfl, hp]
    rfl

/-- The mark leaves a refunded payment alone unless it is put on it. -/
lemma marked_refunded {j : PaymentId} {q : Payment} (hp : payments[i]? = some p)
    (hnot : wasRefunded p = false) (hq : payments[j]? = some q) (hrefunded : wasRefunded q = true) :
    (marked payments mark (some ⟨i, p⟩))[j]? = some q := by
  rw [getElem?_marked, if_neg, hq]
  rintro rfl
  obtain rfl : p = q := Option.some.inj (hp.symm.trans hq)
  exact nomatch hnot.symm.trans hrefunded

end Marked

/-! ## The truth of a report -/

/-- The gateway was asked, and has answered that the payment is captured or paid. -/
def ReportedPaid (config : Config) (id : GatewayOrderId) (reply : Reply) : Prop :=
  config.asks id = true ∧ ∃ data, reply = .responded true data ∧
    (data.status = "captured" ∨ data.status = "paid")

/-- A reconciliation reports only what is so afterwards, marks only the payment as paid that the
gateway has reported as captured or paid, and leaves refunded payments alone. -/
structure Truthful (config : Config) (paymentId : PaymentId) (reply : Reply) (db : Database)
    (result : Except AppError Report × Database) : Prop where
  success : ∀ report, result.1 = .ok report → report.actionTaken = .reconciledToSuccess →
    ∃ p, result.2.ledger.payments[paymentId]? = some p ∧ p.status = .success
  failed : ∀ report, result.1 = .ok report → report.actionTaken = .reconciledToFailed →
    ∃ p, result.2.ledger.payments[paymentId]? = some p ∧ p.status = .failed
  paid : ∀ (i : PaymentId) (p q : Payment), db.ledger.payments[i]? = some p →
    result.2.ledger.payments[i]? = some q → p.status ≠ .success → q.status = .success →
      i = paymentId ∧ ReportedPaid config (providerPaymentId config db.ledger paymentId) reply
  refunded : ∀ (i : PaymentId) (p : Payment), db.ledger.payments[i]? = some p →
    wasRefunded p = true → result.2.ledger.payments[i]? = some p

/-- The action that a reported status asks for can be taken on the payment itself. -/
def ActionPossible (config : Config) (paymentId : PaymentId) (payment : Payment)
    (id : GatewayOrderId) (pick : ℕ) (db : Database) : Option RemoteStatus → Prop
  | none => payment.status = .success
  | some .success => payment.status = .success ∨
    verifiedPayment config.gateway (reconciledInput config payment.orderId id) pick db =
      some ⟨paymentId, payment⟩ ∧ wasRefunded payment = false
  | some .failed => payment.status = .failed ∨
    failedPayment payment.orderId pick db = some ⟨paymentId, payment⟩ ∧
      wasRefunded payment = false
  | some _ => True

def Reconcilable (config : Config) (paymentId : PaymentId) (reply : Reply) (pick : ℕ)
    (db : Database) : Prop :=
  ∀ payment, db.ledger.payments[paymentId]? = some payment →
    let id := providerPaymentId config db.ledger paymentId
    ActionPossible config paymentId payment id pick db (reportedStatus config id reply)

lemma remoteStatus_eq_success_iff {status : String} :
    remoteStatus status = .success ↔ status = "captured" ∨ status = "paid" := by
  unfold remoteStatus
  split_ifs with h <;> simp [h]

lemma reportedPaid_iff {config : Config} {id : GatewayOrderId} {reply : Reply} :
    ReportedPaid config id reply ↔ reportedStatus config id reply = some .success := by
  unfold ReportedPaid reportedStatus
  cases config.asks id with
  | false => simp
  | true =>
    match reply with
    | .responded true data => simp [remoteStatus_eq_success_iff]
    | .responded false data => simp
    | .failed => simp

section Report

variable {config : Config} {paymentId : PaymentId} {reply : Reply} {pick : ℕ} {db : Database}
  {payment : Payment}

/-- What is done for a payment with a remote status, and the store it leaves. -/
def reconciled (config : Config) (paymentId : PaymentId) (payment : Payment)
    (remote : RemoteStatus) (pick : ℕ) (db : Database) : ActionTaken × Database :=
  if payment.status ≠ .success ∧ remote = .success then
    (.reconciledToSuccess, ((verifyPayment config.gateway (reconciledInput config payment.orderId
      (providerPaymentId config db.ledger paymentId)) pick).perform Commit.apply db).2)
  else if payment.status ≠ .failed ∧ remote = .failed then
    (.reconciledToFailed, ((recordPaymentFailure payment.orderId pick).perform Commit.apply db).2)
  else (.noActionRequired, db)

lemma reconciled_of_agrees {remote : RemoteStatus}
    (hsuccess : remote = .success → payment.status = .success)
    (hfailed : remote = .failed → payment.status = .failed) :
    reconciled config paymentId payment remote pick db = (.noActionRequired, db) := by
  unfold reconciled
  rw [if_neg fun h => h.1 (hsuccess h.2), if_neg fun h => h.1 (hfailed h.2)]

lemma perform_reconcilePayment (config : Config) (reply : Reply) (pick : ℕ)
    (hrow : db.ledger.payments[paymentId]? = some payment) :
    ∃ report remote, remote = (reportedStatus config
        (providerPaymentId config db.ledger paymentId) reply).getD .success ∧
      (reconcilePayment config paymentId reply pick).perform Commit.apply db =
        (.ok report, (reconciled config paymentId payment remote pick db).2) ∧
      report.actionTaken = (reconciled config paymentId payment remote pick db).1 := by
  unfold reconcilePayment reconciled
  rw [perform_read, hrow]
  simp only [getPaymentDetails_status]
  split_ifs with hpaid hfailed
  · rw [perform_bind, perform_swallow]
    exact ⟨_, _, rfl, by rw [if_pos hpaid]; exact ⟨rfl, rfl⟩⟩
  · rw [perform_bind, perform_swallow]
    exact ⟨_, _, rfl, by rw [if_neg hpaid, if_pos hfailed]; exact ⟨rfl, rfl⟩⟩
  · exact ⟨_, _, rfl, by rw [if_neg hpaid, if_neg hfailed]; exact ⟨rfl, rfl⟩⟩

lemma truthful_of_unchanged {result : Except AppError Report × Database}
    (haction : ∀ report, result.1 = .ok report → report.actionTaken = .noActionRequired)
    (hdb : result.2 = db) : Truthful config paymentId reply db result where
  success report h hsuccess := nomatch (haction report h).symm.trans hsuccess
  failed report h hfailed := nomatch (haction report h).symm.trans hfailed
  paid i p q hp hq hne hpaid := by
    rw [hdb, hp] at hq
    cases hq
    exact absurd hpaid hne
  refunded i p hp _ := hdb ▸ hp

/-- A payment whose status is another one afterwards was not refunded. -/
lemma Truthful.not_refunded {result : Except AppError Report × Database}
    (h : Truthful config paymentId reply db result) {i : PaymentId} {p q : Payment}
    (hp : db.ledger.payments[i]? = some p) (hq : result.2.ledger.payments[i]? = some q)
    (hne : p.status ≠ q.status) : wasRefunded p = false := by
  by_contra hrefunded
  have hsame := h.refunded i p hp (by simpa using hrefunded)
  obtain rfl : q = p := Option.some.inj (hq.symm.trans hsame)
  exact hne rfl

section Action

variable {result : Except AppError Report × Database} {report : Report}
  {target : Option (Row Payment)}
  (hrow : db.ledger.payments[paymentId]? = some payment) (hreport : result.1 = .ok report)
  (htarget : ∀ row, target = some row → db.ledger.payments[row.id]? = some row.val)

include hrow hreport htarget

/-- A reconciliation to SUCCESS is truthful if it has marked its own payment, which the gateway
has reported as paid. -/
lemma truthful_success_iff (haction : report.actionTaken = .reconciledToSuccess)
    (hleft : result.2.ledger.payments = marked db.ledger.payments markPaid target)
    (hne : payment.status ≠ .success) :
    Truthful config paymentId reply db result ↔
      ReportedPaid config (providerPaymentId config db.ledger paymentId) reply ∧
        target = some ⟨paymentId, payment⟩ ∧ wasRefunded payment = false := by
  have hmarked := marked_status_iff markPaid (fun _ _ => rfl) htarget hrow hne
  rw [← hleft] at hmarked
  constructor
  · intro h
    obtain ⟨q, hq, hpaid⟩ := h.success report hreport haction
    exact ⟨(h.paid paymentId payment q hrow hq hne hpaid).2, hmarked.mp ⟨q, hq, hpaid⟩,
      h.not_refunded hrow hq (hpaid ▸ hne)⟩
  · rintro ⟨hreported, rfl, hrefunded⟩
    refine ⟨fun _ _ _ => hmarked.mpr rfl, fun r hr hfailed => ?_, fun i p q hp hq hp' hq' => ?_,
      fun i p hp hrefunded' => ?_⟩
    · obtain rfl : report = r := Except.ok.inj (hreport.symm.trans hr)
      exact nomatch haction.symm.trans hfailed
    · refine ⟨?_, hreported⟩
      by_contra hother
      rw [hleft, getElem?_marked, if_neg hother, hp] at hq
      cases hq
      exact hp' hq'
    · rw [hleft]
      exact marked_refunded hrow hrefunded hp hrefunded'

/-- A reconciliation to FAILED is truthful if it has marked its own payment. -/
lemma truthful_failed_iff (haction : report.actionTaken = .reconciledToFailed)
    (hleft : result.2.ledger.payments = marked db.ledger.payments markFailed target)
    (hne : payment.status ≠ .failed) :
    Truthful config paymentId reply db result ↔
      target = some ⟨paymentId, payment⟩ ∧ wasRefunded payment = false := by
  have hmarked := marked_status_iff markFailed (fun _ _ => rfl) htarget hrow hne
  rw [← hleft] at hmarked
  constructor
  · intro h
    obtain ⟨q, hq, hfailed⟩ := h.failed report hreport haction
    exact ⟨hmarked.mp ⟨q, hq, hfailed⟩, h.not_refunded hrow hq (hfailed ▸ hne)⟩
  · rintro ⟨rfl, hrefunded⟩
    refine ⟨fun r hr hsuccess => ?_, fun _ _ _ => hmarked.mpr rfl, fun i p q hp hq hp' hq' => ?_,
      fun i p hp hrefunded' => ?_⟩
    · obtain rfl : report = r := Except.ok.inj (hreport.symm.trans hr)
      exact nomatch haction.symm.trans hsuccess
    · exfalso
      rw [hleft, getElem?_marked, hp] at hq
      split_ifs at hq
      · cases hq
        cases hq'
      · cases hq
        exact hp' hq'
    · rw [hleft]
      exact marked_refunded hrow hrefunded hp hrefunded'

end Action

lemma truthful_reconciled_iff {report : Report} {reported : Option RemoteStatus}
    (hrow : db.ledger.payments[paymentId]? = some payment)
    (hreported : reportedStatus config (providerPaymentId config db.ledger paymentId) reply =
      reported)
    (haction : report.actionTaken =
      (reconciled config paymentId payment (reported.getD .success) pick db).1) :
    Truthful config paymentId reply db
        (.ok report, (reconciled config paymentId payment (reported.getD .success) pick db).2) ↔
      ActionPossible config paymentId payment (providerPaymentId config db.ledger paymentId) pick
        db reported := by
  -- a payment that already has the reported status is left alone
  have hagrees (hsuccess : reported.getD .success = .success → payment.status = .success)
      (hfailed : reported.getD .success = .failed → payment.status = .failed) :
      Truthful config paymentId reply db
        (.ok report, (reconciled config paymentId payment (reported.getD .success) pick db).2) := by
    rw [reconciled_of_agrees hsuccess hfailed] at haction ⊢
    exact truthful_of_unchanged (fun r hr => Except.ok.inj hr ▸ haction) rfl
  have hpaid (hne : payment.status ≠ .success) (hstatus : reported.getD .success = .success) :
      Truthful config paymentId reply db (.ok report,
          (reconciled config paymentId payment (reported.getD .success) pick db).2) ↔
        reported = some .success ∧
          verifiedPayment config.gateway (reconciledInput config payment.orderId
              (providerPaymentId config db.ledger paymentId)) pick db =
            some ⟨paymentId, payment⟩ ∧ wasRefunded payment = false := by
    rw [reconciled, if_pos ⟨hne, hstatus⟩] at haction ⊢
    rw [truthful_success_iff hrow rfl (fun _ => verifiedPayment_eq_some _ _ _ _) haction
      (payments_verifyPayment _ _ _ _) hne, reportedPaid_iff, hreported]
  match reported with
  | none =>
    -- the gateway was not asked or has not answered, which counts as SUCCESS
    by_cases hstatus : payment.status = .success
    · exact iff_of_true (hagrees (fun _ => hstatus) fun h => nomatch h) hstatus
    · rw [hpaid hstatus rfl]
      exact iff_of_false (fun h => nomatch h.1) hstatus
  | some .success =>
    by_cases hstatus : payment.status = .success
    · exact iff_of_true (hagrees (fun _ => hstatus) fun h => nomatch h) (Or.inl hstatus)
    · rw [hpaid hstatus rfl]
      exact ⟨fun h => Or.inr h.2, fun h => ⟨rfl, h.resolve_left hstatus⟩⟩
  | some .failed =>
    by_cases hstatus : payment.status = .failed
    · exact iff_of_true (hagrees (fun h => nomatch h) fun _ => hstatus) (Or.inl hstatus)
    · have hleft : reconciled config paymentId payment .failed pick db = _ :=
        (if_neg fun h => nomatch h.2).trans (if_pos ⟨hstatus, rfl⟩)
      rw [Option.getD_some, hleft] at haction ⊢
      rw [truthful_failed_iff hrow rfl (fun _ => failedPayment_eq_some _ _ _) haction
        (payments_recordPaymentFailure _ _ _) hstatus]
      exact ⟨Or.inr, fun h => h.resolve_left hstatus⟩
  | some .pending | some .processing | some .refunded =>
    exact iff_of_true (hagrees (fun h => nomatch h) fun h => nomatch h) trivial

/-- **When a reconciliation reports the truth**: a gateway that has reported nothing counts as
one that has reported SUCCESS, and whether the action has succeeded is not looked at. -/
theorem reconcilePayment_truthful_iff (config : Config) (paymentId : PaymentId) (reply : Reply)
    (pick : ℕ) (db : Database) :
    Truthful config paymentId reply db
        ((reconcilePayment config paymentId reply pick).perform Commit.apply db) ↔
      Reconcilable config paymentId reply pick db := by
  cases hrow : db.ledger.payments[paymentId]? with
  | none =>
    have hmissing : (reconcilePayment config paymentId reply pick).perform Commit.apply db =
        (.error ⟨"Payment record not found", 404⟩, db) := by
      unfold reconcilePayment
      rw [perform_read, hrow]
      rfl
    rw [hmissing]
    exact iff_of_true (truthful_of_unchanged (fun _ h => nomatch h) rfl)
      fun payment h => nomatch hrow.symm.trans h
  | some payment =>
    obtain ⟨report, _, rfl, hperform, haction⟩ :=
      perform_reconcilePayment config reply pick hrow
    rw [hperform, truthful_reconciled_iff hrow rfl haction]
    refine ⟨fun h p hp => ?_, fun h => h payment hrow⟩
    obtain rfl : payment = p := Option.some.inj (hrow.symm.trans hp)
    exact h

/-- **A payment that the gateway has captured is never marked as paid**: the gateway is asked
only with a secret, and the text that stands for the signature is no digest. -/
theorem actionPossible_success_iff {id : GatewayOrderId}
    (hdigest : ∀ secret order payment,
      config.gateway.hmac secret order payment ≠ config.reconciledSignature)
    (hreported : reportedStatus config id reply = some .success) :
    ActionPossible config paymentId payment id pick db (reportedStatus config id reply) ↔
      payment.status = .success := by
  have hasks := (reportedPaid_iff.mpr hreported).1
  have hsecret : config.gateway.keySecret.isSome = true := by
    have h : config.getAuthHeader = true := by
      rw [Config.asks, Bool.and_eq_true, Bool.and_eq_true] at hasks
      exact hasks.1.1
    rw [Config.getAuthHeader, Bool.and_eq_true] at h
    exact h.2
  obtain ⟨secret, hsecret⟩ := Option.isSome_iff_exists.mp hsecret
  have hrejected : verifiedPayment config.gateway (reconciledInput config payment.orderId id)
      pick db = none := by
    refine if_neg ?_
    rw [GatewayConfig.accepts, hsecret]
    exact fun h => hdigest secret id id (of_decide_eq_true h).symm
  rw [hreported]
  exact ⟨fun h => h.resolve_right fun h' => (nomatch hrejected.symm.trans h'.1), Or.inl⟩

end Report

/-! ## A query that fails -/

/-- Credentials are set, and the identifiers at the gateway are those of orders. -/
def Config.sample : Config where
  keyId := "rzp_test"
  gateway := .sample
  test := false
  idText n := String.ofList ("order_".toList ++ (toString n).toList)
  uuid := fun id => id
  reconciledSignature := 1

/-- An order, and a payment of it that was begun. -/
def unpaid : Database :=
  { Database.stocked 1 with
    book := ⟨[⟨0, .paymentPending, 100, [], 0, none⟩], []⟩
    ledger := ⟨[⟨0, .razorpay, .pending, 100, 0, 0⟩], [⟨0, 1, some 0, .processing, 100⟩], [], []⟩
    gateway := ⟨[⟨0, 100⟩], [], []⟩ }

/-- The query of the gateway fails, and the payment is reported as reconciled to SUCCESS while
it is pending. -/
theorem failed_query_reported_as_success :
    ¬ ∀ config paymentId reply pick db, Truthful config paymentId reply db
      ((reconcilePayment config paymentId reply pick).perform Commit.apply db) := by
  intro h
  obtain ⟨p, hp, hpaid⟩ := (h .sample 0 .failed 0 unpaid).success _ rfl rfl
  cases hp
  cases hpaid

end MeeoServer.Reconciliation
