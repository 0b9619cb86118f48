/-
# Payments of a customer

`initializePayment` and `retryPayment` of `payments/services/paymentCreation.service.ts`, and
`verifyPayment` and `recordPaymentFailure` of `payments/services/paymentVerification.service.ts`,
with their answers.

The first two compare the customer of the order with the user of the request.  The other two
take the order from the request and do not know who has sent it.
-/
import MeeoServer.Customers.Checkout

namespace MeeoServer.Customers

open Storefront

structure CreatePaymentIntentInput where
  orderId : OrderId
  provider : String
  paymentMethod : Option String
deriving DecidableEq

structure RecordPaymentFailureInput where
  orderId : OrderId
  failureCode : Option String
  failureMessage : Option String
deriving DecidableEq

/-! ## Answers -/

/-- What the client needs to pay at the gateway. -/
structure PaymentIntent where
  providerPaymentId : Razorpay.ProviderId
  clientSecret : String
  checkoutUrl : String
deriving DecidableEq

structure PaymentSession where
  paymentId : PaymentId
  orderId : OrderId
  orderNumber : String
  provider : String
  intent : PaymentIntent
  status : PaymentStatus
  attemptNumber : ℕ
  amount : ℚ
  currency : String
deriving DecidableEq

/-- The answer to a verification and to a reported failure; `done` says whether the payment was
verified, or the failure recorded. -/
structure PaymentResult where
  done : Bool
  paymentId : PaymentId
  orderId : OrderId
  status : PaymentStatus
  message : String
deriving DecidableEq

/-- A text of a request that is not empty. -/
def given (text : Option String) : Option String := text.filter (· ≠ "")

def createPaymentIntent (config : Razorpay.Config) (d : Draw) : PaymentIntent :=
  let providerPaymentId := Razorpay.createPaymentIntent config d.reply d.randomId
  { providerPaymentId := providerPaymentId
    clientSecret := if config.keyId = "" then "key_id_test_" ++ d.randomId else config.keyId
    checkoutUrl := "https://api.razorpay.com/v1/checkout/" ++ providerPaymentId }

def paymentSession (payment : Payment) (order : Order) (provider currency : String)
    (status : PaymentStatus) (attempt : PaymentAttempt) (intent : PaymentIntent) :
    PaymentSession where
  paymentId := payment.id
  orderId := order.id
  orderNumber := order.orderNumber
  provider := provider
  intent := intent
  status := status
  attemptNumber := attempt.attemptNumber
  amount := attempt.amount
  currency := currency

/-! ## A payment is started -/

/-- Creates a new incremented payment attempt for a payment. -/
def createNextAttempt (paymentId : PaymentId) (amount : ℚ)
    (providerPaymentId : Razorpay.ProviderId) (d : Draw) : Handler PaymentAttempt := do
  let s ← get
  let attempt : PaymentAttempt :=
    { id := d.attemptId
      paymentId := paymentId
      attemptNumber := ((s.latestAttempt paymentId).map PaymentAttempt.attemptNumber).getD 0 + 1
      providerPaymentId := some providerPaymentId
      status := .processing
      amount := amount
      failureCode := none
      failureMessage := none }
  modify fun s => s.insertAttempt attempt
  pure attempt

def newPayment (order : Order) (provider : String) (paymentMethod : Option String) (d : Draw) :
    Payment where
  id := d.paymentId
  orderId := order.id
  provider := provider
  paymentMethod := paymentMethod
  status := .pending
  currency := order.currency
  amount := order.financials.grandTotal
  paidAmount := 0

/-- A payment of the order that can still be paid, or a new one. -/
def resolvePayment (order : Order) (provider : String) (paymentMethod : Option String) (d : Draw) :
    Handler Payment := do
  let s ← get
  match Table.pickFirst (fun p => p.orderId = order.id && decide p.status.isOpen) d.pick
    s.payments with
  | some payment => pure payment
  | none => do
    modify fun s => s.insertPayment (newPayment order provider paymentMethod d)
    pure (newPayment order provider paymentMethod d)

/-- The order leaves PENDING. -/
def markPaymentPending (order : Order) (provider : String) (userId : UserId) : Handler Unit :=
  if order.status = .pending then
    modify fun s => s.setOrderStatus order.id .paymentPending
      ⟨some .pending, .paymentPending, some userId, s!"Payment initiated via {provider}"⟩
  else pure ()

/-- Initializes a payment session and gateway intent for an order. -/
def initializePayment (config : Razorpay.Config) (userId : UserId)
    (input : CreatePaymentIntentInput) (d : Draw) : Handler PaymentSession := do
  let providerName := (given (some input.provider)).getD "RAZORPAY"
  let intent := createPaymentIntent config d
  let s ← get
  match s.order input.orderId with
  | none => throw ⟨"Order not found", 404⟩
  | some order =>
    if order.userId ≠ userId then
      throw ⟨"Forbidden: You cannot initialize payment for another user's order", 403⟩
    else if order.status ≠ .pending ∧ order.status ≠ .paymentPending then
      throw ⟨s!"Cannot create payment for order in \"{order.status.name}\" status. " ++
        "Order must be PENDING or PAYMENT_PENDING", 400⟩
    else do
      let payment ← resolvePayment order providerName input.paymentMethod d
      let attempt ← createNextAttempt payment.id order.financials.grandTotal
        intent.providerPaymentId d
      markPaymentPending order providerName userId
      pure (paymentSession payment order providerName order.currency payment.status attempt intent)

/-- A payment with its order. -/
def Shop.paymentWithOrder (s : Shop) (id : PaymentId) : Option (Payment × Order) :=
  (s.payment id).bind fun payment => (s.order payment.orderId).map fun order => (payment, order)

/-- Retries a payment attempt on an existing pending/failed payment. -/
def retryPayment (config : Razorpay.Config) (userId : UserId) (paymentId : PaymentId) (d : Draw) :
    Handler PaymentSession := do
  let intent := createPaymentIntent config d
  let s ← get
  match s.paymentWithOrder paymentId with
  | none => throw ⟨"Payment record not found", 404⟩
  | some (payment, order) =>
    if order.userId ≠ userId then
      throw ⟨"Forbidden: You cannot retry payment for another user's order", 403⟩
    else if payment.status = .success ∨ payment.status = .refunded then
      throw ⟨s!"Cannot retry payment with status \"{payment.status.name}\"", 400⟩
    else do
      let attempt ← createNextAttempt payment.id payment.amount intent.providerPaymentId d
      modify fun s => s.updatePayments (fun p => p.id = payment.id) .processing none
      pure (paymentSession payment order payment.provider payment.currency .processing attempt
        intent)

/-! ## A payment is settled -/

/-- The order of a verified payment, unless it is confirmed already; the cart that it came from
is deleted. -/
def confirmPaidOrder (order : Order) (razorpayPaymentId : Razorpay.ProviderId) : Handler Unit :=
  if order.status = .confirmed then pure ()
  else do
    modify fun s => s.setOrderStatus order.id .confirmed
      ⟨some order.status, .confirmed, none,
        s!"Payment verified via Razorpay (ID: {razorpayPaymentId})"⟩
    match order.cart with
    | none => pure ()
    | some cartId => modify fun s => s.deleteCart cartId

/-- The stock after the reservations of a paid order were confirmed. -/
def Shop.stockSold (s : Shop) (orderId : OrderId) : Option Stock :=
  s.catalogue.stock.closeHolds .confirm (s.catalogue.stock.activeHolds orderId)

/-- A payment with its latest attempt. -/
def settlePayment (payment : Payment) (status : PaymentStatus) (paidAmount : Option ℚ)
    (attemptStatus : PaymentAttemptStatus) (failure : Option (String × String)) :
    Handler Unit := do
  let s ← get
  modify fun s => s.updatePayments (fun p => p.id = payment.id) status paidAmount
  modify fun t => t.updateAttempt ((s.latestAttempt payment.id).map PaymentAttempt.id)
    attemptStatus failure

/-- The transaction of a verification; it has no effect if the stock cannot be sold. -/
def verifiedPayment (payment : Payment) (razorpayPaymentId : Razorpay.ProviderId) :
    Handler Unit := do
  let s ← get
  match s.stockSold payment.orderId with
  | none => throw recordNotFound
  | some stock => do
    modify fun s => s.withStock stock
    settlePayment payment .success (some payment.amount) .success none
    match s.order payment.orderId with
    | none => pure ()
    | some order => confirmPaidOrder order razorpayPaymentId

/-- The signature over the gateway order and the gateway payment; without a secret there is no
check. -/
def signatureAccepted (config : Razorpay.Config) (input : Razorpay.VerifyInput) : Bool :=
  config.keySecret = "" ||
    input.razorpaySignature =
      config.hmac config.keySecret (input.razorpayOrderId ++ "|" ++ input.razorpayPaymentId)

/-- The payment that stands for an order; the query has no order. -/
def Shop.paymentOf (s : Shop) (orderId : OrderId) (d : Draw) : Option Payment :=
  Table.pickFirst (fun p => p.orderId = orderId) d.pick s.payments

/-- Direct synchronous payment verification for Razorpay client checkout callback. -/
def verifyPayment (config : Razorpay.Config) (input : Razorpay.VerifyInput) (d : Draw) :
    Handler PaymentResult :=
  if signatureAccepted config input = false then
    throw ⟨"Invalid payment signature verification", 400⟩
  else do
    let s ← get
    match s.paymentOf input.orderId d with
    | none => throw ⟨s!"No payment found for order {input.orderId}", 404⟩
    | some payment =>
      if payment.status = .success then
        pure ⟨true, payment.id, payment.orderId, .success, "Payment already verified"⟩
      else do
        verifiedPayment payment input.razorpayPaymentId
        pure ⟨true, payment.id, payment.orderId, .success,
          "Payment verified and order confirmed successfully"⟩

/-- Direct recording of client-side payment failure or user cancellation. -/
def recordPaymentFailure (input : RecordPaymentFailureInput) (d : Draw) :
    Handler PaymentResult := do
  let s ← get
  match s.paymentOf input.orderId d with
  | none => throw ⟨s!"No payment found for order {input.orderId}", 404⟩
  | some payment =>
    if payment.status = .success then
      pure ⟨false, payment.id, payment.orderId, .success,
        "Payment was already completed successfully"⟩
    else do
      settlePayment payment .failed none .failed
        (some ((given input.failureCode).getD "CLIENT_PAYMENT_FAILED",
          (given input.failureMessage).getD "Payment failed or cancelled on client device"))
      pure ⟨true, payment.id, payment.orderId, .failed,
        "Payment failure recorded. Order is eligible for payment retry."⟩

/-! ## Whose payment it is -/

section Isolated

variable {config : Razorpay.Config} {v userId : UserId} {orderId : OrderId}
  {paymentId : PaymentId} {s : Shop} {d : Draw} {order : Order} {payment : Payment}
  {provider : String} {paymentMethod : Option String} {A B : Prop}

/-! ### Starting -/

lemma createNextAttempt_isolated {amount : ℚ} {providerPaymentId : Razorpay.ProviderId}
    (hs : s.Sound) (hfresh : d.attemptId ∉ s.attempts.map PaymentAttempt.id)
    (hA : A → s.paymentIsOf v paymentId = false) (hB : B → s.paymentIsOf v paymentId = false) :
    Isolated v A B (createNextAttempt paymentId amount providerPaymentId d) s := by
  refine confined_get (fun hB' => by rw [Shop.latestAttempt_without (hB hB')]) ?_
  refine Confined.bind (confined_modify (hs.insertAttempt ?_)
    (fun hA' => Shop.rowsOf_insertAttempt ?_) fun hB' => Shop.without_insertAttempt ?_)
    fun _ _ _ ht => confined_pure ht _
  · exact hfresh
  · exact hA hA'
  · exact hB hB'

lemma createNextAttempt_eq_ok {amount : ℚ} {providerPaymentId : Razorpay.ProviderId}
    {attempt : PaymentAttempt} {t : Shop}
    (h : createNextAttempt paymentId amount providerPaymentId d s = .ok attempt t) :
    t = s.insertAttempt attempt := by
  obtain ⟨rfl, rfl⟩ := EStateM.Result.ok.inj h
  rfl

lemma resolvePayment_isolated (hs : s.Sound) (hd : d.Fresh s)
    (hA : A → s.orderIsOf v order.id = false) (hB : B → s.orderIsOf v order.id = false) :
    Isolated v A B (resolvePayment order provider paymentMethod d) s := by
  refine confined_get (fun hB' => ?_) ?_
  · rw [Shop.pickFirst_payments_without (hB hB') fun a ha => ?_]
    exact of_decide_eq_true (Bool.and_eq_true_iff.mp ha).1
  · split
    · exact confined_pure hs _
    · exact (confined_modify (hs.insertPayment hd.paymentId)
        (fun hA' => Shop.rowsOf_insertPayment (hA hA'))
        fun hB' => Shop.without_insertPayment (hB hB')).bind fun _ _ _ ht => confined_pure ht _

/-- The payment is one of the order, and no order or attempt is touched. -/
lemma resolvePayment_eq_ok {t : Shop}
    (h : resolvePayment order provider paymentMethod d s = .ok payment t) :
    (payment ∈ t.payments ∧ payment.orderId = order.id) ∧
      t.orders = s.orders ∧ t.attempts = s.attempts := by
  rw [resolvePayment, get_bind_apply] at h
  cases hfound : Table.pickFirst (fun p => p.orderId = order.id && decide p.status.isOpen) d.pick
      s.payments with
  | some found =>
    rw [hfound] at h
    obtain ⟨rfl, rfl⟩ := EStateM.Result.ok.inj h
    obtain ⟨hmem, hp⟩ := Table.mem_of_pickFirst hfound
    exact ⟨⟨hmem, of_decide_eq_true (Bool.and_eq_true_iff.mp hp).1⟩, rfl, rfl⟩
  | none =>
    rw [hfound] at h
    obtain ⟨rfl, rfl⟩ := EStateM.Result.ok.inj h
    exact ⟨⟨List.mem_append_right _ (List.mem_singleton_self _), rfl⟩, rfl, rfl⟩

lemma markPaymentPending_isolated (hs : s.Sound) (hA : A → s.orderIsOf v order.id = false) :
    Isolated v A B (markPaymentPending order provider userId) s := by
  unfold markPaymentPending
  split_ifs
  · exact confined_modify (hs.sameRows Shop.sameRows_setOrderStatus)
      (fun hA' => Shop.rowsOf_setOrderStatus (hA hA')) fun _ => Shop.without_setOrderStatus
  · exact confined_pure hs _

/-- A payment is started for an order of the user; this does not depend on the rows of `v` if the
order in the request is not one of them. -/
lemma initializePayment_isolated {input : CreatePaymentIntentInput} (hs : s.Sound)
    (hd : d.Fresh s) (hB : B → s.orderIsOf v input.orderId = false) :
    Isolated v (userId ≠ v) B (initializePayment config userId input d) s := by
  refine confined_get (fun hB' => by rw [Shop.order_without (hB hB')]) ?_
  cases horder : s.order input.orderId with
  | none => exact confined_throw hs _
  | some order =>
    dsimp only
    split_ifs with howner
    · exact confined_throw hs _
    · exact confined_throw hs _
    · obtain ⟨hmem, hid⟩ := Shop.mem_of_order horder
      obtain rfl : order.userId = userId := not_not.mp howner
      have hA : order.userId ≠ v → s.orderIsOf v order.id = false := fun hne =>
        hid ▸ hs.orderIsOf_eq_false_of horder hne
      have hB' : B → s.orderIsOf v order.id = false := fun hb => hid ▸ hB hb
      refine (resolvePayment_isolated hs hd hA hB').bind fun payment t hrun ht => ?_
      obtain ⟨⟨hpayment, hpaymentOrder⟩, horders, hattempts⟩ := resolvePayment_eq_ok hrun
      have hsame : t.orderIsOf v order.id = s.orderIsOf v order.id := by
        unfold Shop.orderIsOf
        rw [horders]
      have howned : t.paymentIsOf v payment.id = s.orderIsOf v order.id := by
        rw [ht.paymentIsOf_of_mem hpayment, hpaymentOrder, hsame]
      refine (createNextAttempt_isolated ht ?_ (fun hne => howned.trans (hA hne))
        fun hb => howned.trans (hB' hb)).bind fun attempt t' hrun' ht' => ?_
      · rw [hattempts]
        exact hd.attemptId
      · obtain rfl := createNextAttempt_eq_ok hrun'
        exact (markPaymentPending_isolated ht' fun hne => hsame.trans (hA hne)).bind
          fun _ _ _ ht'' => confined_pure ht'' _

/-- An order of another customer is refused. -/
lemma initializePayment_refused {input : CreatePaymentIntentInput} (hs : s.Sound)
    (hne : userId ≠ v) (hv : s.orderIsOf v input.orderId = true) :
    initializePayment config userId input d s =
      .error ⟨"Forbidden: You cannot initialize payment for another user's order", 403⟩ s := by
  obtain ⟨order, horder, huser⟩ := hs.order_of_orderIsOf hv
  have howner : order.userId ≠ userId := fun heq => hne (heq.symm.trans huser)
  dsimp only [initializePayment]
  rw [get_bind_apply, horder]
  simp only [if_pos howner]
  rfl

lemma mem_of_paymentWithOrder (h : s.paymentWithOrder paymentId = some (payment, order)) :
    (payment ∈ s.payments ∧ payment.id = paymentId) ∧ s.order payment.orderId = some order := by
  obtain ⟨found, hpayment, h⟩ := Option.bind_eq_some_iff.mp h
  obtain ⟨foundOrder, horder, heq⟩ := Option.map_eq_some_iff.mp h
  obtain ⟨rfl, rfl⟩ := Prod.mk.inj heq
  exact ⟨Shop.mem_of_payment hpayment, horder⟩

lemma paymentWithOrder_without (h : s.paymentIsOf v paymentId = false) :
    (s.without v).paymentWithOrder paymentId = s.paymentWithOrder paymentId := by
  unfold Shop.paymentWithOrder
  rw [Shop.payment_without h]
  cases hpayment : s.payment paymentId with
  | none => rfl
  | some payment =>
    obtain ⟨hmem, hid⟩ := Shop.mem_of_payment hpayment
    have horder := Shop.order_without (Shop.paymentIsOf_eq_false.mp h payment hmem hid)
    exact congrArg (Option.map fun order => (payment, order)) horder

/-- A payment of the user is tried again; this does not depend on the rows of `v` if the payment
in the request is not one of them. -/
lemma retryPayment_isolated (hs : s.Sound) (hd : d.Fresh s)
    (hB : B → s.paymentIsOf v paymentId = false) :
    Isolated v (userId ≠ v) B (retryPayment config userId paymentId d) s := by
  refine confined_get (fun hB' => by rw [paymentWithOrder_without (hB hB')]) ?_
  cases hfound : s.paymentWithOrder paymentId with
  | none => exact confined_throw hs _
  | some found =>
    obtain ⟨payment, order⟩ := found
    obtain ⟨⟨hmem, hid⟩, horder⟩ := mem_of_paymentWithOrder hfound
    dsimp only
    split_ifs with howner
    · exact confined_throw hs _
    · exact confined_throw hs _
    · obtain rfl : order.userId = userId := not_not.mp howner
      have howned : s.paymentIsOf v payment.id = s.orderIsOf v payment.orderId :=
        hs.paymentIsOf_of_mem hmem
      have hA : order.userId ≠ v → s.orderIsOf v payment.orderId = false :=
        hs.orderIsOf_eq_false_of horder
      have hB' : B → s.paymentIsOf v payment.id = false := fun hb => hid ▸ hB hb
      refine (createNextAttempt_isolated hs hd.attemptId (fun hne => howned.trans (hA hne))
        hB').bind fun attempt t hrun ht => ?_
      obtain rfl := createNextAttempt_eq_ok hrun
      exact (updatePayment_isolated ht hmem hA).bind fun _ _ _ ht' => confined_pure ht' _

/-- A payment of another customer is refused. -/
lemma retryPayment_refused (hs : s.Sound) (hne : userId ≠ v)
    (hv : s.paymentIsOf v paymentId = true) :
    retryPayment config userId paymentId d s =
      .error ⟨"Forbidden: You cannot retry payment for another user's order", 403⟩ s := by
  obtain ⟨payment, order, hfound, huser⟩ : ∃ payment order,
      s.paymentWithOrder paymentId = some (payment, order) ∧ order.userId = v := by
    obtain ⟨payment, hpayment, horder⟩ := hs.payment_of_paymentIsOf hv
    obtain ⟨order, horder, huser⟩ := hs.order_of_orderIsOf horder
    refine ⟨payment, order, ?_, huser⟩
    rw [Shop.paymentWithOrder, hpayment]
    exact congrArg (Option.map fun order => (payment, order)) horder
  have howner : order.userId ≠ userId := fun heq => hne (heq.symm.trans huser)
  dsimp only [retryPayment]
  rw [get_bind_apply, hfound]
  simp only [if_pos howner]
  rfl

/-! ### Settling -/

/-- The latest attempt of a payment that is not one of `v` is not one of `v` either. -/
lemma latestAttempt_owner (hs : s.Sound) (hmem : payment ∈ s.payments)
    (h : s.orderIsOf v payment.orderId = false) :
    ∀ a ∈ s.attempts, some a.id = (s.latestAttempt payment.id).map PaymentAttempt.id →
      s.paymentIsOf v a.paymentId = false := by
  intro a ha hid
  obtain ⟨latest, hlatest, hid⟩ := Option.map_eq_some_iff.mp hid.symm
  obtain ⟨hmem', hpayment⟩ := Shop.mem_of_latestAttempt hlatest
  obtain rfl := List.inj_on_of_nodup_map hs.attempts_nodup ha hmem' hid.symm
  rw [hpayment, hs.paymentIsOf_of_mem hmem]
  exact h

lemma settlePayment_isolated {status : PaymentStatus} {paidAmount : Option ℚ}
    {attemptStatus : PaymentAttemptStatus} {failure : Option (String × String)} (hs : s.Sound)
    (hmem : payment ∈ s.payments) (hA : A → s.orderIsOf v payment.orderId = false)
    (hB : B → s.orderIsOf v payment.orderId = false) :
    Isolated v A B (settlePayment payment status paidAmount attemptStatus failure) s := by
  refine confined_get (fun hB' => ?_) ?_
  · have howned := (hs.paymentIsOf_of_mem hmem).trans (hB hB')
    rw [Shop.latestAttempt_without howned]
  · refine (updatePayment_isolated hs hmem hA).bind fun _ t hrun ht => ?_
    obtain ⟨-, rfl⟩ := EStateM.Result.ok.inj hrun
    have hpayments : (s.updatePayments (fun p => p.id = payment.id) status
        paidAmount).paymentIsOf v = s.paymentIsOf v :=
      Shop.paymentIsOf_sameRows Shop.sameRows_updatePayments
    refine confined_modify (ht.sameRows Shop.sameRows_updateAttempt)
      (fun hA' => Shop.rowsOf_updateAttempt fun a ha hid => ?_)
      fun _ => Shop.without_updateAttempt
    rw [hpayments]
    exact latestAttempt_owner hs hmem (hA hA') a ha hid

lemma settlePayment_eq_ok {status : PaymentStatus} {paidAmount : Option ℚ}
    {attemptStatus : PaymentAttemptStatus} {failure : Option (String × String)} {t : Shop}
    (h : settlePayment payment status paidAmount attemptStatus failure s = .ok () t) :
    SameRows s t ∧ t.orders = s.orders := by
  obtain ⟨-, rfl⟩ := EStateM.Result.ok.inj h
  exact ⟨Shop.sameRows_updatePayments.trans Shop.sameRows_updateAttempt, rfl⟩

lemma confirmPaidOrder_isolated {razorpayPaymentId : Razorpay.ProviderId} (hs : s.Sound)
    (hmem : order ∈ s.orders) (hA : A → s.orderIsOf v order.id = false) :
    Isolated v A B (confirmPaidOrder order razorpayPaymentId) s := by
  unfold confirmPaidOrder
  split_ifs
  · exact confined_pure hs _
  · refine Confined.bind (confined_modify (hs.sameRows Shop.sameRows_setOrderStatus)
      (fun hA' => Shop.rowsOf_setOrderStatus (hA hA')) fun _ => Shop.without_setOrderStatus)
      fun _ t hrun ht => ?_
    obtain ⟨-, rfl⟩ := EStateM.Result.ok.inj hrun
    cases hcart : order.cart with
    | none => exact confined_pure ht _
    | some cartId =>
      obtain ⟨cart, hcartMem, hid, huser⟩ := hs.order_cart order hmem cartId hcart
      have hmine : s.CartIsOf order.userId cartId := hid ▸ hs.cartIsOf hcartMem huser
      have hne : A → order.userId ≠ v := fun hA' =>
        Shop.orderIsOf_eq_false.mp (hA hA') order hmem rfl
      refine confined_modify ht.deleteCart (fun hA' => ?_) fun _ => Shop.without_deleteCart
      refine Shop.rowsOf_deleteCart (hmine.ne (hne hA')) fun o ho ho' => ?_
      -- the orders that refer to the cart are of its customer
      obtain ⟨other, hotherMem, hotherId, hotherUser⟩ := ht.order_cart o ho cartId ho'
      have hsame := Option.some.inj (hotherUser.symm.trans (hmine other hotherMem hotherId))
      exact hsame ▸ hne hA'

lemma verifiedPayment_isolated {razorpayPaymentId : Razorpay.ProviderId} (hs : s.Sound)
    (hmem : payment ∈ s.payments) (hA : A → s.orderIsOf v payment.orderId = false)
    (hB : B → s.orderIsOf v payment.orderId = false) :
    Isolated v A B (verifiedPayment payment razorpayPaymentId) s := by
  refine confined_get (fun hB' => ?_) ?_
  · rw [Shop.order_without (hB hB')]
    rfl
  · cases s.stockSold payment.orderId with
    | none => exact confined_throw hs _
    | some stock =>
      refine Confined.bind (confined_modify (hs.sameRows Shop.sameRows_withStock) ?_ ?_)
        fun _ t hrun ht => ?_
      · exact fun _ => rfl
      · exact fun _ => rfl
      · obtain ⟨-, rfl⟩ := EStateM.Result.ok.inj hrun
        refine (settlePayment_isolated ht hmem hA hB).bind fun _ t hrun' ht' => ?_
        obtain ⟨hrows, horders⟩ := settlePayment_eq_ok hrun'
        cases horder : s.order payment.orderId with
        | none => exact confined_pure ht' _
        | some order =>
          obtain ⟨horderMem, hid⟩ := Shop.mem_of_order horder
          refine confirmPaidOrder_isolated ht' ?_ fun hA' => ?_
          · rw [horders]
            exact horderMem
          · rw [Shop.orderIsOf_sameRows hrows, hid]
            exact hA hA'

lemma paymentOf_without (h : s.orderIsOf v orderId = false) :
    (s.without v).paymentOf orderId d = s.paymentOf orderId d :=
  Shop.pickFirst_payments_without h fun _ hp => of_decide_eq_true hp

lemma mem_of_paymentOf (h : s.paymentOf orderId d = some payment) :
    payment ∈ s.payments ∧ payment.orderId = orderId := by
  obtain ⟨hmem, hp⟩ := Table.mem_of_pickFirst h
  exact ⟨hmem, of_decide_eq_true hp⟩

/-- The order in a request has a payment that is not paid, and belongs to `v`. -/
def Shop.OwesFor (s : Shop) (v : UserId) (orderId : OrderId) (d : Draw) : Prop :=
  s.orderIsOf v orderId = true ∧ ∃ payment ∈ s.paymentOf orderId d, payment.status ≠ .success

lemma orderIsOf_of_not_owesFor (h : ¬s.OwesFor v orderId d)
    (hpayment : s.paymentOf orderId d = some payment) (hstatus : payment.status ≠ .success) :
    s.orderIsOf v payment.orderId = false := by
  obtain ⟨-, rfl⟩ := mem_of_paymentOf hpayment
  refine Bool.eq_false_iff.mpr fun hv => h ⟨hv, payment, hpayment, hstatus⟩

/-- A verification whose signature is accepted settles the order in the request. -/
lemma verifyPayment_isolated {input : Razorpay.VerifyInput} (hs : s.Sound)
    (hA : A → signatureAccepted config input = true → ¬s.OwesFor v input.orderId d)
    (hB : B → signatureAccepted config input = true → s.orderIsOf v input.orderId = false) :
    Isolated v A B (verifyPayment config input d) s := by
  unfold verifyPayment
  split_ifs with hsignature
  · exact confined_throw hs _
  · have haccepted : signatureAccepted config input = true := by simpa using hsignature
    refine confined_get (fun hB' => by rw [paymentOf_without (hB hB' haccepted)]) ?_
    cases hpayment : s.paymentOf input.orderId d with
    | none => exact confined_throw hs _
    | some payment =>
      obtain ⟨hmem, hid⟩ := mem_of_paymentOf hpayment
      dsimp only
      split_ifs with hstatus
      · exact confined_pure hs _
      · refine (verifiedPayment_isolated hs hmem (fun hA' => ?_)
          fun hB' => hid ▸ hB hB' haccepted).bind fun _ _ _ ht => confined_pure ht _
        exact orderIsOf_of_not_owesFor (hA hA' haccepted) hpayment hstatus

/-- A reported failure settles the order in the request. -/
lemma recordPaymentFailure_isolated {input : RecordPaymentFailureInput} (hs : s.Sound)
    (hA : A → ¬s.OwesFor v input.orderId d) (hB : B → s.orderIsOf v input.orderId = false) :
    Isolated v A B (recordPaymentFailure input d) s := by
  refine confined_get (fun hB' => by rw [paymentOf_without (hB hB')]) ?_
  cases hpayment : s.paymentOf input.orderId d with
  | none => exact confined_throw hs _
  | some payment =>
    obtain ⟨hmem, hid⟩ := mem_of_paymentOf hpayment
    dsimp only
    split_ifs with hstatus
    · exact confined_pure hs _
    · refine (settlePayment_isolated hs hmem (fun hA' => ?_)
        fun hB' => hid ▸ hB hB').bind fun _ _ _ ht => confined_pure ht _
      exact orderIsOf_of_not_owesFor (hA hA') hpayment hstatus

end Isolated

end MeeoServer.Customers
