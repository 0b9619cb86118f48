/-
# Which refunds are real

A refund is real if the gateway has accepted a request for its amount, against the payment that
it had captured.  The provider only asks the gateway about identifiers of captured payments,
which begin with `pay_`; but what a refund hands to the provider is the identifier that the
attempt has stored, and this is the one of a gateway order.  So no request is ever sent, and the
provider makes a refund up: every refund that is written is not real.
-/
import MeeoServer.Payments.Provider

namespace MeeoServer.Razorpay

open Proc

/-! ## The property and the condition -/

/-- The gateway has captured the payment `id` for the payment: a verification has recorded
it. -/
def Books.Captured (s : Books) (paymentId : PaymentId) (id : ProviderId) : Prop :=
  ∃ t ∈ s.transactions, t.paymentId = paymentId ∧ t.type = .charge ∧ t.status = .success ∧
    t.providerTransactionId = id

/-- The gateway has accepted a request for the amount, against the captured payment. -/
def Books.Accepted (s : Books) (paymentId : PaymentId) (amount : Paise) : Prop :=
  ∃ q ∈ s.refundRequests, q.accepted = true ∧ q.amount = amount ∧
    s.Captured paymentId q.providerPaymentId

/-- Every refund, and every refund of the ledger, was accepted by the gateway. -/
structure RefundsReal (s : Books) : Prop where
  refunds : ∀ r ∈ s.refunds, r.status = .success → s.Accepted r.paymentId r.amount
  ledger : ∀ t ∈ s.transactions, t.type = .refund → t.status = .success →
    s.Accepted t.paymentId t.amount

/-- The gateway names its orders `order_…`, and a verification names a captured payment
`pay_…`. -/
def Honest : Call → Prop
  | .initializePayment _ _ reply _ _ => ∀ id ∈ reply.id?, startsWith id "order_" = true
  | .verifyPayment input _ => startsWith input.razorpayPaymentId "pay_" = true
  | .processRefund .. => True

instance : DecidablePred Honest := fun x => by
  unfold Honest
  split <;> infer_instance

/-- Every refund is refused by the checks that are made before the gateway is asked. -/
def Refused (_ : Books) : Commit → Prop
  | .processRefund input payment _ _ => (refundAmount payment input.amount).toOption = none
  | _ => True

instance (s : Books) (c : Commit) : Decidable (Refused s c) := by
  unfold Refused
  split <;> infer_instance

/-! ## What the services commit -/

section Emits

variable {config : Config} {I G : Books → Books → Prop} {s₀ : Books} {x : Call}

/-- An attempt stores what the provider returned for a gateway order; a refund request names a
captured payment by an identifier that an attempt has stored, or by that of a row; and a refund
has passed the checks. -/
def Emitted (config : Config) (x : Call) (s : Books) : Commit → Prop
  | .createAttempt attempt => ∃ userId input reply randomId pick,
    x = .initializePayment userId input reply randomId pick ∧
      attempt.providerPaymentId = createPaymentIntent config reply randomId
  | .requestRefund request => startsWith request.providerPaymentId "pay_" = true ∧
    ((∃ id, request.providerPaymentId = config.uuid id) ∨
      ∃ attempt ∈ s.attempts, attempt.providerPaymentId = request.providerPaymentId)
  | .processRefund input payment amount _ => refundAmount payment input.amount = .ok amount
  | .createPayment .. | .markPaymentPending _ | .verifyPayment .. => True

lemma initializePayment_emits (userId : Option UserId) (input : CreatePaymentIntentInput)
    (reply : Reply) (randomId : String) (pick : ℕ) :
    (initializePayment config userId input reply randomId pick).Emits Commit.apply I G
      (Emitted config (.initializePayment userId input reply randomId pick)) Any s₀ := by
  have hattempt : ∀ (paymentId : PaymentId) (amount : Paise) (s : Books),
      (createNextAttempt paymentId amount (createPaymentIntent config reply randomId)).Emits
        Commit.apply I G (Emitted config (.initializePayment userId input reply randomId pick))
        Any s :=
    fun _ _ _ => emits_read fun _ _ =>
      emits_commit (fun _ _ => ⟨_, _, _, _, _, rfl, rfl⟩) fun _ _ _ _ _ => emits_pure
  have hmark : ∀ (order : Order) (s : Books),
      (markPaymentPending input.orderId order).Emits Commit.apply I G
        (Emitted config (.initializePayment userId input reply randomId pick)) Any s := by
    intro order s
    unfold markPaymentPending
    split
    · exact emits_commit (fun _ _ => trivial) fun _ _ _ _ _ => emits_pure
    · exact emits_pure
  refine emits_read fun s _ => ?_
  split
  · exact emits_throw
  rename_i order _
  split
  · exact emits_throw
  split
  · exact emits_throw
  refine emits_read fun s' _ => ?_
  split
  · exact (hattempt _ _ _).andThen fun _ _ => hmark _ _
  · exact emits_commit (fun _ _ => trivial) fun _ _ _ _ _ =>
      (hattempt _ _ _).andThen fun _ _ => hmark _ _

lemma verifyPayment_emits (input : VerifyInput) (pick : ℕ) :
    (verifyPayment config input pick).Emits Commit.apply I G (Emitted config x) Any s₀ := by
  unfold verifyPayment
  split
  · exact emits_throw
  refine emits_read fun s _ => ?_
  split
  · exact emits_throw
  split
  · exact emits_pure
  · exact emits_commit (fun _ _ => trivial) fun _ _ _ _ _ => emits_pure

/-- What a refund hands to the provider is stored in an attempt, or is the text of a row. -/
lemma refundedPaymentId_cases (config : Config) (s : Books) (paymentId : PaymentId) (pick : ℕ) :
    refundedPaymentId config s paymentId pick = config.uuid paymentId ∨
      ∃ attempt ∈ s.attempts,
        attempt.providerPaymentId = refundedPaymentId config s paymentId pick := by
  unfold refundedPaymentId
  split
  · rename_i attempt hattempt
    obtain ⟨hrow, -⟩ := Table.findFirst_eq_some hattempt
    split
    · exact Or.inl rfl
    · exact Or.inr ⟨attempt.val, List.mem_of_getElem? hrow, rfl⟩
  · exact Or.inl rfl

/-- A later store has the identifiers that were stored before. -/
def KeepsIds (s s' : Books) : Prop :=
  Table.Keeps Attempt.providerPaymentId s.attempts s'.attempts

lemma processRefund_emits (input : CreateRefundInput) (outcome : RefundOutcome)
    (randomId : String) (pick : ℕ) :
    (processRefund config input outcome randomId pick).Emits Commit.apply KeepsIds G
      (Emitted config x) Any s₀ := by
  refine emits_read fun s _ => ?_
  split
  · exact emits_throw
  rename_i payment _
  split
  · exact emits_throw
  rename_i amount hamount
  refine Emits.andThen ?_ fun providerRefundId _ =>
    emits_commit (fun _ _ => hamount) fun _ _ _ _ _ => emits_pure
  unfold createRefund
  dsimp only
  split
  · rename_i hlive
    have hpay := (Bool.and_eq_true_iff.mp hlive).2
    refine Emits.orElse (emits_commit (fun t ht => ?_) fun _ _ _ _ _ => emits_pure)
      fun _ _ => emits_pure
    refine ⟨hpay, ?_⟩
    rcases refundedPaymentId_cases config s input.paymentId pick with huuid | ⟨a, ha, hid⟩
    · exact Or.inl ⟨_, huuid⟩
    · -- the attempt is still there when the request is sent
      obtain ⟨a', ha', hid'⟩ := Table.Keeps.mem ht ha
      exact Or.inr ⟨a', ha', hid'.trans hid⟩
  · exact emits_pure

lemma KeepsIds.of_apply {c : Commit} {s s' : Books} (h : c.apply s = some s') : KeepsIds s s' := by
  cases c with
  | createAttempt attempt =>
    obtain rfl := Option.some.inj h
    exact Table.Keeps.append _ _ _
  | verifyPayment input payment latestAttempt orderStatus =>
    have hattempts : Table.Keeps Attempt.providerPaymentId s.attempts
        (succeedAttempt s.attempts latestAttempt) := by
      cases latestAttempt with
      | some id => exact Table.Keeps.modify _ _ fun _ => rfl
      | none => exact Table.Keeps.refl _ _
    obtain rfl := Option.some.inj h
    split <;> exact hattempts
  | processRefund input payment amount providerRefundId =>
    obtain rfl := Option.some.inj h
    split <;> exact Table.Keeps.refl _ _
  | createPayment orderId provider amount | markPaymentPending orderId | requestRefund request =>
    obtain rfl := Option.some.inj h
    exact Table.Keeps.refl _ _

lemma gateway_rely (config : Config) (Cond : Books → Commit → Prop) :
    Rely (gatewayServer config) Honest Cond KeepsIds (Emitted config) where
  refl _ := Table.Keeps.refl _ _
  trans h h' := Table.Keeps.trans h h'
  env e := e.elim
  commit _ _ _ happ := KeepsIds.of_apply happ
  emits x s _ := by
    cases x with
    | initializePayment userId input reply randomId pick =>
      exact initializePayment_emits userId input reply randomId pick
    | verifyPayment input pick => exact verifyPayment_emits input pick
    | processRefund input outcome randomId pick =>
      exact processRefund_emits input outcome randomId pick

end Emits

/-! ## No request reaches the gateway -/

section Unsent

variable {config : Config} {s s' : Books} {c : Commit}

/-- An identifier of a gateway order is none of a captured payment. -/
lemma not_pay_of_order {id : ProviderId} (h : startsWith id "order_" = true) :
    startsWith id "pay_" = false := by
  unfold startsWith at h ⊢
  cases hid : id.toList with
  | nil => rfl
  | cons c rest =>
    rw [hid] at h
    have hc : ('o' == c) = true := (Bool.and_eq_true_iff.mp h).1
    obtain rfl : 'o' = c := by simpa using hc
    rfl

/-- The provider returns the identifier of a gateway order. -/
lemma createPaymentIntent_order {reply : Reply}
    (h : ∀ id ∈ reply.id?, startsWith id "order_" = true) (randomId : String) :
    startsWith (createPaymentIntent config reply randomId) "order_" = true := by
  unfold createPaymentIntent
  split
  · cases hid : reply.id? with
    | some id => exact h id hid
    | none => exact startsWith_append _ _
  · exact startsWith_append _ _

/-- The attempts store gateway orders, the gateway has been asked for no refund, and the ledger
knows no refund that has no row. -/
structure Unsent (s : Books) : Prop where
  attempts : ∀ a ∈ s.attempts, startsWith a.providerPaymentId "order_" = true
  requests : s.refundRequests = []
  ledger : s.refunds = [] → ∀ t ∈ s.transactions, t.type ≠ .refund

/-- A step leaves what `Unsent` speaks of alone, up to the statuses of the attempts and the
charges of the ledger. -/
lemma Unsent.congr (h : Unsent s)
    (hattempts : ∀ a ∈ s'.attempts, ∃ a' ∈ s.attempts, a'.providerPaymentId = a.providerPaymentId)
    (hrequests : s'.refundRequests = s.refundRequests) (hrefunds : s'.refunds = s.refunds)
    (hledger : ∀ t ∈ s'.transactions, t ∈ s.transactions ∨ t.type = .charge) : Unsent s' where
  attempts a ha := by
    obtain ⟨a', ha', hid⟩ := hattempts a ha
    rw [← hid]
    exact h.attempts a' ha'
  requests := hrequests.trans h.requests
  ledger hnone t ht := by
    rcases hledger t ht with hold | hcharge
    · exact h.ledger (hrefunds ▸ hnone) t hold
    · rw [hcharge]
      decide

lemma Unsent.of_apply {x : Call} (h : Unsent s) (hx : Honest x) (hemitted : Emitted config x s c)
    (happ : c.apply s = some s') : Unsent s' := by
  cases c with
  | createAttempt attempt =>
    obtain rfl := Option.some.inj happ
    obtain ⟨_, _, _, _, _, rfl, hid⟩ := hemitted
    refine ⟨fun a ha => ?_, h.requests, h.ledger⟩
    rcases List.mem_append.mp ha with ha | ha
    · exact h.attempts a ha
    · obtain rfl := List.mem_singleton.mp ha
      rw [hid]
      exact createPaymentIntent_order hx _
  | requestRefund request =>
    -- neither an attempt nor a row has an identifier that is asked about
    obtain ⟨hpay, ⟨id, huuid⟩ | ⟨a, ha, hid⟩⟩ := hemitted
    · rw [huuid, config.uuid_start] at hpay
      cases hpay
    · rw [← hid, not_pay_of_order (h.attempts a ha)] at hpay
      cases hpay
  | verifyPayment input payment latestAttempt orderStatus =>
    have hattempts : ∀ a ∈ succeedAttempt s.attempts latestAttempt,
        ∃ a' ∈ s.attempts, a'.providerPaymentId = a.providerPaymentId := by
      cases latestAttempt with
      | none => exact fun a ha => ⟨a, ha, rfl⟩
      | some id =>
        exact Table.forall_mem_modify (fun a ha => ⟨a, ha, rfl⟩) fun a ha => ⟨a, ha, rfl⟩
    have hledger : ∀ t ∈ s.transactions ++ [(⟨payment.id, .charge, .success, payment.val.amount,
        input.razorpayPaymentId⟩ : Transaction)], t ∈ s.transactions ∨ t.type = .charge := by
      intro t ht
      rcases List.mem_append.mp ht with ht | ht
      · exact Or.inl ht
      · obtain rfl := List.mem_singleton.mp ht
        exact Or.inr rfl
    obtain rfl := Option.some.inj happ
    split <;> exact h.congr hattempts rfl rfl hledger
  | processRefund input payment amount providerRefundId =>
    obtain rfl := Option.some.inj happ
    split <;> exact ⟨h.attempts, h.requests, fun hnone => by simp [Books.setOrderStatus] at hnone⟩
  | createPayment orderId provider amount | markPaymentPending orderId =>
    obtain rfl := Option.some.inj happ
    exact ⟨h.attempts, h.requests, h.ledger⟩

/-- Nothing has been refunded. -/
def NoRefunds (s : Books) : Prop := s.refunds = []

/-- Without an accepted request a refund is not real. -/
lemma Unsent.refundsReal_iff (h : Unsent s) (hstatus : ∀ r ∈ s.refunds, r.status = .success) :
    RefundsReal s ↔ s.refunds = [] := by
  have hnone : ∀ paymentId amount, ¬ s.Accepted paymentId amount := by
    rintro paymentId amount ⟨q, hq, -⟩
    rw [h.requests] at hq
    cases hq
  constructor
  · intro hreal
    rw [List.eq_nil_iff_forall_not_mem]
    exact fun r hr => hnone _ _ (hreal.refunds r hr (hstatus r hr))
  · intro hempty
    refine ⟨fun r hr => ?_, fun t ht htype => absurd htype (h.ledger hempty t ht)⟩
    rw [hempty] at hr
    cases hr

/-- A refund is written as a success. -/
lemma status_of_apply (h : ∀ r ∈ s.refunds, r.status = .success) (happ : c.apply s = some s') :
    ∀ r ∈ s'.refunds, r.status = .success := by
  cases c with
  | processRefund input payment amount providerRefundId =>
    have hrefunds : ∀ r ∈ s.refunds ++ [(⟨input.paymentId, amount, .success,
        providerRefundId⟩ : Refund)], r.status = .success := by
      intro r hr
      rcases List.mem_append.mp hr with hr | hr
      · exact h r hr
      · obtain rfl := List.mem_singleton.mp hr
        rfl
    obtain rfl := Option.some.inj happ
    split <;> exact hrefunds
  | verifyPayment input payment latestAttempt orderStatus =>
    obtain rfl := Option.some.inj happ
    split <;> exact h
  | createAttempt attempt | createPayment orderId provider amount | markPaymentPending orderId
  | requestRefund request =>
    obtain rfl := Option.some.inj happ
    exact h

/-- Only a refund writes a refund. -/
lemma NoRefunds.of_refused (h : NoRefunds s) (hemitted : ∃ x, Emitted config x s c)
    (hrefused : Refused s c) (happ : c.apply s = some s') : NoRefunds s' := by
  obtain ⟨x, hemitted⟩ := hemitted
  cases c with
  | processRefund input payment amount providerRefundId =>
    -- what has passed the checks was not refused by them
    have hok : refundAmount payment input.amount = .ok amount := hemitted
    simp [Refused, hok, Except.toOption] at hrefused
  | verifyPayment input payment latestAttempt orderStatus =>
    obtain rfl := Option.some.inj happ
    split <;> exact h
  | createAttempt attempt | createPayment orderId provider amount | markPaymentPending orderId
  | requestRefund request =>
    obtain rfl := Option.some.inj happ
    exact h

end Unsent

/-- A gateway with credentials, outside test mode. -/
def Config.sample : Config where
  keyId := "key"
  keySecret := "secret"
  test := false
  hmac secret text := secret ++ text
  uuid _ := "00000000"
  uuid_start _ := by decide

/-- One order, nothing paid yet. -/
def Books.oneOrder : Books := ⟨[⟨some 7, .pending, 5000⟩], [], [], [], [], []⟩

lemma Books.oneOrder_unsent : Unsent oneOrder where
  attempts := by simp [oneOrder]
  requests := rfl
  ledger _ := by simp [oneOrder]

/-- The order is paid: the gateway creates `order_1` and captures `pay_1` for it. -/
def paidOrder : List (Event Call Empty) :=
  [.call (.initializePayment (some 7) ⟨0, .razorpay⟩ (.responded true (some "order_1")) "" 0),
    .step 0 .ok, .step 0 .ok, .step 0 .ok, .step 0 .ok, .step 0 .ok, .step 0 .ok,
    .call (.verifyPayment ⟨0, "order_1", "pay_1", "secretorder_1|pay_1"⟩ 0),
    .step 1 .ok, .step 1 .ok]

end MeeoServer.Razorpay
