/-
# The status of an order

`orders/services/orderStatus.service.ts` and `orders/services/orderFulfillment.service.ts`,
with `releaseOrderReservations` of `orders/services/orderInventory.service.ts`, which is the
part of `updateOrderStatus` that lists the active reservations of the order.
-/
import MeeoServer.Inventory.Services

namespace MeeoServer

open Proc

variable {I G : Database → Database → Prop} {s₀ : Database}

/-! ## Status transitions -/

/-- Validates whether a requested status transition is allowed by the state machine. -/
def validateStatusTransition (previousStatus newStatus : OrderStatus) : Except AppError Unit :=
  if previousStatus = newStatus then
    .ok ()
  else
    let allowed := ALLOWED_ORDER_TRANSITIONS previousStatus
    if newStatus ∈ allowed then
      .ok ()
    else
      let allowedDesc := if allowed.isEmpty then "None (terminal state)"
        else ", ".intercalate (allowed.map OrderStatus.name)
      .error ⟨s!"Invalid order status transition from \"{previousStatus.name}\" to " ++
        s!"\"{newStatus.name}\". Allowed transitions from \"{previousStatus.name}\": " ++
        s!"[{allowedDesc}]", 400⟩

lemma validateStatusTransition_eq_ok {previousStatus newStatus : OrderStatus} :
    validateStatusTransition previousStatus newStatus = .ok () ↔
      previousStatus = newStatus ∨ newStatus ∈ ALLOWED_ORDER_TRANSITIONS previousStatus := by
  unfold validateStatusTransition
  by_cases heq : previousStatus = newStatus
  · simp [heq]
  · by_cases hmem : newStatus ∈ ALLOWED_ORDER_TRANSITIONS previousStatus
    · simp [hmem]
    · simp [heq, hmem]

/-- The pending cash-on-delivery payment of an order; the query has no order. -/
def pendingCodPayment (l : PaymentLedger) (orderId : OrderId) (pick : ℕ) :
    Option (Row Payment) :=
  Table.findFirst (fun p => p.orderId = orderId ∧ p.provider = .cod ∧ p.status = .pending) pick
    l.payments

/-- Updates an order status with state machine validation, audit record logging and inventory
release.  The status is read before the transaction; `pick` resolves the query for the
payment. -/
def updateOrderStatus (orderId : OrderId) (newStatus : OrderStatus) (pick : ℕ) :
    Service Unit := do
  let db ← Proc.read
  match db.book.statusOf orderId with
  | none => throw ⟨"Order not found", 404⟩
  | some previousStatus =>
    if previousStatus = newStatus then
      -- nothing to do: the order is returned as it is
      let _ ← Proc.read
      pure ()
    else
      match validateStatusTransition previousStatus newStatus with
      | .error error => throw error
      | .ok () =>
        -- the query of the callback: the payment for a delivery, the holds for an end
        let tx ← Proc.read
        let codPayment :=
          if newStatus = .delivered then pendingCodPayment tx.ledger orderId pick else none
        let holds := if newStatus.dead then tx.stock.activeHolds orderId else []
        let _ ← Proc.commit
          (.updateOrderStatus orderId previousStatus newStatus codPayment holds)
        let _ ← Proc.read
        pure ()

/-- Cancels an order on customer or admin request and releases stock reservations. -/
def cancelOrder (orderId : OrderId) (userId : Option UserId) (isAdmin : Bool) (pick : ℕ) :
    Service Unit := do
  let db ← Proc.read
  match db.book.orders[orderId]? with
  | none => throw ⟨"Order not found", 404⟩
  | some order =>
    if isAdmin = false ∧ ∃ user ∈ userId, order.userId ≠ user then
      throw ⟨"You are not authorized to cancel this order", 403⟩
    else if isAdmin = false ∧
        order.status ≠ .pending ∧ order.status ≠ .paymentPending ∧ order.status ≠ .confirmed then
      throw ⟨s!"Cannot cancel order in \"{order.status.name}\" status. " ++
        "Please contact customer support.", 400⟩
    else
      updateOrderStatus orderId .cancelled pick

/-! ## Fulfilment -/

/-- Confirms an order and converts stock holds to committed sales: two transactions. -/
def confirmOrder (orderId : OrderId) (pick : ℕ) : Service Unit := do
  let db ← Proc.read
  match db.book.statusOf orderId with
  | none => throw ⟨"Order not found", 404⟩
  | some status =>
    if status ≠ .pending ∧ status ≠ .paymentPending then
      throw ⟨s!"Cannot confirm order in \"{status.name}\" status. " ++
        "Order must be PENDING or PAYMENT_PENDING.", 400⟩
    else
      -- the first transaction; if there is nothing left to convert, the second one runs all the same
      let tx ← Proc.read
      let _ ← Proc.commit (.confirmHolds orderId (tx.stock.activeHolds orderId))
      updateOrderStatus orderId .confirmed pick

/-- Transitions a confirmed order to PROCESSING (warehouse picking and packaging). -/
def processOrder (orderId : OrderId) (pick : ℕ) : Service Unit :=
  updateOrderStatus orderId .processing pick

/-- Transitions an order to SHIPPED. -/
def shipOrder (orderId : OrderId) (pick : ℕ) : Service Unit :=
  updateOrderStatus orderId .shipped pick

/-- Transitions an order to DELIVERED upon final courier delivery confirmation. -/
def deliverOrder (orderId : OrderId) (pick : ℕ) : Service Unit :=
  updateOrderStatus orderId .delivered pick

/-- The unconfirmed orders that were placed before the cutoff. -/
def staleOrders (b : OrderBook) (olderThanMinutes : ℕ) (now : Millis) : List (Row Order) :=
  Table.findMany (fun o => (o.status = .pending ∨ o.status = .paymentPending) ∧
    o.createdAt + minutes olderThanMinutes ≤ now) b.orders

/-- The loop of `expireStaleOrders`: an error is ignored and the next order is tried. -/
def expireEachOrder (pick : ℕ) : List (Row Order) → Service Unit
  | [] => pure ()
  | order :: rest => do
    Proc.tryCatch (updateOrderStatus order.id .expired pick) fun _ => pure ()
    expireEachOrder pick rest

/-- Sweeps and expires stale unconfirmed orders and releases their stock holds. -/
def expireStaleOrders (olderThanMinutes pick : ℕ) : Service Unit := do
  let db ← Proc.read
  expireEachOrder pick (staleOrders db.book olderThanMinutes db.clock)

/-! ## What a status change commits -/

/-- What a status change has read: the status it starts from, from which the new one is
allowed, the payment it settles, and the holds it releases. -/
structure Transition (I : Database → Database → Prop) (s : Database) (orderId : OrderId)
    (previousStatus newStatus : OrderStatus) (codPayment : Option (Row Payment))
    (holds : List Hold) : Prop where
  status : Seen I s fun s₀ => s₀.book.statusOf orderId = some previousStatus
  allowed : newStatus ∈ ALLOWED_ORDER_TRANSITIONS previousStatus
  cod : ∀ p ∈ codPayment, newStatus = .delivered ∧ Seen I s fun s₀ =>
    s₀.ledger.payments[p.id]? = some p.val ∧ p.val.orderId = orderId ∧
      p.val.provider = .cod ∧ p.val.status = .pending
  holds : newStatus.dead → ReadHolds I s orderId holds

/-- The batch of a status change of an order. -/
def TransitionBatch (I : Database → Database → Prop) (orderId : OrderId)
    (newStatus : OrderStatus) (s : Database) (c : Commit) : Prop :=
  ∃ previousStatus codPayment holds,
    c = .updateOrderStatus orderId previousStatus newStatus codPayment holds ∧
      Transition I s orderId previousStatus newStatus codPayment holds

/-- The first batch of `confirmOrder`. -/
def ConfirmBatch (I : Database → Database → Prop) (orderId : OrderId) (s : Database)
    (c : Commit) : Prop :=
  ∃ holds, c = .confirmHolds orderId holds ∧ ReadHolds I s orderId holds

section Emits

variable {orderId : OrderId} {newStatus : OrderStatus} {pick : ℕ}

lemma updateOrderStatus_emits {Spec : Database → Commit → Prop}
    (htrans : ∀ {s t u}, I s t → I t u → I s u)
    (hSpec : ∀ s c, TransitionBatch I orderId newStatus s c → Spec s c) :
    (updateOrderStatus orderId newStatus pick).Emits Commit.apply I G Spec Any s₀ := by
  refine emits_read fun s _ => ?_
  split
  · exact emits_throw
  · rename_i previousStatus hstatus
    split
    · exact emits_read fun _ _ => emits_pure
    · rename_i hne
      split
      · exact emits_throw
      · rename_i hvalid
        have hallowed : newStatus ∈ ALLOWED_ORDER_TRANSITIONS previousStatus :=
          (validateStatusTransition_eq_ok.mp hvalid).resolve_left hne
        refine emits_read fun tx htx => emits_commit (fun t ht => hSpec t _ ⟨_, _, _, rfl, ?_⟩)
          fun _ _ _ _ _ => emits_read fun _ _ => emits_pure
        refine ⟨⟨s, htrans htx ht, hstatus⟩, hallowed, fun p hp => ?_, fun hdead => ?_⟩
        · by_cases hdel : newStatus = .delivered
          · rw [if_pos hdel] at hp
            obtain ⟨hrow, hpay⟩ := Table.findFirst_eq_some hp
            exact ⟨hdel, tx, ht, hrow, by simpa using hpay⟩
          · rw [if_neg hdel] at hp
            simp at hp
        · rw [if_pos hdead]
          exact ⟨tx, ht, rfl⟩

lemma cancelOrder_emits {userId : Option UserId} {isAdmin : Bool}
    (htrans : ∀ {s t u}, I s t → I t u → I s u) :
    (cancelOrder orderId userId isAdmin pick).Emits Commit.apply I G
      (TransitionBatch I orderId .cancelled) Any s₀ := by
  refine emits_read fun s _ => ?_
  split
  · exact emits_throw
  · split
    · exact emits_throw
    · split
      · exact emits_throw
      · exact updateOrderStatus_emits htrans fun _ _ h => h

lemma confirmOrder_emits (htrans : ∀ {s t u}, I s t → I t u → I s u) :
    (confirmOrder orderId pick).Emits Commit.apply I G
      (fun s c => ConfirmBatch I orderId s c ∨ TransitionBatch I orderId .confirmed s c)
      Any s₀ := by
  refine emits_read fun s _ => ?_
  split
  · exact emits_throw
  · split
    · exact emits_throw
    · refine emits_read fun tx _ => emits_commit (fun t ht => Or.inl ⟨_, rfl, tx, ht, rfl⟩) ?_
      exact fun _ _ _ _ _ => updateOrderStatus_emits htrans fun _ _ h => Or.inr h

lemma expireStaleOrders_emits {olderThanMinutes : ℕ}
    (htrans : ∀ {s t u}, I s t → I t u → I s u) :
    (expireStaleOrders olderThanMinutes pick).Emits Commit.apply I G
      (fun s c => ∃ orderId, TransitionBatch I orderId .expired s c) Any s₀ := by
  have loop : ∀ (l : List (Row Order)) (s : Database),
      (expireEachOrder pick l).Emits Commit.apply I G
        (fun s c => ∃ orderId, TransitionBatch I orderId .expired s c) Any s := by
    intro l
    induction l with
    | nil => exact fun _ => emits_pure
    | cons order rest ih =>
      intro s
      have hone : (updateOrderStatus order.id .expired pick).Emits Commit.apply I G
          (fun s c => ∃ orderId, TransitionBatch I orderId .expired s c) Any s :=
        updateOrderStatus_emits htrans fun _ _ h => ⟨order.id, h⟩
      exact (hone.orElse fun _ _ => emits_pure).andThen fun _ s' => ih s'
  exact emits_read fun s _ => loop _ s

end Emits

end MeeoServer
