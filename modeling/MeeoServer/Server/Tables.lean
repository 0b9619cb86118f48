/-
# The batches, table by table

`Commit.apply` lists the writes of a batch together, as the source does.  Here the same writes
are sorted by the table they go to, with every batch that leaves a table alone in one line, so
that an argument about one table need not look at the others.
-/
import MeeoServer.Server.Calls

namespace MeeoServer

namespace Commit

/-- The stock after a batch. -/
def stockAfter (s : Database) : Commit → Option Stock
  | reserveStock input expiresAt =>
    if ∀ o ∈ input.orderId, o < s.book.orders.length then
      s.stock.hold input.variantId input.quantity input.orderId expiresAt
    else none
  | confirmReservation hold orderId =>
    if ∀ o ∈ orderId.or hold.val.orderId, o < s.book.orders.length then
      s.stock.closeHold .confirm (fun _ => orderId.or hold.val.orderId) hold
    else none
  | releaseReservation hold => s.stock.closeHold .release InventoryReservation.orderId hold
  | expireReservation hold => s.stock.closeHold .expire InventoryReservation.orderId hold
  | addStock v quantity => some (s.stock.addStock v quantity)
  | removeStock v quantity => s.stock.removeStock v quantity
  | adjustStock input delta => s.stock.adjustStock input delta
  | createOrder checkout expiresAt _ =>
    s.stock.checkout s.book.orders.length expiresAt checkout.isCod checkout.items
  | confirmHolds _ holds | verifyPayment _ _ _ _ holds => s.stock.closeHolds .confirm holds
  | updateOrderStatus _ _ newStatus _ holds => s.stock.releaseHolds newStatus holds
  | _ => some s.stock

/-- The change of status that a batch writes, as the order, the previous status it records,
and the new status. -/
def statusChange : Commit → Option (OrderId × OrderStatus × OrderStatus)
  | updateOrderStatus orderId previousStatus newStatus _ _ =>
    some (orderId, previousStatus, newStatus)
  | markPaymentPending orderId => some (orderId, .pending, .paymentPending)
  | verifyPayment _ payment (some st) _ _ =>
    if st = .confirmed then none else some (payment.val.orderId, st, .confirmed)
  | updatePaymentStatus payment (some st) input =>
    if input.status = .success ∧ (st = .pending ∨ st = .paymentPending) then
      some (payment.val.orderId, st, .confirmed)
    else none
  | processRefund payment (some st) _ refundAmount =>
    if isFullyRefunded payment refundAmount then some (payment.val.orderId, st, .refunded)
    else none
  | _ => none

/-- The order that a checkout creates. -/
def orderOf (s : Database) (checkout : Checkout) (placedUnder : Option (Key × ℕ)) : Order where
  userId := checkout.userId
  status := if checkout.isCod then .confirmed else .pending
  grandTotal := max 0 checkout.grandTotal
  items := checkout.items
  createdAt := s.clock
  placedUnder := placedUnder

/-- The orders after a batch: a new one, or a change of status, or neither. -/
def bookAfter (s : Database) (c : Commit) : OrderBook :=
  match c, c.statusChange with
  | createOrder checkout _ placedUnder, _ => s.book.createOrder (orderOf s checkout placedUnder)
  | _, some (orderId, previousStatus, newStatus) =>
    s.book.changeStatus orderId previousStatus newStatus
  | _, none => s.book

/-- The payment tables after a batch. -/
def ledgerAfter (s : Database) : Commit → PaymentLedger
  | createOrder checkout _ _ =>
    if checkout.isCod then
      { s.ledger with
        payments := s.ledger.payments ++
          [⟨s.book.orders.length, .cod, .pending, max 0 checkout.grandTotal, 0, 0⟩] }
    else s.ledger
  | updateOrderStatus orderId _ newStatus codPayment _ =>
    if newStatus.dead then failPending (settleCod s.ledger codPayment) orderId
    else settleCod s.ledger codPayment
  | createPayment orderId provider amount =>
    { s.ledger with
      payments := s.ledger.payments ++ [⟨orderId, provider, .pending, amount, 0, 0⟩] }
  | createNextAttempt paymentId attemptNumber providerPaymentId amount =>
    { s.ledger with
      attempts := s.ledger.attempts ++
        [⟨paymentId, attemptNumber, some providerPaymentId, .processing, amount⟩] }
  | markProcessing paymentId =>
    s.ledger.updatePayment paymentId fun p => { p with status := .processing }
  | verifyPayment input payment _ latestAttempt _ =>
    verifiedLedger s.ledger input payment latestAttempt
  | recordPaymentFailure payment latestAttempt => failedLedger s.ledger payment latestAttempt
  | updatePaymentStatus payment _ input => manualLedger s.ledger payment input
  | processRefund payment _ successfulAttempt refundAmount =>
    refundedLedger s.ledger payment successfulAttempt refundAmount
  | _ => s.ledger

/-- What the gateway knows after a batch. -/
def gatewayAfter (s : Database) : Commit → Gateway
  | createPaymentIntent paymentId amount =>
    { s.gateway with orders := s.gateway.orders ++ [⟨paymentId, amount⟩] }
  | requestRefund paymentId amount =>
    { s.gateway with refundRequests := s.gateway.refundRequests ++ [(paymentId, amount)] }
  | _ => s.gateway

variable {s s' : Database} {c : Commit}

lemma bookAfter_verifyPayment (input : VerifyPaymentInput) (payment : Row Payment)
    (orderStatus : Option OrderStatus) (latestAttempt : Option ℕ) (holds : List Hold) :
    bookAfter s (verifyPayment input payment orderStatus latestAttempt holds) =
      confirmUnless s.book payment.val.orderId orderStatus (· = .confirmed) := by
  cases orderStatus with
  | none => rfl
  | some st => by_cases hst : st = .confirmed <;> simp [bookAfter, statusChange, confirmUnless, hst]

lemma bookAfter_updatePaymentStatus (payment : Row Payment) (orderStatus : Option OrderStatus)
    (input : UpdatePaymentStatusInput) :
    bookAfter s (updatePaymentStatus payment orderStatus input) =
      if input.status = .success then
        confirmUnless s.book payment.val.orderId orderStatus
          fun st => st ≠ .pending ∧ st ≠ .paymentPending
      else s.book := by
  cases orderStatus with
  | none => simp [bookAfter, statusChange, confirmUnless]
  | some st =>
    by_cases hs : input.status = .success
    · by_cases hst : st = .pending ∨ st = .paymentPending
      · have hskip : ¬ (st ≠ .pending ∧ st ≠ .paymentPending) := by tauto
        simp only [bookAfter, statusChange, confirmUnless, hs, hst, hskip, decide_false]
        simp
      · have hskip : st ≠ .pending ∧ st ≠ .paymentPending := by tauto
        simp [bookAfter, statusChange, confirmUnless, hs, hskip]
    · simp [bookAfter, statusChange, hs]

lemma bookAfter_processRefund (payment : Row Payment) (orderStatus : Option OrderStatus)
    (successfulAttempt : Option ℕ) (refundAmount : Paise) :
    bookAfter s (processRefund payment orderStatus successfulAttempt refundAmount) =
      match orderStatus with
      | some st =>
        if isFullyRefunded payment refundAmount then
          s.book.changeStatus payment.val.orderId st .refunded
        else s.book
      | none => s.book := by
  cases orderStatus with
  | none => rfl
  | some st =>
    by_cases hfull : isFullyRefunded payment refundAmount = true <;>
      simp [bookAfter, statusChange, hfull]

/-- A batch that is applied changes each table as the functions above say, and not the
clock. -/
theorem apply_eq_some (h : c.apply s = some s') :
    c.stockAfter s = some s'.stock ∧ s'.book = c.bookAfter s ∧ s'.ledger = c.ledgerAfter s ∧
      s'.gateway = c.gatewayAfter s ∧ s'.clock = s.clock := by
  cases c with
  | reserveStock input expiresAt =>
    simp only [apply, Option.ite_none_right_eq_some, Option.bind_eq_bind,
      Option.bind_eq_some_iff, Option.some.injEq] at h
    obtain ⟨horders, stock, hstock, rfl⟩ := h
    exact ⟨by rw [stockAfter, if_pos horders, hstock], rfl, rfl, rfl, rfl⟩
  | confirmReservation hold orderId =>
    simp only [apply, Option.ite_none_right_eq_some, Option.bind_eq_bind,
      Option.bind_eq_some_iff, Option.some.injEq] at h
    obtain ⟨horders, stock, hstock, rfl⟩ := h
    exact ⟨by rw [stockAfter, if_pos horders, hstock], rfl, rfl, rfl, rfl⟩
  | lockKey key userId =>
    simp only [apply] at h
    split at h
    · cases h
    · obtain rfl := Option.some.inj h
      exact ⟨rfl, rfl, rfl, rfl, rfl⟩
  | createNextAttempt paymentId attemptNumber providerPaymentId amount =>
    simp only [apply, Option.ite_none_left_eq_some, Option.some.injEq] at h
    obtain ⟨-, rfl⟩ := h
    exact ⟨rfl, rfl, rfl, rfl, rfl⟩
  | verifyPayment input payment orderStatus latestAttempt holds =>
    simp only [apply, Option.bind_eq_bind, Option.bind_eq_some_iff, Option.some.injEq] at h
    obtain ⟨stock, hstock, rfl⟩ := h
    exact ⟨hstock, (bookAfter_verifyPayment ..).symm, rfl, rfl, rfl⟩
  | updatePaymentStatus payment orderStatus input =>
    obtain rfl := Option.some.inj h
    exact ⟨rfl, (bookAfter_updatePaymentStatus ..).symm, rfl, rfl, rfl⟩
  | processRefund payment orderStatus successfulAttempt refundAmount =>
    obtain rfl := Option.some.inj h
    exact ⟨rfl, (bookAfter_processRefund ..).symm, rfl, rfl, rfl⟩
  | deleteStaleKey key | finalizeKey key orderId | releaseKey key =>
    simp only [apply] at h
    split at h
    · obtain rfl := Option.some.inj h
      exact ⟨rfl, rfl, rfl, rfl, rfl⟩
    · cases h
  | releaseReservation hold | expireReservation hold | removeStock v quantity
  | adjustStock input delta | createOrder checkout expiresAt placedUnder
  | confirmHolds orderId holds
  | updateOrderStatus orderId previousStatus newStatus codPayment holds =>
    simp only [apply, Option.bind_eq_bind, Option.bind_eq_some_iff, Option.some.injEq] at h
    obtain ⟨stock, hstock, rfl⟩ := h
    exact ⟨hstock, rfl, rfl, rfl, rfl⟩
  | addStock v quantity | createPayment orderId provider amount
  | createPaymentIntent paymentId amount | markPaymentPending orderId
  | markProcessing paymentId | recordPaymentFailure payment latestAttempt
  | requestRefund paymentId amount =>
    obtain rfl := Option.some.inj h
    exact ⟨rfl, rfl, rfl, rfl, rfl⟩

/-- The orders after a batch: the one it creates, and the old ones, with the new status where
it writes one. -/
lemma orders_of_bookAfter {o : OrderId} {order : Order}
    (ho : (c.bookAfter s).orders[o]? = some order) :
    (∃ checkout expiresAt placedUnder, c = createOrder checkout expiresAt placedUnder ∧
        o = s.book.orders.length ∧ order = orderOf s checkout placedUnder) ∨
      ∃ old, s.book.orders[o]? = some old ∧ order.items = old.items ∧
        (order = old ∨ ∃ prev, c.statusChange = some (o, prev, order.status)) := by
  unfold bookAfter at ho
  split at ho
  · rename_i checkout expiresAt placedUnder
    simp only [OrderBook.createOrder] at ho
    by_cases hlt : o < s.book.orders.length
    · rw [List.getElem?_append_left hlt] at ho
      exact Or.inr ⟨order, ho, rfl, Or.inl rfl⟩
    · rw [List.getElem?_append_right (not_lt.mp hlt), List.getElem?_singleton] at ho
      obtain ⟨hzero, hnew⟩ := Option.ite_none_right_eq_some.mp ho
      have heq : o = s.book.orders.length :=
        le_antisymm (Nat.sub_eq_zero_iff_le.mp hzero) (not_lt.mp hlt)
      exact Or.inl ⟨checkout, expiresAt, placedUnder, rfl, heq, (Option.some.inj hnew).symm⟩
  · rename_i orderId previousStatus newStatus _ hchange
    simp only [OrderBook.changeStatus, List.getElem?_modify] at ho
    right
    cases hold : s.book.orders[o]? with
    | none => simp [hold] at ho
    | some old =>
      by_cases hid : orderId = o
      · subst hid
        obtain rfl : { old with status := newStatus } = order := by simpa [hold] using ho
        exact ⟨old, rfl, rfl, Or.inr ⟨previousStatus, hchange⟩⟩
      · obtain rfl : old = order := by simpa [hold, hid] using ho
        exact ⟨old, rfl, rfl, Or.inl rfl⟩
  · exact Or.inr ⟨order, ho, rfl, Or.inl rfl⟩

end Commit

end MeeoServer
