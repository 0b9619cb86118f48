/-
# What no call ever changes

No row of the modelled tables is deleted, the keys apart, and some columns of a row keep the
value they were created with: the variant and the quantity of a reservation, the items of an
order, the order and the amount of a payment, the payment and the gateway order of an attempt.
What a call has read of them is therefore still true when it commits, however stale the rest
of its reads may be.  `Grows` is the relation between a store and a later one, and
`server_rely` the rule for interleaved runs that is stated with it.
-/
import MeeoServer.Server.Tables

namespace MeeoServer

open Table

/-- The columns of a reservation that never change. -/
def InventoryReservation.fixed (r : InventoryReservation) : VariantId × ℕ :=
  (r.variantId, r.quantity)

/-- The columns of an order that never change. -/
def Order.fixed (o : Order) : UserId × List OrderItem × Option (Key × ℕ) :=
  (o.userId, o.items, o.placedUnder)

/-- The columns of a payment that never change. -/
def Payment.fixed (p : Payment) : OrderId × Paise := (p.orderId, p.amount)

/-- The columns of an attempt that never change. -/
def PaymentAttempt.fixed (a : PaymentAttempt) : PaymentId × Option GatewayOrderId :=
  (a.paymentId, a.providerPaymentId)

/-- Every row is still there, with the same fixed columns. -/
structure Grows (s s' : Database) : Prop where
  reservations : Keeps InventoryReservation.fixed s.stock.reservations s'.stock.reservations
  orders : Keeps Order.fixed s.book.orders s'.book.orders
  payments : Keeps Payment.fixed s.ledger.payments s'.ledger.payments
  attempts : Keeps PaymentAttempt.fixed s.ledger.attempts s'.ledger.attempts
  gatewayOrders : Keeps id s.gateway.orders s'.gateway.orders

namespace Grows

lemma refl (s : Database) : Grows s s :=
  ⟨Keeps.refl _ _, Keeps.refl _ _, Keeps.refl _ _, Keeps.refl _ _, Keeps.refl _ _⟩

lemma trans {s t u : Database} (h : Grows s t) (h' : Grows t u) : Grows s u :=
  ⟨h.reservations.trans h'.reservations, h.orders.trans h'.orders, h.payments.trans h'.payments,
    h.attempts.trans h'.attempts, h.gatewayOrders.trans h'.gatewayOrders⟩

lemma environ (e : Environ) (s : Database) : Grows s (e.apply s) := by
  constructor <;> simp only [Environ.apply_stock, Environ.apply_book, Environ.apply_ledger,
    Environ.apply_gatewayOrders] <;> exact Keeps.refl _ _

end Grows

/-! ## The reservations -/

namespace Stock

variable {s s' : Stock}

lemma closeHold_keeps {c : Closing} {order : InventoryReservation → Option OrderId} {h : Hold}
    (hc : s.closeHold c order h = some s') :
    Keeps InventoryReservation.fixed s.reservations s'.reservations := by
  rw [(closeHold_eq_some hc).2.2]
  exact Keeps.modify _ _ fun _ => rfl

lemma closeHolds_keeps {c : Closing} {holds : List Hold} (hc : s.closeHolds c holds = some s') :
    Keeps InventoryReservation.fixed s.reservations s'.reservations := by
  refine closeHolds_preserves
    (P := fun t => Keeps InventoryReservation.fixed s.reservations t.reservations) ?_
    (Keeps.refl _ _) hc
  intro t t' h ht hkeeps
  exact hkeeps.trans (closeHold_keeps ht)

lemma sellItems_keeps {o : OrderId} {items : List OrderItem}
    (h : s.sellItems o items = some s') :
    Keeps InventoryReservation.fixed s.reservations s'.reservations := by
  simp only [sellItems, Option.bind_eq_bind, Option.bind_eq_some_iff, Option.pure_def,
    Option.some.injEq] at h
  obtain ⟨t, ht, rfl⟩ := h
  rw [(foldl_createTransaction items _).2.2, ← (foldlM_increment_eq_some ht).2.2]
  refine Keeps.map _ fun r => ?_
  split <;> rfl

lemma checkout_keeps {o : OrderId} {e : Millis} {isCod : Bool} {items : List OrderItem}
    (h : s.checkout o e isCod items = some s') :
    Keeps InventoryReservation.fixed s.reservations s'.reservations := by
  simp only [checkout, Option.bind_eq_bind, Option.bind_eq_some_iff] at h
  obtain ⟨held, hheld, hsold⟩ := h
  have hkeeps : Keeps InventoryReservation.fixed s.reservations held.reservations := by
    rw [(holdItems_eq_some hheld).2.2]
    exact Keeps.append _ _ _
  cases isCod with
  | true => exact hkeeps.trans (sellItems_keeps hsold)
  | false =>
    obtain rfl : held = s' := by simpa using hsold
    exact hkeeps

end Stock

namespace Commit

variable {s s' : Database} {c : Commit}

lemma keeps_reservations {stock : Stock} (h : c.stockAfter s = some stock) :
    Keeps InventoryReservation.fixed s.stock.reservations stock.reservations := by
  cases c with
  | reserveStock input expiresAt =>
    simp only [stockAfter, Option.ite_none_right_eq_some] at h
    rw [(Stock.hold_eq_some h.2).2.2]
    exact Keeps.append _ _ _
  | confirmReservation hold orderId =>
    simp only [stockAfter, Option.ite_none_right_eq_some] at h
    exact Stock.closeHold_keeps h.2
  | releaseReservation hold | expireReservation hold => exact Stock.closeHold_keeps h
  | removeStock v quantity =>
    simp only [stockAfter, Stock.removeStock, Option.bind_eq_bind, Option.bind_eq_some_iff,
      Option.some.injEq] at h
    obtain ⟨t, ht, rfl⟩ := h
    rw [Stock.createTransaction_reservations,
      (Stock.incrementInventory_eq_some (w := 0) ht).2.2.1]
    exact Keeps.refl _ _
  | adjustStock input delta =>
    simp only [stockAfter, Stock.adjustStock, Option.bind_eq_bind, Option.bind_eq_some_iff,
      Option.some.injEq] at h
    obtain ⟨row, -, rfl⟩ := h
    exact Keeps.refl _ _
  | createOrder checkout expiresAt placedUnder => exact Stock.checkout_keeps h
  | confirmHolds orderId holds | verifyPayment input payment orderStatus latestAttempt holds =>
    exact Stock.closeHolds_keeps h
  | updateOrderStatus orderId previousStatus newStatus codPayment holds =>
    simp only [stockAfter, Stock.releaseHolds] at h
    split at h
    · exact Stock.closeHolds_keeps h
    · obtain rfl := Option.some.inj h
      exact Keeps.refl _ _
  | _ =>
    obtain rfl := Option.some.inj h
    exact Keeps.refl _ _

/-! ## The orders and the payments -/

lemma keeps_orders : Keeps Order.fixed s.book.orders (c.bookAfter s).orders := by
  unfold bookAfter
  split
  · exact Keeps.append _ _ _
  · exact Keeps.modify _ _ fun _ => rfl
  · exact Keeps.refl _ _

lemma keeps_payments : Keeps Payment.fixed s.ledger.payments (c.ledgerAfter s).payments := by
  cases c with
  | createOrder checkout expiresAt placedUnder =>
    unfold ledgerAfter
    dsimp only
    split
    · exact Keeps.append _ _ _
    · exact Keeps.refl _ _
  | updateOrderStatus orderId previousStatus newStatus codPayment holds =>
    have hsettle : Keeps Payment.fixed s.ledger.payments
        (settleCod s.ledger codPayment).payments := by
      cases codPayment with
      | none => exact Keeps.refl _ _
      | some p => exact Keeps.modify _ _ fun _ => rfl
    unfold ledgerAfter
    dsimp only
    split
    · refine hsettle.trans (Keeps.map _ fun p => ?_)
      split <;> rfl
    · exact hsettle
  | createPayment orderId provider amount => exact Keeps.append _ _ _
  | markProcessing paymentId => exact Keeps.modify _ _ fun _ => rfl
  | verifyPayment input payment orderStatus latestAttempt holds =>
    cases latestAttempt <;> exact Keeps.modify _ _ fun _ => rfl
  | recordPaymentFailure payment latestAttempt =>
    cases latestAttempt <;> exact Keeps.modify _ _ fun _ => rfl
  | updatePaymentStatus payment orderStatus input => exact Keeps.modify _ _ fun _ => rfl
  | processRefund payment orderStatus successfulAttempt refundAmount =>
    exact Keeps.modify _ _ fun _ => rfl
  | _ => exact Keeps.refl _ _

lemma keeps_attempts :
    Keeps PaymentAttempt.fixed s.ledger.attempts (c.ledgerAfter s).attempts := by
  cases c with
  | createOrder checkout expiresAt placedUnder =>
    unfold ledgerAfter
    dsimp only
    split <;> exact Keeps.refl _ _
  | updateOrderStatus orderId previousStatus newStatus codPayment holds =>
    unfold ledgerAfter
    dsimp only
    split <;> cases codPayment <;> exact Keeps.refl _ _
  | createNextAttempt paymentId attemptNumber providerPaymentId amount =>
    exact Keeps.append _ _ _
  | verifyPayment input payment orderStatus latestAttempt holds =>
    cases latestAttempt with
    | none => exact Keeps.refl _ _
    | some id => exact Keeps.modify _ _ fun _ => rfl
  | recordPaymentFailure payment latestAttempt =>
    cases latestAttempt with
    | none => exact Keeps.refl _ _
    | some id => exact Keeps.modify _ _ fun _ => rfl
  | _ => exact Keeps.refl _ _

lemma keeps_gatewayOrders : Keeps id s.gateway.orders (c.gatewayAfter s).orders := by
  cases c with
  | createPaymentIntent paymentId amount => exact Keeps.append _ _ _
  | _ => exact Keeps.refl _ _

/-- **Nothing is lost.** -/
theorem grows (h : c.apply s = some s') : Grows s s' := by
  obtain ⟨hstock, hbook, hledger, hgateway, -⟩ := apply_eq_some h
  exact ⟨keeps_reservations hstock, hbook ▸ keeps_orders, hledger ▸ keeps_payments,
    hledger ▸ keeps_attempts, hgateway ▸ keeps_gatewayOrders⟩

end Commit

/-- The rule for interleaved runs. -/
theorem server_rely (config : GatewayConfig) (Allowed : Call → Prop)
    (Cond : Database → Commit → Prop) :
    Rely (server config) Allowed Cond Grows (Call.Spec Grows config) :=
  server_rely_of Grows.refl Grows.trans Grows.environ Commit.grows fun _ _ _ h => Commit.grows h

/-- What a call has read of an active reservation is still true, but for its status. -/
lemma ReadActive.row {s : Database} {h : Hold} (hr : ReadActive Grows s h) :
    ∃ r, s.stock.reservations[h.id]? = some r ∧ r.variantId = h.val.variantId ∧
      r.quantity = h.val.quantity := by
  obtain ⟨s₀, hgrows, hrow, -⟩ := hr
  obtain ⟨r, hr, hfixed⟩ := hgrows.reservations.getElem? hrow
  exact ⟨r, hr, congrArg Prod.fst hfixed, congrArg Prod.snd hfixed⟩

end MeeoServer
