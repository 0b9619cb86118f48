/-
# A confirmed order owns its stock

An order owns an item if a reservation of the order, for the same variant and the same
quantity, is CONFIRMED; equal items need as many reservations.  Once a reservation is
confirmed nothing touches it any more, so an order that owns its items keeps them: all depends
on the moment at which an order enters fulfilment.
-/
import MeeoServer.Inventory.Holds

namespace MeeoServer

open Table

/-- The reservation `r` is the sale of the item `i` to the order `o`. -/
def sells (o : OrderId) (i : OrderItem) (r : InventoryReservation) : Bool :=
  r.orderId = some o ∧ r.status = .confirmed ∧ r.variantId = i.variantId ∧
    r.quantity = i.quantity

/-- Two items of the same variant and quantity. -/
def OrderItem.same (i j : OrderItem) : Bool :=
  j.variantId = i.variantId ∧ j.quantity = i.quantity

/-- Each item of the order `o` was sold to it, equal items as often as they occur. -/
def Covered (items : List OrderItem) (o : OrderId) (l : List InventoryReservation) : Prop :=
  ∀ i ∈ items, items.countP i.same ≤ l.countP (sells o i)

instance (items : List OrderItem) (o : OrderId) (l : List InventoryReservation) :
    Decidable (Covered items o l) := by
  unfold Covered
  infer_instance

/-- The orders in fulfilment own their items. -/
def Owns (s : Database) : Prop :=
  ∀ o order, s.book.orders[o]? = some order → order.status.fulfilling = true →
    Covered order.items o s.stock.reservations

/-! ## Sales are final -/

/-- The confirmed reservations are still there, unchanged. -/
def SalesKept (l l' : List InventoryReservation) : Prop :=
  ∀ (i : ℕ) r, l[i]? = some r → r.status = .confirmed → l'[i]? = some r

lemma SalesKept.refl (l : List InventoryReservation) : SalesKept l l := fun _ _ h _ => h

lemma SalesKept.append (l m : List InventoryReservation) : SalesKept l (l ++ m) := by
  intro i r hr _
  rw [List.getElem?_append_left (List.getElem?_eq_some_iff.mp hr).1, hr]

lemma SalesKept.covered {l l' : List InventoryReservation} (h : SalesKept l l')
    {items : List OrderItem} {o : OrderId} (hc : Covered items o l) : Covered items o l' := by
  intro i hi
  refine (hc i hi).trans (countP_le_of_getElem? fun k r hr hsells => ⟨r, ?_, hsells⟩)
  have hconfirmed : r.status = .confirmed := by
    simp only [sells, Bool.decide_and, Bool.and_eq_true, decide_eq_true_eq] at hsells
    exact hsells.2.1
  exact h k r hr hconfirmed

namespace Stock

variable {s s' : Stock} {c : Closing}

lemma closeHold_salesKept {order : InventoryReservation → Option OrderId} {h : Hold}
    (hlive : LiveHold s.reservations h) (hc : s.closeHold c order h = some s') :
    SalesKept s.reservations s'.reservations := by
  intro i r hr hconfirmed
  obtain ⟨r', hr', hactive, -⟩ := hlive
  rw [(closeHold_eq_some hc).2.2]
  -- the row that is closed was active, so it is not the sold one
  have hne : h.id ≠ i := by
    rintro rfl
    obtain rfl : r = r' := Option.some.inj (hr.symm.trans hr')
    rw [hactive] at hconfirmed
    cases hconfirmed
  rw [List.getElem?_modify_ne _ _ hne, hr]

lemma closeHolds_salesKept {holds : List Hold} (hnodup : (holds.map Row.id).Nodup)
    (hlive : ∀ h ∈ holds, LiveHold s.reservations h) (hc : s.closeHolds c holds = some s') :
    SalesKept s.reservations s'.reservations := by
  refine closeHolds_induction (P := fun t => SalesKept s.reservations t.reservations) ?_ hnodup
    hlive (SalesKept.refl _) hc
  intro t t' h _ hl ht hkept i r hr hconfirmed
  exact closeHold_salesKept hl ht i r (hkept i r hr hconfirmed) hconfirmed

/-- The sold rows of a checkout cover its items. -/
lemma covered_checkoutRows (o : OrderId) (e : Millis) (items : List OrderItem) :
    Covered items o (checkoutRows o e true items) := by
  intro i _
  rw [checkoutRows, List.countP_map]
  refine le_of_eq (List.countP_congr fun j _ => ?_)
  simp [OrderItem.same, sells]

end Stock

namespace Commit

variable {s s' : Database} {c : Commit} {stock : Stock}

/-- A batch that closes only live reservations undoes no sale. -/
lemma stockAfter_salesKept (hfk : s.ForeignKeys) (hnodup : (c.closes.map Row.id).Nodup)
    (hlive : ∀ h ∈ c.closes, Stock.LiveHold s.stock.reservations h)
    (h : c.stockAfter s = some stock) : SalesKept s.stock.reservations stock.reservations := by
  cases c with
  | reserveStock input expiresAt =>
    simp only [stockAfter, Option.ite_none_right_eq_some] at h
    rw [(Stock.hold_eq_some h.2).2.2]
    exact SalesKept.append _ _
  | confirmReservation hold orderId =>
    simp only [stockAfter, Option.ite_none_right_eq_some] at h
    exact Stock.closeHold_salesKept (hlive hold List.mem_cons_self) h.2
  | releaseReservation hold | expireReservation hold =>
    exact Stock.closeHold_salesKept (hlive hold List.mem_cons_self) h
  | addStock v quantity | removeStock v quantity | adjustStock input delta =>
    rw [(stockAfter_correction rfl h 0).2]
    exact SalesKept.refl _
  | createOrder checkout expiresAt placedUnder =>
    rw [(Stock.checkout_eq_some hfk.new h).2.2]
    exact SalesKept.append _ _
  | confirmHolds orderId holds | verifyPayment input payment orderStatus latestAttempt holds =>
    exact Stock.closeHolds_salesKept hnodup hlive h
  | updateOrderStatus orderId previousStatus newStatus codPayment holds =>
    simp only [stockAfter, Stock.releaseHolds] at h
    split at h
    · rename_i hdead
      simp only [closes, hdead, if_true] at hnodup hlive
      exact Stock.closeHolds_salesKept hnodup hlive h
    · obtain rfl := Option.some.inj h
      exact SalesKept.refl _
  | _ =>
    obtain rfl := Option.some.inj h
    exact SalesKept.refl _

/-! ## Entering fulfilment -/

/-- The reservations that a batch turns into sales together with a change of status. -/
def sold : Commit → List Hold
  | verifyPayment _ _ _ _ holds => holds
  | _ => []

/-- The reservation table with some of its rows confirmed. -/
def markSold (holds : List Hold) (l : List InventoryReservation) : List InventoryReservation :=
  l.mapIdx fun i r => if i ∈ holds.map Row.id then { r with status := .confirmed } else r

/-- The order `o`, as it stands, is in fulfilment. -/
def InFulfilment (s : Database) (o : OrderId) : Prop :=
  ∃ st ∈ s.book.statusOf o, st.fulfilling = true

instance (s : Database) (o : OrderId) : Decidable (InFulfilment s o) := by
  unfold InFulfilment
  infer_instance

/-- A batch that moves an order into fulfilment finds each of its items among the confirmed
reservations of the order and those that it confirms itself. -/
def FindsItems (s : Database) (c : Commit) : Prop :=
  ∀ change ∈ c.statusChange, change.2.2.fulfilling = true → ¬ InFulfilment s change.1 →
    ∀ order ∈ s.book.orders[change.1]?,
      Covered order.items change.1 (markSold c.sold s.stock.reservations)

instance (s : Database) (c : Commit) : Decidable (FindsItems s c) := by
  unfold FindsItems
  infer_instance

/-- What a change of status marks as sold is sold. -/
lemma markSold_sold (h : c.stockAfter s = some stock) (hkept : SalesKept s.stock.reservations
    stock.reservations) : SalesKept (markSold c.sold s.stock.reservations) stock.reservations := by
  cases c with
  | verifyPayment input payment orderStatus latestAttempt holds =>
    have hrows : stock.reservations = markSold holds s.stock.reservations :=
      Stock.closeHolds_reservations h
    rw [hrows]
    exact SalesKept.refl _
  | _ =>
    have hnone : markSold [] s.stock.reservations = s.stock.reservations :=
      List.ext_getElem? fun i => by simp [markSold]
    show SalesKept (markSold [] s.stock.reservations) stock.reservations
    rwa [hnone]

end Commit

/-- **The step lemma**: a batch that closes live reservations, and finds the items of an order
that it moves into fulfilment, leaves every order in fulfilment with its stock. -/
lemma owns_of_apply {s s' : Database} {c : Commit} (hfk : s.ForeignKeys)
    (hnodup : (c.closes.map Row.id).Nodup)
    (hlive : ∀ h ∈ c.closes, Stock.LiveHold s.stock.reservations h) (hfinds : c.FindsItems s)
    (h : c.apply s = some s') (howns : Owns s) : Owns s' := by
  obtain ⟨hstock, hbook, -⟩ := Commit.apply_eq_some h
  have hkept := Commit.stockAfter_salesKept hfk hnodup hlive hstock
  intro o order ho hful
  rw [hbook] at ho
  rcases Commit.orders_of_bookAfter ho with ⟨checkout, e, k, rfl, rfl, rfl⟩ |
    ⟨old, hold, hitems, rfl | ⟨prev, hchange⟩⟩
  · -- the new order: it is in fulfilment only if it is paid on delivery
    have hrows := (Stock.checkout_eq_some hfk.new hstock).2.2
    cases hcod : checkout.isCod with
    | false => simp [Commit.orderOf, hcod, OrderStatus.fulfilling] at hful
    | true =>
      rw [hcod] at hrows
      intro i hi
      rw [hrows, List.countP_append]
      exact (Stock.covered_checkoutRows _ e _ i hi).trans (Nat.le_add_left _ _)
  · exact hkept.covered (howns o order hold hful)
  · rw [hitems]
    by_cases hin : old.status.fulfilling = true
    · -- it was in fulfilment before, and sales are final
      exact hkept.covered (howns o old hold hin)
    · refine (Commit.markSold_sold hstock hkept).covered (hfinds _ hchange hful ?_ old hold)
      rintro ⟨st, hst, hful'⟩
      simp only [OrderBook.statusOf, hold, Option.map_some, Option.mem_def,
        Option.some.injEq] at hst
      exact hin (hst ▸ hful')

/-- What a change of status relies on is there: the reservations that the batch closes are
active, and an order that it moves into fulfilment finds its items. -/
def HoldsIntact (s : Database) (c : Commit) : Prop := c.ClosesActive s ∧ c.FindsItems s

instance (s : Database) (c : Commit) : Decidable (HoldsIntact s c) :=
  inferInstanceAs (Decidable (_ ∧ _))

/-- The orders in fulfilment own their items, and no unit has appeared or vanished. -/
structure Supplied (total : VariantId → ℤ) (s : Database) : Prop extends UnitsKept total s where
  owns : Owns s

/-- **A confirmed order owns its stock**, in the runs in which every reservation is active when
it is closed and every order that enters fulfilment finds its items: each item has its own
confirmed reservation, and the available, the reserved and the sold units add up to what they
were, so a sold unit is not available. -/
theorem owns_of_reachable (config : GatewayConfig) {s₀ : Database} (hfk : s₀.ForeignKeys)
    (h₀ : Owns s₀) {cfg : Config Database Commit AppError}
    (hr : (server config).Reachable (fun x => x.correctsStock = false) HoldsIntact s₀ cfg) :
    Owns cfg.store ∧ ∀ v, cfg.store.stock.total v = s₀.stock.total v := by
  have hsupplied : Supplied s₀.stock.total cfg.store := by
    refine (server_rely config _ _).invariant hr ⟨⟨hfk, fun _ => rfl⟩, h₀⟩ ?_ ?_
    · intro e s hs
      have howns := hs.owns
      exact ⟨hs.toUnitsKept.environ e, by simpa [server, Owns] using howns⟩
    · intro x s c s' hx hspec hcond happ hs
      have hlive := closes_live hspec hcond.1
      have hcorrect := hspec.correctsStock hx
      obtain ⟨hkept, -⟩ := hs.toUnitsKept.of_apply hspec.closes.2 hlive hcorrect happ
      exact ⟨hkept, owns_of_apply hs.foreignKeys hspec.closes.2 hlive hcond.2 happ hs.owns⟩
  exact ⟨hsupplied.owns, hsupplied.total⟩

lemma Owns.stocked (quantity : ℕ) : Owns (.stocked quantity) := by
  intro o order ho
  simp [Database.stocked] at ho

/-- An order is placed, its payment is started and verified. -/
theorem owns_of_reachable_paid :
    ∃ cfg, (server .unchecked).Reachable (fun x => x.correctsStock = false) HoldsIntact
        (.stocked 5) cfg ∧
      cfg.store.book.statusOf 0 = some .confirmed ∧ Owns cfg.store ∧
      ∀ v, cfg.store.stock.total v = (Database.stocked 5).stock.total v := by
  obtain ⟨cfg, hr, hstatus⟩ := Machine.exists_reachable_of_exec
    (server .unchecked) (fun x => x.correctsStock = false) HoldsIntact
    [.call (.createOrder 7 (.ok ⟨7, [⟨0, 2, "Tee", "TEE-1"⟩], 1000, false⟩) none),
      .step 0 .ok, .step 0 .ok, .step 0 .ok, .step 0 .ok,
      .call (.initializePayment (some 7) ⟨0, .razorpay⟩ 0),
      .step 1 .ok, .step 1 .ok, .step 1 .ok, .step 1 .ok, .step 1 .ok, .step 1 .ok, .step 1 .ok,
      .call (.verifyPayment ⟨0, 0, 0, 0⟩ 0), .step 2 .ok, .step 2 .ok, .step 2 .ok]
    (.stocked 5) (fun s => s.book.statusOf 0) (some .confirmed) (by decide)
  exact ⟨cfg, hr, hstatus,
    owns_of_reachable .unchecked (Database.stocked_foreignKeys 5) (Owns.stocked 5) hr⟩

/-- The calls that a confirmed order depends on. -/
def Call.servesOrders : Call → Bool
  | .createOrder .. | .verifyPayment .. | .updatePaymentStatus .. | .confirmOrder ..
  | .updateOrderStatus .. | .cancelOrder .. | .expireStaleOrders ..
  | .expireStaleReservations => true
  | _ => false

/-- Without the condition an order is confirmed without its stock: the reservation has expired,
its units are available again, and `confirmOrder` finds nothing to convert. -/
theorem confirmed_without_stock :
    ¬ ∀ (config : GatewayConfig) (s₀ : Database) (cfg : Config Database Commit AppError),
      s₀.ForeignKeys → Owns s₀ →
      (server config).Reachable (fun x => x.servesOrders = true) Free s₀ cfg →
      Owns cfg.store := by
  intro h
  obtain ⟨cfg, hr, heq⟩ := Machine.exists_reachable_of_exec
    (server .unchecked) (fun x => x.servesOrders = true) Free
    [.call (.createOrder 7 (.ok ⟨7, [⟨0, 2, "Tee", "TEE-1"⟩], 1000, false⟩) none),
      .step 0 .ok, .step 0 .ok, .step 0 .ok, .step 0 .ok,
      .env (.elapse (minutes 31)),
      .call .expireStaleReservations, .step 1 .ok, .step 1 .ok,
      .call (.confirmOrder 0 0), .step 2 .ok, .step 2 .ok, .step 2 .ok,
      .step 2 .ok, .step 2 .ok, .step 2 .ok, .step 2 .ok]
    (.stocked 5) (fun s => (s.book.orders, s.stock.reservations))
    ([⟨7, .confirmed, 1000, [⟨0, 2, "Tee", "TEE-1"⟩], 0, none⟩],
      [⟨0, some 0, 2, .expired, minutes 30⟩]) (by decide)
  obtain ⟨horders, hrows⟩ := Prod.ext_iff.mp heq
  dsimp only at horders hrows
  have howns := h .unchecked (.stocked 5) cfg (Database.stocked_foreignKeys 5) (Owns.stocked 5) hr
    0 _ (by rw [horders]; rfl) rfl
  rw [hrows] at howns
  exact absurd howns (by decide)

end MeeoServer
