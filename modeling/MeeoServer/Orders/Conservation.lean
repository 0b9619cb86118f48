/-
# Stock is conserved by cancellation

The calls are served one after another.  What is accounted for is the stock that is available
or reserved, and the units that were sold to orders that are still alive.  A cancellation
returns what is reserved; it never returns what is sold, so the account is kept exactly in the
runs in which an order that is called off has no confirmed reservation.
-/
import MeeoServer.Inventory.Holds

namespace MeeoServer

/-- The order of a reservation has been called off. -/
def Database.calledOff (s : Database) (r : InventoryReservation) : Bool :=
  (r.orderId.bind s.book.statusOf).any OrderStatus.dead

/-- A reservation that was sold to an order that is alive. -/
def Database.ownedByLive (s : Database) (r : InventoryReservation) : Bool :=
  isConfirmed r && !s.calledOff r

/-- The units of a variant that are available, reserved, or owned by live orders. -/
def Database.accounted (s : Database) (v : VariantId) : ℤ :=
  s.stock.available v + s.stock.reserved v + unitsOf s.ownedByLive s.stock.reservations v

/-- An order that has been called off holds nothing. -/
def NothingLeft (s : Database) : Prop :=
  ∀ r ∈ s.stock.reservations, s.calledOff r = true → r.status ≠ .active ∧ r.status ≠ .confirmed

lemma NothingLeft.accounted {s : Database} (h : NothingLeft s) (v : VariantId) :
    s.accounted v = s.stock.total v := by
  rw [Database.accounted, Stock.total, unitsOf_congr]
  intro r hr
  cases hdead : s.calledOff r with
  | false => simp [Database.ownedByLive, hdead]
  | true => simp [Database.ownedByLive, hdead, isConfirmed, (h r hr hdead).2]

/-- A batch that calls an order off finds none of its reservations confirmed. -/
def NothingSold (s : Database) (c : Commit) : Prop :=
  ∀ change ∈ c.statusChange, change.2.2.dead = true →
    ∀ r ∈ s.stock.reservations, r.orderId = some change.1 → r.status ≠ .confirmed

instance (s : Database) (c : Commit) : Decidable (NothingSold s c) := by
  unfold NothingSold
  infer_instance

/-- Checkout, and the payment, fulfilment and status operations on orders. -/
def Call.onOrders : Call → Bool
  | .reserveStock .. | .confirmReservation .. | .releaseReservation .. | .addStock ..
  | .removeStock .. | .adjustStock .. => false
  | _ => true

/-! ## Orders that are called off -/

namespace Commit

variable {s s' : Database} {c : Commit}

/-- Only a status change of `updateOrderStatus` calls an order off. -/
lemma dead_statusChange {o : OrderId} {prev new : OrderStatus}
    (h : c.statusChange = some (o, prev, new)) (hdead : new.dead = true) :
    ∃ codPayment holds, c = updateOrderStatus o prev new codPayment holds := by
  cases c with
  | updateOrderStatus orderId previousStatus newStatus codPayment holds =>
    obtain ⟨rfl, rfl, rfl⟩ : orderId = o ∧ previousStatus = prev ∧ newStatus = new := by
      simpa [statusChange] using h
    exact ⟨codPayment, holds, rfl⟩
  | verifyPayment input payment orderStatus latestAttempt holds =>
    cases orderStatus <;> simp [statusChange] at h
    obtain ⟨-, -, -, rfl⟩ := h
    cases hdead
  | updatePaymentStatus payment orderStatus input =>
    cases orderStatus <;> simp [statusChange] at h
    obtain ⟨-, -, -, rfl⟩ := h
    cases hdead
  | processRefund payment orderStatus successfulAttempt refundAmount =>
    cases orderStatus <;> simp [statusChange] at h
    obtain ⟨-, -, -, rfl⟩ := h
    cases hdead
  | markPaymentPending orderId =>
    simp only [statusChange, Option.some.injEq, Prod.mk.injEq] at h
    obtain ⟨-, -, rfl⟩ := h
    cases hdead
  | _ => simp [statusChange] at h

/-- An order that is dead after a batch was dead before, or the batch has called it off. -/
lemma dead_of_bookAfter {o : OrderId} {st : OrderStatus}
    (h : (c.bookAfter s).statusOf o = some st) (hdead : st.dead = true) :
    (∃ st', s.book.statusOf o = some st' ∧ st'.dead = true) ∨
      ∃ prev codPayment holds, c = updateOrderStatus o prev st codPayment holds := by
  obtain ⟨order, ho, rfl⟩ := Option.map_eq_some_iff.mp h
  rcases orders_of_bookAfter ho with ⟨checkout, e, k, rfl, rfl, rfl⟩ |
    ⟨old, hold, -, rfl | ⟨prev, hchange⟩⟩
  · cases hcod : checkout.isCod <;> simp [orderOf, hcod, OrderStatus.dead] at hdead
  · exact Or.inl ⟨order.status, by simp [OrderBook.statusOf, hold], hdead⟩
  · obtain ⟨codPayment, holds, rfl⟩ := dead_statusChange hchange hdead
    exact Or.inr ⟨prev, codPayment, holds, rfl⟩

end Commit

lemma Database.calledOff_eq_true {s : Database} {r : InventoryReservation} :
    s.calledOff r = true ↔
      ∃ o st, r.orderId = some o ∧ s.book.statusOf o = some st ∧ st.dead = true := by
  cases ho : r.orderId with
  | none => simp [Database.calledOff, ho]
  | some o => cases hst : s.book.statusOf o <;> simp [Database.calledOff, ho, hst]

/-! ## One batch -/

/-- The batches of the calls on orders. -/
def Commit.onOrders : Commit → Bool
  | .reserveStock .. | .confirmReservation .. | .releaseReservation .. | .addStock ..
  | .removeStock .. | .adjustStock .. => false
  | _ => true

section Batches

variable {config : GatewayConfig} {x : Call} {s s' : Database} {c : Commit}

lemma Call.Spec.onOrders {I : Database → Database → Prop} (h : Call.Spec I config x s c)
    (hx : x.onOrders = true) : c.onOrders = true := by
  cases c with
  | reserveStock input e | confirmReservation hold orderId | releaseReservation hold
  | addStock v quantity | removeStock v quantity | adjustStock input delta =>
    exfalso
    cases x <;> simp_all [Call.Spec, Call.onOrders, CheckoutBatch, TransitionBatch,
      ConfirmBatch, InitializeBatch, AttemptBatch, VerifyBatch, FailureBatch, ManualBatch,
      RefundBatch]
  | _ => rfl

/-- Run alone, a call closes reservations that are as it has read them. -/
lemma closes_live_solo (hspec : Call.Spec UpToGateway config x s c) :
    ∀ h ∈ c.closes, Stock.LiveHold s.stock.reservations h := by
  intro h hmem
  obtain ⟨s₀, ⟨gateway, rfl⟩, hrow, hactive⟩ := hspec.closes.1 h hmem
  exact ⟨h.val, hrow, hactive, rfl, rfl⟩

/-- A list of reservations is closed, and no order is called off by the batch. -/
lemma NothingLeft.closeHolds {closing : Stock.Closing} {holds : List Hold}
    (h : NothingLeft s) (hlive : ∀ h ∈ holds, Stock.LiveHold s.stock.reservations h)
    (hc : s.stock.closeHolds closing holds = some s'.stock)
    (hdead : ∀ r : InventoryReservation, s'.calledOff r = true → s.calledOff r = true) :
    NothingLeft s' := by
  intro r' hr' hoff
  obtain ⟨i, r, hr, horder, ⟨⟨hold, hhold, rfl⟩, hstatus⟩ | ⟨-, rfl⟩⟩ :=
    Stock.mem_closeHolds hc hr'
  · have hoff' : s.calledOff r = true := by
      have := hdead r' hoff
      rwa [Database.calledOff, horder] at this
    obtain ⟨r₁, hr₁, hactive, -⟩ := hlive hold hhold
    obtain rfl : r = r₁ := Option.some.inj (hr.symm.trans hr₁)
    exact absurd hactive (h r (List.mem_of_getElem? hr) hoff').1
  · exact h r' (List.mem_of_getElem? hr) (hdead r' hoff)

/-- **The step lemma**: a batch that leaves no sold reservation behind with an order it calls
off leaves nothing behind. -/
lemma nothingLeft_of_apply (hx : x.onOrders = true)
    (hspec : Call.Spec UpToGateway config x s c) (hfk : s.ForeignKeys) (hsold : NothingSold s c)
    (happ : c.apply s = some s') (h : NothingLeft s) : NothingLeft s' := by
  obtain ⟨hstock, hbook, -⟩ := Commit.apply_eq_some happ
  have hlive := closes_live_solo hspec
  -- only a status change calls orders off
  by_cases hupdate : ∃ o prev new cod holds, c = .updateOrderStatus o prev new cod holds
  · obtain ⟨o, prev, new, cod, holds, rfl⟩ := hupdate
    have htransition := hspec.transition
    have hdead : ∀ r : InventoryReservation, s'.calledOff r = true → s.calledOff r = true ∨
        r.orderId = some o ∧ new.dead = true := by
      intro r hoff
      obtain ⟨o', st, ho', hst, hd⟩ := Database.calledOff_eq_true.mp hoff
      rw [hbook] at hst
      rcases Commit.dead_of_bookAfter hst hd with ⟨st', hst', hd'⟩ | ⟨_, _, _, heq⟩
      · exact Or.inl (Database.calledOff_eq_true.mpr ⟨o', st', ho', hst', hd'⟩)
      · cases heq
        exact Or.inr ⟨ho', hd⟩
    simp only [Commit.stockAfter, Stock.releaseHolds] at hstock
    split at hstock
    · rename_i hnew
      simp only [Commit.closes, hnew, if_true] at hlive
      -- nobody else runs, so the list is what the order holds now
      have hholds : holds = s.stock.activeHolds o := by
        obtain ⟨s₀, ⟨gateway, rfl⟩, rfl⟩ := htransition.holds hnew
        rfl
      intro r' hr' hoff
      obtain ⟨i, r, hr, horder, ⟨-, hstatus⟩ | ⟨hnot, rfl⟩⟩ := Stock.mem_closeHolds hstock hr'
      · rw [hstatus]
        exact ⟨by decide, by decide⟩
      · rcases hdead r' hoff with hoff' | ⟨hown, -⟩
        · exact h r' (List.mem_of_getElem? hr) hoff'
        · refine ⟨fun hactive => ?_, hsold _ rfl hnew r' (List.mem_of_getElem? hr) hown⟩
          -- an active reservation of the order is on the list
          refine hnot ⟨i, r'⟩ ?_ rfl
          rw [hholds]
          exact Table.mem_findMany.mpr ⟨hr, by simp [hown, hactive]⟩
    · rename_i hnew
      obtain hsame := Option.some.inj hstock
      intro r hr hoff
      rw [← hsame] at hr
      rcases hdead r hoff with hoff' | ⟨-, hd⟩
      · exact h r hr hoff'
      · exact absurd hd hnew
  · have hdead : ∀ r : InventoryReservation, s'.calledOff r = true → s.calledOff r = true := by
      intro r hoff
      obtain ⟨o, st, ho, hst, hd⟩ := Database.calledOff_eq_true.mp hoff
      rw [hbook] at hst
      rcases Commit.dead_of_bookAfter hst hd with ⟨st', hst', hd'⟩ | ⟨prev, cod, holds, heq⟩
      · exact Database.calledOff_eq_true.mpr ⟨o, st', ho, hst', hd'⟩
      · exact absurd ⟨o, prev, st, cod, holds, heq⟩ hupdate
    have horders := hspec.onOrders hx
    cases c with
    | reserveStock input e | confirmReservation hold orderId | releaseReservation hold
    | addStock v quantity | removeStock v quantity | adjustStock input delta => cases horders
    | expireReservation hold =>
      exact h.closeHolds hlive (Stock.closeHolds_singleton.trans hstock) hdead
    | confirmHolds orderId holds | verifyPayment input payment orderStatus latestAttempt holds =>
      exact h.closeHolds hlive hstock hdead
    | updateOrderStatus o prev new cod holds => exact absurd ⟨o, prev, new, cod, holds, rfl⟩ hupdate
    | createOrder checkout e k =>
      intro r hr hoff
      rw [(Stock.checkout_eq_some hfk.new hstock).2.2, List.mem_append] at hr
      rcases hr with hr | hr
      · exact h r hr (hdead r hoff)
      · -- the new order is alive
        exfalso
        obtain ⟨i, -, rfl⟩ := List.mem_map.mp hr
        obtain ⟨o, st, ho, hst, -⟩ := Database.calledOff_eq_true.mp (hdead _ hoff)
        obtain rfl : s.book.orders.length = o := by simpa using ho
        simp [OrderBook.statusOf] at hst
    | _ =>
      have hsame := Option.some.inj hstock
      intro r hr hoff
      rw [← hsame] at hr
      exact h r hr (hdead r hoff)

end Batches

/-! ## Whole runs -/

/-- Called-off orders hold nothing, and no unit has appeared or vanished. -/
structure Conserved (total : VariantId → ℤ) (s : Database) : Prop extends UnitsKept total s where
  nothingLeft : NothingLeft s

/-- **Stock is conserved by cancellation**, in the sequential runs in which an order that is
called off has no confirmed reservation: whatever happens to the orders, the units that are
available, reserved, or owned by live orders add up to what they were at the start. -/
theorem accounted_eq (config : GatewayConfig) {s₀ s : Database} (hfk : s₀.ForeignKeys)
    (h₀ : NothingLeft s₀)
    (hr : (server config).SeqReachable (fun x => x.onOrders = true) NothingSold s₀ s)
    (v : VariantId) : s.accounted v = s₀.accounted v := by
  have hconserved : Conserved s₀.stock.total s := by
    refine (server_solo config _).invariant hr ⟨⟨hfk, fun _ => rfl⟩, h₀⟩ ?_ ?_
    · intro e s hs
      have hleft := hs.nothingLeft
      refine ⟨hs.toUnitsKept.environ e, ?_⟩
      simpa [server, NothingLeft, Database.calledOff] using hleft
    · intro x s c s' hx hspec hsold happ hs
      have horders := hspec.onOrders hx
      have hcorrect : c.correctsStock = false := by
        cases c <;> first | rfl | cases horders
      have hlive := closes_live_solo hspec
      obtain ⟨hkept, -⟩ := hs.toUnitsKept.of_apply hspec.closes.2 hlive hcorrect happ
      exact ⟨hkept, nothingLeft_of_apply hx hspec hs.foreignKeys hsold happ hs.nothingLeft⟩
  rw [hconserved.nothingLeft.accounted, h₀.accounted, hconserved.total]

lemma NothingLeft.stocked (quantity : ℕ) : NothingLeft (.stocked quantity) := by
  intro r hr
  simp [Database.stocked] at hr

/-- An order is placed online and cancelled. -/
theorem accounted_eq_online :
    ∃ s, (server .unchecked).SeqReachable (fun x => x.onOrders = true) NothingSold (.stocked 5)
        s ∧
      s.book.statusOf 0 = some .cancelled ∧ s.accounted 0 = (Database.stocked 5).accounted 0 := by
  obtain ⟨s, hr, hstatus⟩ := Machine.exists_seqReachable_of_execSeq
    (server .unchecked) (fun x => x.onOrders = true) NothingSold
    [.inl (.createOrder 7 (.ok ⟨7, [⟨0, 2, "Tee", "TEE-1"⟩], 1000, false⟩) none),
      .inl (.cancelOrder 0 (some 7) false 0)]
    (.stocked 5) (fun s => s.book.statusOf 0) (some .cancelled) (by decide)
  exact ⟨s, hr, hstatus,
    accounted_eq .unchecked (Database.stocked_foreignKeys 5) (NothingLeft.stocked 5) hr 0⟩

/-- Without the condition stock is lost: an order that is paid on delivery is confirmed at
once, and its cancellation returns none of its units. -/
theorem accounted_ne :
    ¬ ∀ (config : GatewayConfig) (s₀ s : Database), s₀.ForeignKeys → NothingLeft s₀ →
      (server config).SeqReachable (fun x => x.onOrders = true) Free s₀ s →
      ∀ v, s.accounted v = s₀.accounted v := by
  intro h
  obtain ⟨s, hr, hlost⟩ := Machine.exists_seqReachable_of_execSeq
    (server .unchecked) (fun x => x.onOrders = true) Free
    [.inl (.createOrder 7 (.ok ⟨7, [⟨0, 2, "Tee", "TEE-1"⟩], 1000, true⟩) none),
      .inl (.cancelOrder 0 (some 7) false 0)]
    (.stocked 5) (fun s => (s.book.statusOf 0, s.accounted 0)) (some .cancelled, 3) (by decide)
  have heq := h .unchecked (.stocked 5) s (Database.stocked_foreignKeys 5)
    (NothingLeft.stocked 5) hr 0
  have hthree : s.accounted 0 = 3 := (Prod.ext_iff.mp hlost).2
  rw [hthree] at heq
  exact absurd heq (by decide)

end MeeoServer
