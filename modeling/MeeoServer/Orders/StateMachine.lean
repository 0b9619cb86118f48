/-
# The order state machine

`updateOrderStatus` consults the table of transitions; the payment services write the status
directly.  All of them write over whatever status the order has by then, with the previous
status they have read.  In the runs in which the status is still the one that was read, and in
which a payment is only verified or refunded for an order that can be confirmed or refunded,
every change is an edge of the table and the history is a chain.
-/
import MeeoServer.Payments.States

namespace MeeoServer

open Relation Table

/-- The history of an order. -/
def OrderBook.historyOf (b : OrderBook) (o : OrderId) : List OrderStatusHistory :=
  b.statusHistory.filter fun row => row.orderId = o

/-- The history rows refer to orders that exist, and those of an order form a chain that ends in
its status. -/
structure Recorded (b : OrderBook) : Prop where
  refers : ∀ row ∈ b.statusHistory, row.orderId < b.orders.length
  linked : ∀ o order, b.orders[o]? = some order →
    Linked OrderStatusHistory.previousStatus OrderStatusHistory.newStatus (b.historyOf o)
      order.status

/-- Every order has its history on record. -/
def HistoryKept (s : Database) : Prop := Recorded s.book

/-- The order `o` has the status `st`. -/
def IsIn (o : OrderId) (st : OrderStatus) (s : Database) : Prop := s.book.statusOf o = some st

/-- The calls that change the status of an order. -/
def Call.changesStatus : Call → Bool
  | .updateOrderStatus .. | .cancelOrder .. | .confirmOrder .. | .expireStaleOrders ..
  | .initializePayment .. | .retryPayment .. | .verifyPayment .. | .updatePaymentStatus ..
  | .processRefund .. => true
  | _ => false

/-- The statuses from which an order can be refunded; a refunded order may be refunded again,
for another of its payments. -/
def refundableStatuses : List OrderStatus :=
  [.confirmed, .processing, .shipped, .delivered, .refunded]

/-- The payment services change the status where the table would allow it. -/
def FollowsTable : Commit → Prop
  | .verifyPayment _ _ (some st) _ _ => st ∈ [OrderStatus.confirmed, .pending, .paymentPending]
  | .processRefund payment (some st) _ refundAmount =>
    Commit.isFullyRefunded payment refundAmount = true → st ∈ refundableStatuses
  | _ => True

instance (c : Commit) : Decidable (FollowsTable c) := by
  unfold FollowsTable
  split <;> infer_instance

/-- The status is changed while it is the one that was read. -/
def ChangesAsRead (s : Database) (c : Commit) : Prop :=
  ∀ change ∈ c.statusChange, s.book.statusOf change.1 = some change.2.1

instance (s : Database) (c : Commit) : Decidable (ChangesAsRead s c) := by
  unfold ChangesAsRead
  infer_instance

def ChangesInOrder (s : Database) (c : Commit) : Prop := ChangesAsRead s c ∧ FollowsTable c

instance (s : Database) (c : Commit) : Decidable (ChangesInOrder s c) :=
  inferInstanceAs (Decidable (_ ∧ _))

/-! ## One batch -/

section Batches

variable {config : GatewayConfig} {I : Database → Database → Prop} {x : Call}
  {s s' : Database} {c : Commit}

/-- A change of status follows an edge of the table, if it changes the status at all. -/
lemma allowed_of_statusChange (hspec : Call.Spec I config x s c) (hfollows : FollowsTable c)
    {o : OrderId} {prev new : OrderStatus} (h : c.statusChange = some (o, prev, new)) :
    new = prev ∨ new ∈ ALLOWED_ORDER_TRANSITIONS prev := by
  cases c with
  | updateOrderStatus orderId previousStatus newStatus codPayment holds =>
    obtain ⟨rfl, rfl, rfl⟩ : orderId = o ∧ previousStatus = prev ∧ newStatus = new := by
      simpa [Commit.statusChange] using h
    exact Or.inr hspec.transition.allowed
  | markPaymentPending orderId =>
    obtain ⟨-, rfl, rfl⟩ : orderId = o ∧ .pending = prev ∧ .paymentPending = new := by
      simpa [Commit.statusChange] using h
    exact Or.inr (by decide)
  | verifyPayment input payment orderStatus latestAttempt holds =>
    cases orderStatus with
    | none => simp [Commit.statusChange] at h
    | some st =>
      obtain ⟨-, -, rfl, rfl⟩ : ¬ st = .confirmed ∧ payment.val.orderId = o ∧ st = prev ∧
          .confirmed = new := by simpa [Commit.statusChange] using h
      -- an order that is confirmed already keeps its status
      rcases List.mem_cons.mp hfollows with rfl | hst
      · exact Or.inl rfl
      · right
        simp only [List.mem_cons, List.not_mem_nil, or_false] at hst
        rcases hst with rfl | rfl <;> decide
  | updatePaymentStatus payment orderStatus input =>
    cases orderStatus with
    | none => simp [Commit.statusChange] at h
    | some st =>
      obtain ⟨⟨-, hst⟩, -, rfl, rfl⟩ : (input.status = .success ∧
          (st = .pending ∨ st = .paymentPending)) ∧ payment.val.orderId = o ∧ st = prev ∧
          .confirmed = new := by simpa [Commit.statusChange] using h
      right
      rcases hst with rfl | rfl <;> decide
  | processRefund payment orderStatus successfulAttempt refundAmount =>
    cases orderStatus with
    | none => simp [Commit.statusChange] at h
    | some st =>
      obtain ⟨hfull, -, rfl, rfl⟩ : Commit.isFullyRefunded payment refundAmount = true ∧
          payment.val.orderId = o ∧ st = prev ∧ .refunded = new := by
        simpa [Commit.statusChange] using h
      -- the refund checks no transition; that the status has the edge is the condition
      have hst := hfollows hfull
      simp only [refundableStatuses, List.mem_cons, List.not_mem_nil, or_false] at hst
      rcases hst with rfl | rfl | rfl | rfl | rfl
      · exact Or.inr (by decide)
      · exact Or.inr (by decide)
      · exact Or.inr (by decide)
      · exact Or.inr (by decide)
      · exact Or.inl rfl
  | _ => simp [Commit.statusChange] at h

/-- **The step lemma**: an order keeps its status or follows an edge of the table. -/
lemma allowed_of_apply (hspec : Call.Spec I config x s c) (hcond : ChangesInOrder s c)
    (happ : c.apply s = some s') {o : OrderId} {st st' : OrderStatus}
    (h : s.book.statusOf o = some st) (h' : s'.book.statusOf o = some st') :
    st' = st ∨ st' ∈ ALLOWED_ORDER_TRANSITIONS st := by
  rw [(Commit.apply_eq_some happ).2.1] at h'
  obtain ⟨order, ho, rfl⟩ := Option.map_eq_some_iff.mp h'
  rcases Commit.orders_of_bookAfter ho with ⟨checkout, e, k, rfl, rfl, rfl⟩ |
    ⟨old, hold, -, rfl | ⟨prev, hchange⟩⟩
  · simp [OrderBook.statusOf] at h
  · left
    simpa [OrderBook.statusOf, hold] using h
  · have hread := hcond.1 _ hchange
    obtain rfl : st = prev := Option.some.inj (h.symm.trans hread)
    exact allowed_of_statusChange hspec hcond.2 hchange

/-- A change of status from the present one extends the history of the order. -/
lemma Recorded.changeStatus {b : OrderBook} (h : Recorded b) {o : OrderId}
    {prev new : OrderStatus} (hprev : b.statusOf o = some prev) :
    Recorded (b.changeStatus o prev new) := by
  obtain ⟨old, hold, rfl⟩ := Option.map_eq_some_iff.mp hprev
  have hlt : o < b.orders.length := (List.getElem?_eq_some_iff.mp hold).1
  constructor
  · intro row hrow
    simp only [OrderBook.changeStatus, List.length_modify, List.mem_append,
      List.mem_singleton] at hrow ⊢
    rcases hrow with hrow | rfl
    · exact h.refers row hrow
    · exact hlt
  · intro o' order ho'
    have hhistory : (b.changeStatus o old.status new).historyOf o' = b.historyOf o' ++
        if o = o' then [⟨o, some old.status, new⟩] else [] := by
      by_cases heq : o = o' <;> simp [OrderBook.historyOf, OrderBook.changeStatus, heq]
    simp only [OrderBook.changeStatus, List.getElem?_modify] at ho'
    rw [hhistory]
    by_cases heq : o = o'
    · subst heq
      obtain rfl : { old with status := new } = order := by simpa [hold] using ho'
      rw [if_pos rfl]
      exact (h.linked o old hold).append rfl
    · rw [if_neg heq, List.append_nil]
      exact h.linked o' order (by simpa [heq] using ho')

/-- A new order starts its own history. -/
lemma Recorded.createOrder {b : OrderBook} (h : Recorded b) (order : Order) :
    Recorded (b.createOrder order) := by
  constructor
  · intro row hrow
    simp only [OrderBook.createOrder, List.length_append, List.length_singleton, List.mem_append,
      List.mem_singleton] at hrow ⊢
    rcases hrow with hrow | rfl
    · exact (h.refers row hrow).trans (Nat.lt_succ_self _)
    · exact Nat.lt_succ_self _
  · intro o order' ho
    have hhistory : (b.createOrder order).historyOf o = b.historyOf o ++
        if b.orders.length = o then [⟨b.orders.length, none, order.status⟩] else [] := by
      by_cases heq : b.orders.length = o <;>
        simp [OrderBook.historyOf, OrderBook.createOrder, heq]
    simp only [OrderBook.createOrder] at ho
    rw [hhistory]
    by_cases heq : b.orders.length = o
    · subst heq
      obtain rfl : order = order' := by simpa using ho
      have hempty : b.historyOf b.orders.length = [] :=
        List.filter_eq_nil_iff.mpr fun row hrow => by simpa using (h.refers row hrow).ne
      rw [if_pos rfl, hempty, List.nil_append]
      exact Linked.singleton _
    · rw [if_neg heq, List.append_nil]
      refine h.linked o order' ?_
      have hlt : o < (b.orders ++ [order]).length := (List.getElem?_eq_some_iff.mp ho).1
      rw [List.length_append, List.length_singleton] at hlt
      rwa [List.getElem?_append_left (lt_of_le_of_ne (Nat.lt_succ_iff.mp hlt) (Ne.symm heq))] at ho

lemma Recorded.of_apply (h : Recorded s.book) (hread : ChangesAsRead s c)
    (happ : c.apply s = some s') : Recorded s'.book := by
  rw [(Commit.apply_eq_some happ).2.1]
  unfold Commit.bookAfter
  split
  · exact h.createOrder _
  · rename_i hchange
    exact h.changeStatus (hread _ hchange)
  · exact h

end Batches

/-! ## Whole runs -/

/-- **The order state machine**, in the runs in which a status is changed while it is the one
that was read, and the payment services change it only where the table would allow it: the
history of every order is a chain that ends in its status, each step keeps the status of an
order or follows an edge of the table, and a status without an edge is never left. -/
theorem status_follows_table (config : GatewayConfig) (Allowed : Call → Prop) {s₀ : Database}
    (h₀ : HistoryKept s₀) {cfg : Config Database Commit AppError}
    (hr : (server config).Reachable Allowed ChangesInOrder s₀ cfg) :
    HistoryKept cfg.store ∧
      (∀ cfg', (server config).Step Allowed ChangesInOrder cfg cfg' →
        ∀ o st st', IsIn o st cfg.store → IsIn o st' cfg'.store →
          st' = st ∨ st' ∈ ALLOWED_ORDER_TRANSITIONS st) ∧
      ∀ cfg', ReflTransGen ((server config).Step Allowed ChangesInOrder) cfg cfg' →
        ∀ o st, ALLOWED_ORDER_TRANSITIONS st = [] → IsIn o st cfg.store → IsIn o st cfg'.store := by
  have hrely := server_rely config Allowed ChangesInOrder
  have henv : ∀ {o : OrderId} {st : OrderStatus} (e : Environ) (s : Database),
      IsIn o st (e.apply s) ↔ IsIn o st s := fun e s => by simp [IsIn]
  refine ⟨?_, fun cfg' hstep o st st' h h' => ?_, fun cfg' hsteps o st hend h => ?_⟩
  · refine hrely.invariant hr h₀ (fun e s hs => ?_) fun _ _ hcond happ hs =>
      Recorded.of_apply hs hcond.1 happ
    simpa [server, HistoryKept] using hs
  · rcases hrely.step_cases hr hstep with heq | ⟨e, heq⟩ | ⟨x, c, -, hspec, hcond, happ⟩
    · rw [heq] at h'
      exact Or.inl (Option.some.inj (h'.symm.trans h))
    · rw [heq] at h'
      exact Or.inl (Option.some.inj (((henv e _).mp h').symm.trans h))
    · exact allowed_of_apply hspec hcond happ h h'
  · refine hrely.preserved hr hsteps h (fun e s hs => (henv e s).mpr hs)
      fun _ hspec hcond happ hs => ?_
    obtain ⟨order, ho, -⟩ := Option.map_eq_some_iff.mp hs
    obtain ⟨order', ho', -⟩ := (Commit.grows happ).orders.getElem? ho
    have hs' := congrArg (Option.map Order.status) ho'
    rw [Option.map_some] at hs'
    rcases allowed_of_apply hspec hcond happ hs hs' with heq | hmem
    · rw [heq] at hs'
      exact hs'
    · rw [hend] at hmem
      cases hmem

lemma startedStore_historyKept : HistoryKept startedStore := by
  constructor
  · decide
  · intro o order ho
    cases o with
    | zero =>
      obtain rfl := Option.some.inj ho
      exact (Linked.singleton (⟨0, none, .pending⟩ : OrderStatusHistory)).append rfl
    | succ o => simp [startedStore] at ho

/-- An order is paid and then refunded in full. -/
theorem status_follows_table_refunded :
    ∃ cfg, (server .sample).Reachable (fun x => x.changesStatus = true) ChangesInOrder
        startedStore cfg ∧
      cfg.store.book.statusHistory.length = 4 ∧ IsIn 0 .refunded cfg.store ∧
      HistoryKept cfg.store := by
  obtain ⟨cfg, hr, heq⟩ := Machine.exists_reachable_of_exec
    (server .sample) (fun x => x.changesStatus = true) ChangesInOrder
    [.call (.verifyPayment ⟨0, 0, 3, 9003⟩ 0), .step 0 .ok, .step 0 .ok, .step 0 .ok,
      .call (.processRefund ⟨0, none⟩ 0), .step 1 .ok, .step 1 .ok, .step 1 .ok]
    startedStore (fun s => (s.book.statusHistory.length, s.book.statusOf 0))
    (4, some .refunded) (by decide)
  obtain ⟨hlength, hstatus⟩ := Prod.ext_iff.mp heq
  exact ⟨cfg, hr, hlength, hstatus,
    (status_follows_table .sample _ startedStore_historyKept hr).1⟩

/-- Without the condition a terminal status is left: the order is cancelled, and the payment
that is verified afterwards confirms it. -/
theorem cancelled_then_confirmed :
    ¬ ∀ (config : GatewayConfig) (s₀ : Database) (cfg cfg' : Config Database Commit AppError),
      HistoryKept s₀ →
      (server config).Reachable (fun x => x.changesStatus = true) Free s₀ cfg →
      ReflTransGen ((server config).Step (fun x => x.changesStatus = true) Free) cfg cfg' →
      ∀ o st, ALLOWED_ORDER_TRANSITIONS st = [] → IsIn o st cfg.store → IsIn o st cfg'.store := by
  intro h
  obtain ⟨cfg, cfg', hr, hsteps, hstatus, hstatus'⟩ := Machine.exists_later_of_exec
    (server .sample) (fun x => x.changesStatus = true) Free
    [.call (.cancelOrder 0 (some 7) false 0), .step 0 .ok, .step 0 .ok, .step 0 .ok, .step 0 .ok]
    [.call (.verifyPayment ⟨0, 0, 3, 9003⟩ 0), .step 1 .ok, .step 1 .ok, .step 1 .ok]
    startedStore (fun s => s.book.statusOf 0) (some .cancelled) (some .confirmed) (by decide)
  have hkept := h .sample startedStore cfg cfg' startedStore_historyKept hr hsteps 0 .cancelled
    rfl hstatus
  rw [IsIn, hstatus'] at hkept
  cases hkept

end MeeoServer
