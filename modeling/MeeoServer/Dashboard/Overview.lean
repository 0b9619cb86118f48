/-
# The executive overview

`dashboard/services/dashboard.service.ts`: the revenue and the orders of a period.  The revenue
comes from two queries that know nothing of each other: the grand totals of the orders whose
status is one of four, and the amounts of all successful refunds.  An order that is refunded in
full leaves the first sum with the status `processRefund` gives it, while its refunds stay in the
second.
-/
import MeeoServer.Numeric.Fixed
import MeeoServer.Payments.Refunds
import MeeoServer.Process.Transaction
import MeeoServer.Table.Grouping
import Mathlib.Algebra.Order.BigOperators.Group.List

namespace MeeoServer.Dashboard

open MeeoServer

/-! ## The period -/

inductive Period where
  | today
  | sevenDays
  | thirtyDays
  | ninetyDays
  | oneYear
  | all
deriving DecidableEq

structure DashboardPeriodQueryInput where
  period : Option Period
  startDate : Option ℤ
  endDate : Option ℤ

/-- A range of times, in milliseconds. -/
structure DateRange where
  gte : Option ℤ
  lte : Option ℤ

def days (n : ℤ) : ℤ := n * 24 * 60 * 60 * 1000

/-- Explicit dates go before a shorthand. -/
def resolveDateRange (now startOfDay : ℤ) (query : DashboardPeriodQueryInput) : DateRange :=
  if query.startDate.isSome || query.endDate.isSome then ⟨query.startDate, query.endDate⟩
  else match query.period with
    | some .today => ⟨some startOfDay, some now⟩
    | some .sevenDays => ⟨some (now - days 7), some now⟩
    | some .thirtyDays => ⟨some (now - days 30), some now⟩
    | some .ninetyDays => ⟨some (now - days 90), some now⟩
    | some .oneYear => ⟨some (now - days 365), some now⟩
    | some .all | none => ⟨none, none⟩

/-- The filter of a query: a range without a lower bound is no filter at all. -/
def DateRange.admits (range : DateRange) (at' : ℤ) : Bool :=
  match range.gte with
  | some gte => gte ≤ at' && range.lte.all (at' ≤ ·)
  | none => true

lemma DateRange.admits_of_gte_eq_none {range : DateRange} (h : range.gte = none) (at' : ℤ) :
    range.admits at' = true := by
  simp [admits, h]

/-! ## The queries -/

/-- What `order.groupBy` returns for a status. -/
structure OrderGroup where
  count : ℕ
  grandTotal : Paise
deriving DecidableEq

def OrderGroup.add (group : Option OrderGroup) (order : Order) : OrderGroup :=
  match group with
  | some g => ⟨g.count + 1, g.grandTotal + order.grandTotal⟩
  | none => ⟨1, order.grandTotal⟩

/-- `order.groupBy` by the status. -/
def groupByStatus (orders : List Order) : List (OrderStatus × OrderGroup) :=
  orders.foldl
    (fun groups order => Table.adjust order.status (fun group => .add group order) groups) []

/-- What the groups weigh together, if an order adds its own weight to its group. -/
lemma sum_groupByStatus {M : Type} [AddCommMonoid M] {weight : OrderStatus × OrderGroup → M}
    {w : Order → M}
    (hw : ∀ o group, weight (o.status, .add group o) =
      (group.elim 0 fun g => weight (o.status, g)) + w o) (orders : List Order) :
    ((groupByStatus orders).map weight).sum = (orders.map w).sum := by
  have hfold := (Table.foldl_accumulates (P := fun _ => True)
    (f := fun groups (order : Order) =>
      Table.adjust order.status (fun group => OrderGroup.add group order) groups)
    (v := fun groups : List (OrderStatus × OrderGroup) => (groups.map weight).sum) (w := w)
    (fun groups o _ => ⟨trivial, Table.sum_adjust (P := fun _ => True) (fun _ _ => trivial)
      fun group _ => hw o group⟩) (s := []) trivial orders).2
  rwa [List.map_nil, List.sum_nil, zero_add] at hfold

/-- `refund.aggregate` of the amounts of the successful refunds in the range.  `requestedAt` is the
column of the table that only this filter reads. -/
def totalRefunds (refunds : List Refund) (range : DateRange) (requestedAt : ℕ → Millis) : Paise :=
  (((Table.findMany (fun r => r.status = .success) refunds).filter
    fun r => range.admits (requestedAt r.id)).map fun r => r.val.amount).sum

/-- Without a lower bound all successful refunds are added up. -/
lemma totalRefunds_of_gte_eq_none {range : DateRange} (h : range.gte = none)
    (requestedAt : ℕ → Millis) (refunds : List Refund) :
    totalRefunds refunds range requestedAt =
      ((refunds.filter fun r => r.status = .success).map Refund.amount).sum := by
  simp only [totalRefunds, DateRange.admits_of_gte_eq_none h, List.filter_true, Table.findMany,
    List.map_map]
  conv_rhs => rw [← List.zipIdx_map_fst 0 refunds, List.filter_map, List.map_map]
  rfl

/-! ## The overview -/

/-- Business revenue considers these orders. -/
def PAID_ORDER_STATUSES : List OrderStatus := [.confirmed, .processing, .shipped, .delivered]

/-- The variables of the loop over the groups. -/
structure OrderFigures where
  totalOrders : ℕ
  grossRevenue : Paise
  successfulOrderCount : ℕ
  statusBreakdown : OrderStatus → ℕ

def OrderFigures.initial : OrderFigures := ⟨0, 0, 0, fun _ => 0⟩

/-- The body of the loop. -/
def OrderFigures.add (figures : OrderFigures) (group : OrderStatus × OrderGroup) : OrderFigures :=
  let paid := group.1 ∈ PAID_ORDER_STATUSES
  { totalOrders := figures.totalOrders + group.2.count
    grossRevenue := figures.grossRevenue + if paid then group.2.grandTotal else 0
    successfulOrderCount := figures.successfulOrderCount + if paid then group.2.count else 0
    statusBreakdown := Function.update figures.statusBreakdown group.1 group.2.count }

/-- The parts `revenue` and `orders` of the response. -/
structure Overview where
  period : Period
  grossRevenue : Paise
  netRevenue : Paise
  totalRefunds : Paise
  averageOrderValue : ℚ
  totalOrders : ℕ
  successfulOrders : ℕ
  fulfillmentRate : ℚ
  statusBreakdown : OrderStatus → ℕ

def orderFigures (groups : List (OrderStatus × OrderGroup)) : OrderFigures :=
  groups.foldl OrderFigures.add .initial

/-- `getExecutiveOverview`: what the cache has, or what the tables say. -/
def getExecutiveOverview (cached : Option Overview) (now startOfDay : ℤ)
    (requestedAt : ℕ → Millis) (query : DashboardPeriodQueryInput) (db : Database) : Overview :=
  match cached with
  | some overview => overview
  | none =>
    let dateFilter := resolveDateRange now startOfDay query
    let refunds := totalRefunds db.ledger.refunds dateFilter requestedAt
    let figures := orderFigures
      (groupByStatus (db.book.orders.filter fun o => dateFilter.admits o.createdAt))
    { period := query.period.getD .thirtyDays
      grossRevenue := figures.grossRevenue
      netRevenue := figures.grossRevenue - refunds
      totalRefunds := refunds
      averageOrderValue :=
        if 0 < figures.successfulOrderCount then
          fixedTwo (figures.grossRevenue / 100 / figures.successfulOrderCount)
        else 0
      totalOrders := figures.totalOrders
      successfulOrders := figures.successfulOrderCount
      fulfillmentRate :=
        if 0 < figures.totalOrders then
          roundHalfUp 10 (figures.statusBreakdown .delivered / figures.totalOrders * 100)
        else 0
      statusBreakdown := figures.statusBreakdown }

/-! ## What the loop adds up -/

lemma orderFigures_grossRevenue (groups : List (OrderStatus × OrderGroup)) :
    (orderFigures groups).grossRevenue =
      (groups.map fun g => if g.1 ∈ PAID_ORDER_STATUSES then g.2.grandTotal else 0).sum := by
  have hfold := (Table.foldl_accumulates (P := fun _ => True) (f := OrderFigures.add)
    (v := OrderFigures.grossRevenue) (fun _ _ _ => ⟨trivial, rfl⟩) (s := .initial) trivial groups).2
  exact hfold.trans (zero_add _)

/-- The gross revenue is the grand totals of the orders with one of the four statuses. -/
lemma grossRevenue_eq_sum (orders : List Order) :
    (orderFigures (groupByStatus orders)).grossRevenue =
      (orders.map fun o => if o.status ∈ PAID_ORDER_STATUSES then o.grandTotal else 0).sum := by
  rw [orderFigures_grossRevenue]
  refine sum_groupByStatus (fun o group => ?_) orders
  cases group <;> by_cases ho : o.status ∈ PAID_ORDER_STATUSES <;> simp [OrderGroup.add, ho]

/-- Without a date filter both queries see every row. -/
lemma getExecutiveOverview_netRevenue {now startOfDay : ℤ} {requestedAt : ℕ → Millis}
    {query : DashboardPeriodQueryInput} (hrange : (resolveDateRange now startOfDay query).gte = none)
    (db : Database) :
    (getExecutiveOverview none now startOfDay requestedAt query db).netRevenue =
      (db.book.orders.map
        fun o => if o.status ∈ PAID_ORDER_STATUSES then o.grandTotal else 0).sum -
        ((db.ledger.refunds.filter fun r => r.status = .success).map Refund.amount).sum := by
  have hadmits := DateRange.admits_of_gte_eq_none hrange
  have hrefunds := totalRefunds_of_gte_eq_none hrange requestedAt db.ledger.refunds
  simp only [getExecutiveOverview, hadmits, List.filter_true, hrefunds, grossRevenue_eq_sum]

/-! ## What was earned -/

/-- An order that has been paid for: it is being fulfilled, or it was refunded in full since. -/
def isPaid (status : OrderStatus) : Bool :=
  status ∈ PAID_ORDER_STATUSES || status = .refunded

/-- The order that a refund belongs to, by way of its payment. -/
def orderOf (db : Database) (refund : Refund) : Option OrderId :=
  (db.ledger.payments[refund.paymentId]?).map Payment.orderId

def successfulRefunds (db : Database) : List Refund :=
  db.ledger.refunds.filter fun r => r.status = .success

/-- What was refunded on an order. -/
def refundedOn (db : Database) (id : OrderId) : Paise :=
  (((successfulRefunds db).filter fun r => orderOf db r = some id).map Refund.amount).sum

/-- What the store has earned: the grand totals of the orders that were paid for, less what was
refunded on each. -/
def earned (db : Database) : Paise :=
  (db.book.orders.zipIdx.map fun x =>
    if isPaid x.1.status then x.1.grandTotal - refundedOn db x.2 else 0).sum

/-- The grand totals of the orders that were refunded in full. -/
def refundedTotals (db : Database) : Paise :=
  (db.book.orders.map fun o => if o.status = .refunded then o.grandTotal else 0).sum

/-- A refund of a payment whose order was paid for. -/
def ofPaidOrder (db : Database) (refund : Refund) : Bool :=
  ((orderOf db refund).bind (db.book.orders[·]?)).any fun o => isPaid o.status

/-- What was refunded on orders that do not count as paid. -/
def strayRefunds (db : Database) : Paise :=
  ((successfulRefunds db).map fun r => if ofPaidOrder db r then 0 else r.amount).sum

section Earned

variable (db : Database)

/-- What was refunded on the orders that were paid for, refund by refund. -/
lemma sum_refundedOn :
    (db.book.orders.zipIdx.map fun x =>
        if isPaid x.1.status then refundedOn db x.2 else 0).sum =
      ((successfulRefunds db).map fun r => if ofPaidOrder db r then r.amount else 0).sum := by
  have hreferences := Table.sum_references db.book.orders (successfulRefunds db) (orderOf db)
    fun o r => if isPaid o.status then r.amount else 0
  have hrow : ∀ r : Refund, (((orderOf db r).bind (db.book.orders[·]?)).map
      fun o => if isPaid o.status then r.amount else 0).getD 0 =
        if ofPaidOrder db r then r.amount else 0 := by
    intro r
    unfold ofPaidOrder
    cases (orderOf db r).bind (db.book.orders[·]?) with
    | none => simp
    | some o => simp
  rw [List.map_congr_left fun r _ => hrow r] at hreferences
  rw [← hreferences]
  refine congrArg List.sum (List.map_congr_left fun x _ => ?_)
  by_cases hx : isPaid x.1.status
  · simp [hx, refundedOn]
  · simp [hx]

/-- The earnings, in the terms of the two queries and what they leave out of account. -/
lemma earned_eq :
    earned db =
      (db.book.orders.map
        fun o => if o.status ∈ PAID_ORDER_STATUSES then o.grandTotal else 0).sum -
        ((successfulRefunds db).map Refund.amount).sum + (refundedTotals db + strayRefunds db) := by
  -- an order that was paid for has one of the four statuses, or it was refunded
  have horders : (db.book.orders.zipIdx.map fun x =>
      if isPaid x.1.status then x.1.grandTotal else 0).sum =
        (db.book.orders.map
          fun o => if o.status ∈ PAID_ORDER_STATUSES then o.grandTotal else 0).sum +
          refundedTotals db := by
    have hone : ∀ o : Order, (if isPaid o.status then o.grandTotal else 0) =
        (if o.status ∈ PAID_ORDER_STATUSES then o.grandTotal else 0) +
          if o.status = .refunded then o.grandTotal else 0 := by
      intro o
      cases hstatus : o.status <;> simp [isPaid, PAID_ORDER_STATUSES]
    rw [refundedTotals, ← List.sum_map_add, ← List.map_congr_left fun o _ => hone o]
    conv_rhs => rw [← List.zipIdx_map_fst 0 db.book.orders, List.map_map]
    rfl
  -- a refund is on an order that was paid for, or it is not
  have hrefunds : ((successfulRefunds db).map Refund.amount).sum =
      ((successfulRefunds db).map fun r => if ofPaidOrder db r then r.amount else 0).sum +
        strayRefunds db := by
    rw [strayRefunds, ← List.sum_map_add]
    refine congrArg List.sum (List.map_congr_left fun r _ => ?_)
    by_cases hr : ofPaidOrder db r <;> simp [hr]
  have hsplit : earned db + (db.book.orders.zipIdx.map fun x =>
        if isPaid x.1.status then refundedOn db x.2 else 0).sum =
      (db.book.orders.zipIdx.map fun x =>
        if isPaid x.1.status then x.1.grandTotal else 0).sum := by
    rw [earned, ← List.sum_map_add]
    refine congrArg List.sum (List.map_congr_left fun x _ => ?_)
    by_cases hx : isPaid x.1.status <;> simp [hx]
  rw [sum_refundedOn, horders] at hsplit
  rw [hrefunds]
  linarith

/-- **The overview reports the earnings** just if the orders that were refunded in full and the
refunds on orders that do not count as paid weigh nothing. -/
theorem netRevenue_eq_earned_iff {now startOfDay : ℤ} (requestedAt : ℕ → Millis)
    {query : DashboardPeriodQueryInput}
    (hrange : (resolveDateRange now startOfDay query).gte = none) :
    (getExecutiveOverview none now startOfDay requestedAt query db).netRevenue = earned db ↔
      refundedTotals db + strayRefunds db = 0 := by
  rw [getExecutiveOverview_netRevenue hrange, earned_eq, successfulRefunds]
  constructor
  · intro h
    linarith
  · intro h
    linarith

/-- With amounts as the services write them, each of these orders and refunds has to be of no
amount by itself. -/
lemma refundedTotals_add_strayRefunds_eq_zero_iff
    (horders : ∀ o ∈ db.book.orders, 0 ≤ o.grandTotal)
    (hrefunds : ∀ r ∈ db.ledger.refunds, 0 ≤ r.amount) :
    refundedTotals db + strayRefunds db = 0 ↔
      (∀ o ∈ db.book.orders, o.status = .refunded → o.grandTotal = 0) ∧
        ∀ r ∈ successfulRefunds db, ¬ofPaidOrder db r → r.amount = 0 := by
  have htotals : ∀ x ∈ db.book.orders.map
      fun o => if o.status = .refunded then o.grandTotal else 0, 0 ≤ x := by
    intro x hx
    obtain ⟨o, ho, rfl⟩ := List.mem_map.mp hx
    split
    · exact horders o ho
    · exact le_rfl
  have hstray : ∀ x ∈ (successfulRefunds db).map
      fun r => if ofPaidOrder db r then 0 else r.amount, 0 ≤ x := by
    intro x hx
    obtain ⟨r, hr, rfl⟩ := List.mem_map.mp hx
    split
    · exact le_rfl
    · exact hrefunds r (List.mem_of_mem_filter hr)
  have hzero : ∀ {l : List Paise}, (∀ x ∈ l, 0 ≤ x) → (l.sum = 0 ↔ ∀ x ∈ l, x = 0) :=
    fun hl => ⟨fun h _ => List.all_zero_of_le_zero_le_of_sum_eq_zero hl h, List.sum_eq_zero⟩
  rw [refundedTotals, strayRefunds,
    add_eq_zero_iff_of_nonneg (List.sum_nonneg htotals) (List.sum_nonneg hstray), hzero htotals,
    hzero hstray]
  simp only [List.forall_mem_map, ite_eq_right_iff, ite_eq_left_iff]

/-- **A full refund counts twice**: the net revenue falls by the refund, and by the grand total of
the order besides. -/
theorem netRevenue_processRefund {now startOfDay : ℤ} (requestedAt : ℕ → Millis)
    {query : DashboardPeriodQueryInput}
    (hrange : (resolveDateRange now startOfDay query).gte = none) {db db' : Database}
    {payment : Row Payment} {status : OrderStatus} {attempt : Option ℕ} {amount : Paise}
    (happ : (Commit.processRefund payment status attempt amount).apply db = some db') {o : Order}
    (horder : db.book.orders[payment.val.orderId]? = some o)
    (hpaid : o.status ∈ PAID_ORDER_STATUSES) :
    (getExecutiveOverview none now startOfDay requestedAt query db').netRevenue =
      (getExecutiveOverview none now startOfDay requestedAt query db).netRevenue - amount -
        if Commit.isFullyRefunded payment amount then o.grandTotal else 0 := by
  obtain rfl := Option.some.inj happ
  rw [getExecutiveOverview_netRevenue hrange, getExecutiveOverview_netRevenue hrange]
  have hrefunds : ((Commit.refundedLedger db.ledger payment attempt amount).refunds.filter
      fun r => r.status = .success) =
        (db.ledger.refunds.filter fun r => r.status = .success) ++ [⟨payment.id, amount, .success⟩] :=
    List.filter_append ..
  rw [hrefunds, List.map_append, List.sum_append, List.map_singleton, List.sum_singleton]
  by_cases hfull : Commit.isFullyRefunded payment amount
  · have hmodify := Table.sum_map_modify (fun order : Order => { order with status := .refunded })
      (fun o => if o.status ∈ PAID_ORDER_STATUSES then o.grandTotal else 0) horder
    rw [if_pos hpaid, if_neg (show OrderStatus.refunded ∉ PAID_ORDER_STATUSES by decide)]
      at hmodify
    simp only [if_pos hfull, OrderBook.changeStatus, hmodify]
    ring
  · simp only [if_neg hfull]
    ring

end Earned

/-- The store after its only payment was refunded. -/
def refundedStore : Database := ((processRefund ⟨0, none⟩ 0).perform Commit.apply paidStore).2

/-- An order of 100 rupees that was refunded in full has earned nothing, and is reported as a loss
of 100 rupees. -/
theorem full_refund_reported_as_loss :
    ¬∀ (now startOfDay : ℤ) (requestedAt : ℕ → Millis) (query : DashboardPeriodQueryInput)
      (db : Database), (resolveDateRange now startOfDay query).gte = none →
        (getExecutiveOverview none now startOfDay requestedAt query db).netRevenue = earned db := by
  intro h
  have hall := h 0 0 (fun _ => 0) ⟨some .all, none, none⟩ refundedStore rfl
  rw [getExecutiveOverview_netRevenue rfl] at hall
  exact absurd hall (by decide +kernel)

/-- A refund of 60 of the 100 rupees is reported as it is. -/
theorem netRevenue_eq_earned_of_partial :
    let db := ((processRefund ⟨0, some 60⟩ 0).perform Commit.apply paidStore).2
    (getExecutiveOverview none 0 0 (fun _ => 0) ⟨some .all, none, none⟩ db).netRevenue =
      earned db :=
  (netRevenue_eq_earned_iff _ (fun _ => 0) rfl).mpr (by decide +kernel)

end MeeoServer.Dashboard
