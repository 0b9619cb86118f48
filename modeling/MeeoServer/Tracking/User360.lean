/-
# The view of a customer

`tracking/services/user360.service.ts`: what is known about a customer, for the customer and for
the staff, each as far as the permissions go, and the log of the events in pages.

A row of the audit log is written beside the answer, whose arrival nobody waits for.  The scores of
the interests are rationals.
-/
import MeeoServer.Auth.Accounts
import MeeoServer.Numeric.Fixed
import MeeoServer.Process.Lockstep
import MeeoServer.Schema.Database
import MeeoServer.Table.Paging
import MeeoServer.Tracking.Aggregation

namespace MeeoServer.Tracking.User360

open Proc

/-! ## Permissions -/

namespace PERMISSIONS

def SYSTEM_MANAGE : String := "system:manage"
def USER_360_VIEW : String := "user_360:view"
def USER_COMMERCE_VIEW : String := "user_commerce:view"
def USER_BEHAVIOR_VIEW : String := "user_behavior:view"
def USER_INSIGHTS_VIEW : String := "user_insights:view"
def USER_ACTIVITY_VIEW : String := "user_activity:view"

end PERMISSIONS

structure RequesterAuthContext where
  userId : UserId
  permissions : List String

namespace RequesterAuthContext

variable (requester : RequesterAuthContext)

def isSelf (targetUserId : UserId) : Bool := requester.userId = targetUserId

/-- `isSelf || hasFullAccess || grantedPermissions.has(permission)` -/
def unlocks (permission : String) (targetUserId : UserId) : Bool :=
  requester.isSelf targetUserId || requester.permissions.contains PERMISSIONS.SYSTEM_MANAGE ||
    requester.permissions.contains permission

end RequesterAuthContext

/-! ## The tables -/

structure UserRow where
  id : UserId
  firstName : Option String
  lastName : Option String
  email : Option String
  phone : Option String
  status : UserStatus
  createdAt : Instant
  lastLoginAt : Option Instant
deriving DecidableEq

structure InterestRow where
  userId : UserId
  type : UserInterestType
  entityId : String
  score : ℚ
  viewCount : ℕ
  cartCount : ℕ
  purchaseCount : ℕ
deriving DecidableEq

structure OrderRow where
  id : ℕ
  userId : Option UserId
  orderNumber : String
  status : OrderStatus
  grandTotal : ℚ
  createdAt : Instant
  /-- The quantities of the items. -/
  quantities : List ℕ
deriving DecidableEq

structure EventRow extends UserEvent where
  id : ℕ
  metadata : Option String
deriving DecidableEq

structure AuditLog where
  actorId : UserId
  action : String
  entityType : String
  entityId : UserId
deriving DecidableEq

structure Database where
  users : List UserRow
  summaries : UserId → Option UserBehaviorSummary
  interests : List InterestRow
  orders : List OrderRow
  events : List EventRow

namespace Database

variable (s : Database) (userId : UserId)

def user : Option UserRow := s.users.find? fun row => row.id = userId

def interestsOf : List InterestRow :=
  Table.descending InterestRow.score (s.interests.filter fun row => row.userId = userId)

def ordersOf : List OrderRow :=
  Table.descending OrderRow.createdAt (s.orders.filter fun row => row.userId = some userId)

/-- The events of a user, as they are in the table. -/
def log : List EventRow := s.events.filter fun row => row.userId = some userId

def eventsOf : List EventRow := Table.descending (fun row => row.createdAt) (s.log userId)

end Database

/-! ## Answers -/

structure CommerceMetrics where
  totalSpend : ℚ
  totalOrders : ℕ
  completedOrders : ℕ
  cancelledOrders : ℕ
  averageOrderValue : ℚ
  firstOrderAt : Option Instant
  lastOrderAt : Option Instant
deriving DecidableEq

structure RecentOrder where
  id : ℕ
  orderNumber : String
  status : OrderStatus
  grandTotal : ℚ
  itemCount : ℕ
  createdAt : Instant
deriving DecidableEq

structure FunnelMetrics where
  viewToCartPercent : ℚ
  cartToCheckoutPercent : ℚ
  checkoutToPurchasePercent : ℚ
  cartAbandonmentPercent : ℚ
deriving DecidableEq

structure Insights where
  funnel : Option FunnelMetrics
  topInterests : List InterestRow
deriving DecidableEq

structure ActivityLine where
  id : ℕ
  event : UserEventType
  entityType : Option String
  entityId : Option String
  createdAt : Instant
deriving DecidableEq

structure User360Response where
  profile : UserRow
  commerce : Option CommerceMetrics
  /-- The field may be missing, and it may be `null`. -/
  behavior : Option (Option UserBehaviorSummary)
  insights : Option Insights
  recentOrders : List RecentOrder
  recentActivity : List ActivityLine

/-- `orders` is sorted, the latest first. -/
def commerceMetrics (orders : List OrderRow) : CommerceMetrics :=
  let completedOrders := orders.filter fun o =>
    o.status = .delivered ∨ o.status = .confirmed ∨ o.status = .processing ∨ o.status = .shipped
  let cancelledOrders := orders.filter fun o => o.status = .cancelled
  let totalSpend := (completedOrders.map OrderRow.grandTotal).sum
  { totalSpend := fixedTwo totalSpend
    totalOrders := orders.length
    completedOrders := completedOrders.length
    cancelledOrders := cancelledOrders.length
    averageOrderValue :=
      if 0 < completedOrders.length then fixedTwo (totalSpend / completedOrders.length) else 0
    firstOrderAt := orders.getLast?.map OrderRow.createdAt
    lastOrderAt := orders.head?.map OrderRow.createdAt }

def recentOrder (o : OrderRow) : RecentOrder :=
  ⟨o.id, o.orderNumber, o.status, o.grandTotal, o.quantities.sum, o.createdAt⟩

def percent (part whole : ℕ) : ℚ := if 0 < whole then fixedTwo ((part / whole : ℚ) * 100) else 0

/-- Funnel calculations (safe zero-denominator handling). -/
def funnelMetrics (summary : UserBehaviorSummary) : FunnelMetrics :=
  let views := summary.counters .productViews
  let carts := summary.counters .cartAdds
  let checkouts := summary.counters .checkoutStarted
  let purchases := summary.counters .paymentSuccess
  { viewToCartPercent := percent carts views
    cartToCheckoutPercent := percent checkouts carts
    checkoutToPurchasePercent := percent purchases checkouts
    cartAbandonmentPercent :=
      if 0 < carts then fixedTwo (max 0 (1 - checkouts / carts : ℚ) * 100) else 0 }

def activityLine (row : EventRow) : ActivityLine :=
  ⟨row.id, row.event, row.entityType, row.entityId, row.createdAt⟩

structure ActivityPage where
  items : List EventRow
  nextCursor : Option ℕ
  hasNextPage : Bool
deriving DecidableEq

/-! ## The services -/

abbrev Service := Proc Database AuditLog AppError

/-- A look at the database, if it is permitted. -/
def lookIf {α : Type} (permitted : Bool) (look : Database → α) : Service (Option α) :=
  if permitted then do
    let s ← Proc.read
    pure (some (look s))
  else pure none

/-- Builds the comprehensive 360 view of a customer. -/
def getUser360 (targetUserId : UserId) (requester : RequesterAuthContext) :
    Service User360Response := do
  if !requester.unlocks PERMISSIONS.USER_360_VIEW targetUserId then
    throw ⟨"Forbidden: insufficient permissions to view User 360", 403⟩
  else do
    let s ← Proc.read
    match s.user targetUserId with
    | none => throw ⟨"User not found", 404⟩
    | some user => do
      let behaviorSummary ← lookIf (requester.unlocks PERMISSIONS.USER_BEHAVIOR_VIEW targetUserId)
        fun s => s.summaries targetUserId
      let topInterests ← lookIf (requester.unlocks PERMISSIONS.USER_INSIGHTS_VIEW targetUserId)
        fun s => (s.interestsOf targetUserId).take 5
      let orders ← lookIf (requester.unlocks PERMISSIONS.USER_COMMERCE_VIEW targetUserId)
        fun s => s.ordersOf targetUserId
      let s ← Proc.read
      let recentActivity := ((s.eventsOf targetUserId).take 10).map activityLine
      -- the log is written without blocking
      (if requester.isSelf targetUserId then pure () else
        Proc.attempt ⟨requester.userId, "USER_360_VIEWED", "USER", targetUserId⟩ : Service Unit)
      pure
        { profile := user
          commerce := orders.map commerceMetrics
          behavior := behaviorSummary
          insights := topInterests.map fun topInterests =>
            ⟨behaviorSummary.join.map funnelMetrics, topInterests⟩
          recentOrders := ((orders.getD []).take 5).map recentOrder
          recentActivity := recentActivity }

/-- One page of the events of a user. -/
def activityPage (targetUserId : UserId) (cursor : Option ℕ) (limit : ℕ) (s : Database) :
    ActivityPage :=
  let events := (Table.after EventRow.id cursor (s.eventsOf targetUserId)).take (limit + 1)
  let hasNextPage := decide (limit < events.length)
  let items := if hasNextPage then events.take limit else events
  { items := items
    nextCursor := if hasNextPage then items.getLast?.map EventRow.id else none
    hasNextPage := hasNextPage }

/-- Paginated cursor-based retrieval of raw customer activity logs. -/
def getUserActivity (targetUserId : UserId) (cursor : Option ℕ) (limit : ℕ)
    (requester : Option RequesterAuthContext) : Service ActivityPage := do
  if requester.any fun requester =>
      !requester.unlocks PERMISSIONS.USER_ACTIVITY_VIEW targetUserId &&
        !requester.unlocks PERMISSIONS.USER_360_VIEW targetUserId then
    throw ⟨"Forbidden: insufficient permissions to view activity", 403⟩
  else do
    let s ← Proc.read
    pure (activityPage targetUserId cursor limit s)

inductive Request where
  | user360 (targetUserId : UserId)
  | activity (targetUserId : UserId) (cursor : Option ℕ) (limit : ℕ)

inductive Answer where
  | user360 (view : User360Response)
  | activity (page : ActivityPage)

def Request.serve (requester : RequesterAuthContext) : Request → Service Answer
  | .user360 targetUserId => Answer.user360 <$> getUser360 targetUserId requester
  | .activity targetUserId cursor limit =>
    Answer.activity <$> getUserActivity targetUserId cursor limit (some requester)

/-! ## Who may learn what -/

/-- Two databases that differ in nothing the requester may see. -/
structure Alike (requester : RequesterAuthContext) (s s' : Database) : Prop where
  user : ∀ t, requester.unlocks PERMISSIONS.USER_360_VIEW t = true → s.user t = s'.user t
  summary : ∀ t, requester.unlocks PERMISSIONS.USER_360_VIEW t = true →
    requester.unlocks PERMISSIONS.USER_BEHAVIOR_VIEW t = true → s.summaries t = s'.summaries t
  interests : ∀ t, requester.unlocks PERMISSIONS.USER_360_VIEW t = true →
    requester.unlocks PERMISSIONS.USER_INSIGHTS_VIEW t = true →
      s.interestsOf t = s'.interestsOf t
  orders : ∀ t, requester.unlocks PERMISSIONS.USER_360_VIEW t = true →
    requester.unlocks PERMISSIONS.USER_COMMERCE_VIEW t = true → s.ordersOf t = s'.ordersOf t
  events : ∀ t, requester.unlocks PERMISSIONS.USER_360_VIEW t = true ∨
    requester.unlocks PERMISSIONS.USER_ACTIVITY_VIEW t = true → s.eventsOf t = s'.eventsOf t

section Confidential

variable {requester : RequesterAuthContext}

lemma lookIf_lockstep {α : Type} {permitted : Bool} {look : Database → α}
    (h : permitted = true → ∀ s s', Alike requester s s' → look s = look s') :
    Lockstep (Alike requester) (lookIf permitted look) (lookIf permitted look) := by
  unfold lookIf
  split
  · rename_i hpermitted
    refine lockstep_read fun s s' hs => ?_
    rw [h hpermitted s s' hs]
    exact lockstep_pure _
  · exact lockstep_pure _

lemma getUser360_lockstep (t : UserId) :
    Lockstep (Alike requester) (getUser360 t requester) (getUser360 t requester) := by
  unfold getUser360
  split
  · exact lockstep_throw _
  · rename_i hgate
    have hview : requester.unlocks PERMISSIONS.USER_360_VIEW t = true := by simpa using hgate
    refine lockstep_read fun s s' hs => ?_
    rw [hs.user t hview]
    cases s'.user t with
    | none => exact lockstep_throw _
    | some user =>
      refine Lockstep.bind (lookIf_lockstep fun hp _ _ h => h.summary t hview hp) fun summary => ?_
      refine Lockstep.bind (lookIf_lockstep fun hp _ _ h => ?_) fun topInterests => ?_
      · rw [h.interests t hview hp]
      refine Lockstep.bind (lookIf_lockstep fun hp _ _ h => h.orders t hview hp) fun orders => ?_
      refine lockstep_read fun s s' hs => ?_
      rw [hs.events t (Or.inl hview)]
      refine Lockstep.bind ?_ fun _ => lockstep_pure _
      split
      · exact lockstep_pure _
      · exact lockstep_attempt _

lemma getUserActivity_lockstep (t : UserId) (cursor : Option ℕ) (limit : ℕ) :
    Lockstep (Alike requester) (getUserActivity t cursor limit (some requester))
      (getUserActivity t cursor limit (some requester)) := by
  unfold getUserActivity
  split
  · exact lockstep_throw _
  · rename_i hgate
    have hview : requester.unlocks PERMISSIONS.USER_360_VIEW t = true ∨
        requester.unlocks PERMISSIONS.USER_ACTIVITY_VIEW t = true := by
      by_contra hnone
      rw [not_or] at hnone
      exact hgate (by simp [hnone.1, hnone.2])
    refine lockstep_read fun s s' hs => ?_
    have hpage : activityPage t cursor limit s = activityPage t cursor limit s' := by
      unfold activityPage
      rw [hs.events t hview]
    rw [hpage]
    exact lockstep_pure _

lemma serve_lockstep (r : Request) :
    Lockstep (Alike requester) (r.serve requester) (r.serve requester) := by
  cases r with
  | user360 t => exact (getUser360_lockstep t).bind fun _ => lockstep_pure _
  | activity t cursor limit =>
    exact (getUserActivity_lockstep t cursor limit).bind fun _ => lockstep_pure _

/-- **Permissions confine what a requester learns.**  The requester makes any requests, each by what
was seen so far, while the rest of the world changes the database in any way between two statements.
If at each statement the database is replaced by one that differs in nothing the requester may see,
the requester gets the same answers and leaves the same rows in the audit log. -/
theorem permissions_confine (requester : RequesterAuthContext)
    (ask : List (Request × Except AppError Answer) → Request) (n : ℕ)
    {looks looks' : List (Option Database)}
    (hlooks : List.Forall₂ (Option.Rel (Alike requester)) looks looks') :
    (session (Request.serve requester) ask n []).feed looks =
      (session (Request.serve requester) ask n []).feed looks' :=
  (session_lockstep serve_lockstep ask n []).feed_eq hlooks

/-- A customer who has seen `views` lamps. -/
def lampViewer (views : ℕ) : Database where
  users := [⟨1, none, none, none, none, .active, 0, none⟩]
  summaries userId := if userId = 1 then some ⟨fun _ => views, none, none, none⟩ else none
  interests := []
  orders := []
  events := []

/-- A member of the staff who may see the insights, but not the behaviour. -/
def analyst : RequesterAuthContext :=
  ⟨2, [PERMISSIONS.USER_360_VIEW, PERMISSIONS.USER_INSIGHTS_VIEW]⟩

/-- The analyst gets an answer, and cannot tell how many lamps the customer has seen. -/
theorem permissions_confine_analyst :
    ((session (Request.serve analyst) (fun _ => .user360 1) 1 []).feed
        (List.replicate 4 (some (lampViewer 0)))).2.isSome = true ∧
      (session (Request.serve analyst) (fun _ => .user360 1) 1 []).feed
        (List.replicate 4 (some (lampViewer 0))) =
      (session (Request.serve analyst) (fun _ => .user360 1) 1 []).feed
        (List.replicate 4 (some (lampViewer 7))) := by
  have halike : Alike analyst (lampViewer 0) (lampViewer 7) := by
    refine ⟨fun _ _ => rfl, fun t _ hbehavior => ?_, fun _ _ _ => rfl, fun _ _ _ => rfl,
      fun _ _ => rfl⟩
    by_cases ht : t = 1
    · subst ht
      exact absurd hbehavior (by decide)
    · show (if t = 1 then _ else none) = if t = 1 then _ else none
      rw [if_neg ht, if_neg ht]
  have hlook : Option.Rel (Alike analyst) (some (lampViewer 0)) (some (lampViewer 7)) :=
    .some halike
  refine ⟨by decide +kernel, permissions_confine analyst (fun _ => .user360 1) 1 ?_⟩
  exact .cons hlook (.cons hlook (.cons hlook (.cons hlook .nil)))

end Confidential

/-! ## The log in pages -/

/-- A client reads the log page by page, each from the database as it is then. -/
def timeline (targetUserId : UserId) (limit : ℕ) : Option ℕ → List Database →
    Option (List EventRow)
  | _, [] => none
  | cursor, s :: later =>
    let page := activityPage targetUserId cursor limit s
    if page.hasNextPage then
      (timeline targetUserId limit page.nextCursor later).map (page.items ++ ·)
    else some page.items

/-- Events are recorded, or attributed to the user. -/
def Grows (targetUserId : UserId) (s s' : Database) : Prop :=
  (s.log targetUserId).Sublist (s'.log targetUserId)

section Timeline

variable {targetUserId : UserId} {limit : ℕ} {cursor : Option ℕ} {first last : Database}
  {later : List Database}

lemma eventsOf_sublist {s s' : Database} (h : Grows targetUserId s s') :
    (s.eventsOf targetUserId).Sublist (s'.eventsOf targetUserId) :=
  Table.descending_sublist _ h

/-- The pages are those of a walk. -/
lemma timeline_eq (dbs : List Database) : timeline targetUserId limit cursor dbs =
    Table.walk EventRow.id limit cursor (dbs.map fun s => s.eventsOf targetUserId) := by
  induction dbs generalizing cursor with
  | nil => rfl
  | cons s later ih =>
    rw [List.map_cons, Table.walk_cons]
    have htake : ((Table.after EventRow.id cursor (s.eventsOf targetUserId)).take
        (limit + 1)).take limit =
          (Table.after EventRow.id cursor (s.eventsOf targetUserId)).take limit := by
      rw [List.take_take, Nat.min_eq_left (Nat.le_succ limit)]
    unfold timeline
    by_cases hlong : limit < (Table.after EventRow.id cursor (s.eventsOf targetUserId)).length
    · have hmore : decide (limit < ((Table.after EventRow.id cursor (s.eventsOf targetUserId)).take
          (limit + 1)).length) = true := by
        rw [decide_eq_true_iff, List.length_take]
        omega
      rw [if_pos hlong]
      simp only [activityPage, hmore, htake, if_true, ih]
    · have hall : (Table.after EventRow.id cursor (s.eventsOf targetUserId)).take (limit + 1) =
          Table.after EventRow.id cursor (s.eventsOf targetUserId) :=
        List.take_of_length_le (by omega)
      rw [if_neg hlong]
      simp [activityPage, hall, hlong]

/-- An event of user 1. -/
def lampEvent (id : ℕ) (createdAt : Instant) : EventRow :=
  ⟨⟨some 1, .productViewed, none, none, createdAt⟩, id, none⟩

def loggedEvents (events : List EventRow) : Database := { lampViewer 0 with events := events }

end Timeline

end MeeoServer.Tracking.User360
