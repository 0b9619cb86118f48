/-
# Behaviour counters

A worker counts the events of the users: a summary for each user, and a score for each product,
category or brand that a user took an interest in.  A run takes the oldest events after a
watermark, at most as many as fit in a batch, adds what they come to to the counters, and then
moves the watermark to the last of them.

The watermark is kept in Redis.  While Redis does not answer it counts as the beginning of time,
and a watermark that Redis does not take is dropped in silence.
-/
import MeeoServer.Table.Grouping
import Mathlib.Algebra.GroupWithZero.Nat
import Mathlib.Algebra.Order.BigOperators.Group.List
import Mathlib.Algebra.Order.Group.Nat
import Mathlib.Algebra.Order.Pi
import Mathlib.Data.List.Sort

namespace MeeoServer.Tracking

/-- Milliseconds since 1970. -/
abbrev Instant := ℤ

abbrev UserId := ℕ

/-! ## Events -/

inductive UserEventType where
  | sessionStarted | sessionEnded
  | productViewed | productSearched | categoryViewed | filterUsed | sortUsed
  | wishlistAdded | wishlistRemoved
  | cartAdded | cartRemoved
  | checkoutStarted | paymentStarted | paymentFailed | paymentSuccess
  | orderCreated | orderCancelled | orderCompleted
  | reviewCreated | couponApplied | couponFailed
deriving DecidableEq

inductive UserInterestType where
  | category | brand | product
deriving DecidableEq

def UserInterestType.name : UserInterestType → String
  | category => "CATEGORY"
  | brand => "BRAND"
  | product => "PRODUCT"

/-- Somebody may not be known, or become known later. -/
structure UserEvent where
  userId : Option UserId
  event : UserEventType
  entityType : Option String
  entityId : Option String
  createdAt : Instant
deriving DecidableEq

/-- The counters of a summary. -/
inductive Counter where
  | productViews | searches | categoryViews
  | wishlistAdds | wishlistRemoves
  | cartAdds | cartRemoves
  | checkoutStarted | paymentStarted | paymentFailed | paymentSuccess
deriving DecidableEq

/-- The counters of an interest. -/
inductive InterestCounter where
  | score | viewCount | cartCount | purchaseCount
deriving DecidableEq

namespace UserEventType

/-- The counter that an event is counted in. -/
def counter : UserEventType → Option Counter
  | productViewed => some .productViews
  | productSearched => some .searches
  | categoryViewed => some .categoryViews
  | wishlistAdded => some .wishlistAdds
  | wishlistRemoved => some .wishlistRemoves
  | cartAdded => some .cartAdds
  | cartRemoved => some .cartRemoves
  | checkoutStarted => some .checkoutStarted
  | paymentStarted => some .paymentStarted
  | paymentFailed => some .paymentFailed
  | paymentSuccess | orderCompleted => some .paymentSuccess
  | _ => none

/-- `EVENT_INTEREST_WEIGHTS` -/
def interestWeight : UserEventType → Option ℕ
  | productViewed => some 1
  | productSearched => some 2
  | categoryViewed => some 2
  | wishlistAdded => some 3
  | cartAdded => some 5
  | checkoutStarted => some 7
  | orderCompleted => some 10
  | paymentSuccess => some 10
  | _ => none

/-- What an event adds to an interest. -/
def interest (event : UserEventType) : InterestCounter → ℕ
  | .score => event.interestWeight.getD 1
  | .viewCount => if event = productViewed ∨ event = categoryViewed then 1 else 0
  | .cartCount => if event = cartAdded then 1 else 0
  | .purchaseCount => if event = orderCompleted ∨ event = paymentSuccess then 1 else 0

end UserEventType

section Code

variable (toUpperCase : String → String)

/-- Maps the raw `entityType` to an interest type. -/
def resolveInterestType (entityType : Option String) : Option UserInterestType :=
  match entityType with
  | none => none
  | some entityType =>
    if entityType = "" then none
    else
      let normalized := toUpperCase entityType
      if normalized = "PRODUCT" then some .product
      else if normalized = "CATEGORY" then some .category
      else if normalized = "BRAND" then some .brand
      else none

/-- What an event is about, if its type and its identifier are known. -/
def UserEvent.entity (evt : UserEvent) : Option (UserInterestType × String) :=
  match resolveInterestType toUpperCase evt.entityType, evt.entityId with
  | some interestType, some entityId => if entityId = "" then none else some (interestType, entityId)
  | _, _ => none

/-! ## A batch of a user -/

/-- An entry of the interest map. -/
structure InterestDelta where
  type : UserInterestType
  entityId : String
  counts : InterestCounter → ℕ
  lastInteractionAt : Instant

/-- What a batch adds. -/
structure Deltas where
  counters : Counter → ℕ
  lastProductViewAt : Option Instant
  lastPurchaseAt : Option Instant
  lastActiveAt : Instant
  interestMap : List (String × InterestDelta)

/-- The later of a time that may not have been set, and a time. -/
def latest (t : Option Instant) (createdAt : Instant) : Option Instant :=
  match t with
  | none => some createdAt
  | some t => if t < createdAt then some createdAt else some t

def InterestDelta.add (evt : UserEvent) (current : InterestDelta) : InterestDelta where
  type := current.type
  entityId := current.entityId
  counts c := current.counts c + evt.event.interest c
  lastInteractionAt :=
    if current.lastInteractionAt < evt.createdAt then evt.createdAt else current.lastInteractionAt

/-- The key of an interest. -/
def interestKey (type : UserInterestType) (entityId : String) : String :=
  type.name ++ ":" ++ entityId

/-- The turn of an event. -/
def Deltas.count (d : Deltas) (evt : UserEvent) : Deltas where
  counters c := d.counters c + if evt.event.counter = some c then 1 else 0
  lastProductViewAt :=
    if evt.event.counter = some .productViews then latest d.lastProductViewAt evt.createdAt
    else d.lastProductViewAt
  lastPurchaseAt :=
    if evt.event.counter = some .paymentSuccess then latest d.lastPurchaseAt evt.createdAt
    else d.lastPurchaseAt
  lastActiveAt := if d.lastActiveAt < evt.createdAt then evt.createdAt else d.lastActiveAt
  interestMap :=
    match evt.entity toUpperCase with
    | none => d.interestMap
    | some (type, entityId) =>
      Table.adjust (interestKey type entityId)
        (fun current => (current.getD ⟨type, entityId, fun _ => 0, evt.createdAt⟩).add evt)
        d.interestMap

/-- An upsert. -/
inductive Write where
  | summary (userId : UserId) (deltas : Deltas)
  | interest (userId : UserId) (interest : InterestDelta)

/-- Aggregates event counters and interest scores for a single user batch: the upserts, in their
order. -/
def aggregateUserBatch (userId : UserId) (events : List UserEvent) : List Write :=
  match events with
  | [] => []
  | first :: rest =>
    let deltas := (first :: rest).foldl (Deltas.count toUpperCase)
      ⟨fun _ => 0, none, none, first.createdAt, []⟩
    .summary userId deltas :: deltas.interestMap.map fun entry => .interest userId entry.2

/-! ## The tables -/

structure UserBehaviorSummary where
  counters : Counter → ℕ
  lastActiveAt : Option Instant
  lastProductViewAt : Option Instant
  lastPurchaseAt : Option Instant

structure UserInterest where
  counts : InterestCounter → ℕ
  lastInteractionAt : Option Instant

/-- The tables of the counters by their unique keys, and the watermark in Redis. -/
structure Store where
  summaries : UserId → Option UserBehaviorSummary
  interests : UserId × UserInterestType × String → Option UserInterest
  watermark : Option Instant

namespace Store

/-- Nothing has been counted. -/
def empty : Store := ⟨fun _ => none, fun _ => none, none⟩

variable (s : Store)

def write : Write → Store
  | .summary userId d =>
    { s with summaries := Function.update s.summaries userId <| some <|
        match s.summaries userId with
        | none => ⟨d.counters, some d.lastActiveAt, d.lastProductViewAt, d.lastPurchaseAt⟩
        | some row =>
          ⟨fun c => row.counters c + d.counters c, some d.lastActiveAt,
            d.lastProductViewAt.or row.lastProductViewAt, d.lastPurchaseAt.or row.lastPurchaseAt⟩ }
  | .interest userId i =>
    { s with interests := Function.update s.interests (userId, i.type, i.entityId) <| some <|
        match s.interests (userId, i.type, i.entityId) with
        | none => ⟨i.counts, some i.lastInteractionAt⟩
        | some row => ⟨fun c => row.counts c + i.counts c, some i.lastInteractionAt⟩ }

/-- `readable` says whether Redis answers. -/
def getWatermark (readable : Bool) : Instant := if readable then s.watermark.getD 0 else 0

/-- `saved` says whether Redis takes the watermark. -/
def setWatermark (saved : Bool) (timestamp : Instant) : Store :=
  if saved then { s with watermark := some timestamp } else s

end Store

/-! ## A run -/

/-- What the worker does not decide in a run: whether Redis answers, which events the query
returns and which it leaves out, how many upserts are done if one then fails, and whether Redis
takes the watermark. -/
structure Attempt where
  readable : Bool
  events : List UserEvent
  left : List UserEvent
  failsAfter : Option ℕ
  saved : Bool

structure BatchResult where
  processedCount : ℕ
  affectedUsers : ℕ
deriving DecidableEq

/-- The events of a batch by their users. -/
def userEventsMap (events : List UserEvent) : List (UserId × List UserEvent) :=
  events.foldl (fun m evt =>
    match evt.userId with
    | none => m
    | some userId => Table.adjust userId (fun existing => existing.getD [] ++ [evt]) m) []

namespace Attempt

variable (a : Attempt)

/-- The upserts of the run. -/
def writes : List Write :=
  (userEventsMap a.events).flatMap fun entry => aggregateUserBatch toUpperCase entry.1 entry.2

/-- Those that are done. -/
def done : List Write :=
  match a.failsAfter with
  | none => a.writes toUpperCase
  | some n => (a.writes toUpperCase).take n

/-- The answer of the query: the oldest of the events after the watermark, events of the same time
in any order. -/
structure Answers (all : List UserEvent) (batchSize : ℕ) (s : Store) : Prop where
  perm : (a.events ++ a.left).Perm
    (all.filter fun evt => s.getWatermark a.readable < evt.createdAt ∧ evt.userId.isSome)
  sorted : (a.events ++ a.left).Pairwise fun e e' => e.createdAt ≤ e'.createdAt
  take : a.events = (a.events ++ a.left).take batchSize

end Attempt

/-- Processes a batch of raw user events; `none` if an upsert fails. -/
def processBatch (a : Attempt) (s : Store) : Store × Option BatchResult :=
  match a.events.getLast? with
  | none => (s, some ⟨0, 0⟩)
  | some last =>
    let t := (a.done toUpperCase).foldl Store.write s
    match a.failsAfter with
    | none =>
      (t.setWatermark a.saved last.createdAt,
        some ⟨a.events.length, (userEventsMap a.events).length⟩)
    | some _ => (t, none)

end Code

/-! ## Counting each event once -/

/-- All counters of all users. -/
inductive CounterKey where
  | summary (userId : UserId) (counter : Counter)
  | interest (userId : UserId) (type : UserInterestType) (entityId : String)
      (counter : InterestCounter)
deriving DecidableEq

/-- Amounts of the counters of a summary. -/
def summaryAmount (userId : UserId) (counts : Counter → ℕ) : CounterKey → ℕ
  | .summary u c => if u = userId then counts c else 0
  | .interest .. => 0

/-- Amounts of the counters of an interest. -/
def interestAmount (userId : UserId) (type : UserInterestType) (entityId : String)
    (counts : InterestCounter → ℕ) : CounterKey → ℕ
  | .summary .. => 0
  | .interest u t x c => if (u, t, x) = (userId, type, entityId) then counts c else 0

/-- A counter of a row that does not exist is zero. -/
def Store.counter (s : Store) : CounterKey → ℕ
  | .summary userId c => (s.summaries userId).elim 0 fun row => row.counters c
  | .interest userId type entityId c =>
    (s.interests (userId, type, entityId)).elim 0 fun row => row.counts c

/-- What an upsert adds to the counters. -/
def Write.amount : Write → CounterKey → ℕ
  | .summary userId d => summaryAmount userId d.counters
  | .interest userId i => interestAmount userId i.type i.entityId i.counts

section Spec

variable (toUpperCase : String → String)

/-- What an event of a user comes to: it counts in its counter, and with its interest in what it is
about. -/
def UserEvent.amountFor (evt : UserEvent) (userId : UserId) : CounterKey → ℕ :=
  summaryAmount userId (fun c => if evt.event.counter = some c then 1 else 0) +
    (evt.entity toUpperCase).elim 0 fun (type, entityId) =>
      interestAmount userId type entityId evt.event.interest

/-- An event of nobody does not count. -/
def UserEvent.amount (evt : UserEvent) : CounterKey → ℕ := evt.userId.elim 0 (evt.amountFor toUpperCase)

/-- The counters if each event has been counted once. -/
def total (events : List UserEvent) : CounterKey → ℕ :=
  (events.map (UserEvent.amount toUpperCase)).sum

end Spec

section Amounts

variable {userId : UserId} {type : UserInterestType} {entityId : String}

lemma summaryAmount_add (f g : Counter → ℕ) :
    summaryAmount userId (fun c => f c + g c) = summaryAmount userId f + summaryAmount userId g := by
  funext key
  cases key with
  | summary u c =>
    show (if u = userId then f c + g c else 0) =
      (if u = userId then f c else 0) + if u = userId then g c else 0
    split_ifs <;> rfl
  | interest => rfl

lemma interestAmount_add (f g : InterestCounter → ℕ) :
    interestAmount userId type entityId (fun c => f c + g c) =
      interestAmount userId type entityId f + interestAmount userId type entityId g := by
  funext key
  cases key with
  | summary => rfl
  | interest u t x c =>
    unfold interestAmount
    rw [Pi.add_apply]
    dsimp only
    split_ifs <;> rfl

lemma summaryAmount_zero : summaryAmount userId (fun _ => 0) = 0 := by
  funext key
  cases key with
  | summary u c => exact ite_self _
  | interest => rfl

lemma interestAmount_zero : interestAmount userId type entityId (fun _ => 0) = 0 := by
  funext key
  cases key with
  | summary => rfl
  | interest u t x c => exact ite_self _

/-- An upsert adds its amount. -/
lemma Store.counter_write (s : Store) (w : Write) : (s.write w).counter = s.counter + w.amount := by
  funext key
  cases w with
  | summary userId d =>
    cases key with
    | summary u c =>
      show ((Function.update s.summaries userId _) u).elim 0 _ =
        (s.summaries u).elim 0 _ + if u = userId then d.counters c else 0
      by_cases hu : u = userId
      · subst hu
        rw [Function.update_self, if_pos rfl]
        cases s.summaries u with
        | none => exact (Nat.zero_add _).symm
        | some row => rfl
      · rw [Function.update_of_ne hu, if_neg hu, Nat.add_zero]
    | interest => rfl
  | interest userId i =>
    cases key with
    | summary => rfl
    | interest u t x c =>
      show ((Function.update s.interests (userId, i.type, i.entityId) _) (u, t, x)).elim 0 _ =
        (s.interests (u, t, x)).elim 0 _ +
          if (u, t, x) = (userId, i.type, i.entityId) then i.counts c else 0
      by_cases hu : (u, t, x) = (userId, i.type, i.entityId)
      · rw [hu, Function.update_self, if_pos rfl]
        cases s.interests (userId, i.type, i.entityId) with
        | none => exact (Nat.zero_add _).symm
        | some row => rfl
      · rw [Function.update_of_ne hu, if_neg hu, Nat.add_zero]

lemma Store.watermark_foldl_write (writes : List Write) (s : Store) :
    (writes.foldl Store.write s).watermark = s.watermark := by
  refine List.foldlRecOn (motive := fun s' : Store => s'.watermark = s.watermark) writes _ rfl
    fun s' hs' w _ => ?_
  rw [← hs']
  cases w <;> rfl

lemma Store.counter_foldl_write (writes : List Write) (s : Store) :
    (writes.foldl Store.write s).counter = s.counter + (writes.map Write.amount).sum :=
  (Table.foldl_accumulates (P := fun _ => True) (fun s w _ => ⟨trivial, s.counter_write w⟩) trivial
    writes).2

end Amounts

/-! ## What a batch adds -/

section Batch

variable (toUpperCase : String → String)

/-- The key of an interest says what it is about. -/
lemma interestKey_inj {type type' : UserInterestType} {entityId entityId' : String}
    (h : interestKey type entityId = interestKey type' entityId') :
    type = type' ∧ entityId = entityId' := by
  have hlist := congrArg String.toList h
  unfold interestKey at hlist
  rw [String.toList_append, String.toList_append, String.toList_append, String.toList_append]
    at hlist
  have htype : type = type' := by
    cases type <;> cases type' <;> first | rfl | exact absurd (List.cons.inj hlist).1 (by decide)
  subst htype
  exact ⟨rfl, String.toList_inj.mp (List.append_cancel_left hlist)⟩

/-- Each interest is under its key. -/
def Deltas.Keyed (d : Deltas) : Prop :=
  ∀ entry ∈ d.interestMap, entry.1 = interestKey entry.2.type entry.2.entityId

/-- What has been counted so far. -/
def Deltas.amount (d : Deltas) (userId : UserId) : CounterKey → ℕ :=
  summaryAmount userId d.counters +
    (d.interestMap.map fun entry => (Write.interest userId entry.2).amount).sum

/-- The turn of an event adds what the event comes to. -/
lemma Deltas.amount_count (userId : UserId) {d : Deltas} (hd : d.Keyed) (evt : UserEvent) :
    (d.count toUpperCase evt).Keyed ∧
      (d.count toUpperCase evt).amount userId =
        d.amount userId + evt.amountFor toUpperCase userId := by
  unfold Deltas.Keyed Deltas.amount UserEvent.amountFor Deltas.count
  dsimp only
  rw [summaryAmount_add]
  cases evt.entity toUpperCase with
  | none =>
    refine ⟨hd, ?_⟩
    dsimp only [Option.elim_none]
    rw [add_zero, add_right_comm]
  | some entity =>
    obtain ⟨type, entityId⟩ := entity
    dsimp only [Option.elim_some]
    -- what is found under the key is about the same thing
    have hsame : ∀ o : Option InterestDelta,
        (∀ i ∈ o, interestKey type entityId = interestKey i.type i.entityId) →
        (o.getD ⟨type, entityId, fun _ => 0, evt.createdAt⟩).type = type ∧
          (o.getD ⟨type, entityId, fun _ => 0, evt.createdAt⟩).entityId = entityId := by
      intro o ho
      cases o with
      | none => exact ⟨rfl, rfl⟩
      | some i =>
        obtain ⟨ht, hx⟩ := interestKey_inj (ho i rfl)
        exact ⟨ht.symm, hx.symm⟩
    constructor
    · refine Table.forall_adjust hd fun o ho => ?_
      obtain ⟨ht, hx⟩ := hsame o ho
      show _ = interestKey (o.getD _).type (o.getD _).entityId
      rw [ht, hx]
    · rw [Table.sum_adjust (w := interestAmount userId type entityId evt.event.interest) hd
        fun o ho => ?_, add_add_add_comm]
      obtain ⟨ht, hx⟩ := hsame o ho
      show interestAmount userId (o.getD _).type (o.getD _).entityId
        (fun c => (o.getD _).counts c + evt.event.interest c) = _
      rw [ht, hx, interestAmount_add]
      cases o with
      | none =>
        show interestAmount userId type entityId (fun _ => 0) + _ = 0 + _
        rw [interestAmount_zero]
      | some i =>
        show _ = interestAmount userId i.type i.entityId i.counts + _
        rw [← ht, ← hx]
        rfl

/-- A batch of a user adds what its events come to. -/
lemma sum_aggregateUserBatch (userId : UserId) (events : List UserEvent) :
    ((aggregateUserBatch toUpperCase userId events).map Write.amount).sum =
      (events.map fun evt => evt.amountFor toUpperCase userId).sum := by
  cases events with
  | nil => rfl
  | cons first rest =>
    have hkeyed : (⟨fun _ => 0, none, none, first.createdAt, []⟩ : Deltas).Keyed := by
      intro entry hentry
      exact absurd hentry List.not_mem_nil
    obtain ⟨-, hamount⟩ := Table.foldl_accumulates (v := fun d => d.amount userId)
      (fun d evt hd => d.amount_count toUpperCase userId hd evt) hkeyed (first :: rest)
    have hstart : (⟨fun _ => 0, none, none, first.createdAt, []⟩ : Deltas).amount userId = 0 := by
      unfold Deltas.amount
      rw [summaryAmount_zero]
      rfl
    rw [hstart, zero_add] at hamount
    rw [← hamount]
    unfold aggregateUserBatch Deltas.amount
    rw [List.map_cons, List.sum_cons, List.map_map]
    rfl

/-- A run whose upserts are all done adds what its events come to. -/
lemma sum_writes (a : Attempt) :
    ((a.writes toUpperCase).map Write.amount).sum = total toUpperCase a.events := by
  have hflat : ∀ m : List (UserId × List UserEvent),
      ((m.flatMap fun entry => aggregateUserBatch toUpperCase entry.1 entry.2).map
        Write.amount).sum =
        (m.map fun entry => (entry.2.map fun evt => evt.amountFor toUpperCase entry.1).sum).sum := by
    intro m
    induction m with
    | nil => rfl
    | cons entry m ih =>
      rw [List.flatMap_cons, List.map_append, List.sum_append, List.map_cons, List.sum_cons, ih,
        sum_aggregateUserBatch]
  have hgroups := Table.foldl_accumulates (P := fun _ => True)
    (v := fun m : List (UserId × List UserEvent) =>
      (m.map fun entry => (entry.2.map fun evt => evt.amountFor toUpperCase entry.1).sum).sum)
    (w := UserEvent.amount toUpperCase) (s := []) (l := a.events)
    (f := fun m evt =>
      match evt.userId with
      | none => m
      | some userId => Table.adjust userId (fun existing => existing.getD [] ++ [evt]) m)
    (fun m evt _ => by
      refine ⟨trivial, ?_⟩
      unfold UserEvent.amount
      cases evt.userId with
      | none => exact (add_zero _).symm
      | some userId =>
        refine Table.sum_adjust (P := fun _ => True) (fun _ _ => trivial) fun o _ => ?_
        show ((o.getD [] ++ [evt]).map _).sum = _
        rw [List.map_append, List.sum_append, List.map_singleton, List.sum_singleton]
        cases o <;> rfl) trivial
  unfold Attempt.writes
  rw [hflat]
  refine hgroups.2.trans ?_
  exact zero_add _

end Batch

/-! ## Runs -/

section Runs

variable (toUpperCase : String → String) (all : List UserEvent)

/-- The events up to the watermark have been counted once, and no other event has. -/
def InSync (s : Store) : Prop :=
  s.counter = total toUpperCase (all.filter fun evt => evt.createdAt ≤ s.getWatermark true)

/-- A run reads the watermark, and then either does all its upserts, saves the watermark and
leaves nothing that counts at the time of its last event, or does no upsert that counts. -/
structure Attempt.Steady (s : Store) (a : Attempt) : Prop where
  reads : s.getWatermark a.readable = s.getWatermark true
  counts :
    if a.failsAfter = none ∧ a.saved then
      ∀ last ∈ a.events.getLast?, ∀ evt ∈ a.left, evt.createdAt = last.createdAt →
        evt.amount toUpperCase = 0
    else ∀ w ∈ a.done toUpperCase, w.amount = 0

/-- Runs until one of them reports that there is nothing to do, each of them with `P`. -/
inductive Drains (batchSize : ℕ) (P : Store → Attempt → Prop) : Store → Store → Prop
  | nothing {s : Store} (a : Attempt) : a.Answers all batchSize s → P s a →
      (processBatch toUpperCase a s).2 = some ⟨0, 0⟩ →
      Drains batchSize P s (processBatch toUpperCase a s).1
  | run {s t : Store} (a : Attempt) : a.Answers all batchSize s → P s a →
      Drains batchSize P (processBatch toUpperCase a s).1 t → Drains batchSize P s t

variable {toUpperCase all} {batchSize : ℕ} {s t : Store} {a : Attempt}

lemma total_append (l l' : List UserEvent) :
    total toUpperCase (l ++ l') = total toUpperCase l + total toUpperCase l' := by
  unfold total
  rw [List.map_append, List.sum_append]

lemma total_perm {l l' : List UserEvent} (h : l.Perm l') :
    total toUpperCase l = total toUpperCase l' :=
  (h.map _).sum_eq

/-- Events of nobody can be left out. -/
lemma total_filter_isSome (l : List UserEvent) :
    total toUpperCase (l.filter fun evt => evt.userId.isSome) = total toUpperCase l := by
  induction l with
  | nil => rfl
  | cons evt l ih =>
    cases huser : evt.userId with
    | none =>
      rw [List.filter_cons_of_neg (by simp [huser]), ih]
      have hzero : evt.amount toUpperCase = 0 := by
        unfold UserEvent.amount
        rw [huser]
        rfl
      unfold total
      rw [List.map_cons, List.sum_cons, hzero, zero_add]
    | some u =>
      rw [List.filter_cons_of_pos (by simp [huser])]
      unfold total at ih ⊢
      rw [List.map_cons, List.sum_cons, ih, List.map_cons, List.sum_cons]

/-- Nothing comes to nothing only if no event counts. -/
lemma total_eq_zero {l : List UserEvent} :
    total toUpperCase l = 0 ↔ ∀ evt ∈ l, evt.amount toUpperCase = 0 :=
  List.sum_eq_zero_iff.trans List.forall_mem_map

/-- The events up to a later time are those up to an earlier one and those in between. -/
lemma total_le_eq_add {w w' : Instant} (hw : w ≤ w') :
    total toUpperCase (all.filter fun evt => evt.createdAt ≤ w') =
      total toUpperCase (all.filter fun evt => evt.createdAt ≤ w) +
        total toUpperCase ((all.filter fun evt => w < evt.createdAt ∧ evt.userId.isSome).filter
          fun evt => evt.createdAt ≤ w') := by
  have hsplit := List.filter_append_perm (fun evt : UserEvent => decide (evt.createdAt ≤ w))
    (all.filter fun evt => evt.createdAt ≤ w')
  rw [← total_perm hsplit, total_append, List.filter_filter, List.filter_filter,
    ← total_filter_isSome (all.filter fun evt => !decide (evt.createdAt ≤ w) && _),
    List.filter_filter, List.filter_filter]
  congr 2
  · refine List.filter_congr fun evt _ => ?_
    rw [Bool.eq_iff_iff, Bool.and_eq_true, decide_eq_true_iff, decide_eq_true_iff]
    exact ⟨And.left, fun h => ⟨h, le_trans h hw⟩⟩
  · refine List.filter_congr fun evt _ => ?_
    rw [Bool.eq_iff_iff]
    simp only [Bool.and_eq_true, decide_eq_true_iff, Bool.not_eq_true', decide_eq_false_iff_not,
      not_le]
    tauto

/-- What is in the batch is not later than its end, and what is left is not earlier. -/
lemma Attempt.Answers.filter_le (h : a.Answers all batchSize s) {last : UserEvent}
    (hlast : a.events.getLast? = some last) :
    (a.events ++ a.left).filter (fun evt => evt.createdAt ≤ last.createdAt) =
      a.events ++ a.left.filter fun evt => evt.createdAt = last.createdAt := by
  obtain ⟨hevents, -, hcross⟩ := List.pairwise_append.mp h.sorted
  have hmem : last ∈ a.events := List.mem_of_getLast? hlast
  rw [List.filter_append]
  congr 1
  · refine List.filter_eq_self.mpr fun evt hevt => decide_eq_true ?_
    obtain ⟨init, hinit⟩ := List.getLast?_eq_some_iff.mp hlast
    rw [hinit] at hevt hevents
    rcases List.mem_append.mp hevt with hevt | hevt
    · exact (List.pairwise_append.mp hevents).2.2 evt hevt last (List.mem_singleton_self last)
    · rw [List.mem_singleton.mp hevt]
  · refine List.filter_congr fun evt hevt => decide_eq_decide.mpr ?_
    exact ⟨fun hle => le_antisymm hle (hcross last hmem evt hevt), fun heq => heq.le⟩

/-- There is nothing to do. -/
lemma processBatch_of_nil (h : a.events = []) : processBatch toUpperCase a s = (s, some ⟨0, 0⟩) := by
  unfold processBatch
  rw [h]
  rfl

/-- **A run** that reads the watermark keeps the counters in step with it exactly if it either
completes, without leaving anything that counts at the time of its last event, or does no upsert
that counts. -/
theorem inSync_processBatch_iff (h : a.Answers all batchSize s)
    (hreads : s.getWatermark a.readable = s.getWatermark true) (hs : InSync toUpperCase all s) :
    InSync toUpperCase all (processBatch toUpperCase a s).1 ↔ a.Steady toUpperCase s := by
  rw [show a.Steady toUpperCase s ↔ _ from ⟨Attempt.Steady.counts, fun hc => ⟨hreads, hc⟩⟩]
  -- without events nothing is written and the watermark stays
  cases hlast : a.events.getLast? with
  | none =>
    have hnil : a.events = [] := List.getLast?_eq_none_iff.mp hlast
    have hdone : a.done toUpperCase = [] := by
      unfold Attempt.done Attempt.writes
      rw [hnil]
      cases a.failsAfter with
      | none => rfl
      | some n => exact List.take_nil
    rw [processBatch_of_nil hnil, hdone]
    refine ⟨fun _ => ?_, fun _ => hs⟩
    split_ifs
    · exact fun last hl => absurd hl (by simp)
    · exact List.forall_mem_nil _
  | some last =>
    have hsum := Store.counter_foldl_write (a.done toUpperCase) s
    -- the watermark only moves if every upsert and the save succeed
    by_cases hcomplete : a.failsAfter = none ∧ a.saved
    · obtain ⟨hfails, hsaved⟩ := hcomplete
      have hrun : (processBatch toUpperCase a s).1 =
          { (a.done toUpperCase).foldl Store.write s with
            watermark := some last.createdAt } := by
        unfold processBatch
        rw [hlast, hfails, hsaved]
        rfl
      have hdone : a.done toUpperCase = a.writes toUpperCase := by
        unfold Attempt.done
        rw [hfails]
      have hlater : s.getWatermark true ≤ last.createdAt := by
        have hmem := h.perm.subset (List.mem_append_left _ (List.mem_of_getLast? hlast))
        have hlt := (of_decide_eq_true (List.mem_filter.mp hmem).2).1
        rw [hreads] at hlt
        exact hlt.le
      -- what the batch and the events left out of it come to, up to its last event
      have hbetween : total toUpperCase _ = total toUpperCase _ :=
        total_perm (h.perm.filter fun evt => evt.createdAt ≤ last.createdAt)
      rw [h.filter_le hlast, total_append, hreads] at hbetween
      rw [if_pos ⟨hfails, hsaved⟩, hrun]
      show ((a.done toUpperCase).foldl Store.write s).counter =
        total toUpperCase (all.filter fun evt => evt.createdAt ≤ last.createdAt) ↔ _
      rw [hsum, hs, hdone, sum_writes, total_le_eq_add hlater, ← hbetween, ← add_assoc,
        left_eq_add, total_eq_zero]
      constructor
      · intro hzero last' hlast' evt hevt htime
        rw [← Option.some.inj hlast'] at htime
        exact hzero evt (List.mem_filter.mpr ⟨hevt, decide_eq_true htime⟩)
      · intro hzero evt hevt
        obtain ⟨hevt, htime⟩ := List.mem_filter.mp hevt
        exact hzero last rfl evt hevt (of_decide_eq_true htime)
    · have hrun : (processBatch toUpperCase a s).1 = (a.done toUpperCase).foldl Store.write s := by
        unfold processBatch
        rw [hlast]
        cases hfails : a.failsAfter with
        | none =>
          have hsaved : a.saved = false := by simpa [hfails] using hcomplete
          rw [hsaved]
          rfl
        | some n => rfl
      rw [if_neg hcomplete, hrun]
      -- the watermark stays, so that nothing may have been counted
      unfold InSync at hs ⊢
      rw [show Store.getWatermark _ true = s.getWatermark true from
        congrArg (fun w => Option.getD w 0) (Store.watermark_foldl_write _ s), ← hs, hsum, add_eq_left,
        List.sum_eq_zero_iff, List.forall_mem_map]

/-- At the start nothing is before the watermark that counts, unless it is from before 1970. -/
lemma inSync_empty_iff : InSync toUpperCase all Store.empty ↔
    ∀ evt ∈ all, evt.createdAt ≤ 0 → evt.amount toUpperCase = 0 := by
  have hzero : Store.empty.counter = 0 := by
    funext key
    cases key <;> rfl
  unfold InSync
  rw [hzero, eq_comm, total_eq_zero]
  refine forall_congr' fun evt => ⟨fun h hevt htime => ?_, fun h hevt => ?_⟩
  · exact h (List.mem_filter.mpr ⟨hevt, decide_eq_true htime⟩)
  · obtain ⟨hevt, htime⟩ := List.mem_filter.mp hevt
    exact h hevt (of_decide_eq_true htime)

/-- A run that reports that there is nothing to do has found nothing. -/
lemma events_eq_nil_of_nothing (h : (processBatch toUpperCase a s).2 = some ⟨0, 0⟩) :
    a.events = [] := by
  cases hlast : a.events.getLast? with
  | none => exact List.getLast?_eq_none_iff.mp hlast
  | some last =>
    unfold processBatch at h
    rw [hlast] at h
    cases hfails : a.failsAfter with
    | none =>
      rw [hfails] at h
      exact List.length_eq_zero_iff.mp (congrArg BatchResult.processedCount (Option.some.inj h))
    | some n =>
      rw [hfails] at h
      cases h

/-- Then all that counts is before the watermark. -/
lemma InSync.counter_eq (hs : InSync toUpperCase all s) (hn : 0 < batchSize)
    (h : a.Answers all batchSize s) (hreads : s.getWatermark a.readable = s.getWatermark true)
    (hnil : a.events = []) : s.counter = total toUpperCase all := by
  have hleft : a.left = [] := by
    have htake := h.take
    rw [hnil, List.nil_append, eq_comm, List.take_eq_nil_iff] at htake
    exact htake.resolve_left hn.ne'
  have hnone := h.perm
  rw [hnil, hleft, List.append_nil, hreads] at hnone
  have hbefore : ∀ evt ∈ all, evt.userId.isSome → evt.createdAt ≤ s.getWatermark true := by
    intro evt hevt huser
    refine le_of_not_gt fun hafter => ?_
    have hmem := hnone.mem_iff.mpr (List.mem_filter.mpr ⟨hevt, decide_eq_true ⟨hafter, huser⟩⟩)
    exact List.not_mem_nil hmem
  rw [hs, ← total_filter_isSome, List.filter_filter, ← total_filter_isSome all]
  congr 1
  refine List.filter_congr fun evt hevt => ?_
  cases huser : evt.userId.isSome with
  | false => rfl
  | true => exact decide_eq_true (hbefore evt hevt huser)

/-- **A whole run**: what is counted in the end is each event, once. -/
lemma Drains.counter_eq (hn : 0 < batchSize)
    (h : Drains toUpperCase all batchSize (Attempt.Steady toUpperCase) s t)
    (hs : InSync toUpperCase all s) : t.counter = total toUpperCase all := by
  induction h with
  | nothing a hanswers hsteady hresult =>
    have hnil := events_eq_nil_of_nothing hresult
    rw [processBatch_of_nil hnil]
    exact hs.counter_eq hn hanswers hsteady.reads hnil
  | run a hanswers hsteady _ ih =>
    exact ih ((inSync_processBatch_iff hanswers hsteady.reads hs).mpr hsteady)

/-- **Behaviour events are counted once**, if no event that counts is from before 1970, and every
run that is begun reads the watermark, and then either does all its upserts, saves the watermark
and leaves nothing that counts at the time of its last event, or does no upsert that counts. -/
theorem counts_once (hn : 0 < batchSize)
    (hepoch : ∀ evt ∈ all, evt.createdAt ≤ 0 → evt.amount toUpperCase = 0)
    (h : Drains toUpperCase all batchSize (Attempt.Steady toUpperCase) Store.empty t) :
    t.counter = total toUpperCase all :=
  h.counter_eq hn (inSync_empty_iff.mpr hepoch)

/-- A run that nothing goes wrong in. -/
def Attempt.Completes (a : Attempt) : Prop :=
  a.readable = true ∧ a.failsAfter = none ∧ a.saved = true

/-- The query can be answered. -/
lemma exists_answers (all : List UserEvent) (batchSize : ℕ) (s : Store) :
    ∃ a : Attempt, a.Completes ∧ a.Answers all batchSize s := by
  let r : UserEvent → UserEvent → Prop := fun e e' => e.createdAt ≤ e'.createdAt
  have htotal : Std.Total r := ⟨fun e e' => le_total e.createdAt e'.createdAt⟩
  have htrans : IsTrans UserEvent r := ⟨fun e e' e'' => le_trans⟩
  generalize hrest : all.filter (fun evt => s.getWatermark true < evt.createdAt ∧
    evt.userId.isSome) = rest
  refine ⟨⟨true, (rest.insertionSort r).take batchSize, (rest.insertionSort r).drop batchSize,
    none, true⟩, ⟨rfl, rfl, rfl⟩, ?_, ?_, ?_⟩
  · rw [List.take_append_drop, hrest]
    exact List.perm_insertionSort r rest
  · rw [List.take_append_drop]
    exact List.pairwise_insertionSort r rest
  · rw [List.take_append_drop]

/-- After a run that completes, and has found something, less is left. -/
lemma length_after_lt (ha : a.Completes) (h : a.Answers all batchSize s) {last : UserEvent}
    (hlast : a.events.getLast? = some last) :
    (all.filter fun evt => (processBatch toUpperCase a s).1.getWatermark true < evt.createdAt ∧
      evt.userId.isSome).length <
    (all.filter fun evt => s.getWatermark true < evt.createdAt ∧ evt.userId.isSome).length := by
  obtain ⟨hreads, hfails, hsaved⟩ := ha
  have hmem := h.perm.subset (List.mem_append_left _ (List.mem_of_getLast? hlast))
  rw [hreads] at hmem
  have hafter := (of_decide_eq_true (List.mem_filter.mp hmem).2).1
  have hwatermark : (processBatch toUpperCase a s).1.getWatermark true = last.createdAt := by
    unfold processBatch
    rw [hlast, hfails, hsaved]
    rfl
  have hsub : (all.filter fun evt => last.createdAt < evt.createdAt ∧ evt.userId.isSome) =
      (all.filter fun evt => s.getWatermark true < evt.createdAt ∧ evt.userId.isSome).filter
        fun evt => last.createdAt < evt.createdAt := by
    rw [List.filter_filter]
    refine List.filter_congr fun evt _ => ?_
    rw [← Bool.decide_and]
    exact decide_eq_decide.mpr
      ⟨fun h => ⟨h.1, hafter.trans h.1, h.2⟩, fun h => ⟨h.1, h.2.2⟩⟩
  rw [hwatermark, hsub]
  exact List.length_filter_lt_length_iff_exists.mpr ⟨last, hmem, by simp⟩

/-- Runs that nothing goes wrong in come to an end. -/
theorem exists_drains (toUpperCase : String → String) (all : List UserEvent) (batchSize : ℕ)
    (s : Store) : ∃ t, Drains toUpperCase all batchSize (fun _ => Attempt.Completes) s t := by
  -- each run takes an event from those that are after the watermark
  induction hlength : (all.filter fun evt => s.getWatermark true < evt.createdAt ∧
    evt.userId.isSome).length using Nat.strong_induction_on generalizing s with
  | _ k ih =>
    obtain ⟨a, ha, hanswers⟩ := exists_answers all batchSize s
    cases hlast : a.events.getLast? with
    | none =>
      have hnil := List.getLast?_eq_none_iff.mp hlast
      exact ⟨_, .nothing a hanswers ha (by rw [processBatch_of_nil hnil])⟩
    | some last =>
      obtain ⟨t, ht⟩ := ih _ (hlength ▸ length_after_lt ha hanswers hlast) _ rfl
      exact ⟨t, .run a hanswers ha ht⟩

/-- A run that completes, and leaves nothing at the time of its last event. -/
lemma Attempt.steady_of_apart (hreads : a.readable = true) (hfails : a.failsAfter = none)
    (hsaved : a.saved = true)
    (hapart : ∀ last ∈ a.events.getLast?, ∀ evt ∈ a.left, evt.createdAt ≠ last.createdAt) :
    a.Steady toUpperCase s where
  reads := by rw [hreads]
  counts := by
    rw [if_pos ⟨hfails, hsaved⟩]
    exact fun last hlast evt hevt htime => absurd htime (hapart last hlast evt hevt)

/-- A run that fails before its first upsert. -/
lemma Attempt.steady_of_fails (hreads : a.readable = true) (hfails : a.failsAfter = some 0) :
    a.Steady toUpperCase s where
  reads := by rw [hreads]
  counts := by
    rw [if_neg (by simp [hfails])]
    intro w hw
    unfold Attempt.done at hw
    rw [hfails] at hw
    exact absurd hw List.not_mem_nil

end Runs

/-! ## A lamp is viewed -/

instance (a : Attempt) (all : List UserEvent) (batchSize : ℕ) (s : Store) :
    Decidable (a.Answers all batchSize s) :=
  decidable_of_iff
    ((a.events ++ a.left).Perm
        (all.filter fun evt => s.getWatermark a.readable < evt.createdAt ∧ evt.userId.isSome) ∧
      ((a.events ++ a.left).Pairwise fun e e' => e.createdAt ≤ e'.createdAt) ∧
      a.events = (a.events ++ a.left).take batchSize)
    ⟨fun h => ⟨h.1, h.2.1, h.2.2⟩, fun h => ⟨h.perm, h.sorted, h.take⟩⟩

/-- User 1 views a lamp. -/
def lampViewed (createdAt : Instant) : UserEvent :=
  ⟨some 1, .productViewed, some "PRODUCT", some "7", createdAt⟩

/-- Two views, one at a time; the second run fails before it does anything. -/
theorem counts_once_lamp : ∃ t,
    Drains id [lampViewed 1000, lampViewed 2000] 1 (Attempt.Steady id) Store.empty t ∧
      t.counter = total id [lampViewed 1000, lampViewed 2000] := by
  have hdrains : Drains id [lampViewed 1000, lampViewed 2000] 1 (Attempt.Steady id) Store.empty _ :=
    .run ⟨true, [lampViewed 1000], [lampViewed 2000], none, true⟩ (by decide +kernel)
      (Attempt.steady_of_apart rfl rfl rfl (by decide +kernel)) <|
    .run ⟨true, [lampViewed 2000], [], some 0, true⟩ (by decide +kernel)
      (Attempt.steady_of_fails rfl rfl) <|
    .run ⟨true, [lampViewed 2000], [], none, true⟩ (by decide +kernel)
      (Attempt.steady_of_apart rfl rfl rfl (by decide +kernel)) <|
    .nothing ⟨true, [], [], none, true⟩ (by decide +kernel)
      (Attempt.steady_of_apart rfl rfl rfl (by decide +kernel)) rfl
  have hlate : ∀ evt ∈ [lampViewed 1000, lampViewed 2000], ¬evt.createdAt ≤ 0 := by decide
  exact ⟨_, hdrains, counts_once (by decide)
    (fun evt hevt htime => absurd htime (hlate evt hevt)) hdrains⟩

/-- A view is counted twice if Redis does not take the watermark. -/
theorem lamp_viewed_twice : ¬∀ (toUpperCase : String → String) (all : List UserEvent)
    (batchSize : ℕ) (t : Store), 0 < batchSize →
    Drains toUpperCase all batchSize (fun _ _ => True) Store.empty t →
    t.counter = total toUpperCase all := by
  intro h
  have hdrains : Drains id [lampViewed 1000] 100 (fun _ _ => True) Store.empty _ :=
    .run ⟨true, [lampViewed 1000], [], none, false⟩ (by decide +kernel) trivial <|
    .run ⟨true, [lampViewed 1000], [], none, true⟩ (by decide +kernel) trivial <|
    .nothing ⟨true, [], [], none, true⟩ (by decide +kernel) trivial rfl
  have hcounter := congrFun (h id _ 100 _ (by decide) hdrains) (.summary 1 .productViews)
  exact absurd hcounter (by decide +kernel)

/-- Of two views at the same time one is lost if it does not fit in the batch. -/
example : ∃ t, Drains id [lampViewed 1000, lampViewed 1000] 1 (fun _ _ => True) Store.empty t ∧
    t.counter (.summary 1 .productViews) = 1 :=
  ⟨_, .run ⟨true, [lampViewed 1000], [lampViewed 1000], none, true⟩ (by decide +kernel) trivial <|
    .nothing ⟨true, [], [], none, true⟩ (by decide +kernel) trivial rfl, by decide +kernel⟩

end MeeoServer.Tracking
