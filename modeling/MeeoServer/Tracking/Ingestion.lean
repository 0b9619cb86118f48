/-
# Ingestion of behaviour events

`tracking/services/trackingIngestion.service.ts`.  A client may send an event again, with the same
identifier; Redis then tells that it was seen in the last day.  An event that comes without a user
gets the user that later names its session.

Who has sent an event, with which identifier, and the reservation that Redis has made for it are
history, and so are the reservations and the sessions that were named.
-/
import MeeoServer.Process.Tickets
import MeeoServer.Schema.Database
import MeeoServer.Table.Updates
import MeeoServer.Tracking.Aggregation
import Mathlib.Logic.Function.Basic

namespace MeeoServer.Tracking

open Proc Protocol Relation

/-! ## The tables -/

/-- An event as a client sends it. -/
structure SingleEvent where
  clientEventId : Option String
  sessionId : Option String
  event : UserEventType
  entityType : Option String
  entityId : Option String
  /-- A JSON text. -/
  metadata : Option String
  createdAt : Option Instant
deriving DecidableEq

/-- A row of `user_events`, with its history. -/
structure StoredEvent extends UserEvent where
  sessionId : Option String
  metadata : Option String
  ingestedBy : Option UserId
  clientEventId : Option String
  /-- The reservation for the identifier, by its number. -/
  ticket : Option ℕ
deriving DecidableEq

structure EventStore where
  now : Instant
  /-- When the key of an identifier expires. -/
  keys : String → Option Instant
  /-- The reservation that the last `SET` has made, if it has. -/
  reply : Option ℕ
  /-- How many rows the last statement has written. -/
  count : ℕ
  events : List StoredEvent
  reservations : List (String × Instant)
  identified : List (UserId × String)

/-- `"EX", 86400`. -/
def idempotencyTtl : Instant := 86400000

namespace EventStore

variable (s : EventStore)

def live (clientEventId : String) : Bool := (s.keys clientEventId).any fun expiry => s.now < expiry

/-- `SET key 1 EX 86400 NX`. -/
def reserve (clientEventId : String) : EventStore :=
  if s.live clientEventId then { s with reply := none }
  else
    { s with
      keys := Function.update s.keys clientEventId (some (s.now + idempotencyTtl))
      reply := some s.reservations.length
      reservations := s.reservations ++ [(clientEventId, s.now)] }

end EventStore

inductive Commit where
  | reserve (clientEventId : String)
  | createMany (records : List StoredEvent)
  | identify (userId : UserId) (sessionId : String)

/-- The events of the session that have no user. -/
def Anonymous (sessionId : String) (row : StoredEvent) : Bool :=
  row.sessionId = some sessionId ∧ row.userId = none

def Commit.apply : Commit → EventStore → Option EventStore
  | .reserve clientEventId, s => some (s.reserve clientEventId)
  | .createMany records, s =>
    some { s with events := s.events ++ records, count := records.length }
  | .identify userId sessionId, s =>
    some { s with
      events := Table.updateWhere (Anonymous sessionId)
        (fun row => { row with userId := some userId }) s.events
      count := s.events.countP (Anonymous sessionId)
      identified := s.identified ++ [(userId, sessionId)] }

/-! ## The service -/

abbrev Service := Proc EventStore Commit AppError

/-- A text that is there and not empty. -/
def present (text : Option String) : Option String := text.filter fun s => s ≠ ""

/-- Whether the event is a duplicate, and the reservation; without Redis no event is dropped. -/
def checkAndSetIdempotency (clientEventId : String) : Service (Bool × Option ℕ) :=
  Proc.tryCatch (do
    let s ← Proc.commit (.reserve clientEventId)
    pure (s.reply.isNone, s.reply))
    fun _ => pure (false, none)

/-- One round of the filter: the event and its reservation, unless it is a duplicate. -/
def keepUnique (evt : SingleEvent) : Service (List (SingleEvent × Option ℕ)) :=
  match present evt.clientEventId with
  | none => pure [(evt, none)]
  | some clientEventId => do
    let (isDuplicate, ticket) ← checkAndSetIdempotency clientEventId
    pure (if isDuplicate then [] else [(evt, ticket)])

/-- Filter duplicates using clientEventId if provided. -/
def uniqueEvents : List SingleEvent → Service (List (SingleEvent × Option ℕ))
  | [] => pure []
  | evt :: events => do
    let kept ← keepUnique evt
    let rest ← uniqueEvents events
    pure (kept ++ rest)

def record (userId : Option UserId) (sessionId : Option String) (now : Instant) :
    SingleEvent × Option ℕ → StoredEvent
  | (evt, ticket) =>
    { userId := userId
      event := evt.event
      entityType := present evt.entityType
      entityId := present evt.entityId
      createdAt := evt.createdAt.getD now
      sessionId := (present evt.sessionId).or (present sessionId)
      metadata := evt.metadata
      ingestedBy := userId
      clientEventId := evt.clientEventId
      ticket := ticket }

/-- Ingests a batch of events with deduplication and append-only storage. -/
def ingestBatch (userId : Option UserId) (sessionId : Option String) (events : List SingleEvent)
    (now : Instant) : Service ℕ := do
  let unique ← uniqueEvents events
  if unique = [] then pure 0
  else
    let s ← Proc.commit (.createMany (unique.map (record userId sessionId now)))
    pure s.count

structure IdentifyResult where
  stitchedEvents : ℕ
  ingestedBufferedEvents : ℕ

/-- Stitches anonymous session buffer to authenticated user upon login. -/
def identifyAndMerge (userId : UserId) (sessionId : String) (bufferedEvents : List SingleEvent)
    (now : Instant) : Service IdentifyResult := do
  let newEventsCount ←
    (if bufferedEvents = [] then pure 0
    else ingestBatch (some userId) (some sessionId) bufferedEvents now : Service ℕ)
  let s ← Proc.commit (.identify userId sessionId)
  pure ⟨s.count, newEventsCount⟩

/-- A request, with the user that it is authenticated as. -/
inductive Call where
  | trackEvents (userId : Option UserId) (events : List SingleEvent) (now : Instant)
  | identify (userId : UserId) (sessionId : String) (events : List SingleEvent) (now : Instant)

def Call.proc : Call → Service Unit
  | .trackEvents userId events now => do
    let _ ← ingestBatch userId none events now
    pure ()
  | .identify userId sessionId events now => do
    let _ ← identifyAndMerge userId sessionId events now
    pure ()

/-- The tracking endpoints; the environment lets time pass. -/
def trackingServer : Machine EventStore Commit AppError Call ℕ where
  apply := Commit.apply
  proc := Call.proc
  environ d s := { s with now := s.now + d }

/-! ## A reservation is used once -/

/-- The reservations of events. -/
def ticketsOf (records : List StoredEvent) : List ℕ := records.filterMap StoredEvent.ticket

def reservationTickets : Tickets EventStore Commit where
  issued s := s.reservations.length
  spent s := ticketsOf s.events
  spends
    | .createMany records => ticketsOf records
    | _ => []
  answer
    | .reserve _, s => s.reply
    | _, _ => none

section Tickets

variable {s s' : EventStore} {c : Commit}

lemma reserve_reservations (s : EventStore) (clientEventId : String) :
    (s.reserve clientEventId).reply = none ∧
        (s.reserve clientEventId).reservations = s.reservations ∨
      (s.reserve clientEventId).reply = some s.reservations.length ∧
        (s.reserve clientEventId).reservations = s.reservations ++ [(clientEventId, s.now)] := by
  unfold EventStore.reserve
  split
  · exact .inl ⟨rfl, rfl⟩
  · exact .inr ⟨rfl, rfl⟩

@[simp] lemma reserve_events (s : EventStore) (clientEventId : String) :
    (s.reserve clientEventId).events = s.events := by
  unfold EventStore.reserve
  split <;> rfl

@[simp] lemma reserve_identified (s : EventStore) (clientEventId : String) :
    (s.reserve clientEventId).identified = s.identified := by
  unfold EventStore.reserve
  split <;> rfl

/-- Reservations are only added. -/
lemma reservations_grow (happ : c.apply s = some s') : s.reservations <+: s'.reservations := by
  cases c with
  | reserve clientEventId =>
    obtain rfl := Option.some.inj happ
    rcases reserve_reservations s clientEventId with ⟨-, h⟩ | ⟨-, h⟩
    · rw [h]
    · rw [h]
      exact List.prefix_append _ _
  | createMany records | identify userId sessionId =>
    obtain rfl := Option.some.inj happ
    exact List.prefix_rfl

lemma reservationTickets_lawful : reservationTickets.Lawful Commit.apply where
  mono happ := (reservations_grow happ).length_le
  spent {c s s'} happ := by
    cases c with
    | reserve clientEventId =>
      obtain rfl := Option.some.inj happ
      simp [reservationTickets]
    | createMany records =>
      obtain rfl := Option.some.inj happ
      exact List.filterMap_append
    | identify userId sessionId =>
      obtain rfl := Option.some.inj happ
      have hticket (row : StoredEvent) :
          (if Anonymous sessionId row then { row with userId := some userId } else row).ticket =
            row.ticket := by
        split <;> rfl
      simp [reservationTickets, ticketsOf, Table.updateWhere, List.filterMap_map, hticket]
  fresh {c s s' t} happ ht := by
    cases c with
    | reserve clientEventId =>
      obtain rfl := Option.some.inj happ
      have hreply : (s.reserve clientEventId).reply = some t := ht
      show s.reservations.length ≤ t ∧ t < (s.reserve clientEventId).reservations.length
      rcases reserve_reservations s clientEventId with ⟨hnone, -⟩ | ⟨hsome, h⟩
      · cases hnone.symm.trans hreply
      · obtain rfl := Option.some.inj (hsome.symm.trans hreply)
        rw [h, List.length_append, List.length_singleton]
        exact ⟨le_rfl, Nat.lt_succ_self _⟩
    | createMany records | identify userId sessionId => cases ht

/-- Two rows have two reservations. -/
lemma eq_of_ticket {l : List StoredEvent} (h : (ticketsOf l).Nodup) {i j t : ℕ}
    {row row' : StoredEvent} (hrow : l[i]? = some row) (hrow' : l[j]? = some row')
    (ht : row.ticket = some t) (ht' : row'.ticket = some t) : i = j := by
  have hpairwise := List.pairwise_iff_getElem.mp (List.pairwise_filterMap.mp h)
  obtain ⟨hlt, rfl⟩ := List.getElem?_eq_some_iff.mp hrow
  obtain ⟨hlt', rfl⟩ := List.getElem?_eq_some_iff.mp hrow'
  rcases Nat.lt_trichotomy i j with hij | hij | hij
  · exact absurd rfl (hpairwise i j hlt hlt' hij t ht t ht')
  · exact hij
  · exact absurd rfl (hpairwise j i hlt' hlt hij t ht' t ht)

lemma ticketsOf_records (userId : Option UserId) (sessionId : Option String) (now : Instant)
    (kept : List (SingleEvent × Option ℕ)) :
    ticketsOf (kept.map (record userId sessionId now)) = kept.filterMap Prod.snd := by
  rw [ticketsOf, List.filterMap_map]
  rfl

/-- The filter holds the reservations of the events that it keeps. -/
lemma keepUnique_follows (evt : SingleEvent) (held : List ℕ) :
    reservationTickets.protocol.Follows Commit.apply (keepUnique evt)
      (fun r t => ∀ kept, r = .ok kept → t = held ++ kept.filterMap Prod.snd) held := by
  unfold keepUnique
  split
  · rintro _ ⟨⟩
    exact (List.append_nil held).symm
  · rename_i clientEventId _
    refine Follows.bind (Follows.tryCatch (follows_commit (.inl rfl) ?_ fun s s' _ => ?_))
    · -- without an answer from Redis nothing is reserved
      rintro _ ⟨⟩
      rfl
    · rintro _ ⟨⟩
      show held ++ s'.reply.toList = _
      cases s'.reply <;> rfl

lemma uniqueEvents_follows (events : List SingleEvent) (held : List ℕ) :
    reservationTickets.protocol.Follows Commit.apply (uniqueEvents events)
      (fun r t => ∀ kept, r = .ok kept → t = held ++ kept.filterMap Prod.snd) held := by
  induction events generalizing held with
  | nil =>
    rintro _ ⟨⟩
    exact (List.append_nil held).symm
  | cons evt events ih =>
    refine Follows.bind ((keepUnique_follows evt held).mono fun r t hr => ?_)
    cases r with
    | error e => nofun
    | ok kept =>
      obtain rfl := hr kept rfl
      refine Follows.bind ((ih _).mono fun r' t' hr' => ?_)
      cases r' with
      | error e => nofun
      | ok rest =>
        rintro _ ⟨⟩
        rw [hr' rest rfl, List.filterMap_append, List.append_assoc]

lemma ingestBatch_follows (userId : Option UserId) (sessionId : Option String)
    (events : List SingleEvent) (now : Instant) :
    reservationTickets.protocol.Follows Commit.apply (ingestBatch userId sessionId events now)
      Ends [] := by
  refine Follows.bind ((uniqueEvents_follows events []).mono fun r t hr => ?_)
  cases r with
  | error e => trivial
  | ok kept =>
    show Protocol.Follows _ _ (if kept = [] then _ else _) _ _
    split
    · trivial
    · refine follows_commit (.inr ?_) trivial fun _ _ _ => trivial
      rw [hr kept rfl]
      exact ticketsOf_records userId sessionId now kept

lemma call_follows (x : Call) :
    reservationTickets.protocol.Follows Commit.apply x.proc Ends [] := by
  cases x with
  | trackEvents userId events now =>
    exact (ingestBatch_follows userId none events now).andThen fun _ _ => trivial
  | identify userId sessionId events now =>
    refine Follows.andThen (Follows.andThen ?_ fun n t => ?_) fun _ _ => trivial
    · split
      · trivial
      · exact ingestBatch_follows _ _ events now
    · exact follows_commit (.inl rfl) trivial fun _ _ _ => trivial

end Tickets

/-! ## What every step does -/

/-- The event is the same, and keeps its user. -/
def Later (row row' : StoredEvent) : Prop :=
  { row' with userId := none } = { row with userId := none } ∧
    ∀ userId, row.userId = some userId → row'.userId = some userId

structure Within (s s' : EventStore) : Prop where
  reservations : s.reservations <+: s'.reservations
  identified : s.identified ⊆ s'.identified
  events : ∀ (i : ℕ) (row : StoredEvent), s.events[i]? = some row →
    ∃ row', s'.events[i]? = some row' ∧ Later row row'

namespace Within

variable {s s' s'' : EventStore}

lemma refl (s : EventStore) : Within s s :=
  ⟨List.prefix_rfl, fun _ h => h, fun _ row h => ⟨row, h, rfl, fun _ h => h⟩⟩

lemma trans (h : Within s s') (h' : Within s' s'') : Within s s'' where
  reservations := h.reservations.trans h'.reservations
  identified _ hmem := h'.identified (h.identified hmem)
  events i row hrow := by
    obtain ⟨row', hrow', hsame, huser⟩ := h.events i row hrow
    obtain ⟨row'', hrow'', hsame', huser'⟩ := h'.events i row' hrow'
    exact ⟨row'', hrow'', hsame'.trans hsame, fun u hu => huser' u (huser u hu)⟩

end Within

/-- The reservation was made for the identifier of the event. -/
def Reserved (reservations : List (String × Instant)) (clientEventId : Option String)
    (ticket : Option ℕ) : Prop :=
  ∀ t ∈ ticket, ∃ id time, reservations[t]? = some (id, time) ∧ clientEventId = some id

lemma Reserved.mono {reservations reservations' : List (String × Instant)}
    {clientEventId : Option String} {ticket : Option ℕ}
    (h : Reserved reservations clientEventId ticket) (hgrows : reservations <+: reservations') :
    Reserved reservations' clientEventId ticket := by
  intro t ht
  obtain ⟨id, time, hget, hid⟩ := h t ht
  obtain ⟨rest, rfl⟩ := hgrows
  have hlt := (List.getElem?_eq_some_iff.mp hget).1
  exact ⟨id, time, (List.getElem?_append_left hlt).trans hget, hid⟩

/-- The event has the user who has sent it, or who has named its session. -/
def Attributed (identified : List (UserId × String)) (row : StoredEvent) : Prop :=
  ∀ userId, row.userId = some userId → row.ingestedBy = some userId ∨
    row.ingestedBy = none ∧ ∃ sessionId, row.sessionId = some sessionId ∧
      (userId, sessionId) ∈ identified

/-- Reservations for one identifier are a day apart. -/
structure Spaced (s : EventStore) : Prop where
  le_now : ∀ r ∈ s.reservations, r.2 ≤ s.now
  key : ∀ r ∈ s.reservations, ∃ expiry, s.keys r.1 = some expiry ∧ r.2 + idempotencyTtl ≤ expiry
  pairwise : s.reservations.Pairwise fun r r' => r.1 = r'.1 → r.2 + idempotencyTtl ≤ r'.2

structure EventStore.Sound (s : EventStore) : Prop where
  spaced : Spaced s
  attributed : ∀ row ∈ s.events, Attributed s.identified row
  owned : ∀ row ∈ s.events, ∀ userId, row.ingestedBy = some userId → row.userId = some userId
  reserved : ∀ row ∈ s.events, Reserved s.reservations row.clientEventId row.ticket

/-- What is said about a batch that a call commits. -/
def Emitted (s : EventStore) : Commit → Prop
  | .createMany records => ∀ row ∈ records, row.userId = row.ingestedBy ∧
      Reserved s.reservations row.clientEventId row.ticket
  | _ => True

section Steps

variable {s s' : EventStore} {c : Commit}

lemma within_apply (happ : c.apply s = some s') : Within s s' := by
  refine ⟨reservations_grow happ, fun pair hpair => ?_, fun i row hrow => ?_⟩
  · cases c with
    | reserve clientEventId =>
      obtain rfl := Option.some.inj happ
      rwa [reserve_identified]
    | createMany records =>
      obtain rfl := Option.some.inj happ
      exact hpair
    | identify userId sessionId =>
      obtain rfl := Option.some.inj happ
      exact List.mem_append_left _ hpair
  · cases c with
    | reserve clientEventId =>
      obtain rfl := Option.some.inj happ
      exact ⟨row, by rwa [reserve_events], rfl, fun _ h => h⟩
    | createMany records =>
      obtain rfl := Option.some.inj happ
      have hlt : i < s.events.length := (List.getElem?_eq_some_iff.mp hrow).1
      exact ⟨row, (List.getElem?_append_left hlt).trans hrow, rfl, fun _ h => h⟩
    | identify userId sessionId =>
      obtain rfl := Option.some.inj happ
      refine ⟨_, by rw [Table.updateWhere, List.getElem?_map, hrow]; rfl, ?_⟩
      dsimp only
      split
      · rename_i hanonymous
        have hnone : row.userId = none := (of_decide_eq_true hanonymous).2
        exact ⟨rfl, fun u hu => nomatch hnone.symm.trans hu⟩
      · exact ⟨rfl, fun _ h => h⟩

lemma Spaced.reserve (h : Spaced s) (clientEventId : String) :
    Spaced (s.reserve clientEventId) := by
  unfold EventStore.reserve
  split
  · exact ⟨h.le_now, h.key, h.pairwise⟩
  · rename_i hdead
    -- the key of an earlier reservation has expired
    have hlapsed (r) (hr : r ∈ s.reservations) (hid : r.1 = clientEventId) :
        r.2 + idempotencyTtl ≤ s.now := by
      obtain ⟨expiry, hkey, hle⟩ := h.key r hr
      have hpast : ¬ s.now < expiry := by
        simpa [EventStore.live, ← hid, hkey] using hdead
      exact hle.trans (not_lt.mp hpast)
    refine ⟨fun r hr => ?_, fun r hr => ?_, ?_⟩
    · rcases List.mem_append.mp hr with hr | hr
      · exact h.le_now r hr
      · rw [List.mem_singleton.mp hr]
    · show ∃ expiry, Function.update s.keys clientEventId (some (s.now + idempotencyTtl)) r.1 =
        some expiry ∧ r.2 + idempotencyTtl ≤ expiry
      rcases List.mem_append.mp hr with hr | hr
      · by_cases hid : r.1 = clientEventId
        · rw [hid, Function.update_self]
          exact ⟨_, rfl, Int.add_le_add_right (h.le_now r hr) _⟩
        · rw [Function.update_of_ne hid]
          exact h.key r hr
      · rw [List.mem_singleton.mp hr, Function.update_self]
        exact ⟨_, rfl, le_rfl⟩
    · refine List.pairwise_append.mpr ⟨h.pairwise, List.pairwise_singleton _ _, ?_⟩
      intro r hr r' hr' hid
      rw [List.mem_singleton.mp hr'] at hid ⊢
      exact hlapsed r hr hid

lemma Attributed.mono {identified identified' : List (UserId × String)} {row : StoredEvent}
    (h : Attributed identified row) (hsub : identified ⊆ identified') :
    Attributed identified' row := by
  intro userId huser
  rcases h userId huser with h | ⟨hnone, sessionId, hsession, hmem⟩
  · exact .inl h
  · exact .inr ⟨hnone, sessionId, hsession, hsub hmem⟩

lemma EventStore.Sound.apply (h : s.Sound) (hc : Emitted s c) (happ : c.apply s = some s') :
    s'.Sound := by
  cases c with
  | reserve clientEventId =>
    have hgrows := reservations_grow happ
    obtain rfl := Option.some.inj happ
    exact
      { spaced := h.spaced.reserve clientEventId
        attributed := by simpa using h.attributed
        owned := by simpa using h.owned
        reserved := fun row hrow =>
          (h.reserved row (reserve_events s clientEventId ▸ hrow)).mono hgrows }
  | createMany records =>
    obtain rfl := Option.some.inj happ
    have hmem {P : StoredEvent → Prop} (hold : ∀ row ∈ s.events, P row)
        (hnew : ∀ row ∈ records, P row) : ∀ row ∈ s.events ++ records, P row :=
      fun row hrow => (List.mem_append.mp hrow).elim (hold row) (hnew row)
    exact
      { spaced := ⟨h.spaced.le_now, h.spaced.key, h.spaced.pairwise⟩
        attributed := hmem h.attributed fun row hrow u hu => .inl ((hc row hrow).1 ▸ hu)
        owned := hmem h.owned fun row hrow u hu => (hc row hrow).1.trans hu
        reserved := hmem h.reserved fun row hrow => (hc row hrow).2 }
  | identify userId sessionId =>
    have hwithin := within_apply happ
    obtain rfl := Option.some.inj happ
    refine ⟨⟨h.spaced.le_now, h.spaced.key, h.spaced.pairwise⟩, ?_, ?_, ?_⟩
    · refine (Table.forall_mem_updateWhere_iff fun row hrow =>
        (h.attributed row hrow).mono hwithin.identified).mpr fun row hrow hanonymous => ?_
      obtain ⟨hsession, hnone⟩ := of_decide_eq_true hanonymous
      rintro u ⟨⟩
      cases hby : row.ingestedBy with
      | some v => exact nomatch hnone.symm.trans (h.owned row hrow v hby)
      | none =>
        exact .inr ⟨rfl, sessionId, hsession, List.mem_append_right _ (List.mem_singleton.mpr rfl)⟩
    · refine (Table.forall_mem_updateWhere_iff h.owned).mpr fun row hrow hanonymous u hu => ?_
      obtain ⟨-, hnone⟩ := of_decide_eq_true hanonymous
      exact nomatch hnone.symm.trans (h.owned row hrow u hu)
    · exact (Table.forall_mem_updateWhere_iff h.reserved).mpr fun row hrow _ => h.reserved row hrow

/-! ### The service keeps to it -/

/-- The events that are kept come with reservations of their own. -/
def Ticketed (s : EventStore) (kept : List (SingleEvent × Option ℕ)) : Prop :=
  ∀ p ∈ kept, Reserved s.reservations p.1.clientEventId p.2

lemma Ticketed.within {kept : List (SingleEvent × Option ℕ)} (h : Ticketed s kept)
    (hwithin : Within s s') : Ticketed s' kept :=
  fun p hp => (h p hp).mono hwithin.reservations

lemma keepUnique_emits (evt : SingleEvent) :
    (keepUnique evt).Emits Commit.apply Within Within Emitted
      (fun r s => ∀ kept, r = .ok kept → Ticketed s kept) s := by
  unfold keepUnique
  split
  · rintro _ ⟨⟩ p hp
    rw [List.mem_singleton.mp hp]
    exact nofun
  · rename_i clientEventId hpresent
    have hid : evt.clientEventId = some clientEventId := (Option.filter_eq_some_iff.mp hpresent).1
    refine Emits.bind (Emits.tryCatch (emits_commit_post (fun s => ?_) (fun _ _ => trivial)
      fun s s' _ happ _ => ?_))
    · rintro _ ⟨⟩ p hp
      rw [List.mem_singleton.mp hp]
      exact nofun
    · rintro _ ⟨⟩ p hp
      obtain rfl := Option.some.inj happ
      rcases reserve_reservations s clientEventId with ⟨hreply, -⟩ | ⟨hreply, hreservations⟩
      · rw [hreply] at hp
        cases hp
      · rw [hreply] at hp
        rw [List.mem_singleton.mp hp]
        rintro t ⟨⟩
        refine ⟨clientEventId, s.now, ?_, hid⟩
        rw [hreservations, List.getElem?_append_right le_rfl, Nat.sub_self]
        rfl

lemma uniqueEvents_emits (events : List SingleEvent) :
    (uniqueEvents events).Emits Commit.apply Within Within Emitted
      (fun r s => ∀ kept, r = .ok kept → Ticketed s kept) s := by
  induction events generalizing s with
  | nil => rintro _ ⟨⟩ p ⟨⟩
  | cons evt events ih =>
    refine Emits.bind ((keepUnique_emits evt).mono fun r s₁ hr => ?_)
    cases r with
    | error e => nofun
    | ok kept =>
      -- the reservations of the first event stay while the others are made
      refine Emits.bind ((ih.frame (F := fun s => Ticketed s kept) (fun _ _ h hF => hF.within h)
        (fun _ _ h hF => hF.within h) (hr kept rfl)).mono ?_)
      rintro r' s₂ ⟨hr', hkept⟩
      cases r' with
      | error e => nofun
      | ok rest =>
        rintro _ ⟨⟩ p hp
        exact (List.mem_append.mp hp).elim (hkept p) (hr' rest rfl p)

lemma ingestBatch_emits (userId : Option UserId) (sessionId : Option String)
    (events : List SingleEvent) (now : Instant) :
    (ingestBatch userId sessionId events now).Emits Commit.apply Within Within Emitted Any s := by
  refine Emits.bind ((uniqueEvents_emits events).mono fun r s₁ hr => ?_)
  cases r with
  | error e => trivial
  | ok kept =>
    show (if kept = [] then _ else _ : Service ℕ).Emits _ _ _ _ _ _
    split
    · trivial
    · refine emits_commit (fun s₂ h₂ row hrow => ?_) fun _ _ _ _ _ => emits_pure
      obtain ⟨p, hp, rfl⟩ := List.mem_map.mp hrow
      exact ⟨rfl, (hr kept rfl).within h₂ p hp⟩

lemma call_emits (x : Call) : x.proc.Emits Commit.apply Within Within Emitted Any s := by
  cases x with
  | trackEvents userId events now =>
    exact (ingestBatch_emits userId none events now).andThen fun _ _ => emits_pure
  | identify userId sessionId events now =>
    refine Emits.andThen (Emits.andThen ?_ fun _ _ =>
      emits_commit (fun _ _ => trivial) fun _ _ _ _ _ => emits_pure) fun _ _ => emits_pure
    split
    · exact emits_pure
    · exact ingestBatch_emits _ _ events now

end Steps

/-! ## Runs -/

lemma within_environ (d : ℕ) (s : EventStore) : Within s (trackingServer.environ d s) :=
  ⟨List.prefix_rfl, fun _ h => h, fun _ row h => ⟨row, h, rfl, fun _ h => h⟩⟩

lemma trackingServer_rely :
    Rely trackingServer (fun _ => True) Free Within fun _ => Emitted where
  refl := Within.refl
  trans := Within.trans
  env := within_environ
  commit _ _ _ happ := within_apply happ
  emits x _ _ := call_emits x

section Runs

variable {s₀ : EventStore} {cfg cfg' : Config EventStore Commit AppError}

lemma sound_of_reachable (h₀ : s₀.Sound)
    (hr : trackingServer.Reachable (fun _ => True) Free s₀ cfg) : cfg.store.Sound := by
  refine trackingServer_rely.invariant hr h₀ (fun d s h => ?_) fun _ hc _ happ h => h.apply hc happ
  refine ⟨⟨fun r hrmem => (h.spaced.le_now r hrmem).trans ?_, h.spaced.key, h.spaced.pairwise⟩,
    h.attributed, h.owned, h.reserved⟩
  exact Int.le_add_of_nonneg_right (Int.natCast_nonneg d)

/-- **An event keeps its user.**  From the moment it is stored, nothing about an event changes,
unless it has no user: then it gets the user who names its session.  So it has the user who has
sent it or, if nobody was known, one who has named its session. -/
theorem attribution_final (h₀ : s₀.Sound)
    (hr : trackingServer.Reachable (fun _ => True) Free s₀ cfg)
    (hlater : ReflTransGen (trackingServer.Step (fun _ => True) Free) cfg cfg') {i : ℕ}
    {row : StoredEvent} (hrow : cfg.store.events[i]? = some row) :
    ∃ row', cfg'.store.events[i]? = some row' ∧
      { row' with userId := none } = { row with userId := none } ∧
      (∀ userId, row.userId = some userId → row'.userId = some userId) ∧
      ∀ userId, row'.userId = some userId → row'.ingestedBy = some userId ∨
        row'.ingestedBy = none ∧ ∃ sessionId, row'.sessionId = some sessionId ∧
          (userId, sessionId) ∈ cfg'.store.identified := by
  have hwithin : Within cfg.store cfg'.store :=
    trackingServer_rely.preserved (P := Within cfg.store) hr hlater (Within.refl _)
      (fun d s h => h.trans (within_environ d s)) fun _ _ _ happ h => h.trans (within_apply happ)
  obtain ⟨row', hrow', hsame, huser⟩ := hwithin.events i row hrow
  exact ⟨row', hrow', hsame, huser,
    (sound_of_reachable h₀ (ReflTransGen.trans hr hlater)).attributed row'
      (List.mem_of_getElem? hrow')⟩

/-- A store with no events. -/
def noEvents : EventStore where
  now := 0
  keys _ := none
  reply := none
  count := 0
  events := []
  reservations := []
  identified := []

lemma sound_noEvents : noEvents.Sound where
  spaced :=
    { le_now := fun _ h => nomatch h
      key := fun _ h => nomatch h
      pairwise := List.Pairwise.nil }
  attributed := fun _ h => nomatch h
  owned := fun _ h => nomatch h
  reserved := fun _ h => nomatch h

/-- A visitor looks at the product "p" in the session "s". -/
def productViewed : SingleEvent :=
  ⟨some "evt-1", some "s", .productViewed, some "PRODUCT", some "p", none, none⟩

/-- The user 7 names the session, in which nobody was known. -/
theorem attribution_final_stitched : ∃ c c' : Config EventStore Commit AppError,
    ∃ row row', c.store.events[0]? = some row ∧ row.userId = none ∧
      c'.store.events[0]? = some row' ∧ row'.userId = some 7 ∧ row'.ingestedBy = none ∧
      ∃ sessionId, row'.sessionId = some sessionId ∧ (7, sessionId) ∈ c'.store.identified := by
  obtain ⟨c, c', hr, hlater, hrow, huser⟩ := trackingServer.exists_later_of_exec
    (fun _ => True) Free
    [.call (.trackEvents none [productViewed] 0), .step 0 .ok, .step 0 .ok]
    [.call (.identify 7 "s" [] 1000), .step 1 .ok] noEvents
    (fun s : EventStore => s.events[0]?.map fun row => (row.userId, row.ingestedBy))
    (some (none, none)) (some (some 7, none)) (by decide +kernel)
  obtain ⟨row, hrow, hnone⟩ := Option.map_eq_some_iff.mp hrow
  obtain ⟨row', hrow', -, -, hattributed⟩ := attribution_final sound_noEvents hr hlater hrow
  obtain ⟨row'', hrow'', huser⟩ := Option.map_eq_some_iff.mp huser
  obtain rfl : row'' = row' := Option.some.inj (hrow''.symm.trans hrow')
  obtain ⟨huser, hby⟩ := Prod.ext_iff.mp huser
  obtain hsome | ⟨-, hnamed⟩ := hattributed 7 huser
  · exact nomatch hby.symm.trans hsome
  · exact ⟨c, c', row, row'', hrow, (Prod.ext_iff.mp hnone).1, hrow', huser, hby, hnamed⟩

/-- **An event is stored once a day.**  Of two events with the same identifier for which Redis has
made reservations, these were made at least a day apart, whatever was sent again at the same
time. -/
theorem ingested_once (h₀ : s₀.Sound) (hfresh : s₀.events = [])
    (hr : trackingServer.Reachable (fun _ => True) Free s₀ cfg) {i j t t' : ℕ}
    {row row' : StoredEvent} (hrow : cfg.store.events[i]? = some row)
    (hrow' : cfg.store.events[j]? = some row') (hne : i ≠ j) (ht : row.ticket = some t)
    (ht' : row'.ticket = some t') (hid : row.clientEventId = row'.clientEventId) :
    ∃ id time time', row.clientEventId = some id ∧
      cfg.store.reservations[t]? = some (id, time) ∧
      cfg.store.reservations[t']? = some (id, time') ∧
      (time + idempotencyTtl ≤ time' ∨ time' + idempotencyTtl ≤ time) := by
  have hsound := sound_of_reachable h₀ hr
  obtain ⟨id, time, hget, hclient⟩ := hsound.reserved row (List.mem_of_getElem? hrow) t ht
  obtain ⟨id', time', hget', hclient'⟩ := hsound.reserved row' (List.mem_of_getElem? hrow') t' ht'
  obtain rfl : id = id' := Option.some.inj (hclient.symm.trans (hid.trans hclient'))
  have hstart : (ticketsOf s₀.events).Nodup ∧
      ∀ t ∈ ticketsOf s₀.events, t < s₀.reservations.length := by
    rw [hfresh]
    exact ⟨List.nodup_nil, fun t ht => nomatch ht⟩
  have hnodup : (ticketsOf cfg.store.events).Nodup :=
    reservationTickets_lawful.spent_nodup (fun x _ => call_follows x) (fun _ _ => ⟨rfl, rfl⟩)
      hstart hr
  have htickets : t ≠ t' := by
    rintro rfl
    exact hne (eq_of_ticket hnodup hrow hrow' ht ht')
  refine ⟨id, time, time', hclient, hget, hget', ?_⟩
  obtain ⟨hlt, hvalue⟩ := List.getElem?_eq_some_iff.mp hget
  obtain ⟨hlt', hvalue'⟩ := List.getElem?_eq_some_iff.mp hget'
  have hspaced := List.pairwise_iff_getElem.mp hsound.spaced.pairwise
  rcases Nat.lt_or_gt_of_ne htickets with h | h
  · have hapart := hspaced t t' hlt hlt' h
    rw [hvalue, hvalue'] at hapart
    exact .inl (hapart rfl)
  · have hapart := hspaced t' t hlt' hlt h
    rw [hvalue, hvalue'] at hapart
    exact .inr (hapart rfl)

/-- The event is sent again at once, and again a day later. -/
theorem ingested_once_again : ∃ c : Config EventStore Commit AppError,
    c.store.events.length = 2 ∧ ∃ id time time',
      c.store.reservations[0]? = some (id, time) ∧ c.store.reservations[1]? = some (id, time') ∧
        (time + idempotencyTtl ≤ time' ∨ time' + idempotencyTtl ≤ time) := by
  obtain ⟨c, hr, hrun⟩ := trackingServer.exists_reachable_of_exec (fun _ => True) Free
    [.call (.trackEvents none [productViewed, productViewed] 0), .step 0 .ok, .step 0 .ok,
      .step 0 .ok, .env 86400000, .call (.trackEvents none [productViewed] 86400000),
      .step 1 .ok, .step 1 .ok] noEvents
    (fun s : EventStore => s.events.map fun row => (row.ticket, row.clientEventId))
    [(some 0, some "evt-1"), (some 1, some "evt-1")] (by decide +kernel)
  have hget? (k : ℕ) : c.store.events[k]?.map (fun row => (row.ticket, row.clientEventId)) =
      [(some 0, some "evt-1"), (some 1, some "evt-1")][k]? := by
    rw [← hrun, List.getElem?_map]
  obtain ⟨row, hrow, hkeys⟩ := Option.map_eq_some_iff.mp (hget? 0)
  obtain ⟨row', hrow', hkeys'⟩ := Option.map_eq_some_iff.mp (hget? 1)
  obtain ⟨hticket, hid⟩ := Prod.ext_iff.mp hkeys
  obtain ⟨hticket', hid'⟩ := Prod.ext_iff.mp hkeys'
  obtain ⟨id, time, time', -, hget, hget', hapart⟩ := ingested_once sound_noEvents rfl hr hrow hrow'
    Nat.zero_ne_one hticket hticket' (hid.trans hid'.symm)
  have hlength := congrArg List.length hrun
  exact ⟨c, by simpa using hlength, id, time, time', hget, hget', hapart⟩

end Runs

end MeeoServer.Tracking
