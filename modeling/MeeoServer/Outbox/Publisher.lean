/-
# Publishing the outbox

`outbox/services/outboxPublisher.service.ts` and `unlockStaleEvents` of
`outbox/services/outboxRetry.service.ts`.  A poll unlocks the events whose lock is stale, finds
candidates, locks those that are still pending, and reads back which of them carry the
identifier of the publisher; then it adds a job to the queue for each of them and writes how
that ended.  A publisher is a process of the server: its polls, by the cron and by hand, share
one identifier.

An event is never deleted, so its identifier is its position.  What an event is about is handed
on unread and left out.  The times at which a call looks at the clock are arguments of the call.
-/
import MeeoServer.Process.Interleaving
import MeeoServer.Schema.Database

namespace MeeoServer.Outbox

open Proc

abbrev EventId := ℕ

abbrev PublisherId := String

/-- One run of `claimBatchForPublishing`. -/
abbrev RunId := ℕ

/-! ## The table -/

inductive OutboxStatus where
  | pending
  | processing
  | published
  | failed
deriving DecidableEq, Repr

structure OutboxEvent where
  status : OutboxStatus
  attempts : ℕ
  maxAttempts : ℕ
  nextRetryAt : Option Millis
  lastError : Option String
  lockedBy : Option PublisherId
  lockedAt : Option Millis
  /-- The run that has set the lock.  This is no column of the table. -/
  locker : Option RunId
  /-- How often the lock was released as stale.  This is no column of the table. -/
  releases : ℕ
deriving DecidableEq, Repr

namespace OutboxEvent

def new (maxAttempts : ℕ) : OutboxEvent :=
  ⟨.pending, 0, maxAttempts, none, none, none, none, none, 0⟩

/-- `lockedBy: null, lockedAt: null`, with a status. -/
def unlock (status : OutboxStatus) (e : OutboxEvent) : OutboxEvent :=
  { e with status := status, lockedBy := none, lockedAt := none, locker := none }

def isStale (now staleLockThresholdMs : Millis) (e : OutboxEvent) : Bool :=
  e.status = .processing ∧ ∃ lockedAt ∈ e.lockedAt, lockedAt + staleLockThresholdMs ≤ now

def unlockStale (now staleLockThresholdMs : Millis) (e : OutboxEvent) : OutboxEvent :=
  if e.isStale now staleLockThresholdMs then
    { e.unlock .pending with releases := e.releases + 1 }
  else e

/-- `status: "PENDING"`, and the next retry is due. -/
def isCandidate (now : Millis) (e : OutboxEvent) : Bool :=
  e.status = .pending ∧ ∀ nextRetryAt ∈ e.nextRetryAt, nextRetryAt ≤ now

def lock (run : RunId) (publisherId : PublisherId) (now : Millis) (e : OutboxEvent) :
    OutboxEvent :=
  { e with
    status := .processing, lockedBy := some publisherId, lockedAt := some now, locker := some run }

def succeed (e : OutboxEvent) : OutboxEvent := { e.unlock .published with lastError := none }

def fail (attempts : ℕ) (lastError : String) (e : OutboxEvent) : OutboxEvent :=
  { e.unlock .failed with attempts := attempts, lastError := some lastError }

def retryAt (attempts : ℕ) (nextRetryAt : Millis) (lastError : String) (e : OutboxEvent) :
    OutboxEvent :=
  { e.unlock .pending with
    attempts := attempts, nextRetryAt := some nextRetryAt, lastError := some lastError }

def reset (e : OutboxEvent) : OutboxEvent :=
  { e.unlock .pending with attempts := 0, nextRetryAt := none, lastError := none }

end OutboxEvent

/-- An event that was returned to a run which has not written its outcome yet, and how often its
lock had been released by then. -/
structure Hold where
  run : RunId
  eventId : EventId
  releases : ℕ
deriving DecidableEq, Repr

/-- The outbox and the queues. -/
structure Tables where
  events : List OutboxEvent
  /-- The jobs, by their identifiers. -/
  domainEventQueue : List EventId
  deadLetterQueue : List EventId
  /-- How many runs have begun. -/
  runs : ℕ
  /-- What the runs are still publishing. -/
  held : List Hold
deriving DecidableEq, Repr

/-- `update({ where: { id } })`, which throws if there is no such row. -/
def Tables.update (s : Tables) (id : EventId) (f : OutboxEvent → OutboxEvent) : Option Tables :=
  if id < s.events.length then some { s with events := s.events.modify id f } else none

/-- The run is done with the event. -/
def Tables.settle (s : Tables) (run : RunId) (id : EventId) : Tables :=
  { s with held := s.held.filter fun h => ¬(h.run = run ∧ h.eventId = id) }

/-- `findMany({ where: { id: { in: candidateIds }, lockedBy } })`. -/
def Tables.lockedEvents (s : Tables) (candidateIds : List EventId)
    (publisherId : PublisherId) : List (Row OutboxEvent) :=
  (Table.findMany (fun e => e.lockedBy = some publisherId) s.events).filter fun row =>
    row.id ∈ candidateIds

/-- A job whose identifier is in the queue already is not added again. -/
def addJob (id : EventId) (queue : List EventId) : List EventId :=
  if id ∈ queue then queue else queue ++ [id]

inductive Commit where
  | createOutboxEvent (maxAttempts : ℕ)
  | unlockStaleEvents (now staleLockThresholdMs : Millis)
  /-- No statement: a run begins. -/
  | beginRun
  | lockCandidates (run : RunId) (candidateIds : List EventId) (publisherId : PublisherId)
      (now : Millis)
  /-- A query, which is put down because of what it returns. -/
  | findLocked (run : RunId) (candidateIds : List EventId) (publisherId : PublisherId)
  | publishDomainEventJob (id : EventId)
  | publishDlqEventJob (id : EventId)
  | markPublished (run : RunId) (id : EventId)
  | markFailed (run : RunId) (id : EventId) (attempts : ℕ) (lastError : String)
  | scheduleRetry (run : RunId) (id : EventId) (attempts : ℕ) (nextRetryAt : Millis)
      (lastError : String)
  | resetEvent (id : EventId)
deriving DecidableEq

def Commit.apply : Commit → Tables → Option Tables
  | .createOutboxEvent maxAttempts, s =>
    some { s with events := s.events ++ [OutboxEvent.new maxAttempts] }
  | .unlockStaleEvents now threshold, s =>
    some { s with events := s.events.map (OutboxEvent.unlockStale now threshold) }
  | .beginRun, s => some { s with runs := s.runs + 1 }
  | .lockCandidates run candidateIds publisherId now, s =>
    some { s with events := s.events.mapIdx fun id e =>
      if id ∈ candidateIds ∧ e.status = .pending then e.lock run publisherId now else e }
  | .findLocked run candidateIds publisherId, s =>
    some { s with held := s.held ++ (s.lockedEvents candidateIds publisherId).map fun row =>
      ⟨run, row.id, row.val.releases⟩ }
  | .publishDomainEventJob id, s =>
    some { s with domainEventQueue := addJob id s.domainEventQueue }
  | .publishDlqEventJob id, s => some { s with deadLetterQueue := addJob id s.deadLetterQueue }
  | .markPublished run id, s => (s.update id OutboxEvent.succeed).map fun s => s.settle run id
  | .markFailed run id attempts lastError, s =>
    (s.update id (OutboxEvent.fail attempts lastError)).map fun s => s.settle run id
  | .scheduleRetry run id attempts nextRetryAt lastError, s =>
    (s.update id (OutboxEvent.retryAt attempts nextRetryAt lastError)).map fun s => s.settle run id
  | .resetEvent id, s => s.update id OutboxEvent.reset

/-! ## The services -/

abbrev Service := Proc Tables Commit AppError

/-- Claims and locks a batch of eligible pending or retryable outbox events.  The run and the
identifiers that it returns. -/
def claimBatchForPublishing (publisherId : PublisherId) (batchSize : ℕ) (now unlockedAt : Millis) :
    Service (RunId × List EventId) := do
  let db ← Proc.commit .beginRun
  let run := db.runs
  let _ ← Proc.commit (.unlockStaleEvents unlockedAt (minutes 5))
  let db ← Proc.read
  let candidateIds := ((Table.findMany (OutboxEvent.isCandidate now) db.events).take
    batchSize).map Row.id
  if candidateIds = [] then pure (run, [])
  else
    let _ ← Proc.commit (.lockCandidates run candidateIds publisherId now)
    let db ← Proc.commit (.findLocked run candidateIds publisherId)
    pure (run, (db.lockedEvents candidateIds publisherId).map Row.id)

structure PublishBatchResult where
  claimedCount : ℕ
  publishedCount : ℕ
  failedCount : ℕ
  deadLetteredCount : ℕ
deriving DecidableEq, Repr

/-- What is done after the event could not be published. -/
def handleFailure (run : RunId) (nextRetryAt : EventId → Millis) (event : Row OutboxEvent)
    (result : PublishBatchResult) (err : AppError) : Service PublishBatchResult := do
  let errorMessage :=
    if err.message = "" then "Failed to publish event to queue" else err.message
  let nextAttempt := event.val.attempts + 1
  if nextAttempt ≥ event.val.maxAttempts then
    let _ ← Proc.commit
      (.markFailed run event.id nextAttempt s!"[Max Attempts Reached] {errorMessage}")
    Proc.attempt (.publishDlqEventJob event.id)
    pure { result with deadLetteredCount := result.deadLetteredCount + 1 }
  else
    let _ ← Proc.commit
      (.scheduleRetry run event.id nextAttempt (nextRetryAt event.id) errorMessage)
    pure { result with failedCount := result.failedCount + 1 }

/-- The loop over the events of a batch. -/
def publishEvents (run : RunId) (nextRetryAt : EventId → Millis) :
    List (Row OutboxEvent) → PublishBatchResult → Service PublishBatchResult
  | [], result => pure result
  | event :: events, result => do
    let result ← Proc.tryCatch
      (do
        let _ ← Proc.commit (.publishDomainEventJob event.id)
        let _ ← Proc.commit (.markPublished run event.id)
        pure { result with publishedCount := result.publishedCount + 1 })
      (handleFailure run nextRetryAt event result)
    publishEvents run nextRetryAt events result

/-- Polls the outbox table, claims a batch with lock, and publishes them.  `nextRetryAt` is what
`calculateNextRetryDate` yields for an event, if it is called. -/
def pollAndPublishBatch (publisherId : PublisherId) (batchSize : ℕ) (now unlockedAt : Millis)
    (nextRetryAt : EventId → Millis) : Service PublishBatchResult := do
  let (run, lockedIds) ← claimBatchForPublishing publisherId batchSize now unlockedAt
  if lockedIds = [] then pure ⟨0, 0, 0, 0⟩
  else
    let db ← Proc.read
    let events := (Table.findMany (fun _ => true) db.events).filter fun row => row.id ∈ lockedIds
    publishEvents run nextRetryAt events ⟨lockedIds.length, 0, 0, 0⟩

/-- Manually triggers a retry for a FAILED or dead-lettered outbox event. -/
def retryFailedEvent (eventId : EventId) : Service Unit := do
  let db ← Proc.read
  match db.events[eventId]? with
  | none => throw ⟨"Outbox event not found", 404⟩
  | some event =>
    if event.status = .published then throw ⟨"Outbox event is already PUBLISHED", 400⟩
    else
      let _ ← Proc.commit (.resetEvent eventId)
      pure ()

inductive Call where
  /-- In a transaction of another service. -/
  | createOutboxEvent (maxAttempts : Option ℕ)
  | pollAndPublishBatch (publisherId : PublisherId) (batchSize : ℕ) (now unlockedAt : Millis)
      (nextRetryAt : EventId → Millis)
  | unlockStaleEvents (now staleLockThresholdMs : Millis)
  | retryFailedEvent (eventId : EventId)

/-- What the queues do by themselves. -/
inductive QueueAction where
  | domainEventDone (id : EventId)
  | deadLetterDone (id : EventId)

def QueueAction.act : QueueAction → Tables → Tables
  | .domainEventDone id, s => { s with domainEventQueue := s.domainEventQueue.erase id }
  | .deadLetterDone id, s => { s with deadLetterQueue := s.deadLetterQueue.erase id }

/-- The servers. -/
def publishers : Machine Tables Commit AppError Call QueueAction where
  apply := Commit.apply
  proc
    | .createOutboxEvent maxAttempts => do
      let _ ← Proc.commit (.createOutboxEvent (maxAttempts.getD 10))
      pure ()
    | .pollAndPublishBatch publisherId batchSize now unlockedAt nextRetryAt => do
      let _ ← pollAndPublishBatch publisherId batchSize now unlockedAt nextRetryAt
      pure ()
    | .unlockStaleEvents now threshold => do
      let _ ← Proc.commit (.unlockStaleEvents now threshold)
      pure ()
    | .retryFailedEvent eventId => retryFailedEvent eventId
  environ := QueueAction.act

/-! ## One row -/

section Rows

variable {s s' : Tables} {c : Commit} {id : EventId}

/-- What a batch does to the rows that exist. -/
def Commit.change : Commit → EventId → OutboxEvent → OutboxEvent
  | .unlockStaleEvents now threshold, _, e => e.unlockStale now threshold
  | .lockCandidates run candidateIds publisherId now, id, e =>
    if id ∈ candidateIds ∧ e.status = .pending then e.lock run publisherId now else e
  | .markPublished _ eventId, id, e => if id = eventId then e.succeed else e
  | .markFailed _ eventId attempts lastError, id, e =>
    if id = eventId then e.fail attempts lastError else e
  | .scheduleRetry _ eventId attempts nextRetryAt lastError, id, e =>
    if id = eventId then e.retryAt attempts nextRetryAt lastError else e
  | .resetEvent eventId, id, e => if id = eventId then e.reset else e
  | _, _, e => e

lemma update_eq_some {f : OutboxEvent → OutboxEvent} (h : s.update id f = some s') :
    id < s.events.length ∧ s' = { s with events := s.events.modify id f } := by
  unfold Tables.update at h
  split_ifs at h with hlt
  exact ⟨hlt, (Option.some.inj h).symm⟩

lemma getElem?_modify_ite {l : List OutboxEvent} {i j : ℕ} {f : OutboxEvent → OutboxEvent} :
    (l.modify i f)[j]? = l[j]?.map fun e => if j = i then f e else e := by
  rw [List.getElem?_modify]
  by_cases h : i = j
  · simp [h]
  · simp [h, Ne.symm h]

/-- **The rows after a batch.**  A row that exists is changed, and a new row is pending. -/
theorem getElem?_of_apply (h : c.apply s = some s') (id : EventId) :
    s'.events[id]? = (s.events[id]?.map (c.change id)) ∨
      ∃ maxAttempts, c = .createOutboxEvent maxAttempts ∧ s.events[id]? = none ∧
        s'.events[id]? = some (OutboxEvent.new maxAttempts) := by
  have hsettled : ∀ {eventId run : ℕ} {f : OutboxEvent → OutboxEvent},
      (s.update eventId f).map (fun s => s.settle run eventId) = some s' →
      s'.events[id]? = s.events[id]?.map fun e => if id = eventId then f e else e := by
    intro eventId run f h
    obtain ⟨s₁, hs₁, rfl⟩ := Option.map_eq_some_iff.mp h
    obtain ⟨-, rfl⟩ := update_eq_some hs₁
    exact getElem?_modify_ite
  have hunchanged : s.events[id]? = s.events[id]?.map fun e => e := by
    cases s.events[id]? <;> rfl
  cases c with
  | createOutboxEvent maxAttempts =>
    obtain rfl := Option.some.inj h
    -- only the id after the last row is the new one
    rcases lt_trichotomy id s.events.length with hlt | heq | hgt
    · left
      rw [List.getElem?_append_left hlt]
      exact hunchanged
    · right
      exact ⟨maxAttempts, rfl, by simp [heq], by simp [heq]⟩
    · left
      rw [List.getElem?_append_right hgt.le, List.getElem?_eq_none hgt.le,
        List.getElem?_eq_none (Nat.sub_pos_of_lt hgt)]
      rfl
  | unlockStaleEvents now threshold =>
    obtain rfl := Option.some.inj h
    exact .inl List.getElem?_map
  | lockCandidates run candidateIds publisherId now =>
    obtain rfl := Option.some.inj h
    exact .inl List.getElem?_mapIdx
  | beginRun | findLocked run candidateIds publisherId | publishDomainEventJob id
  | publishDlqEventJob id =>
    obtain rfl := Option.some.inj h
    exact .inl hunchanged
  | markPublished run eventId | markFailed run eventId attempts lastError
  | scheduleRetry run eventId attempts nextRetryAt lastError => exact .inl (hsettled h)
  | resetEvent eventId =>
    obtain ⟨-, rfl⟩ := update_eq_some h
    exact .inl getElem?_modify_ite

end Rows

end MeeoServer.Outbox
