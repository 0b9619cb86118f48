/-
# Operators of the outbox

`jobs/services/jobOperations.service.ts`: operators retry and cancel jobs, one by one or all that
have failed, beside the publishers.  A retry puts the job into the queue at once, and a
cancellation writes FAILED by the identifier alone, so an event may be published once more, or fail
after it was published.  What stays true is where an event can have gone: an event that is published
was put into the queue, and an event that has failed has used up its attempts or was cancelled.

Which jobs were put into the queue and which events were cancelled is history.
-/
import MeeoServer.Outbox.LifeCycle
import MeeoServer.Process.Receipts

namespace MeeoServer.Outbox.Operations

open Proc Relation

/-! ## The tables -/

structure Desk where
  tables : Tables
  domainEventsPaused : Bool
  deadLetterPaused : Bool
  queued : List EventId
  cancelled : List EventId

inductive DeskCommit where
  | publisher (c : Commit)
  | cancelEvent (id : EventId)
  /-- `updateMany({ where: { id: { in: ids } } })` -/
  | resetEvents (ids : List EventId)
  | obliterateDeadLetter
  | setPaused (domainEvents deadLetter : Bool)

/-- What a cancellation writes. -/
def cancel (e : OutboxEvent) : OutboxEvent :=
  { e.unlock .failed with lastError := some "Job cancelled by operator" }

/-- The job that a batch puts into the queue. -/
def makes : Commit → List EventId
  | .publishDomainEventJob id => [id]
  | _ => []

/-- The job that has to be there before a batch. -/
def needs : Commit → List EventId
  | .markPublished _ id => [id]
  | _ => []

def DeskCommit.apply : DeskCommit → Desk → Option Desk
  | .publisher c, s =>
    (c.apply s.tables).map fun tables => { s with tables := tables, queued := s.queued ++ makes c }
  | .cancelEvent id, s =>
    (s.tables.update id cancel).map fun tables =>
      { s with tables := tables, cancelled := s.cancelled ++ [id] }
  | .resetEvents ids, s =>
    some { s with tables := { s.tables with
      events := s.tables.events.mapIdx fun id e => if id ∈ ids then e.reset else e } }
  | .obliterateDeadLetter, s => some { s with tables := { s.tables with deadLetterQueue := [] } }
  | .setPaused domainEvents deadLetter, s =>
    some { s with domainEventsPaused := domainEvents, deadLetterPaused := deadLetter }

/-! ## The service -/

abbrev DeskService := Proc Desk DeskCommit AppError

structure JobResult where
  jobId : EventId
  status : String
  message : String
deriving DecidableEq

/-- Retries a specific failed or dead-lettered job. -/
def retryJob (id : EventId) : DeskService JobResult := do
  let s ← Proc.read
  match s.tables.events[id]? with
  | none => throw ⟨"Job not found", 404⟩
  | some event =>
    if event.status = .published then
      throw ⟨"Job has already completed successfully and cannot be retried", 400⟩
    else do
      let _ ← Proc.commit (.publisher (.resetEvent id))
      let _ ← Proc.commit (.publisher (.publishDomainEventJob id))
      pure ⟨id, "WAITING", "Job reset and enqueued for immediate execution"⟩

/-- Cancels / discards an active or waiting job. -/
def cancelJob (id : EventId) : DeskService JobResult := do
  let s ← Proc.read
  match s.tables.events[id]? with
  | none => throw ⟨"Job not found", 404⟩
  | some event =>
    if event.status = .published then throw ⟨"Cannot cancel completed job", 400⟩
    else do
      let _ ← Proc.commit (.cancelEvent id)
      pure ⟨id, "CANCELLED", "Job cancelled successfully"⟩

inductive BulkJobAction where
  | retryAllFailed
  | purgeDeadLetter
  | pauseQueues
  | resumeQueues

structure BulkResult where
  action : BulkJobAction
  affectedCount : Option ℕ
  message : String

/-- Executes bulk actions across queues. -/
def executeBulkAction : BulkJobAction → DeskService BulkResult
  | .retryAllFailed => do
    let s ← Proc.read
    let failedEvents := (Table.findMany (fun e => e.status = .failed) s.tables.events).take 100
    if failedEvents = [] then pure ⟨.retryAllFailed, some 0, "No failed jobs to retry"⟩
    else do
      let ids := failedEvents.map Row.id
      let _ ← Proc.commit (.resetEvents ids)
      let _ ← Proc.tryAll (fun id => Proc.attempt (.publisher (.publishDomainEventJob id))) ids
      pure ⟨.retryAllFailed, some ids.length, s!"Successfully re-queued {ids.length} failed jobs"⟩
  | .purgeDeadLetter => do
    Proc.attempt .obliterateDeadLetter
    pure ⟨.purgeDeadLetter, none, "Dead Letter Queue purged successfully"⟩
  | .pauseQueues => do
    Proc.attempt (.setPaused true true)
    pure ⟨.pauseQueues, none, "All worker queues paused"⟩
  | .resumeQueues => do
    Proc.attempt (.setPaused false false)
    pure ⟨.resumeQueues, none, "All worker queues resumed"⟩

inductive DeskCall where
  | publisher (x : Call)
  | retryJob (id : EventId)
  | cancelJob (id : EventId)
  | executeBulkAction (action : BulkJobAction)

def DeskCall.proc : DeskCall → DeskService Unit
  | .publisher x => (publishers.proc x).zoom Desk.tables DeskCommit.publisher
  | .retryJob id => do
    let _ ← Operations.retryJob id
    pure ()
  | .cancelJob id => do
    let _ ← Operations.cancelJob id
    pure ()
  | .executeBulkAction action => do
    let _ ← Operations.executeBulkAction action
    pure ()

/-- The publishers and the operators; the queues go on by themselves. -/
def operators : Machine Desk DeskCommit AppError DeskCall QueueAction where
  apply := DeskCommit.apply
  proc := DeskCall.proc
  environ action s := { s with tables := action.act s.tables }

/-! ## One batch -/

section Batch

variable {s s' : Desk} {c : DeskCommit}

lemma apply_publisher {b : Commit} (happ : (DeskCommit.publisher b).apply s = some s') :
    b.apply s.tables = some s'.tables ∧ s'.queued = s.queued ++ makes b ∧
      s'.cancelled = s.cancelled := by
  obtain ⟨tables, htables, rfl⟩ := Option.map_eq_some_iff.mp happ
  exact ⟨htables, rfl, rfl⟩

/-- What is put into the queue, and what is cancelled, is never forgotten. -/
lemma history_grows (happ : c.apply s = some s') :
    s.queued ⊆ s'.queued ∧ s.cancelled ⊆ s'.cancelled := by
  cases c with
  | publisher b =>
    obtain ⟨-, hqueued, hcancelled⟩ := apply_publisher happ
    rw [hqueued, hcancelled]
    exact ⟨List.subset_append_left _ _, List.Subset.refl _⟩
  | cancelEvent id =>
    obtain ⟨tables, -, rfl⟩ := Option.map_eq_some_iff.mp happ
    exact ⟨List.Subset.refl _, List.subset_append_left _ _⟩
  | resetEvents _ | obliterateDeadLetter | setPaused _ _ =>
    obtain rfl := Option.some.inj happ
    exact ⟨List.Subset.refl _, List.Subset.refl _⟩

/-- The row of an event after a batch that is no publisher's. -/
lemma getElem?_of_operator (happ : c.apply s = some s') (hc : ∀ b, c ≠ .publisher b)
    (id : EventId) : s'.tables.events[id]? = s.tables.events[id]? ∨
      ∃ e, s.tables.events[id]? = some e ∧
        (s'.tables.events[id]? = some e.reset ∨
          s'.tables.events[id]? = some (cancel e) ∧ id ∈ s'.cancelled) := by
  cases c with
  | publisher b => exact absurd rfl (hc b)
  | cancelEvent eventId =>
    obtain ⟨tables, htables, rfl⟩ := Option.map_eq_some_iff.mp happ
    obtain ⟨hlt, rfl⟩ := update_eq_some htables
    by_cases hid : id = eventId
    · subst hid
      obtain ⟨e, he⟩ : ∃ e, s.tables.events[id]? = some e :=
        ⟨_, List.getElem?_eq_getElem hlt⟩
      refine .inr ⟨e, he, .inr ⟨?_, List.mem_append_right _ (List.mem_singleton_self id)⟩⟩
      show (s.tables.events.modify id cancel)[id]? = _
      rw [getElem?_modify_ite, he, Option.map_some, if_pos rfl]
    · left
      show (s.tables.events.modify eventId cancel)[id]? = _
      rw [getElem?_modify_ite]
      simp [hid]
  | resetEvents ids =>
    obtain rfl := Option.some.inj happ
    have hrow : (s.tables.events.mapIdx fun id e => if id ∈ ids then e.reset else e)[id]? =
        s.tables.events[id]?.map fun e => if id ∈ ids then e.reset else e := List.getElem?_mapIdx
    cases he : s.tables.events[id]? with
    | none => exact .inl (hrow.trans (by rw [he, Option.map_none]))
    | some e =>
      by_cases hid : id ∈ ids
      · exact .inr ⟨e, rfl, .inl (hrow.trans (by rw [he, Option.map_some, if_pos hid]))⟩
      · exact .inl (hrow.trans (by rw [he, Option.map_some, if_neg hid]))
  | obliterateDeadLetter | setPaused _ _ =>
    obtain rfl := Option.some.inj happ
    exact .inl rfl

end Batch

/-! ## What is published was queued -/

/-- Publishers and operators leave the jobs that they have put into the queue in the history. -/
def jobs : Receipts Desk DeskCommit EventId where
  log := Desk.queued
  makes
    | .publisher c => makes c
    | _ => []
  needs
    | .publisher c => needs c
    | _ => []

/-- The same, as far as a publisher knows the store. -/
def publisherJobs : Receipts Tables Commit EventId := ⟨fun _ => [], makes, needs⟩

lemma jobs_lawful : jobs.Lawful DeskCommit.apply where
  grows happ := (history_grows happ).1
  made {c s s'} happ := by
    cases c with
    | publisher b =>
      obtain ⟨-, hqueued, -⟩ := apply_publisher happ
      show makes b ⊆ s'.queued
      rw [hqueued]
      exact List.subset_append_right _ _
    | cancelEvent _ | resetEvents _ | obliterateDeadLetter | setPaused _ _ =>
      exact List.nil_subset _

section Follows

variable {held : List EventId}

/-- A batch that needs no job. -/
lemma allow_of_needs {c : Commit} (h : needs c = []) : publisherJobs.protocol.allow held c := by
  show needs c ⊆ held
  rw [h]
  exact List.nil_subset held

lemma handleFailure_follows (run : RunId) (nextRetryAt : EventId → Millis)
    (event : Row OutboxEvent) (result : PublishBatchResult) (err : AppError) :
    publisherJobs.protocol.Follows Commit.apply
      (handleFailure run nextRetryAt event result err) Protocol.Ends held := by
  unfold handleFailure
  dsimp only
  split
  · refine Protocol.follows_commit (allow_of_needs rfl) trivial fun _ _ _ => ?_
    exact (Protocol.follows_attempt (allow_of_needs rfl)).andThen fun _ _ => trivial
  · exact Protocol.follows_commit (allow_of_needs rfl) trivial fun _ _ _ => trivial

/-- An event is marked right after its job was put into the queue. -/
lemma publishEvents_follows (run : RunId) (nextRetryAt : EventId → Millis)
    (events : List (Row OutboxEvent)) (result : PublishBatchResult) :
    publisherJobs.protocol.Follows Commit.apply (publishEvents run nextRetryAt events result)
      Protocol.Ends held := by
  induction events generalizing held result with
  | nil => trivial
  | cons event events ih =>
    refine Protocol.Follows.andThen (Protocol.Follows.tryCatch ?_) fun result _ => ih result
    refine Protocol.follows_commit (allow_of_needs rfl) (handleFailure_follows _ _ _ _ _)
      fun s s' _ => ?_
    refine Protocol.follows_commit ?_ (handleFailure_follows _ _ _ _ _) fun _ _ _ => trivial
    show [event.id] ⊆ held ++ [event.id]
    exact List.subset_append_right _ _

lemma pollAndPublishBatch_follows (publisherId : PublisherId) (batchSize : ℕ)
    (now unlockedAt : Millis) (nextRetryAt : EventId → Millis) :
    publisherJobs.protocol.Follows Commit.apply
      (pollAndPublishBatch publisherId batchSize now unlockedAt nextRetryAt) Protocol.Ends
      held := by
  unfold pollAndPublishBatch claimBatchForPublishing
  refine Protocol.Follows.andThen ?_ fun claimed held => ?_
  · refine Protocol.follows_commit (allow_of_needs rfl) trivial fun _ _ _ => ?_
    refine Protocol.follows_commit (allow_of_needs rfl) trivial fun _ _ _ => ?_
    refine Protocol.follows_read trivial fun _ => ?_
    dsimp only
    split
    · trivial
    · refine Protocol.follows_commit (allow_of_needs rfl) trivial fun _ _ _ => ?_
      exact Protocol.follows_commit (allow_of_needs rfl) trivial fun _ _ _ => trivial
  · obtain ⟨run, lockedIds⟩ := claimed
    dsimp only
    split
    · trivial
    · exact Protocol.follows_read trivial fun _ => publishEvents_follows _ _ _ _

lemma publishers_follows (x : Call) :
    publisherJobs.protocol.Follows Commit.apply (publishers.proc x) Protocol.Ends held := by
  cases x with
  | createOutboxEvent maxAttempts =>
    exact Protocol.follows_commit (allow_of_needs rfl) trivial fun _ _ _ => trivial
  | pollAndPublishBatch publisherId batchSize now unlockedAt nextRetryAt =>
    exact (pollAndPublishBatch_follows publisherId batchSize now unlockedAt nextRetryAt).andThen
      fun _ _ => trivial
  | unlockStaleEvents now threshold =>
    exact Protocol.follows_commit (allow_of_needs rfl) trivial fun _ _ _ => trivial
  | retryFailedEvent eventId =>
    refine Protocol.follows_read trivial fun s => ?_
    split
    · trivial
    · split
      · trivial
      · exact Protocol.follows_commit (allow_of_needs rfl) trivial fun _ _ _ => trivial

/-- A batch of an operator. -/
lemma allow_operator {c : DeskCommit} (h : jobs.needs c = []) : jobs.protocol.allow held c := by
  show jobs.needs c ⊆ held
  rw [h]
  exact List.nil_subset held

lemma retryJob_follows (id : EventId) :
    jobs.protocol.Follows DeskCommit.apply (retryJob id) Protocol.Ends held := by
  refine Protocol.follows_read trivial fun s => ?_
  split
  · trivial
  · split
    · trivial
    · refine Protocol.follows_commit (allow_operator rfl) trivial fun _ _ _ => ?_
      exact Protocol.follows_commit (allow_operator rfl) trivial fun _ _ _ => trivial

lemma cancelJob_follows (id : EventId) :
    jobs.protocol.Follows DeskCommit.apply (cancelJob id) Protocol.Ends held := by
  refine Protocol.follows_read trivial fun s => ?_
  split
  · trivial
  · split
    · trivial
    · exact Protocol.follows_commit (allow_operator rfl) trivial fun _ _ _ => trivial

lemma executeBulkAction_follows (action : BulkJobAction) :
    jobs.protocol.Follows DeskCommit.apply (executeBulkAction action) Protocol.Ends held := by
  cases action with
  | retryAllFailed =>
    refine Protocol.follows_read trivial fun s => ?_
    dsimp only
    split
    · trivial
    · refine Protocol.follows_commit (allow_operator rfl) trivial fun _ _ _ => ?_
      refine Protocol.Follows.andThen ?_ fun _ _ => trivial
      exact Protocol.tryAll_follows
        (fun _ _ => Protocol.follows_attempt (allow_operator rfl)) _ _
  | purgeDeadLetter | pauseQueues | resumeQueues =>
    exact (Protocol.follows_attempt (allow_operator rfl)).andThen fun _ _ => trivial

lemma proc_follows (x : DeskCall) :
    jobs.protocol.Follows DeskCommit.apply (operators.proc x) Protocol.Ends [] := by
  cases x with
  | publisher x =>
    refine Protocol.Follows.zoom (fun happ => (apply_publisher happ).1) id (fun held c o => ?_)
      (publishers_follows x)
    show (if o.isSome then held ++ makes c else held) =
      if (o.map Desk.tables).isSome then held ++ makes c else held
    rw [Option.isSome_map]
  | retryJob id => exact (retryJob_follows id).andThen fun _ _ => trivial
  | cancelJob id => exact (cancelJob_follows id).andThen fun _ _ => trivial
  | executeBulkAction action =>
    exact (executeBulkAction_follows action).andThen fun _ _ => trivial

end Follows

/-- An event that is published was put into the queue. -/
def PublishedQueued (s : Desk) : Prop :=
  ∀ (id : EventId) e, s.tables.events[id]? = some e → e.status = .published → id ∈ s.queued

/-- The row that is marked published is the one whose job has to be there. -/
lemma change_published {c : Commit} {id : EventId} {e : OutboxEvent}
    (h : (c.change id e).status = .published) : e.status = .published ∨ id ∈ needs c := by
  cases c with
  | markPublished run eventId =>
    by_cases hid : id = eventId
    · exact .inr (List.mem_singleton.mpr hid)
    · left
      simpa [Commit.change, hid] using h
  | unlockStaleEvents now threshold =>
    unfold Commit.change OutboxEvent.unlockStale at h
    dsimp only at h
    split at h
    · exact nomatch h
    · exact .inl h
  | lockCandidates _ _ _ _ | markFailed _ _ _ _ | scheduleRetry _ _ _ _ _ | resetEvent _ =>
    unfold Commit.change at h
    dsimp only at h
    split at h
    · exact nomatch h
    · exact .inl h
  | _ => exact .inl h

lemma PublishedQueued.of_apply {s s' : Desk} {c : DeskCommit} (h : PublishedQueued s)
    (hneeds : jobs.needs c ⊆ s.queued) (happ : c.apply s = some s') : PublishedQueued s' := by
  intro id e' he' hpublished
  have hgrows := (history_grows happ).1
  by_cases hc : ∀ b, c ≠ .publisher b
  · rcases getElem?_of_operator happ hc id with hsame | ⟨e, he, hreset | ⟨hcancel, -⟩⟩
    · exact hgrows (h id e' (hsame ▸ he') hpublished)
    · obtain rfl := Option.some.inj (hreset.symm.trans he')
      exact nomatch hpublished
    · obtain rfl := Option.some.inj (hcancel.symm.trans he')
      exact nomatch hpublished
  · push Not at hc
    obtain ⟨b, rfl⟩ := hc
    obtain ⟨htables, -, -⟩ := apply_publisher happ
    rcases getElem?_of_apply htables id with hmap | ⟨_, -, -, hnew⟩
    · rw [hmap] at he'
      obtain ⟨e, he, rfl⟩ := Option.map_eq_some_iff.mp he'
      rcases change_published hpublished with hbefore | hneeded
      · exact hgrows (h id e he hbefore)
      · exact hgrows (hneeds hneeded)
    · obtain rfl := Option.some.inj (hnew.symm.trans he')
      exact nomatch hpublished

/-! ## What has failed was given up or cancelled -/

def FailedAccounted (s : Desk) : Prop :=
  ∀ (id : EventId) e, s.tables.events[id]? = some e → e.status = .failed →
    e.maxAttempts ≤ e.attempts ∨ id ∈ s.cancelled

/-- The limits of the events stay. -/
def Later (s s' : Desk) : Prop := SameLimits s.tables s'.tables

lemma Later.of_apply {s s' : Desk} {c : DeskCommit} (happ : c.apply s = some s') : Later s s' := by
  by_cases hc : ∀ b, c ≠ .publisher b
  · intro id e he
    rcases getElem?_of_operator happ hc id with hsame | ⟨e₁, he₁, hrow⟩
    · exact ⟨e, hsame.trans he, rfl⟩
    · obtain rfl := Option.some.inj (he₁.symm.trans he)
      rcases hrow with hreset | ⟨hcancel, -⟩
      · exact ⟨_, hreset, rfl⟩
      · exact ⟨_, hcancel, rfl⟩
  · push Not at hc
    obtain ⟨b, rfl⟩ := hc
    exact SameLimits.of_apply (apply_publisher happ).1

/-- A publisher gives an event up at its last attempt. -/
def LastAttemptOf (s : Desk) : DeskCommit → Prop
  | .publisher c => LastAttempt s.tables c
  | _ => True

lemma FailedAccounted.of_apply {s s' : Desk} {c : DeskCommit} (h : FailedAccounted s)
    (hlast : LastAttemptOf s c) (happ : c.apply s = some s') : FailedAccounted s' := by
  intro id e' he' hfailed
  have hgrows := (history_grows happ).2
  by_cases hc : ∀ b, c ≠ .publisher b
  · rcases getElem?_of_operator happ hc id with hsame | ⟨e, he, hreset | ⟨-, hcancelled⟩⟩
    · exact (h id e' (hsame ▸ he') hfailed).imp_right fun hmem => hgrows hmem
    · obtain rfl := Option.some.inj (hreset.symm.trans he')
      exact nomatch hfailed
    · exact .inr hcancelled
  · push Not at hc
    obtain ⟨b, rfl⟩ := hc
    obtain ⟨htables, -, -⟩ := apply_publisher happ
    rcases getElem?_of_apply htables id with hmap | ⟨_, -, -, hnew⟩
    · rw [hmap] at he'
      obtain ⟨e, he, rfl⟩ := Option.map_eq_some_iff.mp he'
      rcases change_of_lastAttempt hlast he hfailed with hsame | hexhausted
      · rw [hsame] at hfailed ⊢
        exact (h id e he hfailed).imp_right fun hmem => hgrows hmem
      · left
        rw [change_maxAttempts]
        exact hexhausted
    · obtain rfl := Option.some.inj (hnew.symm.trans he')
      exact nomatch hfailed

lemma operators_rely (Allowed : DeskCall → Prop) (Cond : Desk → DeskCommit → Prop) :
    Rely operators Allowed Cond Later fun _ => LastAttemptOf where
  refl s := SameLimits.refl s.tables
  trans h h' := SameLimits.trans h h'
  env action s := by cases action <;> exact SameLimits.refl s.tables
  commit _ _ _ happ := .of_apply happ
  emits x s _ := by
    cases x with
    | publisher x =>
      have hemits := (publishers_rely Free).emits x s.tables trivial
      refine (Emits.zoom (fun happ => (apply_publisher happ).1) id id hemits).imp ?_
      rintro s _ ⟨b, rfl, hlast⟩
      exact hlast
    | retryJob id =>
      refine Emits.andThen ?_ fun _ _ => emits_pure
      refine emits_read fun s _ => ?_
      split
      · exact emits_throw
      · split
        · exact emits_throw
        · exact emits_commit (fun _ _ => trivial) fun _ _ _ _ _ =>
            emits_commit (fun _ _ => trivial) fun _ _ _ _ _ => emits_pure
    | cancelJob id =>
      refine Emits.andThen ?_ fun _ _ => emits_pure
      refine emits_read fun s _ => ?_
      split
      · exact emits_throw
      · split
        · exact emits_throw
        · exact emits_commit (fun _ _ => trivial) fun _ _ _ _ _ => emits_pure
    | executeBulkAction action =>
      refine Emits.andThen ?_ fun _ _ => emits_pure
      cases action with
      | retryAllFailed =>
        refine emits_read fun s _ => ?_
        dsimp only
        split
        · exact emits_pure
        · refine emits_commit (fun _ _ => trivial) fun _ _ _ _ _ => ?_
          exact Emits.andThen (tryAll_emits_any fun _ _ _ => emits_attempt fun _ _ => trivial)
            fun _ _ => emits_pure
      | purgeDeadLetter | pauseQueues | resumeQueues =>
        exact Emits.andThen (emits_attempt fun _ _ => trivial) fun _ _ => emits_pure

/-! ## Runs -/

/-- Every event is accounted for: if it is published, its job was put into the queue, and if it has
failed, its attempts are used up or it was cancelled. -/
structure Accounted (s : Desk) : Prop where
  published : PublishedQueued s
  failed : FailedAccounted s

section Runs

variable {Allowed : DeskCall → Prop} {Cond : Desk → DeskCommit → Prop} {s₀ : Desk}
  {cfg cfg' : Config Desk DeskCommit AppError}

/-- **No event is lost.**  However publishers and operators are interleaved, and wherever their
statements fail, an event that is published was put into the queue before, an event that has failed
has used up its attempts or was cancelled, and every other one waits for the next poll; and no event
disappears. -/
theorem events_accounted (h₀ : Accounted s₀) (hr : operators.Reachable Allowed Cond s₀ cfg)
    (hs : ReflTransGen (operators.Step Allowed Cond) cfg cfg') :
    Accounted cfg.store ∧ ∀ (id : EventId) e, cfg.store.tables.events[id]? = some e →
      ∃ e', cfg'.store.tables.events[id]? = some e' ∧ e'.maxAttempts = e.maxAttempts := by
  refine ⟨⟨?_, ?_⟩, ?_⟩
  · refine jobs_lawful.invariant (M := operators) (fun x _ => proc_follows x) hr h₀.published
      (fun action s h => ?_) fun hneeds _ happ h => h.of_apply hneeds happ
    cases action <;> exact ⟨h, List.Subset.refl _⟩
  · refine (operators_rely Allowed Cond).invariant hr h₀.failed (fun action s h => ?_)
      fun _ hlast _ happ h => h.of_apply hlast happ
    cases action <;> exact h
  · exact (operators_rely Allowed Cond).preserved (P := Later cfg.store) hr hs
      (SameLimits.refl cfg.store.tables) (fun action s h => by cases action <;> exact h)
      fun _ _ _ happ h => SameLimits.trans h (Later.of_apply happ)

/-- One event with one attempt. -/
def oneEvent : Desk := ⟨lastChance, false, false, [], []⟩

lemma oneEvent_accounted : Accounted oneEvent := by
  constructor
  · intro id e he hpublished
    obtain ⟨-, rfl⟩ : id = 0 ∧ OutboxEvent.new 1 = e := by
      simpa [oneEvent, lastChance, List.getElem?_singleton] using he
    exact nomatch hpublished
  · intro id e he hfailed
    obtain ⟨-, rfl⟩ : id = 0 ∧ OutboxEvent.new 1 = e := by
      simpa [oneEvent, lastChance, List.getElem?_singleton] using he
    exact nomatch hfailed

/-- The event is published while an operator cancels it. -/
theorem events_accounted_cancelled : ∃ cfg,
    operators.Reachable (fun _ => True) Free oneEvent cfg ∧ Accounted cfg.store ∧
      cfg.store.tables.events.map OutboxEvent.status = [.failed] ∧
        cfg.store.queued = [0] ∧ cfg.store.cancelled = [0] := by
  obtain ⟨cfg, hr, hvalues⟩ := operators.exists_reachable_of_exec (fun _ => True) Free
    [.call (.publisher pollOnce), .call (.cancelJob 0), .step 1 .ok, .step 0 .ok, .step 0 .ok,
      .step 0 .ok, .step 0 .ok, .step 0 .ok, .step 0 .ok, .step 0 .ok, .step 0 .ok, .step 1 .ok]
    oneEvent
    (fun s => (s.tables.events.map OutboxEvent.status, s.queued, s.cancelled))
    ([.failed], [0], [0]) (by decide +kernel)
  obtain ⟨hstatus, hqueued, hcancelled⟩ : _ ∧ _ ∧ _ := by
    simpa only [Prod.mk.injEq] using hvalues
  exact ⟨cfg, hr, (events_accounted oneEvent_accounted hr .refl).1, hstatus, hqueued, hcancelled⟩

end Runs

end MeeoServer.Outbox.Operations
