/-
# Whose lock it is

A run of `claimBatchForPublishing` takes the events among its candidates that carry the
identifier of its publisher for the ones that it has locked.  They may have been locked by
another run of the same process.  And what a run writes about an event at the end releases the
lock of whoever has it by then.  While neither happens, an event is returned to one run at a
time, until its lock is stale.
-/
import MeeoServer.Outbox.Publisher

namespace MeeoServer.Outbox

/-- A run reads back only locks that it has set itself, and nobody writes the outcome of an event
that another run has locked. -/
def Owned (s : Tables) : Commit → Prop
  | .findLocked run candidateIds publisherId =>
    ∀ row ∈ s.lockedEvents candidateIds publisherId, row.val.locker = some run
  | .markPublished run id | .markFailed run id _ _ | .scheduleRetry run id _ _ _ =>
    ∀ e ∈ s.events[id]?, ∀ locker ∈ e.locker, locker = run
  | .resetEvent id => ∀ e ∈ s.events[id]?, e.locker = none
  | _ => True

instance (s : Tables) (c : Commit) : Decidable (Owned s c) := by
  apply Commit.casesOn (motive := fun c => Decidable (Owned s c)) (t := c) <;> intros <;>
    dsimp only [Owned] <;> infer_instance

/-- No event was returned to two runs that are both still publishing it, unless its lock was
released as stale in between. -/
def Exclusive (s : Tables) : Prop :=
  ∀ h ∈ s.held, ∀ h' ∈ s.held, h.eventId = h'.eventId → h.run ≠ h'.run →
    h.releases ≠ h'.releases

instance (s : Tables) : Decidable (Exclusive s) := by
  unfold Exclusive
  infer_instance

/-- An event that was returned since its lock was last released is still locked by the run it was
returned to; and what is locked is being processed. -/
structure HeldByLocker (s : Tables) : Prop where
  exclusive : Exclusive s
  processing : ∀ (id : EventId) e, s.events[id]? = some e → e.locker ≠ none →
    e.status = .processing
  exists_event : ∀ h ∈ s.held, (s.events[h.eventId]?).isSome
  current : ∀ h ∈ s.held, ∀ e, s.events[h.eventId]? = some e →
    h.releases ≤ e.releases ∧ (h.releases = e.releases → e.locker = some h.run)

/-! ## One batch -/

section Batch

variable {s s' : Tables} {c : Commit}

/-- The event whose outcome a batch writes. -/
def Commit.outcomeOf : Commit → Option EventId
  | .markPublished _ id | .markFailed _ id _ _ | .scheduleRetry _ id _ _ _ | .resetEvent id =>
    some id
  | _ => none

/-- What a batch does to the lock of an event: it releases a stale one, leaves it alone, locks a
pending event, or unlocks the event with its outcome. -/
lemma change_lock (c : Commit) (id : EventId) (e : OutboxEvent) :
    (c.change id e).locker = none ∧ (c.change id e).releases = e.releases + 1 ∨
    (c.change id e).locker = e.locker ∧ (c.change id e).releases = e.releases ∧
      (c.change id e).status = e.status ∨
    e.status = .pending ∧ (c.change id e).status = .processing ∧
      (c.change id e).releases = e.releases ∨
    c.outcomeOf = some id ∧ (c.change id e).locker = none ∧
      (c.change id e).releases = e.releases := by
  cases c with
  | unlockStaleEvents now threshold =>
    unfold Commit.change OutboxEvent.unlockStale
    dsimp only
    split
    · exact .inl ⟨rfl, rfl⟩
    · exact .inr (.inl ⟨rfl, rfl, rfl⟩)
  | lockCandidates run candidateIds publisherId now =>
    unfold Commit.change
    dsimp only
    split
    · rename_i hpending
      exact .inr (.inr (.inl ⟨hpending.2, rfl, rfl⟩))
    · exact .inr (.inl ⟨rfl, rfl, rfl⟩)
  | markPublished run eventId | markFailed run eventId attempts lastError
  | scheduleRetry run eventId attempts nextRetryAt lastError | resetEvent eventId =>
    unfold Commit.change Commit.outcomeOf
    dsimp only
    split
    · rename_i heq
      exact .inr (.inr (.inr ⟨by rw [heq], rfl, rfl⟩))
    · exact .inr (.inl ⟨rfl, rfl, rfl⟩)
  | createOutboxEvent maxAttempts | beginRun | findLocked run candidateIds publisherId
  | publishDomainEventJob eventId | publishDlqEventJob eventId =>
    exact .inr (.inl ⟨rfl, rfl, rfl⟩)

/-- A batch adds nothing to what the runs hold, except a query for what a run has locked. -/
lemma mem_held_of_apply (h : c.apply s = some s') {hold : Hold} (hmem : hold ∈ s'.held) :
    hold ∈ s.held ∨ ∃ run candidateIds publisherId, c = .findLocked run candidateIds publisherId ∧
      ∃ row ∈ s.lockedEvents candidateIds publisherId, hold = ⟨run, row.id, row.val.releases⟩ := by
  have hsettled : ∀ {eventId run : ℕ} {f : OutboxEvent → OutboxEvent},
      (s.update eventId f).map (fun s => s.settle run eventId) = some s' → hold ∈ s.held := by
    intro eventId run f h
    obtain ⟨s₁, hs₁, rfl⟩ := Option.map_eq_some_iff.mp h
    obtain ⟨-, rfl⟩ := update_eq_some hs₁
    exact (List.mem_filter.mp hmem).1
  cases c with
  | findLocked run candidateIds publisherId =>
    obtain rfl := Option.some.inj h
    rcases List.mem_append.mp hmem with hmem | hmem
    · exact .inl hmem
    · obtain ⟨row, hrow, rfl⟩ := List.mem_map.mp hmem
      exact .inr ⟨run, candidateIds, publisherId, rfl, row, hrow, rfl⟩
  | markPublished run eventId | markFailed run eventId attempts lastError
  | scheduleRetry run eventId attempts nextRetryAt lastError => exact .inl (hsettled h)
  | resetEvent eventId =>
    obtain ⟨-, rfl⟩ := update_eq_some h
    exact .inl hmem
  | createOutboxEvent maxAttempts | unlockStaleEvents now threshold | beginRun
  | lockCandidates run candidateIds publisherId now | publishDomainEventJob eventId
  | publishDlqEventJob eventId =>
    obtain rfl := Option.some.inj h
    exact .inl hmem

/-- When an outcome is written by the book, a run that holds the event with the lock is done. -/
lemma not_locker_of_outcome (hc : Owned s c) (h : c.apply s = some s') {hold : Hold}
    (hmem : hold ∈ s'.held) (houtcome : c.outcomeOf = some hold.eventId) {e : OutboxEvent}
    (he : s.events[hold.eventId]? = some e) : e.locker ≠ some hold.run := by
  intro hlocker
  have hdone : ∀ {eventId run : ℕ} {f : OutboxEvent → OutboxEvent}, eventId = hold.eventId →
      (∀ e ∈ s.events[eventId]?, ∀ locker ∈ e.locker, locker = run) →
      (s.update eventId f).map (fun s => s.settle run eventId) = some s' → False := by
    intro eventId run f heq hown h
    obtain ⟨s₁, -, rfl⟩ := Option.map_eq_some_iff.mp h
    have hrun : hold.run = run := hown e (by rw [heq]; exact he) hold.run hlocker
    have hkept := (List.mem_filter.mp hmem).2
    simp [hrun, heq] at hkept
  cases c with
  | markPublished run eventId | markFailed run eventId attempts lastError
  | scheduleRetry run eventId attempts nextRetryAt lastError =>
    exact hdone (Option.some.inj houtcome) hc h
  | resetEvent eventId =>
    obtain rfl : eventId = hold.eventId := Option.some.inj houtcome
    have hnone : e.locker = none := hc e he
    rw [hnone] at hlocker
    exact nomatch hlocker
  | _ => exact nomatch houtcome

/-- A query changes no row. -/
lemma events_of_findLocked {run : RunId} {candidateIds : List EventId} {publisherId : PublisherId}
    (h : (Commit.findLocked run candidateIds publisherId).apply s = some s') :
    s'.events = s.events := by
  obtain rfl := Option.some.inj h
  rfl

lemma mem_lockedEvents {candidateIds : List EventId} {publisherId : PublisherId}
    {row : Row OutboxEvent} (h : row ∈ s.lockedEvents candidateIds publisherId) :
    s.events[row.id]? = some row.val :=
  (Table.mem_findMany.mp (List.mem_filter.mp h).1).1

/-- Where a row comes from. -/
lemma row_of_apply (h : c.apply s = some s') {id : EventId} {e' : OutboxEvent}
    (he' : s'.events[id]? = some e') :
    (∃ e, s.events[id]? = some e ∧ e' = c.change id e) ∨
      s.events[id]? = none ∧ e'.locker = none := by
  rcases getElem?_of_apply h id with hmap | ⟨maxAttempts, -, hnone, hnew⟩
  · rw [hmap] at he'
    obtain ⟨e, he, rfl⟩ := Option.map_eq_some_iff.mp he'
    exact .inl ⟨e, he, rfl⟩
  · rw [hnew] at he'
    obtain rfl := Option.some.inj he'
    exact .inr ⟨hnone, rfl⟩

end Batch

/-! ## The invariant -/

namespace HeldByLocker

variable {s s' : Tables} {c : Commit}

/-- A hold that was there before the batch. -/
lemma current_of_mem (h : HeldByLocker s) (hc : Owned s c) (happ : c.apply s = some s')
    {hold : Hold} (hmem : hold ∈ s.held) (hmem' : hold ∈ s'.held) {e' : OutboxEvent}
    (he' : s'.events[hold.eventId]? = some e') :
    hold.releases ≤ e'.releases ∧ (hold.releases = e'.releases → e'.locker = some hold.run) := by
  obtain ⟨e, he⟩ := Option.isSome_iff_exists.mp (h.exists_event hold hmem)
  obtain ⟨hle, hlocker⟩ := h.current hold hmem e he
  have hrow : e' = c.change hold.eventId e := by
    rcases row_of_apply happ he' with ⟨e₁, he₁, hrow⟩ | ⟨hnone, -⟩
    · obtain rfl := Option.some.inj (he.symm.trans he₁)
      exact hrow
    · rw [hnone] at he
      exact nomatch he
  rw [hrow]
  rcases change_lock c hold.eventId e with ⟨-, hreleases⟩ | ⟨hsame, hreleases, -⟩ |
    ⟨hpending, -, hreleases⟩ | ⟨houtcome, -, hreleases⟩
  · rw [hreleases]
    exact ⟨Nat.le_succ_of_le hle, fun heq => by omega⟩
  · rw [hreleases, hsame]
    exact ⟨hle, hlocker⟩
  · -- a pending event is not locked, so the hold is older than the last release
    rw [hreleases]
    refine ⟨hle, fun heq => ?_⟩
    have hlocked := hlocker heq
    have hprocessing := h.processing _ e he (by rw [hlocked]; exact Option.some_ne_none _)
    rw [hprocessing] at hpending
    exact nomatch hpending
  · rw [hreleases]
    exact ⟨hle, fun heq =>
      absurd (hlocker heq) (not_locker_of_outcome hc happ hmem' houtcome he)⟩

/-- What a run reads back was not returned to another run since the last release. -/
lemma releases_ne (h : HeldByLocker s) {row : Row OutboxEvent} {hold : Hold}
    (hmem : hold ∈ s.held) (heq : hold.eventId = row.id)
    (hrow : s.events[row.id]? = some row.val) {run : RunId} (hlocker : row.val.locker = some run)
    (hne : hold.run ≠ run) : hold.releases ≠ row.val.releases := by
  intro hreleases
  rw [← heq] at hrow
  have hown := (h.current hold hmem row.val hrow).2 hreleases
  exact hne (Option.some.inj (hown.symm.trans hlocker))

lemma of_apply (h : HeldByLocker s) (hc : Owned s c) (happ : c.apply s = some s') :
    HeldByLocker s' := by
  constructor
  · intro hold hmem hold' hmem' heq hne
    -- either pass may be the one that has just found its lock; a row has one locker at a time
    rcases mem_held_of_apply happ hmem with hold₀ | ⟨run, ids, publisher, rfl, row, hrow, rfl⟩
    · rcases mem_held_of_apply happ hmem' with hold₀' | ⟨run, ids, publisher, rfl, row, hrow, rfl⟩
      · exact h.exclusive hold hold₀ hold' hold₀' heq hne
      · exact h.releases_ne hold₀ heq (mem_lockedEvents hrow) (hc row hrow) hne
    · have hgot := mem_lockedEvents hrow
      rcases mem_held_of_apply happ hmem' with hold₀' | ⟨_, _, _, heqc, row', hrow', rfl⟩
      · exact (h.releases_ne hold₀' heq.symm hgot (hc row hrow) hne.symm).symm
      · obtain ⟨rfl, rfl, rfl⟩ := Commit.findLocked.inj heqc
        exact absurd rfl hne
  · intro id e' he' hlocker
    rcases row_of_apply happ he' with ⟨e, he, rfl⟩ | ⟨-, hnone⟩
    -- a row is unlocked, left alone, locked by this batch, or settled
    · rcases change_lock c id e with ⟨hnone, -⟩ | ⟨hsame, -, hstatus⟩ | ⟨-, hprocessing, -⟩ |
        ⟨-, hnone, -⟩
      · exact absurd hnone hlocker
      · rw [hstatus]
        exact h.processing id e he (by rwa [hsame] at hlocker)
      · exact hprocessing
      · exact absurd hnone hlocker
    · exact absurd hnone hlocker
  · intro hold hmem
    have hold₀ : (s.events[hold.eventId]?).isSome := by
      rcases mem_held_of_apply happ hmem with hold₀ | ⟨_, _, _, -, row, hrow, rfl⟩
      · exact h.exists_event hold hold₀
      · exact Option.isSome_iff_exists.mpr ⟨_, mem_lockedEvents hrow⟩
    rcases getElem?_of_apply happ hold.eventId with hmap | ⟨_, -, hnone, -⟩
    · rw [hmap, Option.isSome_map]
      exact hold₀
    · rw [hnone] at hold₀
      exact nomatch hold₀
  · intro hold hmem e' he'
    rcases mem_held_of_apply happ hmem with hold₀ | ⟨run, ids, publisher, rfl, row, hrow, rfl⟩
    · exact h.current_of_mem hc happ hold₀ hmem he'
    · have hgot := mem_lockedEvents hrow
      rw [events_of_findLocked happ, hgot] at he'
      obtain rfl := Option.some.inj he'
      exact ⟨le_rfl, fun _ => hc row hrow⟩

end HeldByLocker

/-- Nobody is publishing. -/
structure Idle (s : Tables) : Prop where
  held : s.held = []
  locker : ∀ e ∈ s.events, e.locker = none

lemma Idle.heldByLocker {s : Tables} (h : Idle s) : HeldByLocker s where
  exclusive := by
    unfold Exclusive
    rw [h.held]
    simp
  processing _ e he hlocker := absurd (h.locker e (List.mem_of_getElem? he)) hlocker
  exists_event := by
    rw [h.held]
    simp
  current := by
    rw [h.held]
    simp

/-- **Exclusive claims, while every run reads back its own locks.**  In the runs in which a run
reads back only locks that it has set itself, and nobody writes the outcome of an event that
another run has locked, no event is returned to two runs that are both still publishing it,
unless its lock was released as stale in between. -/
theorem claims_exclusive {s₀ : Tables} {cfg : Config Tables Commit AppError} (h₀ : Idle s₀)
    (hr : publishers.Reachable (fun _ => True) Owned s₀ cfg) : Exclusive cfg.store := by
  have hrely := Rely.of_any publishers (fun _ => True) Owned
  refine (hrely.invariant hr h₀.heldByLocker (fun act s h => ?_)
    fun _ _ hc happ h => h.of_apply hc happ).exclusive
  -- the queues do not touch the table
  cases act <;> exact ⟨h.exclusive, h.processing, h.exists_event, h.current⟩

/-! ## A poll by hand while the cron polls -/

/-- One event that nobody has published yet. -/
def oneEvent : Tables := ⟨[OutboxEvent.new 10], [], [], 0, []⟩

lemma oneEvent_idle : Idle oneEvent where
  held := rfl
  locker := by simp [oneEvent, OutboxEvent.new]

/-- A poll of the only process. -/
def poll (now : Millis) : Call := .pollAndPublishBatch "publisher-1" 50 now now fun _ => now + 2000

theorem claims_exclusive_inTurn : ∃ cfg,
    publishers.Reachable (fun _ => True) Owned oneEvent cfg ∧ Exclusive cfg.store ∧
      cfg.store.held = [⟨1, 0, 0⟩] := by
  -- the second poll begins when the first one has locked the event
  obtain ⟨cfg, hr, hheld⟩ := publishers.exists_reachable_of_exec (fun _ => True) Owned
    [.call (poll 1000), .step 0 .ok, .step 0 .ok, .step 0 .ok, .step 0 .ok, .step 0 .ok,
      .call (poll 2000), .step 1 .ok, .step 1 .ok, .step 1 .ok] oneEvent Tables.held
    [⟨1, 0, 0⟩] (by decide +kernel)
  exact ⟨cfg, hr, claims_exclusive oneEvent_idle hr, hheld⟩

/-- Both polls find the event before either locks it; the lock of the first one is the lock of
the process, and the second one takes it for its own. -/
theorem event_claimed_twice :
    ¬∀ (s₀ : Tables) (cfg : Config Tables Commit AppError), Idle s₀ →
      publishers.Reachable (fun _ => True) Free s₀ cfg → Exclusive cfg.store := by
  intro h
  obtain ⟨cfg, hr, hheld⟩ := publishers.exists_reachable_of_exec (fun _ => True) Free
    [.call (poll 1000), .call (poll 1001), .step 0 .ok, .step 0 .ok, .step 0 .ok, .step 1 .ok,
      .step 1 .ok, .step 1 .ok, .step 0 .ok, .step 0 .ok, .step 1 .ok, .step 1 .ok] oneEvent
    Tables.held [⟨1, 0, 0⟩, ⟨2, 0, 0⟩] (by decide +kernel)
  have hexclusive := h oneEvent cfg oneEvent_idle hr
  unfold Exclusive at hexclusive
  rw [hheld] at hexclusive
  exact absurd hexclusive (by decide)

end MeeoServer.Outbox
