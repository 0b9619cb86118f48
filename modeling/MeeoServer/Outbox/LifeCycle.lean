/-
# The life of an event

An event is published, or fails, at the end of a run, and a run writes its end by the identifier
of the event alone: it does not look at what has become of the event since it has read it.  So a
published event can be scheduled again, and the attempts of two runs add up.  That the event has
failed only after its last attempt is always true: the row that fails is given the attempts at
which it does.
-/
import MeeoServer.Outbox.Publisher

namespace MeeoServer.Outbox

open Proc Relation Machine

/-- A published event stays published. -/
def StaysPublished (s s' : Tables) : Prop :=
  ∀ (id : EventId) e, s.events[id]? = some e → e.status = .published →
    ∃ e', s'.events[id]? = some e' ∧ e'.status = .published

def AttemptsBounded (s : Tables) : Prop := ∀ e ∈ s.events, e.attempts ≤ e.maxAttempts

def FailsExhausted (s : Tables) : Prop :=
  ∀ e ∈ s.events, e.status = .failed → e.maxAttempts ≤ e.attempts

/-- A failure is written, and an event is reset, only while the event is not published; and a
failure only if its attempt was one of those that the event had. -/
def SparesPublished (s : Tables) : Commit → Prop
  | .markFailed _ id attempts _ | .scheduleRetry _ id attempts _ _ =>
    ∀ e ∈ s.events[id]?, e.status ≠ .published ∧ attempts ≤ e.maxAttempts
  | .resetEvent id => ∀ e ∈ s.events[id]?, e.status ≠ .published
  | _ => True

instance (s : Tables) (c : Commit) : Decidable (SparesPublished s c) := by
  unfold SparesPublished
  split <;> infer_instance

/-! ## One row -/

section Rows

variable {s s' : Tables} {c : Commit} {i : EventId} {e : OutboxEvent}

lemma change_maxAttempts (c : Commit) (i : EventId) (e : OutboxEvent) :
    (c.change i e).maxAttempts = e.maxAttempts := by
  cases c with
  | unlockStaleEvents now threshold =>
    unfold Commit.change OutboxEvent.unlockStale
    dsimp only
    split <;> rfl
  | lockCandidates run candidateIds publisherId now | markPublished run eventId
  | markFailed run eventId attempts lastError
  | scheduleRetry run eventId attempts nextRetryAt lastError | resetEvent eventId =>
    unfold Commit.change
    dsimp only
    split <;> rfl
  | _ => rfl

/-- The row after a batch that spares the published events. -/
lemma change_of_sparesPublished (hc : SparesPublished s c) (he : s.events[i]? = some e) :
    (e.status = .published → (c.change i e).status = .published) ∧
      (e.attempts ≤ e.maxAttempts → (c.change i e).attempts ≤ e.maxAttempts) := by
  cases c with
  | unlockStaleEvents now threshold =>
    unfold Commit.change OutboxEvent.unlockStale OutboxEvent.isStale
    dsimp only
    split
    · rename_i hstale
      have hprocessing := (of_decide_eq_true hstale).1
      exact ⟨fun hpublished => (nomatch hpublished.symm.trans hprocessing), id⟩
    · exact ⟨id, id⟩
  | lockCandidates run candidateIds publisherId now =>
    unfold Commit.change
    dsimp only
    split
    · rename_i hpending
      exact ⟨fun hpublished => (nomatch hpublished.symm.trans hpending.2), id⟩
    · exact ⟨id, id⟩
  | markPublished run eventId =>
    unfold Commit.change
    dsimp only
    split
    · exact ⟨fun _ => rfl, id⟩
    · exact ⟨id, id⟩
  | markFailed run eventId attempts lastError
  | scheduleRetry run eventId attempts nextRetryAt lastError =>
    unfold Commit.change
    dsimp only
    split
    · rename_i heq
      -- the condition is about the row at the moment of the write
      obtain ⟨hstatus, hle⟩ := hc e (heq ▸ he)
      exact ⟨fun hpublished => absurd hpublished hstatus, fun _ => hle⟩
    · exact ⟨id, id⟩
  | resetEvent eventId =>
    unfold Commit.change
    dsimp only
    split
    · rename_i heq
      exact ⟨fun hpublished => absurd hpublished (hc e (heq ▸ he)), fun _ => Nat.zero_le _⟩
    · exact ⟨id, id⟩
  | _ => exact ⟨id, id⟩

/-- The row of the event whose failure is written, or which is reset. -/
lemma getElem?_of_outcome {f : OutboxEvent → OutboxEvent} (happ : c.apply s = some s')
    (he : s.events[i]? = some e) (hchange : c.change i e = f e) : s'.events[i]? = some (f e) := by
  rcases getElem?_of_apply happ i with hmap | ⟨_, -, hnone, -⟩
  · rw [hmap, he, Option.map_some, hchange]
  · rw [hnone] at he
    exact nomatch he

end Rows

/-! ## One batch -/

section Batch

variable {s s' : Tables} {c : Commit}

lemma StaysPublished.refl (s : Tables) : StaysPublished s s :=
  fun _ e he hpublished => ⟨e, he, hpublished⟩

lemma StaysPublished.trans {s'' : Tables} (h : StaysPublished s s') (h' : StaysPublished s' s'') :
    StaysPublished s s'' := by
  intro i e he hpublished
  obtain ⟨e', he', hpublished'⟩ := h i e he hpublished
  exact h' i e' he' hpublished'

/-- **The batches that keep to the life of an event** are those that spare the published ones. -/
theorem sparesPublished_iff (hs : AttemptsBounded s) (happ : c.apply s = some s') :
    StaysPublished s s' ∧ AttemptsBounded s' ↔ SparesPublished s c := by
  constructor
  · rintro ⟨hstays, hbounded⟩
    -- the only batches that could take an event out of PUBLISHED or beyond its attempts
    cases c with
    | markFailed run i attempts lastError =>
      intro e he
      have he' := getElem?_of_outcome (f := OutboxEvent.fail attempts lastError) happ he
        (if_pos rfl)
      refine ⟨fun hpublished => ?_, hbounded _ (List.mem_of_getElem? he')⟩
      obtain ⟨e₁, he₁, hstatus⟩ := hstays i e he hpublished
      obtain rfl := Option.some.inj (he'.symm.trans he₁)
      exact nomatch hstatus
    | scheduleRetry run i attempts nextRetryAt lastError =>
      intro e he
      have he' := getElem?_of_outcome (f := OutboxEvent.retryAt attempts nextRetryAt lastError)
        happ he (if_pos rfl)
      refine ⟨fun hpublished => ?_, hbounded _ (List.mem_of_getElem? he')⟩
      obtain ⟨e₁, he₁, hstatus⟩ := hstays i e he hpublished
      obtain rfl := Option.some.inj (he'.symm.trans he₁)
      exact nomatch hstatus
    | resetEvent i =>
      intro e he hpublished
      have he' := getElem?_of_outcome (f := OutboxEvent.reset) happ he (if_pos rfl)
      obtain ⟨e₁, he₁, hstatus⟩ := hstays i e he hpublished
      obtain rfl := Option.some.inj (he'.symm.trans he₁)
      exact nomatch hstatus
    | _ => exact trivial
  · intro hc
    constructor
    · intro i e he hpublished
      rcases getElem?_of_apply happ i with hmap | ⟨_, -, hnone, -⟩
      · rw [hmap, he]
        exact ⟨_, rfl, (change_of_sparesPublished hc he).1 hpublished⟩
      · rw [hnone] at he
        exact nomatch he
    · intro e' he'
      obtain ⟨i, hi⟩ := List.mem_iff_getElem?.mp he'
      -- a row of the new table is a changed row, or one with no attempts yet
      rcases getElem?_of_apply happ i with hmap | ⟨maxAttempts, -, -, hnew⟩
      · rw [hmap] at hi
        obtain ⟨e, he, rfl⟩ := Option.map_eq_some_iff.mp hi
        rw [change_maxAttempts]
        exact (change_of_sparesPublished hc he).2 (hs e (List.mem_of_getElem? he))
      · obtain rfl := Option.some.inj (hi.symm.trans hnew)
        exact Nat.zero_le _

end Batch

/-! ## An event fails after its last attempt -/

/-- The limits of the events are there, and do not change. -/
def SameLimits (s s' : Tables) : Prop :=
  ∀ (i : EventId) e, s.events[i]? = some e →
    ∃ e', s'.events[i]? = some e' ∧ e'.maxAttempts = e.maxAttempts

lemma SameLimits.refl (s : Tables) : SameLimits s s := fun _ e he => ⟨e, he, rfl⟩

lemma SameLimits.trans {s s' s'' : Tables} (h : SameLimits s s') (h' : SameLimits s' s'') :
    SameLimits s s'' := by
  intro i e he
  obtain ⟨e', he', hmax⟩ := h i e he
  obtain ⟨e'', he'', hmax'⟩ := h' i e' he'
  exact ⟨e'', he'', hmax'.trans hmax⟩

lemma SameLimits.of_apply {s s' : Tables} {c : Commit} (happ : c.apply s = some s') :
    SameLimits s s' := by
  intro i e he
  rcases getElem?_of_apply happ i with hmap | ⟨_, -, hnone, -⟩
  · rw [hmap, he]
    exact ⟨_, rfl, change_maxAttempts c i e⟩
  · rw [hnone] at he
    exact nomatch he

/-- A row as a run has read it: the event is there, with this limit. -/
def ReadRow (row : Row OutboxEvent) (s : Tables) : Prop :=
  ∃ e, s.events[row.id]? = some e ∧ e.maxAttempts = row.val.maxAttempts

lemma ReadRow.of_sameLimits {row : Row OutboxEvent} {s s' : Tables} (hs : SameLimits s s')
    (h : ReadRow row s) : ReadRow row s' := by
  obtain ⟨e, he, hmax⟩ := h
  obtain ⟨e', he', hmax'⟩ := hs _ e he
  exact ⟨e', he', hmax'.trans hmax⟩

/-- An event fails at its last attempt or later. -/
def LastAttempt (s : Tables) : Commit → Prop
  | .markFailed _ id attempts _ => ∀ e ∈ s.events[id]?, e.maxAttempts ≤ attempts
  | _ => True

section Emits

variable {s₀ : Tables} {run : RunId} {nextRetryAt : EventId → Millis}

lemma handleFailure_emits {event : Row OutboxEvent} (h : ReadRow event s₀)
    (result : PublishBatchResult) (err : AppError) :
    (handleFailure run nextRetryAt event result err).Emits Commit.apply SameLimits SameLimits
      LastAttempt Any s₀ := by
  unfold handleFailure
  dsimp only
  split
  · rename_i hlast
    refine emits_commit (fun s hs e he => ?_) fun s s' hs _ _ => ?_
    · obtain ⟨e₁, he₁, hmax⟩ := h.of_sameLimits hs
      obtain rfl := Option.some.inj (he₁.symm.trans he)
      rw [hmax]
      exact hlast
    · exact (emits_attempt fun _ _ => trivial).andThen fun _ _ => trivial
  · exact emits_commit (fun _ _ => trivial) fun _ _ _ _ _ => trivial

lemma publishEvents_emits {events : List (Row OutboxEvent)} (h : ∀ row ∈ events, ReadRow row s₀)
    (result : PublishBatchResult) :
    (publishEvents run nextRetryAt events result).Emits Commit.apply SameLimits SameLimits
      LastAttempt Any s₀ := by
  induction events generalizing s₀ result with
  | nil => trivial
  | cons event events ih =>
    -- every other run leaves the limits of the rows that were read alone
    have hframe : ∀ s s', SameLimits s s' → (∀ row ∈ event :: events, ReadRow row s) →
        ∀ row ∈ event :: events, ReadRow row s' :=
      fun s s' hs hrows row hrow => (hrows row hrow).of_sameLimits hs
    have hpublish : (do
        let _ ← Proc.commit (.publishDomainEventJob event.id)
        let _ ← Proc.commit (.markPublished run event.id)
        pure { result with publishedCount := result.publishedCount + 1 } :
          Service PublishBatchResult).Emits Commit.apply SameLimits SameLimits LastAttempt Any
            s₀ :=
      emits_commit (fun _ _ => trivial) fun _ _ _ _ _ =>
        emits_commit (fun _ _ => trivial) fun _ _ _ _ _ => trivial
    have hone := Emits.tryCatch (h := handleFailure run nextRetryAt event result) (Q := Any)
      ((hpublish.frame hframe hframe h).mono fun r s hs => by
        cases r with
        | ok result => trivial
        | error err => exact handleFailure_emits (hs.2 event List.mem_cons_self) result err)
    refine Emits.bind ((hone.frame hframe hframe h).mono fun r s hs => ?_)
    cases r with
    | error err => trivial
    | ok result => exact ih (fun row hrow => hs.2 row (List.mem_cons_of_mem _ hrow)) result

lemma claimBatchForPublishing_emits {Q : Except AppError (RunId × List EventId) → Tables → Prop}
    (publisherId : PublisherId) (batchSize : ℕ) (now unlockedAt : Millis) (hQ : ∀ r s, Q r s) :
    (claimBatchForPublishing publisherId batchSize now unlockedAt).Emits Commit.apply SameLimits
      SameLimits LastAttempt Q s₀ := by
  unfold claimBatchForPublishing
  refine emits_commit_post (fun _ => hQ _ _) (fun _ _ => trivial) fun _ db _ _ _ => ?_
  dsimp only
  refine emits_commit_post (fun _ => hQ _ _) (fun _ _ => trivial) fun _ _ _ _ _ => ?_
  refine emits_read_post (fun _ => hQ _ _) fun db' _ => ?_
  split
  · exact hQ _ _
  · refine emits_commit_post (fun _ => hQ _ _) (fun _ _ => trivial) fun _ _ _ _ _ => ?_
    exact emits_commit_post (fun _ => hQ _ _) (fun _ _ => trivial) fun _ _ _ _ _ => hQ _ _

lemma pollAndPublishBatch_emits (publisherId : PublisherId) (batchSize : ℕ)
    (now unlockedAt : Millis) :
    (pollAndPublishBatch publisherId batchSize now unlockedAt nextRetryAt).Emits Commit.apply
      SameLimits SameLimits LastAttempt Any s₀ := by
  unfold pollAndPublishBatch
  refine (claimBatchForPublishing_emits _ _ _ _ fun _ _ => trivial).andThen fun claimed s => ?_
  obtain ⟨run, lockedIds⟩ := claimed
  dsimp only
  split
  · trivial
  · refine emits_read fun db _ => publishEvents_emits (fun row hrow => ?_) _
    exact ⟨row.val, (Table.mem_findMany.mp (List.mem_filter.mp hrow).1).1, rfl⟩

lemma retryFailedEvent_emits (eventId : EventId) :
    (retryFailedEvent eventId).Emits Commit.apply SameLimits SameLimits LastAttempt Any s₀ := by
  refine emits_read fun db _ => ?_
  split
  · trivial
  · split
    · trivial
    · exact emits_commit (fun _ _ => trivial) fun _ _ _ _ _ => trivial

end Emits

lemma publishers_rely (Cond : Tables → Commit → Prop) :
    Rely publishers (fun _ => True) Cond SameLimits fun _ => LastAttempt where
  refl := SameLimits.refl
  trans := SameLimits.trans
  env act s := by cases act <;> exact SameLimits.refl s
  commit _ _ _ happ := SameLimits.of_apply happ
  emits x s _ := by
    cases x with
    | createOutboxEvent maxAttempts =>
      exact emits_commit (fun _ _ => trivial) fun _ _ _ _ _ => trivial
    | pollAndPublishBatch publisherId batchSize now unlockedAt nextRetryAt =>
      exact (pollAndPublishBatch_emits publisherId batchSize now unlockedAt).andThen
        fun _ _ => trivial
    | unlockStaleEvents now threshold =>
      exact emits_commit (fun _ _ => trivial) fun _ _ _ _ _ => trivial
    | retryFailedEvent eventId => exact retryFailedEvent_emits eventId

/-- A row that has failed now has failed before, or fails at its last attempt. -/
lemma change_of_lastAttempt {s : Tables} {c : Commit} {i : EventId} {e : OutboxEvent}
    (hc : LastAttempt s c) (he : s.events[i]? = some e)
    (hfailed : (c.change i e).status = .failed) :
    c.change i e = e ∨ e.maxAttempts ≤ (c.change i e).attempts := by
  cases c with
  | unlockStaleEvents now threshold =>
    unfold Commit.change OutboxEvent.unlockStale at hfailed ⊢
    dsimp only at hfailed ⊢
    split_ifs at hfailed ⊢ with hstale
    · exact nomatch hfailed
    · exact .inl rfl
  | markFailed run id attempts lastError =>
    unfold Commit.change
    dsimp only
    split
    · rename_i heq
      exact .inr (hc e (heq ▸ he))
    · exact .inl rfl
  | lockCandidates run candidateIds publisherId now | markPublished run id
  | scheduleRetry run id attempts nextRetryAt lastError | resetEvent id =>
    unfold Commit.change at hfailed ⊢
    dsimp only at hfailed ⊢
    split_ifs at hfailed ⊢ with hcase
    · exact nomatch hfailed
    · exact .inl rfl
  | _ => exact .inl rfl

lemma FailsExhausted.of_apply {s s' : Tables} {c : Commit} (h : FailsExhausted s)
    (hc : LastAttempt s c) (happ : c.apply s = some s') : FailsExhausted s' := by
  intro e' he' hfailed
  obtain ⟨i, hi⟩ := List.mem_iff_getElem?.mp he'
  rcases getElem?_of_apply happ i with hmap | ⟨maxAttempts, -, -, hnew⟩
  · rw [hmap] at hi
    obtain ⟨e, he, rfl⟩ := Option.map_eq_some_iff.mp hi
    rcases change_of_lastAttempt hc he hfailed with hsame | hlast
    · rw [hsame] at hfailed ⊢
      exact h e (List.mem_of_getElem? he) hfailed
    · rw [change_maxAttempts]
      exact hlast
  · obtain rfl := Option.some.inj (hi.symm.trans hnew)
    exact nomatch hfailed

/-- **An event fails after its last attempt**, in every run. -/
theorem failsExhausted_of_reachable {Cond : Tables → Commit → Prop} {s₀ : Tables}
    {cfg : Config Tables Commit AppError} (h₀ : FailsExhausted s₀)
    (hr : publishers.Reachable (fun _ => True) Cond s₀ cfg) : FailsExhausted cfg.store :=
  (publishers_rely Cond).invariant hr h₀
    (fun act s h => by cases act <;> exact h) fun _ hspec _ happ h => h.of_apply hspec happ

/-! ## The whole life -/

/-- The table, with the published events of an earlier one still published. -/
structure LivesOn (s s' : Tables) : Prop where
  stays : StaysPublished s s'
  bounded : AttemptsBounded s'

lemma LivesOn.of_apply {s s' s'' : Tables} {c : Commit} (h : LivesOn s s')
    (hc : SparesPublished s' c) (happ : c.apply s' = some s'') : LivesOn s s'' := by
  obtain ⟨hstays, hbounded⟩ := (sparesPublished_iff h.bounded happ).mpr hc
  exact ⟨h.stays.trans hstays, hbounded⟩

lemma LivesOn.of_steps {s₀ s : Tables} {cfg cfg' : Config Tables Commit AppError}
    (h : LivesOn s cfg.store)
    (hr : publishers.Reachable (fun _ => True) SparesPublished s₀ cfg)
    (hs : ReflTransGen (publishers.Step (fun _ => True) SparesPublished) cfg cfg') :
    LivesOn s cfg'.store :=
  (publishers_rely SparesPublished).preserved hr hs h
    (fun act s' h => by cases act <;> exact ⟨h.stays, h.bounded⟩)
    fun _ _ hc happ h => h.of_apply hc happ

/-- **The life of an event.**  In the runs in which a failure or a reset is written only while
the event is not published, and a failure only for one of the attempts that the event had, a
published event stays published, the attempts never exceed their limit, and an event has failed
only if they reached it. -/
theorem life_cycle {s₀ : Tables} {cfg cfg' : Config Tables Commit AppError}
    (hbounded : AttemptsBounded s₀) (hexhausted : FailsExhausted s₀)
    (hr : publishers.Reachable (fun _ => True) SparesPublished s₀ cfg)
    (hs : ReflTransGen (publishers.Step (fun _ => True) SparesPublished) cfg cfg') :
    StaysPublished cfg.store cfg'.store ∧ AttemptsBounded cfg.store ∧
      FailsExhausted cfg.store := by
  have hlives : LivesOn s₀ cfg.store :=
    LivesOn.of_steps ⟨StaysPublished.refl s₀, hbounded⟩ (Reachable.refl s₀) hr
  have hlater : LivesOn cfg.store cfg'.store :=
    LivesOn.of_steps ⟨StaysPublished.refl cfg.store, hlives.bounded⟩ hr hs
  exact ⟨hlater.stays, hlives.bounded, failsExhausted_of_reachable hexhausted hr⟩

/-! ## A retry by hand while the event is published -/

/-- One event with one attempt. -/
def lastChance : Tables := ⟨[OutboxEvent.new 1], [], [], 0, []⟩

def pollOnce : Call := .pollAndPublishBatch "publisher-1" 50 1000 1000 fun _ => 3000

theorem life_cycle_published : ∃ cfg cfg' : Config Tables Commit AppError,
    publishers.Reachable (fun _ => True) SparesPublished lastChance cfg ∧
      (StaysPublished cfg.store cfg'.store ∧ AttemptsBounded cfg.store ∧
        FailsExhausted cfg.store) ∧
      cfg.store.events.map OutboxEvent.status = [.published] := by
  -- the event is published, and a retry that comes later is refused
  obtain ⟨cfg, cfg', hr, hs, hstatus, -⟩ := publishers.exists_later_of_exec (fun _ => True)
    SparesPublished
    [.call pollOnce, .step 0 .ok, .step 0 .ok, .step 0 .ok, .step 0 .ok, .step 0 .ok, .step 0 .ok,
      .step 0 .ok, .step 0 .ok]
    [.call (.retryFailedEvent 0), .step 1 .ok] lastChance
    (fun s => s.events.map OutboxEvent.status) [.published] [.published] (by decide +kernel)
  exact ⟨cfg, cfg', hr, life_cycle (by unfold AttemptsBounded; decide)
    (by unfold FailsExhausted; decide) hr hs, hstatus⟩

/-- The retry has read the event before it was published, and writes after it. -/
theorem published_event_retried :
    ¬∀ (s₀ : Tables) (cfg cfg' : Config Tables Commit AppError), AttemptsBounded s₀ →
      FailsExhausted s₀ → publishers.Reachable (fun _ => True) Free s₀ cfg →
      ReflTransGen (publishers.Step (fun _ => True) Free) cfg cfg' →
      StaysPublished cfg.store cfg'.store ∧ AttemptsBounded cfg.store ∧
        FailsExhausted cfg.store := by
  intro h
  obtain ⟨cfg, cfg', hr, hs, hbefore, hafter⟩ := publishers.exists_later_of_exec (fun _ => True)
    Free
    [.call pollOnce, .call (.retryFailedEvent 0), .step 0 .ok, .step 0 .ok, .step 0 .ok,
      .step 0 .ok, .step 0 .ok, .step 0 .ok, .step 1 .ok, .step 0 .ok, .step 0 .ok]
    [.step 1 .ok] lastChance (fun s => s.events.map OutboxEvent.status) [.published] [.pending]
    (by decide +kernel)
  obtain ⟨hstays, -, -⟩ := h lastChance cfg cfg' (by unfold AttemptsBounded; decide)
    (by unfold FailsExhausted; decide) hr hs
  have hpublished : (cfg.store.events.map OutboxEvent.status)[0]? = some .published := by
    rw [hbefore]
    rfl
  rw [List.getElem?_map] at hpublished
  obtain ⟨e, he, hstatus⟩ := Option.map_eq_some_iff.mp hpublished
  obtain ⟨e', he', hstatus'⟩ := hstays 0 e he hstatus
  have hpending : (cfg'.store.events.map OutboxEvent.status)[0]? = some .published := by
    rw [List.getElem?_map, he', Option.map_some, hstatus']
  rw [hafter] at hpending
  exact nomatch Option.some.inj hpending

end MeeoServer.Outbox
