/-
# Deliveries of an event

`runWithConsumerIdempotency` of `outbox/services/processedEvent.service.ts`, which the consumers
of `workers/consumers` are wrapped in.  The event router starts the consumers of an event at the
same time, and a job is delivered again when one of them throws, when its worker dies, or when
the outbox publishes the event once more; so any number of deliveries of an event to a consumer
may run at once.

A delivery reads the row of the event and the consumer, marks it, runs the handler, and marks it
again.  The mark in between does not lock anybody out.  It counts, though: the row tells how
often it was marked, and the handlers that return while their own mark is the last one are those
that nobody has overtaken.
-/
import Mathlib.Data.Nat.Basic
import MeeoServer.Outbox.Publisher
import MeeoServer.Process.Protocol

namespace MeeoServer.Outbox

open Proc Protocol

abbrev ConsumerName := String

/-! ## The rows -/

inductive ProcessedEventStatus where
  | processing
  | completed
  | failed
deriving DecidableEq, Repr

structure ProcessedEvent where
  status : ProcessedEventStatus
  attempts : ℕ
  lastError : Option String
deriving DecidableEq, Repr

/-- The table of processed events, whose rows are unique for an event and a consumer, and the
world `ω` that the handlers read and change. -/
structure Consumption (ω : Type) where
  processed : EventId → ConsumerName → Option ProcessedEvent
  world : ω
  /-- The handlers that have returned so far. -/
  completions : List (EventId × ConsumerName)

variable {ω T : Type}

def Consumption.setProcessed (s : Consumption ω) (eventId : EventId)
    (consumerName : ConsumerName) (row : ProcessedEvent) : Consumption ω :=
  { s with processed := fun e c =>
      if e = eventId ∧ c = consumerName then some row else s.processed e c }

/-- How often the event has been marked for the consumer. -/
def Consumption.attempts (s : Consumption ω) (eventId : EventId)
    (consumerName : ConsumerName) : ℕ :=
  ((s.processed eventId consumerName).map ProcessedEvent.attempts).getD 0

inductive DeliveryCommit (ω : Type) where
  /-- A statement of a handler. -/
  | handler (write : ω → Option ω)
  | markProcessing (eventId : EventId) (consumerName : ConsumerName)
  /-- No statement: the handler has returned, whose delivery got `attempts` from its mark. -/
  | returned (eventId : EventId) (consumerName : ConsumerName) (attempts : ℕ)
  | markCompleted (eventId : EventId) (consumerName : ConsumerName)
  | markFailed (eventId : EventId) (consumerName : ConsumerName) (lastError : String)

/-- `upsert`: the update, or the row that it creates. -/
def markedProcessing : Option ProcessedEvent → ProcessedEvent
  | some row => ⟨.processing, row.attempts + 1, none⟩
  | none => ⟨.processing, 1, none⟩

def DeliveryCommit.apply : DeliveryCommit ω → Consumption ω → Option (Consumption ω)
  | .handler write, s => (write s.world).map fun world => { s with world := world }
  | .markProcessing eventId consumerName, s =>
    some (s.setProcessed eventId consumerName (markedProcessing (s.processed eventId consumerName)))
  | .returned eventId consumerName _, s =>
    some { s with completions := s.completions ++ [(eventId, consumerName)] }
  | .markCompleted eventId consumerName, s =>
    (s.processed eventId consumerName).map fun row =>
      s.setProcessed eventId consumerName ⟨.completed, row.attempts, none⟩
  | .markFailed eventId consumerName lastError, s =>
    (s.processed eventId consumerName).map fun row =>
      s.setProcessed eventId consumerName ⟨.failed, row.attempts, some lastError⟩

/-! ## The service -/

/-- A handler: any program over the world, which may throw a message. -/
abbrev Handler (ω T : Type) := Proc ω (ω → Option ω) String T

structure ConsumerExecutionResult (T : Type) where
  success : Bool
  alreadyProcessed : Bool
  data : Option T

/-- Executes a consumer handler function with strict idempotency guarantees. -/
def runWithConsumerIdempotency (consumerName : ConsumerName) (eventId : EventId)
    (handler : Handler ω T) :
    Proc (Consumption ω) (DeliveryCommit ω) String (ConsumerExecutionResult T) := do
  let db ← Proc.read
  if (db.processed eventId consumerName).map ProcessedEvent.status = some .completed then
    pure ⟨true, true, none⟩
  else
    let db ← Proc.commit (.markProcessing eventId consumerName)
    let attempts := db.attempts eventId consumerName
    Proc.tryCatch
      (do
        let data ← handler.zoom Consumption.world DeliveryCommit.handler
        Proc.attempt (.returned eventId consumerName attempts)
        let _ ← Proc.commit (.markCompleted eventId consumerName)
        pure ⟨true, false, some data⟩)
      (fun err => do
        let errorMessage := if err = "" then "Consumer execution failed" else err
        Proc.attempt (.markFailed eventId consumerName errorMessage)
        throw err)

/-- A delivery of an event to a consumer. -/
structure Delivery (ω T : Type) where
  eventId : EventId
  consumerName : ConsumerName
  handler : Handler ω T

/-- The workers.  The environment changes the world at will. -/
def workers (ω T : Type) :
    Machine (Consumption ω) (DeliveryCommit ω) String (Delivery ω T) (ω → ω) where
  apply := DeliveryCommit.apply
  proc d := do
    let _ ← runWithConsumerIdempotency d.consumerName d.eventId d.handler
    pure ()
  environ act s := { s with world := act s.world }

/-! ## Which mark is the last -/

/-- An event is marked only while no handler has returned for it, and a handler returns only
while the mark of its delivery is the last one. -/
def Undisturbed (s : Consumption ω) : DeliveryCommit ω → Prop
  | .markProcessing eventId consumerName => (eventId, consumerName) ∉ s.completions
  | .returned eventId consumerName attempts => s.attempts eventId consumerName = attempts
  | _ => True

instance (s : Consumption ω) (c : DeliveryCommit ω) : Decidable (Undisturbed s c) := by
  unfold Undisturbed
  split <;> infer_instance

/-- A mark that a delivery has made, and whose handler has not returned yet. -/
structure Mark where
  eventId : EventId
  consumerName : ConsumerName
  attempts : ℕ
deriving DecidableEq

/-- A delivery holds its mark until the handler has returned. -/
def markProtocol : Protocol (Consumption ω) (DeliveryCommit ω) (Option Mark) where
  start := none
  allow held
    | .returned eventId consumerName attempts => held = some ⟨eventId, consumerName, attempts⟩
    | .markProcessing .. => held = none
    | _ => True
  after held
    | .markProcessing eventId consumerName, some db =>
      some ⟨eventId, consumerName, db.attempts eventId consumerName⟩
    | .returned .., _ => none
    | _, _ => held

section Attempts

variable {s s' : Consumption ω} {c : DeliveryCommit ω} {eventId e : EventId}
  {consumerName n : ConsumerName}

lemma attempts_setProcessed (s : Consumption ω) (row : ProcessedEvent) :
    (s.setProcessed eventId consumerName row).attempts e n =
      if e = eventId ∧ n = consumerName then row.attempts else s.attempts e n := by
  unfold Consumption.setProcessed Consumption.attempts
  dsimp only
  split <;> rfl

lemma attempts_markedProcessing (s : Consumption ω) :
    (markedProcessing (s.processed eventId consumerName)).attempts =
      s.attempts eventId consumerName + 1 := by
  unfold Consumption.attempts
  cases s.processed eventId consumerName with
  | none => rfl
  | some row => rfl

/-- A settled row has been marked as often as before. -/
lemma attempts_settled {row : ProcessedEvent} {status : ProcessedEventStatus}
    {lastError : Option String} (h : s.processed eventId consumerName = some row) :
    (s.setProcessed eventId consumerName ⟨status, row.attempts, lastError⟩).attempts e n =
      s.attempts e n := by
  rw [attempts_setProcessed]
  split
  · rename_i heq
    obtain ⟨rfl, rfl⟩ := heq
    simp [Consumption.attempts, h]
  · rfl

/-- Marks are only added. -/
lemma attempts_le_of_apply (h : c.apply s = some s') (e : EventId) (n : ConsumerName) :
    s.attempts e n ≤ s'.attempts e n := by
  cases c with
  | handler write =>
    obtain ⟨world, -, rfl⟩ := Option.map_eq_some_iff.mp h
    exact le_rfl
  | markProcessing eventId consumerName =>
    obtain rfl := Option.some.inj h
    rw [attempts_setProcessed]
    split
    · rename_i heq
      obtain ⟨rfl, rfl⟩ := heq
      rw [attempts_markedProcessing]
      exact Nat.le_succ _
    · exact le_rfl
  | returned eventId consumerName attempts =>
    obtain rfl := Option.some.inj h
    exact le_rfl
  | markCompleted eventId consumerName | markFailed eventId consumerName lastError =>
    obtain ⟨row, hrow, rfl⟩ := Option.map_eq_some_iff.mp h
    exact (attempts_settled hrow).ge

/-- A mark gets a number that no earlier one has. -/
lemma attempts_of_mark (h : (DeliveryCommit.markProcessing e n).apply s = some s') :
    s'.attempts e n = s.attempts e n + 1 := by
  obtain rfl := Option.some.inj h
  rw [attempts_setProcessed, if_pos ⟨rfl, rfl⟩, attempts_markedProcessing]

/-- Only a return adds a completion. -/
lemma completions_of_apply (h : c.apply s = some s')
    (hc : ∀ e n attempts, c ≠ .returned e n attempts) : s'.completions = s.completions := by
  cases c with
  | handler write =>
    obtain ⟨world, -, rfl⟩ := Option.map_eq_some_iff.mp h
    rfl
  | markProcessing eventId consumerName =>
    obtain rfl := Option.some.inj h
    rfl
  | returned eventId consumerName attempts => exact absurd rfl (hc _ _ _)
  | markCompleted eventId consumerName | markFailed eventId consumerName lastError =>
    obtain ⟨row, -, rfl⟩ := Option.map_eq_some_iff.mp h
    rfl

end Attempts

/-! ## Deliveries follow the protocol -/

section Follows

variable {consumerName : ConsumerName} {eventId : EventId} {held : Option Mark}

/-- A handler neither marks nor returns. -/
lemma handler_follows (handler : Handler ω T) (s : Consumption ω) :
    markProtocol.Follows DeliveryCommit.apply
      (handler.zoom Consumption.world DeliveryCommit.handler) (fun _ t => t = held) held := by
  refine follows_of_emits (emits_zoom handler s) ?_
  rintro s c ⟨write, rfl⟩
  exact ⟨trivial, fun _ => rfl⟩

lemma runWithConsumerIdempotency_follows (handler : Handler ω T) :
    markProtocol.Follows DeliveryCommit.apply
      (runWithConsumerIdempotency consumerName eventId handler) Ends none := by
  unfold runWithConsumerIdempotency
  refine follows_read trivial fun db => ?_
  split
  · trivial
  · refine follows_commit rfl trivial fun s s' _ => ?_
    dsimp only
    refine Follows.orElse (Follows.bind ((handler_follows handler s).mono fun r t ht => ?_))
      fun err t => (follows_attempt trivial).andThen fun _ _ => trivial
    subst ht
    cases r with
    | error err => trivial
    | ok data =>
      refine (follows_attempt rfl).andThen fun _ t => ?_
      exact follows_commit trivial trivial fun _ _ _ => trivial

lemma Delivery.follows (d : Delivery ω T) :
    markProtocol.Follows DeliveryCommit.apply ((workers ω T).proc d) Ends none :=
  (runWithConsumerIdempotency_follows d.handler).andThen fun _ _ => trivial

end Follows

/-! ## At most one completion -/

/-- A delivery whose mark is the last one has not been completed, and no two deliveries hold one
mark. -/
structure AtMostOnce (s : Consumption ω) (held : ℕ → Option Mark) : Prop where
  count_le : ∀ e n, s.completions.count (e, n) ≤ 1
  le : ∀ i m, held i = some m → m.attempts ≤ s.attempts m.eventId m.consumerName
  inj : ∀ i j m, held i = some m → held j = some m → i = j
  overtaken : ∀ i m, held i = some m → (m.eventId, m.consumerName) ∈ s.completions →
    m.attempts < s.attempts m.eventId m.consumerName

namespace AtMostOnce

variable {s s' : Consumption ω} {held : ℕ → Option Mark} {i : ℕ} {e : EventId}
  {n : ConsumerName}

/-- More marks, and fewer of them held. -/
lemma mono (h : AtMostOnce s held) {held' : ℕ → Option Mark}
    (hcompletions : s'.completions = s.completions)
    (hattempts : ∀ e n, s.attempts e n ≤ s'.attempts e n)
    (hheld : ∀ i m, held' i = some m → held i = some m) : AtMostOnce s' held' where
  count_le := by
    rw [hcompletions]
    exact h.count_le
  le i m hm := (h.le i m (hheld i m hm)).trans (hattempts _ _)
  inj i j m hi hj := h.inj i j m (hheld i m hi) (hheld j m hj)
  overtaken i m hm hmem := by
    rw [hcompletions] at hmem
    exact (h.overtaken i m (hheld i m hm) hmem).trans_le (hattempts _ _)

lemma of_mark (h : AtMostOnce s held) (hopen : (e, n) ∉ s.completions)
    (happ : (DeliveryCommit.markProcessing e n).apply s = some s') :
    AtMostOnce s' (Function.update held i (some ⟨e, n, s'.attempts e n⟩)) := by
  have hcompletions : s'.completions = s.completions :=
    completions_of_apply happ fun _ _ _ heq => nomatch heq
  have hle := attempts_le_of_apply happ
  have hnew := attempts_of_mark happ
  constructor
  · rw [hcompletions]
    exact h.count_le
  · intro j m hm
    rcases eq_of_update hm with ⟨-, hm⟩ | ⟨-, hm⟩
    · obtain rfl := Option.some.inj hm
      exact le_rfl
    · exact (h.le j m hm).trans (hle _ _)
  · intro j k m hj hk
    -- the new mark is beyond all marks that were held before
    have hfresh : ∀ k, held k ≠ some ⟨e, n, s'.attempts e n⟩ := by
      intro k hk
      have hold := h.le k _ hk
      dsimp only at hold
      omega
    rcases eq_of_update hj with ⟨hji, hj'⟩ | ⟨-, hj'⟩ <;>
      rcases eq_of_update hk with ⟨hki, hk'⟩ | ⟨-, hk'⟩
    · rw [hji, hki]
    · exact absurd (hk'.trans hj'.symm) (hfresh k)
    · exact absurd (hj'.trans hk'.symm) (hfresh j)
    · exact h.inj j k m hj' hk'
  · intro j m hm hmem
    rw [hcompletions] at hmem
    rcases eq_of_update hm with ⟨-, hm⟩ | ⟨-, hm⟩
    · obtain rfl := Option.some.inj hm
      exact absurd hmem hopen
    · exact (h.overtaken j m hm hmem).trans_le (hle _ _)

lemma of_returned (h : AtMostOnce s held) (hi : held i = some ⟨e, n, s.attempts e n⟩) :
    AtMostOnce { s with completions := s.completions ++ [(e, n)] }
      (Function.update held i none) := by
  have hopen : (e, n) ∉ s.completions := by
    intro hmem
    exact (h.overtaken i _ hi hmem).false
  constructor
  · intro e' n'
    have hcount := h.count_le e' n'
    rw [List.count_append, List.count_singleton]
    by_cases heq : (e, n) = (e', n')
    · rw [← heq, List.count_eq_zero_of_not_mem hopen]
      simp
    · simpa [heq] using hcount
  · intro j m hm
    rcases eq_of_update hm with ⟨-, hm⟩ | ⟨-, hm⟩
    · exact nomatch hm
    · exact h.le j m hm
  · intro j k m hj hk
    rcases eq_of_update hj with ⟨-, hj⟩ | ⟨-, hj⟩
    · exact nomatch hj
    rcases eq_of_update hk with ⟨-, hk⟩ | ⟨-, hk⟩
    · exact nomatch hk
    · exact h.inj j k m hj hk
  · intro j m hm hmem
    rcases eq_of_update hm with ⟨-, hm⟩ | ⟨hne, hm⟩
    · exact nomatch hm
    rcases List.mem_append.mp hmem with hmem | hmem
    · exact h.overtaken j m hm hmem
    · -- another delivery that holds the last mark would be this one
      obtain ⟨eventId, consumerName, attempts⟩ := m
      obtain ⟨rfl, rfl⟩ := Prod.mk.inj (List.mem_singleton.mp hmem)
      refine lt_of_le_of_ne (h.le j _ hm) fun heq => hne ?_
      dsimp only at heq
      rw [heq] at hm
      exact h.inj j i _ hm hi

lemma of_apply (h : AtMostOnce s held) {c : DeliveryCommit ω} {o : Option (Consumption ω)}
    (hallow : markProtocol.allow (held i) c) (hundisturbed : Undisturbed s c)
    (happ : c.apply s = some s') (ho : o = none ∨ o = some s') :
    AtMostOnce s' (Function.update held i (markProtocol.after (held i) c o)) := by
  have hsame : (∀ e n attempts, c ≠ .returned e n attempts) →
      markProtocol.after (held i) c o = held i →
      AtMostOnce s' (Function.update held i (markProtocol.after (held i) c o)) := by
    intro hc hafter
    rw [hafter, Function.update_eq_self]
    exact h.mono (completions_of_apply happ hc) (attempts_le_of_apply happ) fun _ _ hm => hm
  cases c with
  | handler write => exact hsame (fun _ _ _ heq => nomatch heq) rfl
  | markProcessing e n =>
    rcases ho with rfl | rfl
    · exact hsame (fun _ _ _ heq => nomatch heq) rfl
    · exact h.of_mark hundisturbed happ
  | returned e n attempts =>
    obtain rfl := Option.some.inj happ
    obtain rfl : s.attempts e n = attempts := hundisturbed
    exact h.of_returned hallow
  | markCompleted e n => exact hsame (fun _ _ _ heq => nomatch heq) rfl
  | markFailed e n lastError => exact hsame (fun _ _ _ heq => nomatch heq) rfl

lemma of_failed (h : AtMostOnce s held) (c : DeliveryCommit ω) :
    AtMostOnce s (Function.update held i (markProtocol.after (held i) c none)) := by
  refine h.mono rfl (fun _ _ => le_rfl) fun j m hm => ?_
  rcases eq_of_update hm with ⟨rfl, hm⟩ | ⟨-, hm⟩
  · cases c with
    | returned e n attempts => exact nomatch hm
    | _ => exact hm
  · exact hm

end AtMostOnce

/-- **At most once per consumer, while nobody is overtaken.**  In the runs in which an event is
marked for a consumer only while no handler has returned for it, and a handler returns only while
the mark of its delivery is the last one, a handler completes at most once for an event and a
consumer, whatever the handlers do and however they fail. -/
theorem completes_at_most_once {s₀ : Consumption ω}
    {cfg : Config (Consumption ω) (DeliveryCommit ω) String} (h₀ : s₀.completions = [])
    (hr : (workers ω T).Reachable (fun _ => True) Undisturbed s₀ cfg) (eventId : EventId)
    (consumerName : ConsumerName) :
    cfg.store.completions.count (eventId, consumerName) ≤ 1 := by
  have hstart : AtMostOnce s₀ fun _ => none := by
    refine ⟨fun e n => ?_, fun _ _ hm => (nomatch hm), fun _ _ _ hm => (nomatch hm),
      fun _ _ hm => (nomatch hm)⟩
    rw [h₀]
    exact Nat.zero_le 1
  obtain ⟨held, honce, -⟩ := Protocol.invariant (P := markProtocol)
    (fun d _ => d.follows) hr hstart
    (fun _ _ _ h => h.mono rfl (fun _ _ => le_rfl) fun _ _ hm => hm)
    (fun _ _ _ c _ h => h.of_failed c)
    (fun _ _ _ _ _ _ hallow hcond happ ho h => h.of_apply hallow hcond happ ho)
  exact honce.count_le eventId consumerName

/-! ## Two mails -/

/-- Nothing is processed yet, and no mail is sent. -/
def unread : Consumption ℕ := ⟨fun _ _ => none, 0, []⟩

/-- An event for the notifications, whose handler sends one mail. -/
def notification : Delivery ℕ Unit where
  eventId := 1
  consumerName := "NotificationConsumer"
  handler := do
    let _ ← Proc.commit fun mails => some (mails + 1)
    pure ()

theorem completes_at_most_once_retried : ∃ cfg,
    (workers ℕ Unit).Reachable (fun _ => True) Undisturbed unread cfg ∧
      cfg.store.completions.count (1, "NotificationConsumer") ≤ 1 ∧ cfg.store.world = 1 := by
  -- the first delivery dies in its handler, and the second one completes
  obtain ⟨cfg, hr, hworld⟩ := (workers ℕ Unit).exists_reachable_of_exec (fun _ => True) Undisturbed
    [.call notification, .step 0 .ok, .step 0 .ok, .step 0 .failed, .step 0 .ok,
      .call notification, .step 1 .ok, .step 1 .ok, .step 1 .ok, .step 1 .ok, .step 1 .ok] unread
    Consumption.world 1 (by decide +kernel)
  exact ⟨cfg, hr, completes_at_most_once rfl hr 1 "NotificationConsumer", hworld⟩

/-- Two deliveries at once: both find no row, and both handlers complete. -/
theorem completed_twice :
    ¬∀ (ω T : Type) (s₀ : Consumption ω)
        (cfg : Config (Consumption ω) (DeliveryCommit ω) String),
      s₀.completions = [] → (workers ω T).Reachable (fun _ => True) Free s₀ cfg →
      ∀ eventId consumerName, cfg.store.completions.count (eventId, consumerName) ≤ 1 := by
  intro h
  obtain ⟨cfg, hr, hcount⟩ := (workers ℕ Unit).exists_reachable_of_exec (fun _ => True) Free
    [.call notification, .call notification, .step 0 .ok, .step 1 .ok, .step 0 .ok, .step 1 .ok,
      .step 0 .ok, .step 1 .ok, .step 0 .ok, .step 1 .ok] unread
    (fun s => s.completions.count (1, "NotificationConsumer")) 2 (by decide +kernel)
  have hle := h ℕ Unit unread cfg rfl hr 1 "NotificationConsumer"
  rw [hcount] at hle
  exact absurd hle (by decide)

end MeeoServer.Outbox
