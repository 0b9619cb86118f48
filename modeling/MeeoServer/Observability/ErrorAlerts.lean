/-
# Alerts on server errors

`record5xxError` counts the errors of the last minute and raises an alert if there are too many
and the last alert is long enough ago.  The event of the alert is published to the queue, from
which a worker routes it to the consumer, and is then given to the consumer directly.  Every
`await` is a step, between which other calls, the worker and the clock go on.

Two things can go wrong: the two ways to the consumer mail the same alert twice, and what was
counted or compared before an `await` is out of date after it.  A run in which neither happens
mails as it should.
-/
import Mathlib.Data.List.Basic
import Mathlib.Data.String.Basic
import Mathlib.Logic.Function.Basic
import MeeoServer.Process.Sequences

namespace MeeoServer.Observability

/-! ## Where an event goes -/

inductive Consumer where
  | orderEvents
  | paymentEvents
  | notification
  | systemAlert
deriving DecidableEq

def startsWith (s p : String) : Bool := p.toList.isPrefixOf s.toList

/-- `consumersToCall` of `routeEvent`. -/
def consumersToCall (eventType aggregateType : String) : List Consumer :=
  let orders := if startsWith eventType "ORDER_" ∨ aggregateType = "Order" then
    [.orderEvents, .notification] else []
  let payments := if startsWith eventType "PAYMENT_" ∨ startsWith eventType "REFUND_" ∨
      startsWith eventType "RETURN_" ∨ aggregateType = "Payment" ∨ aggregateType = "Refund" then
    [.paymentEvents, .notification] else []
  let accounts := if startsWith eventType "ACCOUNT_" ∨ startsWith eventType "SECURITY_" ∨
      startsWith eventType "USER_" ∨ aggregateType = "User" then [.notification] else []
  let stock := if startsWith eventType "LOW_STOCK" ∨ startsWith eventType "STOCK_" then
    [.notification] else []
  let alerts := if eventType = "SERVER_5XX_ALERT" ∨ startsWith eventType "SYSTEM_" ∨
      startsWith eventType "ALERT_" ∨ aggregateType = "System" then [.systemAlert] else []
  -- a set: nobody is called twice
  (orders ++ payments ++ accounts ++ stock ++ alerts).dedup

/-! ## The service -/

/-- Who has called `handleEvent`: `triggerAlert` itself, or the worker for the job in the
queue. -/
inductive Path where
  | direct
  | worker
deriving DecidableEq

/-- How far one call of `handleEvent` has come.  It waits for `publishDomainEventJob`, or for the
worker to take the job; then it awaits the recipients, and then one mail after another. -/
inductive Stage where
  | absent
  | waiting
  | resolving
  | mailing (todo : List String)
deriving DecidableEq

/-- A call of `record5xxError`: it awaits the threshold, knowing what it has counted, or the
cooldown, knowing what time it was when it asked for it. -/
inductive Call where
  | threshold (counted : List ℕ)
  | cooldown (counted : List ℕ) (now : ℕ)
  | returned

/-- A `SERVER_5XX_ALERT`, with the errors that were counted, and the calls of the consumer. -/
structure Alert where
  counted : List ℕ
  consumers : Path → Stage

/-- A mail that has been sent: when, to whom, for which alert, by which call of the consumer, and
how many errors there had been in the minute before. -/
structure Mail where
  time : ℕ
  recipient : String
  alert : ℕ
  path : Path
  recent : ℕ

structure State where
  clock : ℕ
  /-- When there were errors, from the start. -/
  errors : List ℕ
  errorTimestamps : List ℕ
  lastAlertDispatchedAt : ℕ
  calls : List Call
  /-- In the order in which they were raised. -/
  alerts : List Alert
  /-- The newest first. -/
  mails : List Mail

def State.start (clock : ℕ) : State := ⟨clock, [], [], 0, [], [], []⟩

inductive Action where
  /-- Some milliseconds go by. -/
  | tick (ms : ℕ)
  /-- An error: `record5xxError` is called. -/
  | error
  /-- The call with this number gets the threshold. -/
  | threshold (i : ℕ)
  | cooldown (i : ℕ)
  /-- `publishDomainEventJob` returns or throws; the job is in the queue or not. -/
  | publish (i : ℕ) (queued : Bool)
  /-- The worker takes the job of an alert. -/
  | take (i : ℕ)
  | resolve (i : ℕ) (path : Path) (recipients : List String)
  | mail (i : ℕ) (path : Path) (sent : Bool)

/-- The errors of the last minute. -/
def inWindow (now : ℕ) (times : List ℕ) : List ℕ := times.filter fun t => now - t ≤ 60000

/-- An alert's calls of the consumer go on. -/
def State.setConsumers (s : State) (i : ℕ) (alert : Alert) (consumers : Path → Stage) : State :=
  { s with alerts := s.alerts.set i { alert with consumers } }

variable (T C : ℕ)

def step : Action → State → State
  | .tick ms, s => { s with clock := s.clock + ms }
  | .error, s =>
    let errorTimestamps := inWindow s.clock (s.errorTimestamps ++ [s.clock])
    { s with
      errors := s.errors ++ [s.clock]
      errorTimestamps
      calls := s.calls ++ [.threshold errorTimestamps] }
  | .threshold i, s =>
    match s.calls[i]? with
    | some (.threshold counted) =>
      -- `triggerAlert` begins with the time
      let next := if T ≤ counted.length then .cooldown counted s.clock else .returned
      { s with calls := s.calls.set i next }
    | _ => s
  | .cooldown i, s =>
    match s.calls[i]? with
    | some (.cooldown counted now) =>
      if now < s.lastAlertDispatchedAt + C then { s with calls := s.calls.set i .returned }
      else
        { s with
          calls := s.calls.set i .returned
          lastAlertDispatchedAt := now
          alerts := s.alerts ++ [⟨counted, fun | .direct => .waiting | .worker => .absent⟩] }
    | _ => s
  | .publish i queued, s =>
    match s.alerts[i]? with
    | some alert =>
      if alert.consumers .direct = .waiting then
        -- the consumer is called whether the event was published or not
        s.setConsumers i alert
          fun | .direct => .resolving | .worker => if queued then .waiting else .absent
      else s
    | none => s
  | .take i, s =>
    match s.alerts[i]? with
    | some alert =>
      if alert.consumers .worker = .waiting ∧
          Consumer.systemAlert ∈ consumersToCall "SERVER_5XX_ALERT" "System" then
        s.setConsumers i alert (Function.update alert.consumers .worker .resolving)
      else s
    | none => s
  | .resolve i path recipients, s =>
    match s.alerts[i]? with
    | some alert =>
      if alert.consumers path = .resolving ∧ recipients.Nodup then
        s.setConsumers i alert (Function.update alert.consumers path (.mailing recipients))
      else s
    | none => s
  | .mail i path sent, s =>
    match s.alerts[i]? with
    | some alert =>
      match alert.consumers path with
      | .mailing (recipient :: todo) =>
        let next := s.setConsumers i alert (Function.update alert.consumers path (.mailing todo))
        if sent then
          { next with
            mails := ⟨s.clock, recipient, i, path, (inWindow s.clock s.errors).length⟩ :: s.mails }
        else next
      | _ => s
    | none => s

/-! ## What is asked of a run -/

/-- Whoever is mailed is mailed for enough errors, and not again before the cooldown is over. -/
structure AlertsSound (mails : List Mail) : Prop where
  enough : ∀ m ∈ mails, T ≤ m.recent
  apart : mails.Pairwise fun later earlier =>
    later.recipient = earlier.recipient → earlier.time + C ≤ later.time

/-- When a call passes the cooldown, no mail has been sent after the time recorded for the last
alert. -/
def Call.UpToDate (s : State) : Call → Prop
  | .cooldown _ now =>
    s.lastAlertDispatchedAt + C ≤ now → ∀ m ∈ s.mails, m.time ≤ s.lastAlertDispatchedAt
  | _ => True

/-- When a mail for the alert `i` is sent, no later alert has been raised, none of the errors that
were counted is older than a minute, and no mail for it was sent by the other call of the
consumer. -/
def Alert.UpToDate (s : State) (i : ℕ) (path : Path) (alert : Alert) : Prop :=
  i + 1 = s.alerts.length ∧ (∀ t ∈ alert.counted, s.clock - t ≤ 60000) ∧
    ∀ m ∈ s.mails, m.alert = i → m.path = path

def Meets : Action → State → Prop
  | .cooldown i, s => ∀ call ∈ s.calls[i]?, call.UpToDate C s
  | .mail i path true, s => ∀ alert ∈ s.alerts[i]?, alert.UpToDate s i path
  | _, _ => True

instance (s : State) : (call : Call) → Decidable (call.UpToDate C s)
  | .cooldown _ _ => inferInstanceAs (Decidable (_ → _))
  | .threshold _ => inferInstanceAs (Decidable True)
  | .returned => inferInstanceAs (Decidable True)

instance (s : State) (i : ℕ) (path : Path) (alert : Alert) : Decidable (alert.UpToDate s i path) :=
  inferInstanceAs (Decidable (_ ∧ _))

instance : (action : Action) → (s : State) → Decidable (Meets C action s)
  | .cooldown i, s => inferInstanceAs (Decidable (∀ call ∈ s.calls[i]?, call.UpToDate C s))
  | .mail i path true, s =>
    inferInstanceAs (Decidable (∀ alert ∈ s.alerts[i]?, alert.UpToDate s i path))
  | .mail _ _ false, _ => inferInstanceAs (Decidable True)
  | .tick _, _ => inferInstanceAs (Decidable True)
  | .error, _ => inferInstanceAs (Decidable True)
  | .threshold _, _ => inferInstanceAs (Decidable True)
  | .publish _ _, _ => inferInstanceAs (Decidable True)
  | .take _, _ => inferInstanceAs (Decidable True)
  | .resolve _ _ _, _ => inferInstanceAs (Decidable True)

/-! ## The invariant -/

/-- What a call has counted are errors, and what it has compared was enough. -/
def Call.Sound (errors : List ℕ) (clock : ℕ) : Call → Prop
  | .threshold counted => counted.Sublist errors
  | .cooldown counted now => counted.Sublist errors ∧ T ≤ counted.length ∧ now ≤ clock
  | .returned => True

structure Alert.Sound (errors : List ℕ) (alert : Alert) : Prop where
  counted : alert.counted.Sublist errors
  enough : T ≤ alert.counted.length
  nodup : ∀ path todo, alert.consumers path = .mailing todo → todo.Nodup
  unpublished : alert.consumers .direct = .waiting → alert.consumers .worker = .absent

/-- Only the last alert can have been mailed within the cooldown, and nobody is mailed twice by
one call of the consumer. -/
structure Mail.Sound (alerts : List Alert) (lastAlertDispatchedAt : ℕ) (m : Mail) : Prop where
  last : m.alert + 1 = alerts.length ∨ m.time + C ≤ lastAlertDispatchedAt
  stage : ∃ alert todo, alerts[m.alert]? = some alert ∧
    alert.consumers m.path = .mailing todo ∧ m.recipient ∉ todo

structure Kept (s : State) : Prop where
  errors : s.errorTimestamps.Sublist s.errors
  calls : ∀ call ∈ s.calls, call.Sound T s.errors s.clock
  alerts : ∀ alert ∈ s.alerts, alert.Sound T s.errors
  dispatched : s.lastAlertDispatchedAt ≤ s.clock
  mails : ∀ m ∈ s.mails, m.Sound C s.alerts s.lastAlertDispatchedAt
  sound : AlertsSound T C s.mails

variable {T C} {s : State}

lemma kept_start (clock : ℕ) : Kept T C (State.start clock) where
  errors := .refl _
  calls := by simp [State.start]
  alerts := by simp [State.start]
  dispatched := Nat.zero_le clock
  mails := by simp [State.start]
  sound := ⟨by simp [State.start], .nil⟩

lemma inWindow_sublist (now : ℕ) (times : List ℕ) : (inWindow now times).Sublist times :=
  List.filter_sublist

/-- A moment later, with more errors. -/
lemma Call.Sound.mono {errors errors' : List ℕ} {clock clock' : ℕ} {call : Call}
    (h : call.Sound T errors clock) (herrors : errors.Sublist errors') (hclock : clock ≤ clock') :
    call.Sound T errors' clock' := by
  cases call with
  | threshold counted => exact h.trans herrors
  | cooldown counted now => exact ⟨h.1.trans herrors, h.2.1, h.2.2.trans hclock⟩
  | returned => trivial

/-- A call goes on to where it may be. -/
lemma Kept.set_call (h : Kept T C s) {i : ℕ} {call : Call} (hcall : call.Sound T s.errors s.clock) :
    Kept T C { s with calls := s.calls.set i call } where
  errors := h.errors
  calls other hother := by
    rcases List.mem_or_eq_of_mem_set hother with hmem | rfl
    · exact h.calls other hmem
    · exact hcall
  alerts := h.alerts
  dispatched := h.dispatched
  mails := h.mails
  sound := h.sound

lemma Kept.tick (h : Kept T C s) (ms : ℕ) : Kept T C { s with clock := s.clock + ms } where
  errors := h.errors
  calls call hcall := (h.calls call hcall).mono (.refl _) (Nat.le_add_right s.clock ms)
  alerts := h.alerts
  dispatched := h.dispatched.trans (Nat.le_add_right s.clock ms)
  mails := h.mails
  sound := h.sound

lemma Kept.error (h : Kept T C s) : Kept T C (step T C .error s) := by
  have hmore : s.errors.Sublist (s.errors ++ [s.clock]) := List.sublist_append_left _ _
  have hcounted : (inWindow s.clock (s.errorTimestamps ++ [s.clock])).Sublist
      (s.errors ++ [s.clock]) :=
    (inWindow_sublist _ _).trans (h.errors.append_right _)
  refine ⟨hcounted, fun call hcall => ?_, fun alert halert => ?_, h.dispatched, h.mails, h.sound⟩
  · rcases List.mem_append.mp hcall with hold | hnew
    · exact (h.calls call hold).mono hmore le_rfl
    · rw [List.mem_singleton.mp hnew]
      exact hcounted
  · have hold := h.alerts alert halert
    exact ⟨hold.counted.trans hmore, hold.enough, hold.nodup, hold.unpublished⟩

lemma Kept.threshold (h : Kept T C s) (i : ℕ) : Kept T C (step T C (.threshold i) s) := by
  cases hi : s.calls[i]? with
  | none => simpa only [step, hi] using h
  | some call =>
    have hcall := h.calls call (List.mem_of_getElem? hi)
    cases call with
    | threshold counted =>
      simp only [step, hi]
      refine h.set_call ?_
      split
      · next henough => exact ⟨hcall, henough, le_rfl⟩
      · trivial
    | cooldown counted now => simpa only [step, hi] using h
    | returned => simpa only [step, hi] using h

/-- An alert is raised.  The mails that have been sent are out of its cooldown. -/
lemma Kept.raise (h : Kept T C s) {counted : List ℕ} {now : ℕ}
    (hcounted : counted.Sublist s.errors) (henough : T ≤ counted.length) (hnow : now ≤ s.clock)
    (hmails : ∀ m ∈ s.mails, m.time + C ≤ now) :
    Kept T C { s with
      lastAlertDispatchedAt := now
      alerts := s.alerts ++ [⟨counted, fun | .direct => .waiting | .worker => .absent⟩] } where
  errors := h.errors
  calls := h.calls
  alerts alert halert := by
    rcases List.mem_append.mp halert with hold | hnew
    · exact h.alerts alert hold
    · rw [List.mem_singleton.mp hnew]
      exact ⟨hcounted, henough, by rintro (_ | _) _ ⟨⟩, fun _ => rfl⟩
  dispatched := hnow
  mails m hm := by
    obtain ⟨alert, todo, halert, hstage⟩ := (h.mails m hm).stage
    exact ⟨.inr (hmails m hm), alert, todo,
      (List.getElem?_append_left (List.getElem?_eq_some_iff.mp halert).1).trans halert, hstage⟩
  sound := h.sound

lemma Kept.cooldown (h : Kept T C s) {i : ℕ} (hmeets : Meets C (.cooldown i) s) :
    Kept T C (step T C (.cooldown i) s) := by
  cases hi : s.calls[i]? with
  | none => simpa only [step, hi] using h
  | some call =>
    have hcall := h.calls call (List.mem_of_getElem? hi)
    cases call with
    | threshold counted => simpa only [step, hi] using h
    | cooldown counted now =>
      have hreturned : Kept T C { s with calls := s.calls.set i .returned } := h.set_call trivial
      simp only [step, hi]
      split
      · exact hreturned
      · next hpassed =>
        obtain ⟨hcounted, henough, hnow⟩ := hcall
        refine hreturned.raise hcounted henough hnow fun m hm => ?_
        have hbefore := hmeets _ hi (not_lt.mp hpassed) m hm
        omega
    | returned => simpa only [step, hi] using h

/-- The calls of the consumer for one alert go on; none goes back. -/
lemma Kept.setConsumers (h : Kept T C s) {i : ℕ} {alert : Alert} {consumers : Path → Stage}
    (hi : s.alerts[i]? = some alert)
    (hnodup : ∀ path todo, consumers path = .mailing todo → todo.Nodup)
    (hunpublished : consumers .direct = .waiting → consumers .worker = .absent)
    (hmailing : ∀ path todo, alert.consumers path = .mailing todo →
      ∃ todo', consumers path = .mailing todo' ∧ todo' ⊆ todo) :
    Kept T C (s.setConsumers i alert consumers) where
  errors := h.errors
  calls := h.calls
  alerts other hother := by
    rcases List.mem_or_eq_of_mem_set hother with hmem | rfl
    · exact h.alerts other hmem
    · have hold := h.alerts alert (List.mem_of_getElem? hi)
      exact ⟨hold.counted, hold.enough, hnodup, hunpublished⟩
  dispatched := h.dispatched
  mails m hm := by
    obtain ⟨hlast, other, todo, hother, hstage, hrecipient⟩ := h.mails m hm
    refine ⟨by rw [State.setConsumers, List.length_set]; exact hlast, ?_⟩
    by_cases hsame : m.alert = i
    · -- a mail for this alert: the call that has sent it goes on mailing
      subst hsame
      obtain rfl : other = alert := Option.some.inj (hother.symm.trans hi)
      obtain ⟨todo', htodo', hsubset⟩ := hmailing m.path todo hstage
      exact ⟨{ other with consumers }, todo',
        List.getElem?_set_self (List.getElem?_eq_some_iff.mp hi).1, htodo',
        fun hmem => hrecipient (hsubset hmem)⟩
    · exact ⟨other, todo, (List.getElem?_set_ne (Ne.symm hsame)).trans hother, hstage, hrecipient⟩
  sound := h.sound

/-- One of the two calls goes on. -/
lemma Kept.update (h : Kept T C s) {i : ℕ} {alert : Alert} {path : Path} {stage : Stage}
    (hi : s.alerts[i]? = some alert) (hstage : stage ≠ .waiting)
    (hstarted : alert.consumers path ≠ .absent)
    (hnodup : ∀ todo, stage = .mailing todo → todo.Nodup)
    (hmailing : ∀ todo, alert.consumers path = .mailing todo →
      ∃ todo', stage = .mailing todo' ∧ todo' ⊆ todo) :
    Kept T C (s.setConsumers i alert (Function.update alert.consumers path stage)) := by
  have hold := h.alerts alert (List.mem_of_getElem? hi)
  refine h.setConsumers hi (fun other todo hother => ?_) (fun hwaiting => ?_)
    (fun other todo hother => ?_)
  · by_cases hsame : other = path
    · subst hsame
      exact hnodup todo ((Function.update_self ..).symm.trans hother)
    · rw [Function.update_of_ne hsame] at hother
      exact hold.nodup other todo hother
  · cases path with
    | direct => exact absurd ((Function.update_self ..).symm.trans hwaiting) hstage
    | worker =>
      rw [Function.update_of_ne (by decide)] at hwaiting
      exact absurd (hold.unpublished hwaiting) hstarted
  · by_cases hsame : other = path
    · subst hsame
      rw [Function.update_self]
      exact hmailing todo hother
    · rw [Function.update_of_ne hsame]
      exact ⟨todo, hother, List.Subset.refl todo⟩

lemma Kept.publish (h : Kept T C s) (i : ℕ) (queued : Bool) :
    Kept T C (step T C (.publish i queued) s) := by
  cases hi : s.alerts[i]? with
  | none => simpa only [step, hi] using h
  | some alert =>
    simp only [step, hi]
    split
    · next hwaiting =>
      have habsent := (h.alerts alert (List.mem_of_getElem? hi)).unpublished hwaiting
      refine h.setConsumers hi ?_ (by rintro ⟨⟩) ?_
      · rintro (_ | _) todo htodo
        · exact nomatch htodo
        · cases queued <;> exact nomatch htodo
      · rintro (_ | _) todo htodo
        · exact nomatch hwaiting.symm.trans htodo
        · exact nomatch habsent.symm.trans htodo
    · exact h

lemma Kept.take (h : Kept T C s) (i : ℕ) : Kept T C (step T C (.take i) s) := by
  cases hi : s.alerts[i]? with
  | none => simpa only [step, hi] using h
  | some alert =>
    simp only [step, hi]
    split
    · next hwaiting =>
      exact h.update hi (by decide) (by rw [hwaiting.1]; decide) (fun _ htodo => nomatch htodo)
        fun todo htodo => nomatch hwaiting.1.symm.trans htodo
    · exact h

lemma Kept.resolve (h : Kept T C s) (i : ℕ) (path : Path) (recipients : List String) :
    Kept T C (step T C (.resolve i path recipients) s) := by
  cases hi : s.alerts[i]? with
  | none => simpa only [step, hi] using h
  | some alert =>
    simp only [step, hi]
    split
    · next hresolving =>
      refine h.update hi (fun hmailing => nomatch hmailing) (by rw [hresolving.1]; decide) ?_
        fun todo htodo => nomatch hresolving.1.symm.trans htodo
      rintro _ ⟨⟩
      exact hresolving.2
    · exact h

/-- The next recipient has had his turn. -/
lemma Kept.advance (h : Kept T C s) {i : ℕ} {alert : Alert} {path : Path} {recipient : String}
    {todo : List String} (hi : s.alerts[i]? = some alert)
    (hstage : alert.consumers path = .mailing (recipient :: todo)) :
    Kept T C (s.setConsumers i alert (Function.update alert.consumers path (.mailing todo))) := by
  have hnodup := (h.alerts alert (List.mem_of_getElem? hi)).nodup path _ hstage
  refine h.update hi (fun hmailing => nomatch hmailing) (by rw [hstage]; exact nofun) ?_ ?_
  · rintro _ ⟨⟩
    exact hnodup.of_cons
  · rintro _ hall
    obtain rfl := Stage.mailing.inj (hstage.symm.trans hall)
    exact ⟨todo, rfl, List.subset_cons_self recipient todo⟩

lemma Kept.mail (h : Kept T C s) {i : ℕ} {path : Path} {sent : Bool}
    (hmeets : Meets C (.mail i path sent) s) : Kept T C (step T C (.mail i path sent) s) := by
  cases hi : s.alerts[i]? with
  | none => simpa only [step, hi] using h
  | some alert =>
    simp only [step, hi]
    split
    · next recipient todo hstage =>
      have hnext := h.advance hi hstage
      cases sent with
      | false => exact hnext
      | true =>
        obtain ⟨hlast, hcounted, hpath⟩ := hmeets alert hi
        have halert := h.alerts alert (List.mem_of_getElem? hi)
        -- all that was counted is still in the window
        have henough : T ≤ (inWindow s.clock s.errors).length := by
          have hall : inWindow s.clock alert.counted = alert.counted :=
            List.filter_eq_self.mpr fun t ht => decide_eq_true (hcounted t ht)
          have hsub : alert.counted.Sublist (inWindow s.clock s.errors) := by
            rw [← hall]
            exact halert.counted.filter _
          exact halert.enough.trans hsub.length_le
        -- who has been mailed lately has been mailed by this call, and it mails nobody twice
        have hapart : ∀ m ∈ s.mails, recipient = m.recipient → m.time + C ≤ s.clock := by
          intro m hm hrecipient
          obtain ⟨hlate, other, rest, hother, hmailing, hnot⟩ := h.mails m hm
          rcases hlate with hsame | hover
          · have hindex : m.alert = i := by omega
            subst hindex
            obtain rfl : other = alert := Option.some.inj (hother.symm.trans hi)
            rw [hpath m hm rfl, hstage] at hmailing
            obtain rfl := Stage.mailing.inj hmailing
            exact absurd (hrecipient ▸ List.mem_cons_self) hnot
          · exact hover.trans h.dispatched
        refine ⟨hnext.errors, hnext.calls, hnext.alerts, hnext.dispatched, fun m hm => ?_,
          List.forall_mem_cons.mpr ⟨henough, h.sound.enough⟩,
          List.pairwise_cons.mpr ⟨hapart, h.sound.apart⟩⟩
        rcases List.mem_cons.mp hm with rfl | hold
        · refine ⟨.inl ?_, _, todo,
            List.getElem?_set_self (List.getElem?_eq_some_iff.mp hi).1, Function.update_self ..,
            (List.nodup_cons.mp (halert.nodup path _ hstage)).1⟩
          show i + 1 = (s.alerts.set i _).length
          rw [List.length_set, hlast]
        · exact hnext.mails m hold
    · exact h

/-- One step. -/
lemma Kept.step (h : Kept T C s) (action : Action) (hmeets : Meets C action s) :
    Kept T C (step T C action s) := by
  cases action with
  | tick ms => exact h.tick ms
  | error => exact h.error
  | threshold i => exact h.threshold i
  | cooldown i => exact h.cooldown hmeets
  | publish i queued => exact h.publish i queued
  | take i => exact h.take i
  | resolve i path recipients => exact h.resolve i path recipients
  | mail i path sent => exact h.mail hmeets

/-- In a run in which nothing is out of date when it is used, and each alert is mailed by one call
of the consumer, there are enough errors for each mail and nobody gets two within the
cooldown. -/
theorem alerts_sound {clock : ℕ} {actions : List Action}
    (h : Sequences.Along (step T C) (Meets C) actions (.start clock)) :
    AlertsSound T C (Sequences.after (step T C) actions (.start clock)).mails :=
  (h.after (kept_start clock) fun action _ hkept hmeets => hkept.step action hmeets).sound

/-- Three errors, of which the second is in the cooldown of the first. -/
def quietRun : List Action :=
  [.error, .threshold 0, .cooldown 0, .publish 0 false, .resolve 0 .direct ["a", "b"],
    .mail 0 .direct true, .mail 0 .direct true, .tick 500, .error, .threshold 1, .cooldown 1,
    .tick 500, .error, .threshold 2, .cooldown 2, .publish 1 true, .resolve 1 .direct ["a"],
    .mail 1 .direct true]

theorem alerts_sound_quietRun :
    AlertsSound 1 1000 (Sequences.after (step 1 1000) quietRun (.start 5000)).mails :=
  alerts_sound (by decide)

/-- An alert is mailed by both calls of the consumer; a mail that is late is followed too soon by
the next one; and a mail is sent when the error that was counted is more than a minute old. -/
theorem alerts_unsound :
    ¬ AlertsSound 1 1000 (Sequences.after (step 1 1000)
      [.error, .threshold 0, .cooldown 0, .publish 0 true, .resolve 0 .direct ["a"],
        .mail 0 .direct true, .take 0, .resolve 0 .worker ["a"], .mail 0 .worker true]
      (.start 5000)).mails ∧
    ¬ AlertsSound 1 1000 (Sequences.after (step 1 1000)
      [.error, .threshold 0, .cooldown 0, .publish 0 false, .resolve 0 .direct ["a"], .tick 999,
        .mail 0 .direct true, .tick 1, .error, .threshold 1, .cooldown 1, .publish 1 false,
        .resolve 1 .direct ["a"], .mail 1 .direct true] (.start 5000)).mails ∧
    ¬ AlertsSound 1 1000 (Sequences.after (step 1 1000)
      [.error, .threshold 0, .tick 60001, .cooldown 0, .publish 0 false, .resolve 0 .direct ["a"],
        .mail 0 .direct true] (.start 5000)).mails := by
  refine ⟨fun h => ?_, fun h => ?_, fun h => ?_⟩
  · exact absurd h.apart (by decide)
  · exact absurd h.apart (by decide)
  · exact absurd h.enough (by decide)

end MeeoServer.Observability
