/-
# What the notifications record

Whatever is sent, read, retried and deleted at the same time: a notification that counts as sent
has a date, and its mail was accepted for its recipient; a failed one was attempted and never sent;
only the user that a notification is for can read or delete it; and a push goes to a device that
the user has registered.
-/
import MeeoServer.Notifications.Delivery

namespace MeeoServer.Notifications

open Proc

variable {V : Type} {cfg : Configuration V} {s s' : Store}

/-! ## The invariant -/

/-- The mail of the message was accepted for its recipient. -/
def Mailed (mails : List Mail) (message : Message) : Prop :=
  ∃ mail ∈ mails, message.recipientEmail = some mail.address ∧ mail.subject = message.title ∧
    mail.text = message.body.getD ""

structure SoundRow (mails : List Mail) (row : Notification) : Prop where
  resolved : row.status ≠ .pending
  read : row.status = .read → row.readAt ≠ none
  sent : row.status = .sent → row.sentAt ≠ none
  failed : row.status = .failed → row.readAt = none ∧ row.sentAt = none
  attempted : row.sentAt = none → 1 ≤ row.attempts
  mailed : row.message.channel = .email → row.sentAt ≠ none → Mailed mails row.message

/-- The user has registered the device that the push went to. -/
def Addressed (registered : List (UserId × String)) (push : Push) : Prop :=
  (push.userId, push.token) ∈ registered

structure Store.Sound (s : Store) : Prop where
  rows : ∀ row ∈ s.notifications, SoundRow s.mails row
  pushes : ∀ push ∈ s.pushes, Addressed s.registered push

/-- What every step does: a message never changes, and no history is forgotten. -/
structure Within (s s' : Store) : Prop where
  nextId : s.nextId ≤ s'.nextId
  mails : s.mails ⊆ s'.mails
  registered : s.registered ⊆ s'.registered
  message : ∀ row' ∈ s'.notifications, row'.id < s.nextId →
    ∃ row ∈ s.notifications, row.id = row'.id ∧ row.message = row'.message

namespace Within

lemma refl (s : Store) : Within s s :=
  ⟨le_rfl, fun _ h => h, fun _ h => h, fun row h _ => ⟨row, h, rfl, rfl⟩⟩

lemma trans {s'' : Store} (h : Within s s') (h' : Within s' s'') : Within s s'' where
  nextId := h.nextId.trans h'.nextId
  mails _ hmem := h'.mails (h.mails hmem)
  registered _ hmem := h'.registered (h.registered hmem)
  message row'' hmem hlt := by
    obtain ⟨row', hmem', hid', hmessage'⟩ := h'.message row'' hmem (hlt.trans_le h.nextId)
    obtain ⟨row, hrow, hid, hmessage⟩ := h.message row' hmem' (hid' ▸ hlt)
    exact ⟨row, hrow, hid.trans hid', hmessage.trans hmessage'⟩

/-- A notification that is still there says what it has said. -/
lemma message_eq (h : Within s s') {row row' : Notification} (hmem : row ∈ s.notifications)
    (hmem' : row' ∈ s'.notifications) (hid : row'.id = row.id) : row'.message = row.message := by
  obtain ⟨row₀, hmem₀, hid₀, hmessage⟩ := h.message row' hmem' (hid ▸ s.ids_lt row hmem)
  obtain rfl : row₀ = row := List.inj_on_of_nodup_map s.ids_nodup hmem₀ hmem (hid₀.trans hid)
  exact hmessage.symm

end Within

/-! ## The steps -/

lemma change_message (change : Change) (row : Notification) :
    (change.apply row).message = row.message := by
  cases change <;> rfl

lemma within_update (p : Notification → Bool) (change : Change) : Within s (s.update p change) where
  nextId := le_rfl
  mails _ h := h
  registered _ h := h
  message row' hmem _ := by
    obtain ⟨row, hrow, rfl | rfl⟩ := Table.mem_updateWhere hmem
    · exact ⟨row', hrow, rfl, rfl⟩
    · exact ⟨row, hrow, (Store.change_id change row).symm, (change_message change row).symm⟩

lemma within_create (data : NotificationData) : Within s (s.create data) where
  nextId := Nat.le_succ _
  mails _ h := h
  registered _ h := h
  message row' hmem hlt := by
    rcases List.mem_append.mp hmem with hmem | hmem
    · exact ⟨row', hmem, rfl, rfl⟩
    · rw [List.mem_singleton.mp hmem] at hlt
      exact absurd hlt (lt_irrefl _)

lemma updateOne_eq_some {id : NotificationId} {change : Change}
    (h : s.updateOne id change = some s') : s' = s.update (fun row => row.id = id) change :=
  (Option.some.inj (Option.ite_none_right_eq_some.mp h).2).symm

lemma within_apply {c : Commit} (happ : apply c s = some s') : Within s s' := by
  have hsame {s' : Store} (hnotifications : s'.notifications = s.notifications)
      (hnextId : s'.nextId = s.nextId) (hmails : s.mails ⊆ s'.mails)
      (hregistered : s.registered ⊆ s'.registered) : Within s s' :=
    ⟨hnextId.ge, hmails, hregistered, fun row hmem _ => ⟨row, hnotifications ▸ hmem, rfl, rfl⟩⟩
  cases c with
  | mail mail =>
    obtain rfl := Option.some.inj happ
    exact hsame rfl rfl (List.subset_append_left _ _) fun _ h => h
  | push push | setPreferences userId input | discardDevice token | unregisterDevice userId token =>
    obtain rfl := Option.some.inj happ
    exact hsame rfl rfl (fun _ h => h) fun _ h => h
  | registerDevice userId token =>
    obtain rfl := Option.some.inj happ
    exact hsame rfl rfl (fun _ h => h) (List.subset_append_left _ _)
  | create data =>
    obtain rfl := Option.some.inj happ
    exact within_create data
  | markAllRead userId now =>
    obtain rfl := Option.some.inj happ
    exact within_update _ _
  | markRead _ id now | markSent id _ _ | markRetryFailed id _ _ =>
    obtain rfl := updateOne_eq_some happ
    exact within_update _ _
  | delete userId id =>
    obtain rfl := Option.some.inj (Option.ite_none_right_eq_some.mp happ).2
    exact ⟨le_rfl, fun _ h => h, fun _ h => h,
      fun row hmem _ => ⟨row, (List.mem_filter.mp hmem).1, rfl, rfl⟩⟩

/-- What is said about a batch that a call commits. -/
def Emitted (s : Store) : Commit → Prop
  | .push push => Addressed s.registered push
  | .create data =>
    (data.status = .sent ∧ data.sentAt ≠ none ∧
      (data.message.channel = .email → Mailed s.mails data.message)) ∨
    (data.status = .failed ∧ data.sentAt = none ∧ 1 ≤ data.attempts)
  | .markSent id attempts _ => 1 ≤ attempts ∧ ∀ row ∈ s.notifications, row.id = id →
      row.message.channel = .email → Mailed s.mails row.message
  | .markRetryFailed _ attempts _ => 1 ≤ attempts
  | _ => True

lemma Mailed.mono {mails mails' : List Mail} {message : Message} (h : Mailed mails message)
    (hmails : mails ⊆ mails') : Mailed mails' message := by
  obtain ⟨mail, hmem, hmail⟩ := h
  exact ⟨mail, hmails hmem, hmail⟩

lemma SoundRow.mono {mails mails' : List Mail} {row : Notification} (h : SoundRow mails row)
    (hmails : mails ⊆ mails') : SoundRow mails' row :=
  { h with mailed := fun hchannel hsent => (h.mailed hchannel hsent).mono hmails }

namespace SoundRow

variable {mails : List Mail} {row : Notification} (h : SoundRow mails row)

include h in
lemma markRead (now : Millis) : SoundRow mails ((Change.read now).apply row) where
  resolved := nofun
  read _ := nofun
  sent := nofun
  failed := nofun
  attempted := h.attempted
  mailed := h.mailed

include h in
lemma markRetryFailed {attempts : ℕ} (hattempts : 1 ≤ attempts) (error : String) :
    SoundRow mails ((Change.retryFailed attempts error).apply row) where
  resolved := h.resolved
  read := h.read
  sent := h.sent
  failed := h.failed
  attempted _ := hattempts
  mailed := h.mailed

end SoundRow

lemma soundRow_markSent {mails : List Mail} {row : Notification} {attempts : ℕ} (now : Millis)
    (hmailed : row.message.channel = .email → Mailed mails row.message) :
    SoundRow mails ((Change.sent attempts now).apply row) where
  resolved := nofun
  read := nofun
  sent _ := nofun
  failed := nofun
  attempted := nofun
  mailed hchannel _ := hmailed hchannel

lemma soundRow_create {data : NotificationData} (hc : Emitted s (.create data)) (id : ℕ) :
    SoundRow s.mails { data with id := id, readAt := none } := by
  rcases hc with ⟨hstatus, hsent, hmailed⟩ | ⟨hstatus, hsent, hattempts⟩
  · exact
      { resolved := fun h => nomatch hstatus.symm.trans h
        read := fun h => nomatch hstatus.symm.trans h
        sent := fun _ => hsent
        failed := fun h => nomatch hstatus.symm.trans h
        attempted := fun h => absurd h hsent
        mailed := fun hchannel _ => hmailed hchannel }
  · exact
      { resolved := fun h => nomatch hstatus.symm.trans h
        read := fun h => nomatch hstatus.symm.trans h
        sent := fun h => nomatch hstatus.symm.trans h
        failed := fun _ => ⟨rfl, hsent⟩
        attempted := fun _ => hattempts
        mailed := fun _ h => absurd hsent h }

lemma Store.Sound.update (h : s.Sound) {p : Notification → Bool} {change : Change}
    (hrow : ∀ row ∈ s.notifications, p row = true → SoundRow s.mails (change.apply row)) :
    (s.update p change).Sound :=
  ⟨(Table.forall_mem_updateWhere_iff h.rows).mpr hrow, h.pushes⟩

lemma Store.Sound.apply (h : s.Sound) {c : Commit} (hc : Emitted s c)
    (happ : apply c s = some s') : s'.Sound := by
  cases c with
  | mail mail =>
    obtain rfl := Option.some.inj happ
    exact ⟨fun row hmem => (h.rows row hmem).mono (List.subset_append_left _ _), h.pushes⟩
  | push push =>
    obtain rfl := Option.some.inj happ
    refine ⟨h.rows, fun push' hmem => ?_⟩
    rcases List.mem_append.mp hmem with hmem | hmem
    · exact h.pushes push' hmem
    · rw [List.mem_singleton.mp hmem]
      exact hc
  | create data =>
    obtain rfl := Option.some.inj happ
    refine ⟨fun row hmem => ?_, h.pushes⟩
    rcases List.mem_append.mp hmem with hmem | hmem
    · exact h.rows row hmem
    · rw [List.mem_singleton.mp hmem]
      exact soundRow_create hc s.nextId
  | markRead userId id now =>
    obtain rfl := updateOne_eq_some happ
    exact h.update fun row hmem _ => (h.rows row hmem).markRead now
  | markAllRead userId now =>
    obtain rfl := Option.some.inj happ
    exact h.update fun row hmem _ => (h.rows row hmem).markRead now
  | delete userId id =>
    obtain rfl := Option.some.inj (Option.ite_none_right_eq_some.mp happ).2
    exact ⟨fun row hmem => h.rows row (List.mem_filter.mp hmem).1, h.pushes⟩
  | markSent id attempts now =>
    obtain rfl := updateOne_eq_some happ
    exact h.update fun row hmem hid =>
      soundRow_markSent now (hc.2 row hmem (of_decide_eq_true hid))
  | markRetryFailed id attempts error =>
    obtain rfl := updateOne_eq_some happ
    exact h.update fun row hmem _ => (h.rows row hmem).markRetryFailed hc error
  | registerDevice userId token =>
    obtain rfl := Option.some.inj happ
    exact ⟨h.rows, fun push hmem => List.mem_append_left _ (h.pushes push hmem)⟩
  | discardDevice token | unregisterDevice userId token | setPreferences userId input =>
    obtain rfl := Option.some.inj happ
    exact ⟨h.rows, h.pushes⟩

/-! ## The services keep to it -/

/-- The user whose own request reads or deletes notifications. -/
def Call.reader? : Call V → Option UserId
  | .markNotificationAsRead userId _ _ | .markAllAsRead userId _ | .deleteNotification userId _ =>
    some userId
  | _ => none

def Commit.reader? : Commit → Option UserId
  | .markRead userId _ _ | .markAllRead userId _ | .delete userId _ => some userId
  | _ => none

/-- The notification is one of the user's. -/
def Commit.Owned (s : Store) : Commit → Prop
  | .markRead userId id _ | .delete userId id =>
    ∀ row ∈ s.notifications, row.id = id → row.message.userId = some userId
  | _ => True

/-- The call names no device, and what it says of itself does not take the place of the address of
its recipient. -/
def Call.Plain (cfg : Configuration V) : Call V → Prop
  | .sendNotificationForEvent _ recipient vars _ =>
    present recipient.deviceToken = none ∧ cfg.recipientEmail vars = none
  | .sendManualNotification input _ => input.dataRecipientEmail = none
  | _ => True

instance : DecidablePred (Call.Plain cfg)
  | .sendNotificationForEvent .. => inferInstanceAs (Decidable (_ ∧ _))
  | .sendManualNotification .. => inferInstanceAs (Decidable (_ = _))
  | .markNotificationAsRead .. | .markAllAsRead .. | .deleteNotification ..
  | .retryFailedNotification .. | .registerDeviceToken .. | .unregisterDeviceToken ..
  | .updateUserPreferences .. => .isTrue trivial

/-- What the batches of a call are like. -/
structure Spec (cfg : Configuration V) (x : Call V) (s : Store) (c : Commit) : Prop where
  reader : c.reader? = none ∨ c.reader? = x.reader?
  owned : c.Owned s
  emitted : x.Plain cfg → Emitted s c

section Emits

variable {x : Call V}

/-- A batch that nothing is said about. -/
lemma spec_of_trivial {c : Commit} (hreader : c.reader? = none) (howned : ∀ s, c.Owned s)
    (hc : ∀ s, Emitted s c) : Spec cfg x s c := ⟨.inl hreader, howned s, fun _ => hc s⟩

lemma spec_failed (message : Message) (error : Option String) :
    Spec cfg x s (.create (failedData message error)) :=
  ⟨.inl rfl, trivial, fun _ => .inr ⟨rfl, rfl, le_rfl⟩⟩

lemma spec_sent {message : Message} (now : Millis)
    (hmailed : x.Plain cfg → message.channel = .email → Mailed s.mails message) :
    Spec cfg x s (.create (sentData now message)) :=
  ⟨.inl rfl, trivial, fun hplain => .inl ⟨rfl, nofun, hmailed hplain⟩⟩

lemma spec_mail (mail : Mail) : Spec cfg x s (.mail mail) :=
  spec_of_trivial rfl (fun _ => trivial) fun _ => trivial

lemma isNotificationAllowed_emits {userId : Option UserId} {channel : Channel}
    {category : NotificationCategory} :
    (isNotificationAllowed userId channel category).Emits apply Within Within (Spec cfg x) Any s := by
  unfold isNotificationAllowed
  split
  · exact emits_pure
  · split_ifs
    · exact emits_pure
    · exact .andThen (.orElse (emits_read fun _ _ => emits_pure) fun _ _ => emits_pure)
        fun _ _ => emits_pure

lemma findRecipient_emits {recipient : EventRecipient} :
    (findRecipient recipient).Emits apply Within Within (Spec cfg x) Any s := by
  unfold findRecipient
  split
  · exact emits_pure
  · split
    · exact .orElse (emits_read fun _ _ => emits_pure) fun _ _ => emits_pure
    · exact emits_pure

/-! ### Pushes -/

lemma sendPush_emits {userId : UserId} {content : NotificationContent} {token : Option String}
    (htoken : x.Plain cfg → ∀ t ∈ token, (userId, t) ∈ s.registered) :
    (sendPush cfg userId content token).Emits apply Within Within (Spec cfg x) Any s := by
  unfold sendPush
  cases hpresent : present token with
  | none => exact emits_pure
  | some t =>
    have ht : t ∈ token := (Option.filter_eq_some_iff.mp hpresent).1
    show (if cfg.firebaseApp then _ else _ : Service Unit).Emits apply Within Within _ _ _
    split_ifs
    · refine .orElse (emits_commit (fun s₁ h₁ => ⟨.inl rfl, trivial, fun hplain => ?_⟩)
        fun _ _ _ _ _ => emits_pure) fun _ _ => ?_
      · exact h₁.registered (htoken hplain t ht)
      · exact .andThen (emits_attempt fun _ _ =>
          spec_of_trivial rfl (fun _ => trivial) fun _ => trivial) fun _ _ => emits_throw
    · exact emits_pure

lemma sendToDevice_emits {userId : UserId} {content : NotificationContent} {token : String}
    (htoken : x.Plain cfg → (userId, token) ∈ s.registered) :
    (sendToDevice cfg userId content token).Emits apply Within Within (Spec cfg x) Any s := by
  unfold sendToDevice
  split_ifs
  · exact emits_pure
  · refine .orElse (.andThen (sendPush_emits fun hplain t ht => ?_) fun _ _ => emits_pure)
      fun _ _ => emits_pure
    obtain rfl := Option.mem_some_iff.mp ht
    exact htoken hplain

lemma sendToDevices_emits {userId : UserId} {content : NotificationContent} {tokens : List String}
    (htokens : x.Plain cfg → ∀ t ∈ tokens, (userId, t) ∈ s.registered) :
    (sendToDevices cfg userId content tokens).Emits apply Within Within (Spec cfg x) Any s := by
  induction tokens generalizing s with
  | nil => exact emits_pure
  | cons token tokens ih =>
    have hfirst : (sendToDevice cfg userId content token).Emits apply Within Within (Spec cfg x) Any
        s := sendToDevice_emits fun hplain => htokens hplain token List.mem_cons_self
    -- the other devices stay registered while the first one is tried
    refine Emits.bind ((hfirst.frame (F := fun s => x.Plain cfg → ∀ t ∈ tokens,
      (userId, t) ∈ s.registered) (fun _ _ h hF hplain t ht => h.registered (hF hplain t ht))
      (fun _ _ h hF hplain t ht => h.registered (hF hplain t ht))
      fun hplain t ht => htokens hplain t (List.mem_cons_of_mem _ ht)).mono ?_)
    rintro r s₁ ⟨-, hrest⟩
    cases r with
    | error e => trivial
    | ok first => exact .andThen (ih hrest) fun _ _ => emits_pure

lemma pushToDevices_emits {userId : UserId} {content : NotificationContent} {now : Millis}
    {eventType : String} {tokens : List String}
    (htokens : x.Plain cfg → ∀ t ∈ tokens, (userId, t) ∈ s.registered) :
    (pushToDevices cfg userId content now eventType tokens).Emits apply Within Within (Spec cfg x)
      Any s := by
  refine .andThen (sendToDevices_emits htokens) fun result _ => ?_
  obtain ⟨success, error⟩ := result
  show (if success then _ else _ : Service _).Emits apply Within Within _ _ _
  split_ifs
  · exact .andThen (emits_attempt fun _ _ => spec_sent now fun _ h => nomatch h)
      fun _ _ => emits_pure
  · exact .andThen (emits_attempt fun _ _ => spec_failed _ _) fun _ _ => emits_pure

/-- The devices of the user are registered. -/
lemma findDevices_emits {userId : UserId} {token : Option String} :
    (findDevices userId token).Emits apply Within Within (Spec cfg x)
      (fun r s => ∀ tokens, r = .ok tokens → present token = none →
        ∀ t ∈ tokens, (userId, t) ∈ s.registered) s := by
  unfold findDevices
  cases hpresent : present token with
  | some t => exact fun _ _ h => nomatch h
  | none =>
    refine Emits.tryCatch (emits_read_post (fun _ => ?_) fun s₁ _ => ?_)
    · rintro _ ⟨⟩ _ t ⟨⟩
    · rintro _ ⟨⟩ _ t ht
      obtain ⟨device, hmem, rfl⟩ := List.mem_map.mp ht
      obtain ⟨hdevice, huser⟩ := List.mem_filter.mp hmem
      rw [← (of_decide_eq_true huser).1]
      exact s₁.devices_registered device hdevice

lemma pushChannel_emits {userId : UserId} {content : NotificationContent} {now : Millis}
    {eventType : String} {category : NotificationCategory} {token : Option String}
    (htoken : x.Plain cfg → present token = none) :
    (pushChannel cfg userId content now eventType category token).Emits apply Within Within
      (Spec cfg x) Any s := by
  refine .andThen isNotificationAllowed_emits fun allowed _ => ?_
  cases allowed with
  | false => exact emits_pure
  | true =>
    refine Emits.bind (findDevices_emits.mono fun r s₁ hr => ?_)
    cases r with
    | error e => trivial
    | ok tokens =>
      show (if tokens = [] then _ else _ : Service _).Emits apply Within Within _ _ _
      split_ifs
      · exact emits_pure
      · exact pushToDevices_emits fun hplain => hr tokens rfl (htoken hplain)

/-! ### Mails -/

/-- The row of a mail that the mail server has accepted. -/
lemma mailed_emailMessage {content : NotificationContent} {userId : Option UserId}
    {eventType address : String} (hcontent : content.recipientEmail = none)
    (hmem : ⟨address, content.subject, content.body⟩ ∈ s.mails) :
    Mailed s.mails (emailMessage content userId eventType address) :=
  ⟨_, hmem, by rw [emailMessage, hcontent]; rfl, rfl, rfl⟩

lemma mailTo_emits {content : NotificationContent} {now : Millis} {userId : Option UserId}
    {eventType address : String} (hcontent : x.Plain cfg → content.recipientEmail = none) :
    (mailTo content now userId eventType address).Emits apply Within Within (Spec cfg x) Any s := by
  refine .orElse (emits_commit (fun _ _ => spec_mail _) fun s₁ s₂ _ happ _ => ?_) fun e s₁ => ?_
  · obtain rfl := Option.some.inj happ
    refine .andThen (emits_attempt fun s₃ h₃ => spec_sent now fun hplain _ => ?_)
      fun _ _ => emits_pure
    exact mailed_emailMessage (hcontent hplain)
      (h₃.mails (List.mem_append_right _ (List.mem_singleton.mpr rfl)))
  · exact .andThen (emits_attempt fun _ _ => spec_failed _ _) fun _ _ => emits_pure

lemma emailChannel_emits {content : NotificationContent} {now : Millis} {userId : Option UserId}
    {eventType : String} {category : NotificationCategory} {targetEmail : Option String}
    (hcontent : x.Plain cfg → content.recipientEmail = none) :
    (emailChannel cfg content now userId eventType category targetEmail).Emits apply Within Within
      (Spec cfg x) Any s := by
  unfold emailChannel
  split
  · exact emits_pure
  · split_ifs
    · refine .andThen isNotificationAllowed_emits fun allowed _ => ?_
      cases allowed with
      | false => exact emits_pure
      | true => exact mailTo_emits hcontent
    · exact emits_pure

lemma sendNotificationForEvent_emits {eventType : String} {recipient : EventRecipient} {vars : V}
    {now : Millis} (hx : x = .sendNotificationForEvent eventType recipient vars now) :
    (sendNotificationForEvent cfg now eventType recipient vars).Emits apply Within Within
      (Spec cfg x) Any s := by
  refine .andThen findRecipient_emits fun found s₁ => ?_
  obtain ⟨targetEmail, foundName⟩ := found
  have htoken (hplain : x.Plain cfg) : present recipient.deviceToken = none := by
    rw [hx] at hplain
    exact hplain.1
  have hcontent (hplain : x.Plain cfg) : cfg.recipientEmail vars = none := by
    rw [hx] at hplain
    exact hplain.2
  refine .andThen ?_ fun push s₂ => .andThen
    (emailChannel_emits hcontent) fun _ _ => emits_pure
  unfold pushToRecipient
  split
  · exact emits_pure
  · split_ifs
    · exact pushChannel_emits htoken
    · exact emits_pure

/-! ### Manual notifications -/

lemma createNotification_emits {data : NotificationData}
    (hc : ∀ s', Within s s' → Spec cfg x s' (.create data)) :
    (createNotification data).Emits apply Within Within (Spec cfg x) Any s :=
  emits_commit hc fun _ _ _ _ _ => emits_pure

lemma sendManualOn_emits {input : SendNotificationInput} {now : Millis} {channel : Channel}
    (hinput : x.Plain cfg → input.dataRecipientEmail = none) :
    (sendManualOn cfg input now channel).Emits apply Within Within (Spec cfg x) Any s := by
  cases channel with
  | inApp => exact emits_pure
  | email =>
    simp only [sendManualOn]
    split
    · exact emits_pure
    · refine .orElse (emits_commit (fun _ _ => spec_mail _) fun s₁ s₂ _ happ _ => ?_)
        fun e s₁ => ?_
      · obtain rfl := Option.some.inj happ
        refine .andThen (createNotification_emits fun s₃ h₃ => spec_sent now fun hplain _ => ?_)
          fun _ _ => emits_pure
        exact mailed_emailMessage (hinput hplain)
          (h₃.mails (List.mem_append_right _ (List.mem_singleton.mpr rfl)))
      · exact .andThen (createNotification_emits fun _ _ => spec_failed _ _) fun _ _ => emits_pure
  | push =>
    simp only [sendManualOn]
    split
    · exact emits_pure
    · refine .orElse (.andThen (sendPush_emits fun _ _ h => nomatch h) fun _ _ =>
        .andThen (createNotification_emits fun _ _ => spec_sent now fun _ h => nomatch h)
          fun _ _ => emits_pure) fun _ _ => emits_pure

lemma sendManualOnAll_emits {input : SendNotificationInput} {now : Millis}
    {channels : List Channel} (hinput : x.Plain cfg → input.dataRecipientEmail = none) :
    (sendManualOnAll cfg input now channels).Emits apply Within Within (Spec cfg x) Any s := by
  induction channels generalizing s with
  | nil => exact emits_pure
  | cons channel channels ih =>
    exact .andThen (sendManualOn_emits hinput) fun _ _ => .andThen ih fun _ _ => emits_pure

/-! ### The dispatcher -/

/-- A row that was found is the only one with its identifier, and keeps its message. -/
lemma message_of_find {p : Notification → Bool} {row : Notification} {s₁ : Store}
    (hfind : s.notifications.find? p = some row) (h : Within s s₁) :
    ∀ row' ∈ s₁.notifications, row'.id = row.id → row'.message = row.message :=
  fun _ hmem' hid => h.message_eq (List.mem_of_find?_eq_some hfind) hmem' hid

lemma resend_emits {message : Message} :
    (resend cfg message).Emits apply Within Within (Spec cfg x)
      (fun r s => r = .ok () → message.channel = .email → Mailed s.mails message) s := by
  unfold resend
  split
  · rename_i hchannel
    cases hpresent : present message.recipientEmail with
    | none => exact fun h => nomatch h
    | some address =>
      have haddress := (Option.filter_eq_some_iff.mp hpresent).1
      refine emits_commit_post (fun _ h => nomatch h) (fun _ _ => spec_mail _) fun s₁ s₂ _ happ _ => ?_
      obtain rfl := Option.some.inj happ
      exact fun _ _ => ⟨_, List.mem_append_right _ (List.mem_singleton.mpr rfl), haddress, rfl, rfl⟩
  · rename_i hchannel _
    refine Emits.mono (sendPush_emits ?_) fun _ _ _ _ h => nomatch hchannel.symm.trans h
    exact fun _ _ h => nomatch h
  · rename_i hnot _
    exact fun _ h => (hnot h).elim

lemma retryFailedNotification_emits {id : NotificationId} {now : Millis} :
    (retryFailedNotification cfg id now).Emits apply Within Within (Spec cfg x) Any s := by
  refine emits_read fun s₁ _ => ?_
  split
  · exact emits_throw
  · rename_i row hfind
    obtain rfl : row.id = id := by simpa using List.find?_some hfind
    split_ifs
    · exact emits_throw
    · -- what is known of the mail when the row is written
      have hresend : (Proc.tryCatch (do
          resend cfg row.message
          pure none)
          fun err => pure (some err.message) : Service (Option String)).Emits apply Within Within
            (Spec cfg x) (fun r s => r = .ok none → row.message.channel = .email →
              Mailed s.mails row.message) s₁ := by
        refine Emits.tryCatch (Emits.bind (resend_emits.mono fun r s₂ hr => ?_))
        cases r with
        | ok _ => exact fun _ => hr rfl
        | error e => exact fun hr => by simp at hr
      refine Emits.bind ((hresend.along Within.trans (Within.refl s₁)).mono ?_)
      rintro r s₂ ⟨hmailed, hwithin⟩
      cases r with
      | error e => trivial
      | ok error =>
        cases error with
        | none =>
          refine emits_commit (fun s₃ h₃ => ⟨.inl rfl, trivial, fun _ => ⟨Nat.le_add_left _ _, ?_⟩⟩)
            fun _ _ _ _ _ => emits_pure
          intro row' hmem' hid hchannel
          have hmessage := message_of_find hfind (hwithin.trans h₃) row' hmem' hid
          rw [hmessage] at hchannel ⊢
          exact (hmailed rfl hchannel).mono h₃.mails
        | some error =>
          exact emits_commit (fun _ _ => ⟨.inl rfl, trivial, fun _ => Nat.le_add_left _ _⟩)
            fun _ _ _ _ _ => emits_pure

/-- The batches of the users' own requests. -/
lemma spec_own {userId : UserId} {id : NotificationId} {row : Notification} {c : Commit}
    (hfind : s.notifications.find? (fun row => decide (row.id = id ∧
      row.message.userId = some userId)) = some row) (hx : x.reader? = some userId) (hreader : c.reader? = some userId)
    {s₁ : Store} (h : Within s s₁)
    (howned : (∀ row ∈ s₁.notifications, row.id = id → row.message.userId = some userId) →
      c.Owned s₁) (hc : Emitted s₁ c) : Spec cfg x s₁ c := by
  have hrow := List.find?_some hfind
  obtain ⟨hid, huser⟩ := of_decide_eq_true hrow
  refine ⟨.inr (hreader.trans hx.symm), howned fun row' hmem' hid' => ?_, fun _ => hc⟩
  rw [message_of_find hfind h row' hmem' (hid'.trans hid.symm)]
  exact huser

lemma call_emits (x : Call V) (s : Store) :
    (x.proc cfg).Emits apply Within Within (Spec cfg x) Any s := by
  cases x with
  | sendNotificationForEvent eventType recipient vars now =>
    exact .andThen (sendNotificationForEvent_emits rfl) fun _ _ => emits_pure
  | sendManualNotification input now =>
    exact .andThen (sendManualOnAll_emits fun hplain => hplain) fun _ _ => emits_pure
  | markNotificationAsRead userId id now =>
    refine emits_read fun s₁ _ => ?_
    split
    · exact emits_throw
    · rename_i row hfind
      exact emits_commit (fun s₂ h₂ => spec_own hfind rfl rfl h₂ (fun h => h) trivial)
        fun _ _ _ _ _ => emits_pure
  | markAllAsRead userId now =>
    exact emits_commit (fun _ _ => ⟨.inr rfl, trivial, fun _ => trivial⟩)
      fun _ _ _ _ _ => emits_pure
  | deleteNotification userId id =>
    refine emits_read fun s₁ _ => ?_
    split
    · exact emits_throw
    · rename_i row hfind
      exact emits_commit (fun s₂ h₂ => spec_own hfind rfl rfl h₂ (fun h => h) trivial)
        fun _ _ _ _ _ => emits_pure
  | retryFailedNotification id now => exact retryFailedNotification_emits
  | registerDeviceToken userId token | unregisterDeviceToken userId token
  | updateUserPreferences userId input =>
    exact emits_commit (fun _ _ => spec_of_trivial rfl (fun _ => trivial) fun _ => trivial)
      fun _ _ _ _ _ => emits_pure

end Emits

/-! ## Runs -/

lemma Store.Sound.environ (h : s.Sound) (e : Environment) : (e.apply s).Sound := by
  cases e <;> exact ⟨h.rows, h.pushes⟩

lemma within_environ (e : Environment) : Within s (e.apply s) := by
  cases e <;> exact ⟨le_rfl, fun _ h => h, fun _ h => h, fun row h _ => ⟨row, h, rfl, rfl⟩⟩

lemma notifications_rely (cfg : Configuration V) (Allowed : Call V → Prop) :
    Rely (notificationServer cfg) Allowed Free Within (Spec cfg) where
  refl := Within.refl
  trans := Within.trans
  env e _ := within_environ e
  commit _ _ _ happ := within_apply happ
  emits x s _ := call_emits x s

section Runs

variable {s₀ : Store} {c : Config Store Commit AppError}

lemma sound_of_reachable (h₀ : s₀.Sound)
    (hr : (notificationServer cfg).Reachable (Call.Plain cfg) Free s₀ c) : c.store.Sound :=
  (notifications_rely cfg _).invariant hr h₀ (fun e _ hs => hs.environ e)
    fun hplain hspec _ happ hs => hs.apply (hspec.emitted hplain) happ

/-- The notification is there, and as much read as before. -/
def Unread (row : Notification) (s : Store) : Prop :=
  ∃ row' ∈ s.notifications, row'.id = row.id ∧ row'.message = row.message ∧
    row'.readAt = row.readAt

lemma Unread.update {row : Notification} (h : Unread row s) {p : Notification → Bool}
    {change : Change} (hp : ∀ row' ∈ s.notifications, row'.id = row.id →
      row'.message = row.message → p row' = true → (change.apply row').readAt = row'.readAt) :
    Unread row (s.update p change) := by
  obtain ⟨row', hmem, hid, hmessage, hread⟩ := h
  refine ⟨_, List.mem_map_of_mem hmem, ?_⟩
  split_ifs with hrow
  · exact ⟨(Store.change_id change row').trans hid, (change_message change row').trans hmessage,
      (hp row' hmem hid hmessage hrow).trans hread⟩
  · exact ⟨hid, hmessage, hread⟩

/-- A batch of another user does not read the notification. -/
lemma Unread.apply {row : Notification} {userId : UserId} (huser : row.message.userId = some userId)
    (h : Unread row s) {b : Commit} (hreader : b.reader? ≠ some userId) (howned : b.Owned s)
    (happ : apply b s = some s') : Unread row s' := by
  have hother {userId' : UserId} {id : NotificationId} (hne : some userId' ≠ some userId)
      (howned : ∀ row ∈ s.notifications, row.id = id → row.message.userId = some userId')
      {row' : Notification} (hmem : row' ∈ s.notifications) (hmessage : row'.message = row.message) :
      row'.id ≠ id := by
    rintro rfl
    have hown := howned row' hmem rfl
    rw [hmessage, huser] at hown
    exact hne hown.symm
  cases b with
  | markRead userId' id now =>
    obtain rfl := updateOne_eq_some happ
    exact h.update fun row' hmem _ hmessage hp =>
      absurd (of_decide_eq_true hp) (hother hreader howned hmem hmessage)
  | markAllRead userId' now =>
    obtain rfl := Option.some.inj happ
    refine h.update fun row' hmem _ hmessage hp => ?_
    have hown := (of_decide_eq_true hp).1
    rw [hmessage, huser] at hown
    exact absurd hown.symm hreader
  | delete userId' id =>
    obtain rfl := Option.some.inj (Option.ite_none_right_eq_some.mp happ).2
    obtain ⟨row', hmem, hid, hmessage, hread⟩ := h
    exact ⟨row', List.mem_filter.mpr ⟨hmem, decide_eq_true (hother hreader howned hmem hmessage)⟩,
      hid, hmessage, hread⟩
  | markSent id _ _ | markRetryFailed id _ _ =>
    obtain rfl := updateOne_eq_some happ
    exact h.update fun _ _ _ _ _ => rfl
  | create data =>
    obtain rfl := Option.some.inj happ
    obtain ⟨row', hmem, hrow⟩ := h
    exact ⟨row', List.mem_append_left _ hmem, hrow⟩
  | mail _ | push _ | discardDevice _ | registerDevice _ _ | unregisterDevice _ _
  | setPreferences _ _ =>
    obtain rfl := Option.some.inj happ
    exact h

/-- **Nobody else reads a user's notifications.**  Whatever the others send, retry, read and
delete at the same time: as long as a user does not ask for it, no notification of the user
disappears, is changed in what it says, or is marked as read. -/
theorem unread_for_others {userId : UserId}
    (hr : (notificationServer cfg).Reachable (fun x => x.reader? ≠ some userId) Free s₀ c)
    {row : Notification} (hmem : row ∈ s₀.notifications)
    (huser : row.message.userId = some userId) :
    ∃ row' ∈ c.store.notifications, row'.id = row.id ∧ row'.message = row.message ∧
      row'.readAt = row.readAt := by
  refine (notifications_rely cfg _).invariant (P := Unread row) hr ⟨row, hmem, rfl, rfl, rfl⟩
    (fun e s h => ?_) fun hx hspec _ happ h => h.apply huser ?_ hspec.owned happ
  · cases e <;> exact h
  · rcases hspec.reader with hnone | hsame
    · rw [hnone]
      exact nofun
    · rw [hsame]
      exact hx

end Runs

/-! ### A mail that is sent again -/

/-- An order is confirmed by push and by mail. -/
def orderMails : Configuration Unit where
  category _ := some .order
  sendEmailByDefault _ := true
  texts _ _ _ _ :=
    ⟨"Order Confirmation", "Order Confirmed", "Your order is being prepared.", none,
      some "Your order has been confirmed."⟩
  recipientEmail _ := none
  firebaseApp := true

/-- The user 7 has registered a phone. -/
def phoneOwner : Store where
  notifications := []
  nextId := 0
  devices := [⟨"phone", 7, true⟩]
  preferences _ := none
  users _ := none
  stale := []
  mails := []
  pushes := []
  registered := [(7, "phone")]
  ids_nodup := List.nodup_nil
  ids_lt := nofun
  tokens_nodup := List.nodup_singleton _
  devices_registered := by decide

lemma sound_phoneOwner : phoneOwner.Sound := ⟨nofun, nofun⟩

def orderConfirmed : Call Unit :=
  .sendNotificationForEvent "ORDER_CONFIRMED"
    ⟨some 7, some "ann@example.com", none, some "Ann"⟩ () 1000

/-- The mail server refuses the mail to the user 7, and accepts it at the second attempt. -/
lemma retried_reachable : ∃ c : Config Store Commit AppError,
    (notificationServer orderMails).Reachable (Call.Plain orderMails) Free phoneOwner c ∧
      c.store.pushes.length = 1 ∧ ∃ row ∈ c.store.notifications,
        row.message.channel = .email ∧ row.status = .sent ∧ row.attempts = 2 := by
  obtain ⟨c, hr, hrun⟩ := (notificationServer orderMails).exists_reachable_of_exec
    (Call.Plain orderMails) Free
    [.call orderConfirmed, .step 0 .ok, .step 0 .ok, .step 0 .ok, .step 0 .ok, .step 0 .ok,
      .step 0 .failed, .step 0 .ok, .call (.retryFailedNotification 1 5000), .step 1 .ok,
      .step 1 .ok, .step 1 .ok] phoneOwner
    (fun s : Store => (s.pushes.length, (s.notifications.find? fun row =>
      row.message.channel = .email ∧ row.status = .sent ∧ row.attempts = 2).isSome)) (1, true)
    (by decide +kernel)
  obtain ⟨hpushes, hsome⟩ := Prod.ext_iff.mp hrun
  obtain ⟨row, hrow⟩ := Option.isSome_iff_exists.mp hsome
  have hsent := List.find?_some hrow
  exact ⟨c, hr, hpushes, row, List.mem_of_find?_eq_some hrow, of_decide_eq_true hsent⟩

/-- A notification of the user 7 that nobody has read. -/
def unreadOne : Notification :=
  ⟨failedData ⟨some 7, "ORDER_CONFIRMED", "Order", none, .email, some "ann@example.com"⟩ none, 0,
    none⟩

def unreadStore : Store where
  notifications := [unreadOne]
  nextId := 1
  devices := []
  preferences _ := none
  users _ := none
  stale := []
  mails := []
  pushes := []
  registered := []
  ids_nodup := List.nodup_singleton _
  ids_lt := by decide
  tokens_nodup := List.nodup_nil
  devices_registered := nofun

/-- The user 8 marks everything as read, and the notification of the user 7 is sent again. -/
theorem unread_for_others_retried : ∃ c : Config Store Commit AppError, c.store.mails.length = 1 ∧
    ∃ row ∈ c.store.notifications, row.id = 0 ∧ row.readAt = none := by
  obtain ⟨c, hr, hmails⟩ := (notificationServer orderMails).exists_reachable_of_exec
    (fun x : Call Unit => x.reader? ≠ some 7) Free
    [.call (.markAllAsRead 8 1000), .step 0 .ok, .call (.retryFailedNotification 0 5000),
      .step 1 .ok, .step 1 .ok, .step 1 .ok] unreadStore
    (fun s : Store => s.mails.length) 1 (by decide +kernel)
  obtain ⟨row, hmem, hid, -, hread⟩ :=
    unread_for_others hr (List.mem_singleton.mpr rfl : unreadOne ∈ unreadStore.notifications) rfl
  exact ⟨c, hmails, row, hmem, hid, hread⟩

end MeeoServer.Notifications
