/-
# Notifications

`sendNotificationForEvent` and `sendManualNotification` of
`workers/services/notificationDelivery.service.ts`, with `sendPush` of
`workers/providers/push.provider.ts`; the writing operations of
`notifications/services/notificationDispatcher.service.ts`; and the preferences and devices of
`notifications/services/notificationPreference.service.ts`.

The mails and pushes that the mail server and the push server have accepted, and the devices that
were ever registered, are history, which no program looks at.  What the templates make of an event
is a parameter, and so is whether the push server is configured.  All dates of one call are one
moment.
-/
import MeeoServer.Process.Interleaving
import MeeoServer.Schema.Database
import MeeoServer.Schema.Orders
import MeeoServer.Table.Updates
import Mathlib.Logic.Function.Basic

namespace MeeoServer.Notifications

open Proc

/-! ## The tables -/

inductive Channel where
  | email
  | push
  | inApp
deriving DecidableEq

inductive NotificationStatus where
  | pending
  | sent
  | failed
  | read
deriving DecidableEq

inductive NotificationCategory where
  | order
  | payment
  | delivery
  | returnRefund
  | security
  | orderUpdates
  | securityAlerts
  | promotions
  | lowStockAlerts
deriving DecidableEq

/-- What a notification says, and to whom.  Of `data` only `recipientEmail` is ever read. -/
structure Message where
  userId : Option UserId
  type : String
  title : String
  body : Option String
  channel : Channel
  recipientEmail : Option String
deriving DecidableEq

/-- The columns that the database does not fill in. -/
structure NotificationData where
  message : Message
  status : NotificationStatus
  attempts : ℕ
  lastError : Option String
  sentAt : Option Millis
deriving DecidableEq

abbrev NotificationId := ℕ

structure Notification extends NotificationData where
  id : NotificationId
  readAt : Option Millis
deriving DecidableEq

structure DeviceToken where
  token : String
  userId : UserId
  isActive : Bool
deriving DecidableEq

structure Preferences where
  emailEnabled : Bool
  pushEnabled : Bool
  inAppEnabled : Bool
  orderUpdates : Bool
  promotions : Bool
  securityAlerts : Bool
  lowStockAlerts : Bool
deriving DecidableEq

structure PreferencesInput where
  emailEnabled : Option Bool
  pushEnabled : Option Bool
  inAppEnabled : Option Bool
  orderUpdates : Option Bool
  promotions : Option Bool
  securityAlerts : Option Bool
  lowStockAlerts : Option Bool

structure Profile where
  email : Option String
  firstName : Option String
  lastName : Option String

/-- A mail that the mail server has accepted. -/
structure Mail where
  address : String
  subject : String
  text : String
deriving DecidableEq

/-- A push that the push server has accepted. -/
structure Push where
  userId : UserId
  token : String
  title : String
  body : String
deriving DecidableEq

structure Store where
  notifications : List Notification
  nextId : NotificationId
  devices : List DeviceToken
  preferences : UserId → Option Preferences
  users : UserId → Option Profile
  /-- The devices that the push server no longer knows. -/
  stale : List String
  mails : List Mail
  pushes : List Push
  registered : List (UserId × String)
  ids_nodup : (notifications.map Notification.id).Nodup
  ids_lt : ∀ row ∈ notifications, row.id < nextId
  tokens_nodup : (devices.map DeviceToken.token).Nodup
  devices_registered : ∀ device ∈ devices, (device.userId, device.token) ∈ registered

/-! ## Batches -/

/-- The data of an update of one notification. -/
inductive Change where
  | read (now : Millis)
  | sent (attempts : ℕ) (now : Millis)
  | retryFailed (attempts : ℕ) (error : String)

def Change.apply : Change → Notification → Notification
  | .read now, row => { row with readAt := some now, status := .read }
  | .sent attempts now, row =>
    { row with status := .sent, attempts := attempts, sentAt := some now, lastError := none }
  | .retryFailed attempts error, row => { row with attempts := attempts, lastError := some error }

inductive Commit where
  /-- The mail server accepts a mail. -/
  | mail (mail : Mail)
  /-- The push server accepts a push. -/
  | push (push : Push)
  | create (data : NotificationData)
  | markRead (userId : UserId) (id : NotificationId) (now : Millis)
  | markAllRead (userId : UserId) (now : Millis)
  | delete (userId : UserId) (id : NotificationId)
  | markSent (id : NotificationId) (attempts : ℕ) (now : Millis)
  | markRetryFailed (id : NotificationId) (attempts : ℕ) (error : String)
  /-- The device is deleted if the push server has said that it does not know it. -/
  | discardDevice (token : String)
  | registerDevice (userId : UserId) (token : String)
  | unregisterDevice (userId : UserId) (token : String)
  | setPreferences (userId : UserId) (input : PreferencesInput)

def DEFAULT_NOTIFICATION_PREFERENCES : Preferences where
  emailEnabled := true
  pushEnabled := true
  inAppEnabled := false
  orderUpdates := true
  promotions := false
  securityAlerts := true
  lowStockAlerts := true

def Preferences.updated (prefs : Preferences) (input : PreferencesInput) : Preferences where
  emailEnabled := input.emailEnabled.getD prefs.emailEnabled
  pushEnabled := input.pushEnabled.getD prefs.pushEnabled
  inAppEnabled := input.inAppEnabled.getD prefs.inAppEnabled
  orderUpdates := input.orderUpdates.getD prefs.orderUpdates
  promotions := input.promotions.getD prefs.promotions
  securityAlerts := input.securityAlerts.getD prefs.securityAlerts
  lowStockAlerts := input.lowStockAlerts.getD prefs.lowStockAlerts

namespace Store

variable (s : Store)

lemma change_id (change : Change) (row : Notification) : (change.apply row).id = row.id := by
  cases change <;> rfl

/-- `updateMany({ where, data })`. -/
def update (p : Notification → Bool) (change : Change) : Store :=
  { s with
    notifications := Table.updateWhere p change.apply s.notifications
    ids_nodup := by
      rw [Table.map_updateWhere (change_id change)]
      exact s.ids_nodup
    ids_lt := (Table.forall_mem_updateWhere_iff s.ids_lt).mpr fun row hmem _ =>
      (change_id change row).symm ▸ s.ids_lt row hmem }

def create (data : NotificationData) : Store :=
  { s with
    notifications := s.notifications ++ [{ data with id := s.nextId, readAt := none }]
    nextId := s.nextId + 1
    ids_nodup := by
      rw [List.map_append, List.map_singleton]
      refine List.nodup_append.mpr ⟨s.ids_nodup, List.nodup_singleton _, ?_⟩
      intro a ha b hb hab
      obtain ⟨row, hmem, rfl⟩ := List.mem_map.mp ha
      exact (s.ids_lt row hmem).ne (hab.trans (List.mem_singleton.mp hb))
    ids_lt := by
      intro row hrow
      rcases List.mem_append.mp hrow with hrow | hrow
      · exact Nat.lt_succ_of_lt (s.ids_lt row hrow)
      · rw [List.mem_singleton.mp hrow]
        exact Nat.lt_succ_self _ }

def delete (id : NotificationId) : Store :=
  { s with
    notifications := s.notifications.filter fun row => row.id ≠ id
    ids_nodup := s.ids_nodup.sublist (List.filter_sublist.map _)
    ids_lt := fun row hrow => s.ids_lt row (List.mem_filter.mp hrow).1 }

/-- `deviceToken.upsert({ where: { token } })`. -/
def registerDevice (userId : UserId) (token : String) : Store :=
  { s with
    devices := s.devices.filter (fun device => device.token ≠ token) ++ [⟨token, userId, true⟩]
    registered := s.registered ++ [(userId, token)]
    tokens_nodup := by
      rw [List.map_append, List.map_singleton]
      refine List.nodup_append.mpr
        ⟨s.tokens_nodup.sublist (List.filter_sublist.map _), List.nodup_singleton _, ?_⟩
      intro a ha b hb hab
      obtain ⟨device, hmem, rfl⟩ := List.mem_map.mp ha
      rw [List.mem_singleton] at hb
      exact of_decide_eq_true (List.mem_filter.mp hmem).2 (hab.trans hb)
    devices_registered := by
      intro device hmem
      rcases List.mem_append.mp hmem with hmem | hmem
      · exact List.mem_append_left _ (s.devices_registered device (List.mem_filter.mp hmem).1)
      · rw [List.mem_singleton.mp hmem]
        exact List.mem_append_right _ (List.mem_singleton.mpr rfl) }

def deleteDevices (p : DeviceToken → Bool) : Store :=
  { s with
    devices := s.devices.filter fun device => !p device
    tokens_nodup := s.tokens_nodup.sublist (List.filter_sublist.map _)
    devices_registered := fun device hmem =>
      s.devices_registered device (List.mem_filter.mp hmem).1 }

/-- An update of one row, which must be there. -/
def updateOne (id : NotificationId) (change : Change) : Option Store :=
  if id ∈ s.notifications.map Notification.id then some (s.update (fun row => row.id = id) change)
  else none

end Store

def apply : Commit → Store → Option Store
  | .mail mail, s => some { s with mails := s.mails ++ [mail] }
  | .push push, s => some { s with pushes := s.pushes ++ [push] }
  | .create data, s => some (s.create data)
  | .markRead _ id now, s => s.updateOne id (.read now)
  | .markAllRead userId now, s =>
    some (s.update (fun row => row.message.userId = some userId ∧ row.readAt = none) (.read now))
  | .delete _ id, s =>
    if id ∈ s.notifications.map Notification.id then some (s.delete id) else none
  | .markSent id attempts now, s => s.updateOne id (.sent attempts now)
  | .markRetryFailed id attempts error, s => s.updateOne id (.retryFailed attempts error)
  | .discardDevice token, s =>
    some (s.deleteDevices fun device => device.token = token ∧ token ∈ s.stale)
  | .registerDevice userId token, s => some (s.registerDevice userId token)
  | .unregisterDevice userId token, s =>
    some (s.deleteDevices fun device => device.userId = userId ∧ device.token = token)
  | .setPreferences userId input, s =>
    some { s with
      preferences := Function.update s.preferences userId (some
        (((s.preferences userId).getD DEFAULT_NOTIFICATION_PREFERENCES).updated input)) }

/-! ## The preferences -/

abbrev Service := Proc Store Commit AppError

/-- A text that is there and not empty. -/
def present (text : Option String) : Option String := text.filter fun s => s ≠ ""

/-- Gets user notification preferences, returning defaults if not yet created. -/
def getUserPreferences (userId : UserId) : Service Preferences :=
  Proc.tryCatch (do
    let s ← Proc.read
    pure ((s.preferences userId).getD DEFAULT_NOTIFICATION_PREFERENCES))
    fun _ => pure DEFAULT_NOTIFICATION_PREFERENCES

/-- The preference with the name of the category. -/
def Preferences.named (prefs : Preferences) : NotificationCategory → Option Bool
  | .orderUpdates => some prefs.orderUpdates
  | .securityAlerts => some prefs.securityAlerts
  | .promotions => some prefs.promotions
  | .lowStockAlerts => some prefs.lowStockAlerts
  | .order | .payment | .delivery | .returnRefund | .security => none

/-- The checks of a channel and a category. -/
def Preferences.allow (prefs : Preferences) (channel : Channel) (category : NotificationCategory) :
    Bool :=
  if channel = .email ∧ ¬prefs.emailEnabled then false
  else if channel = .push ∧ ¬prefs.pushEnabled then false
  else if category ∈ [.order, .orderUpdates, .delivery, .payment, .returnRefund] ∧
      ¬prefs.orderUpdates then false
  else if category ∈ [.security, .securityAlerts] ∧ ¬prefs.securityAlerts then false
  else if category = .promotions ∧ ¬prefs.promotions then false
  else if prefs.named category = some false then false
  else true

/-- Checks if a notification should be delivered based on customer channel (Push & Email) and
category settings. -/
def isNotificationAllowed (userId : Option UserId) (channel : Channel)
    (category : NotificationCategory) : Service Bool :=
  match userId with
  | none => pure (channel ≠ .inApp)
  | some userId =>
    if channel = .inApp then pure false
    else do
      let prefs ← getUserPreferences userId
      pure (prefs.allow channel category)

def updateUserPreferences (userId : UserId) (input : PreferencesInput) : Service Unit := do
  let _ ← Proc.commit (.setPreferences userId input)
  pure ()

def registerDeviceToken (userId : UserId) (token : String) : Service Unit := do
  let _ ← Proc.commit (.registerDevice userId token)
  pure ()

def unregisterDeviceToken (userId : UserId) (token : String) : Service Unit := do
  let _ ← Proc.commit (.unregisterDevice userId token)
  pure ()

/-! ## Sending -/

/-- What the templates make of an event. -/
structure NotificationTexts where
  subject : String
  title : String
  body : String
  pushTitle : Option String
  pushBody : Option String

structure NotificationContent extends NotificationTexts where
  /-- `data.recipientEmail`. -/
  recipientEmail : Option String

namespace NotificationContent

variable (content : NotificationContent)

def titleOfPush : String := (present content.pushTitle).getD content.title

def bodyOfPush : String := (present content.pushBody).getD content.body

def hasPush : Bool := (present content.pushTitle).isSome || (present content.pushBody).isSome

end NotificationContent

/-- The templates of the events, with variables `V`, and the push server. -/
structure Configuration (V : Type) where
  /-- The category of the template of an event, if there is one. -/
  category : String → Option NotificationCategory
  sendEmailByDefault : String → Bool
  /-- What is said of an event, with the variables, the name that the recipient has, and the name
  that was found for the recipient. -/
  texts : String → V → Option String → Option String → NotificationTexts
  /-- `recipientEmail`, among the variables. -/
  recipientEmail : V → Option String
  firebaseApp : Bool

/-- The variables become the data of the content. -/
def Configuration.renderNotificationContent {V : Type} (cfg : Configuration V) (eventType : String)
    (vars : V) (customerName foundName : Option String) : NotificationContent :=
  { cfg.texts eventType vars customerName foundName with
    recipientEmail := cfg.recipientEmail vars }

structure EventRecipient where
  userId : Option UserId
  email : Option String
  deviceToken : Option String
  customerName : Option String

structure ChannelResult where
  channel : Channel
  success : Bool
  error : Option String

inductive DeliveryMode where
  | pushAndEmail
  | pushOnly
  | emailOnly
  | none

structure DispatchResult where
  eventType : String
  deliveryMode : DeliveryMode
  channelsAttempted : List Channel
  results : List ChannelResult

def dispatchResult (eventType : String) (push email : Option ChannelResult) : DispatchResult :=
  let delivered (result : Option ChannelResult) := result.any ChannelResult.success
  { eventType := eventType
    deliveryMode :=
      if delivered push ∧ delivered email then .pushAndEmail
      else if delivered push then .pushOnly
      else if delivered email then .emailOnly
      else .none
    channelsAttempted := (push.toList ++ email.toList).map ChannelResult.channel
    results := push.toList ++ email.toList }

section Sending

variable {V : Type} (cfg : Configuration V) (userId : UserId) (content : NotificationContent)
  (now : Millis)

/-- Dispatches a push notification; without a device, or without a push server, it only says so. -/
def sendPush (deviceToken : Option String) : Service Unit :=
  match present deviceToken with
  | none => pure ()
  | some token =>
    if cfg.firebaseApp then
      Proc.tryCatch (do
        let _ ← Proc.commit (.push ⟨userId, token, content.titleOfPush, content.bodyOfPush⟩)
        pure ())
        fun err => do
          Proc.attempt (.discardDevice token)
          throw err
    else pure ()

/-- One device: whether it was reached, and the error. -/
def sendToDevice (token : String) : Service (Bool × Option String) :=
  if token = "" then pure (false, none)
  else
    Proc.tryCatch (do
      sendPush cfg userId content (some token)
      pure (true, none))
      fun err => pure (false, some err.message)

/-- The loop over the devices: whether one of them was reached, and the last error. -/
def sendToDevices : List String → Service (Bool × Option String)
  | [] => pure (false, none)
  | token :: tokens => do
    let first ← sendToDevice cfg userId content token
    let rest ← sendToDevices tokens
    pure (first.1 || rest.1, rest.2.or first.2)

/-- The row of a push. -/
def pushMessage (eventType : String) : Message where
  userId := some userId
  type := eventType
  title := content.titleOfPush
  body := some content.bodyOfPush
  channel := .push
  recipientEmail := content.recipientEmail

/-- The row of a mail: what the event says of the recipient takes the place of the address. -/
def emailMessage (userId : Option UserId) (eventType address : String) : Message where
  userId := userId
  type := eventType
  title := content.subject
  body := some content.body
  channel := .email
  recipientEmail := some (content.recipientEmail.getD address)

def sentData (message : Message) : NotificationData := ⟨message, .sent, 0, none, some now⟩

def failedData (message : Message) (error : Option String) : NotificationData :=
  ⟨message, .failed, 1, error, none⟩

/-- Channel 1, to devices that have been found. -/
def pushToDevices (eventType : String) (tokens : List String) : Service (Option ChannelResult) := do
  let (atLeastOneSuccess, lastPushError) ← sendToDevices cfg userId content tokens
  if atLeastOneSuccess then
    Proc.attempt (.create (sentData now (pushMessage userId content eventType)))
    pure (some ⟨.push, true, none⟩)
  else
    Proc.attempt (.create (failedData (pushMessage userId content eventType) lastPushError))
    pure (some ⟨.push, false, some ((present lastPushError).getD "Push delivery failed")⟩)

/-- The devices of the user, unless the recipient names one. -/
def findDevices (deviceToken : Option String) : Service (List String) :=
  match present deviceToken with
  | some token => pure [token]
  | none =>
    Proc.tryCatch (do
      let s ← Proc.read
      pure ((s.devices.filter fun device => device.userId = userId ∧ device.isActive).map
        DeviceToken.token))
      fun _ => pure []

/-- Channel 1: Push Notification. -/
def pushChannel (eventType : String) (category : NotificationCategory)
    (deviceToken : Option String) : Service (Option ChannelResult) := do
  let isPushAllowed ← isNotificationAllowed (some userId) .push category
  if isPushAllowed then
    let tokens ← findDevices userId deviceToken
    if tokens = [] then pure none
    else pushToDevices cfg userId content now eventType tokens
  else pure none

/-- Channel 2, to an address that has been found. -/
def mailTo (userId : Option UserId) (eventType address : String) : Service (Option ChannelResult) :=
  Proc.tryCatch (do
    let _ ← Proc.commit (.mail ⟨address, content.subject, content.body⟩)
    Proc.attempt (.create (sentData now (emailMessage content userId eventType address)))
    pure (some ⟨.email, true, none⟩))
    fun err => do
      Proc.attempt
        (.create (failedData (emailMessage content userId eventType address) (some err.message)))
      pure (some ⟨.email, false, some err.message⟩)

/-- Channel 2: Transactional Email / Mail. -/
def emailChannel (userId : Option UserId) (eventType : String) (category : NotificationCategory)
    (targetEmail : Option String) : Service (Option ChannelResult) :=
  match present targetEmail with
  | none => pure none
  | some address =>
    if cfg.sendEmailByDefault eventType then do
      let isEmailAllowed ← isNotificationAllowed userId .email category
      if isEmailAllowed then mailTo content now userId eventType address else pure none
    else pure none

/-- `${user.firstName} ${user.lastName || ""}`.trim() -/
def Profile.name (profile : Profile) : Option String :=
  (present profile.firstName).map fun firstName =>
    ((firstName ++ " " ++ profile.lastName.getD "").trimAscii).copy

/-- Auto-fetch user details: the address, and the name that was found. -/
def findRecipient (recipient : EventRecipient) : Service (Option String × Option String) :=
  match recipient.userId with
  | none => pure (recipient.email, none)
  | some userId =>
    if (present recipient.email).isNone ∨ (present recipient.customerName).isNone then
      Proc.tryCatch (do
        let s ← Proc.read
        let profile := s.users userId
        pure ((present recipient.email).or (present (profile.bind Profile.email)),
          if (present recipient.customerName).isNone then profile.bind Profile.name else none))
        fun _ => pure (recipient.email, none)
    else pure (recipient.email, none)

/-- Channel 1, if the recipient is a user and the event has something to push. -/
def pushToRecipient (eventType : String) (category : NotificationCategory)
    (recipient : EventRecipient) : Service (Option ChannelResult) :=
  match recipient.userId with
  | none => pure none
  | some userId =>
    if content.hasPush then
      pushChannel cfg userId content now eventType category recipient.deviceToken
    else pure none

/-- Smart multi-channel dispatch. -/
def sendNotificationForEvent (eventType : String) (recipient : EventRecipient) (vars : V) :
    Service DispatchResult := do
  let category := (cfg.category eventType).getD .order
  let (targetEmail, foundName) ← findRecipient recipient
  let content := cfg.renderNotificationContent eventType vars recipient.customerName foundName
  let push ← pushToRecipient cfg content now eventType category recipient
  let email ← emailChannel cfg content now recipient.userId eventType category targetEmail
  pure (dispatchResult eventType push email)

end Sending

/-! ## Manual notifications -/

structure SendNotificationInput where
  userId : Option UserId
  recipientEmail : Option String
  type : String
  title : String
  body : String
  channels : List Channel
  /-- `data.recipientEmail`. -/
  dataRecipientEmail : Option String

namespace SendNotificationInput

variable (input : SendNotificationInput)

def content : NotificationContent where
  subject := input.title
  title := input.title
  body := input.body
  pushTitle := some input.title
  pushBody := some input.body
  recipientEmail := input.dataRecipientEmail

def pushMessage (userId : UserId) : Message where
  userId := some userId
  type := input.type
  title := input.title
  body := some input.body
  channel := .push
  recipientEmail := input.dataRecipientEmail

end SendNotificationInput

structure ManualResult extends ChannelResult where
  id : Option NotificationId

section Manual

variable {V : Type} (cfg : Configuration V) (input : SendNotificationInput) (now : Millis)

/-- Insert the row of a notification; the result is its identifier. -/
def createNotification (data : NotificationData) : Service NotificationId := do
  let s ← Proc.commit (.create data)
  pure (s.nextId - 1)

def sendManualOn : Channel → Service (Option ManualResult)
  | .email =>
    match present input.recipientEmail with
    | none => pure none
    | some address =>
      Proc.tryCatch (do
        let _ ← Proc.commit (.mail ⟨address, input.title, input.body⟩)
        let id ← createNotification
          (sentData now (emailMessage input.content input.userId input.type address))
        pure (some ⟨⟨.email, true, none⟩, some id⟩))
        fun err => do
          let id ← createNotification
            (failedData (emailMessage input.content input.userId input.type address) (some err.message))
          pure (some ⟨⟨.email, false, some err.message⟩, some id⟩)
  | .push =>
    match input.userId with
    | none => pure none
    | some userId =>
      Proc.tryCatch (do
        sendPush cfg userId input.content none
        let id ← createNotification (sentData now (input.pushMessage userId))
        pure (some ⟨⟨.push, true, none⟩, some id⟩))
        fun err => pure (some ⟨⟨.push, false, some err.message⟩, none⟩)
  | .inApp => pure none

def sendManualOnAll : List Channel → Service (List ManualResult)
  | [] => pure []
  | channel :: channels => do
    let result ← sendManualOn cfg input now channel
    let results ← sendManualOnAll channels
    pure (result.toList ++ results)

/-- Manual notification dispatch across selected push/mail channels. -/
def sendManualNotification : Service (List ManualResult) :=
  sendManualOnAll cfg input now input.channels

end Manual

/-! ## The dispatcher -/

/-- Marks a single notification as read. -/
def markNotificationAsRead (userId : UserId) (notificationId : NotificationId) (now : Millis) :
    Service Unit := do
  let s ← Proc.read
  match s.notifications.find? fun row => row.id = notificationId ∧
      row.message.userId = some userId with
  | none => throw ⟨"Notification not found", 404⟩
  | some _ =>
    let _ ← Proc.commit (.markRead userId notificationId now)
    pure ()

/-- Marks all notifications as read for a user. -/
def markAllAsRead (userId : UserId) (now : Millis) : Service Unit := do
  let _ ← Proc.commit (.markAllRead userId now)
  pure ()

/-- Deletes a user notification. -/
def deleteNotification (userId : UserId) (notificationId : NotificationId) : Service Unit := do
  let s ← Proc.read
  match s.notifications.find? fun row => row.id = notificationId ∧
      row.message.userId = some userId with
  | none => throw ⟨"Notification not found", 404⟩
  | some _ =>
    let _ ← Proc.commit (.delete userId notificationId)
    pure ()

def NotificationStatus.label : NotificationStatus → String
  | .pending => "PENDING"
  | .sent => "SENT"
  | .failed => "FAILED"
  | .read => "READ"

/-- The second delivery of a notification; a push without a device is only announced. -/
def resend {V : Type} (cfg : Configuration V) (message : Message) : Service Unit :=
  match message.channel, message.userId with
  | .email, _ =>
    match present message.recipientEmail with
    | none => throw ⟨"Recipient email address missing in notification data", 500⟩
    | some address => do
      let _ ← Proc.commit (.mail ⟨address, message.title, message.body.getD ""⟩)
      pure ()
  | .push, some userId =>
    sendPush cfg userId
      ⟨⟨message.title, message.title, message.body.getD "", none, none⟩, none⟩ none
  | _, _ => pure ()

/-- Retries a failed notification delivery. -/
def retryFailedNotification {V : Type} (cfg : Configuration V) (notificationId : NotificationId)
    (now : Millis) : Service Unit := do
  let s ← Proc.read
  match s.notifications.find? (·.id = notificationId) with
  | none => throw ⟨"Notification record not found", 404⟩
  | some notification =>
    if notification.status ≠ .failed then
      throw ⟨s!"Notification is not in FAILED state (current: {notification.status.label})", 400⟩
    else
      let nextAttempts := notification.attempts + 1
      let error ← Proc.tryCatch (do
        resend cfg notification.message
        pure none)
        fun err => pure (some err.message)
      match error with
      | none =>
        let _ ← Proc.commit (.markSent notificationId nextAttempts now)
        pure ()
      | some error =>
        let _ ← Proc.commit (.markRetryFailed notificationId nextAttempts error)
        pure ()

/-! ## The server -/

inductive Call (V : Type) where
  | sendNotificationForEvent (eventType : String) (recipient : EventRecipient) (vars : V)
      (now : Millis)
  | sendManualNotification (input : SendNotificationInput) (now : Millis)
  | markNotificationAsRead (userId : UserId) (notificationId : NotificationId) (now : Millis)
  | markAllAsRead (userId : UserId) (now : Millis)
  | deleteNotification (userId : UserId) (notificationId : NotificationId)
  | retryFailedNotification (notificationId : NotificationId) (now : Millis)
  | registerDeviceToken (userId : UserId) (token : String)
  | unregisterDeviceToken (userId : UserId) (token : String)
  | updateUserPreferences (userId : UserId) (input : PreferencesInput)

def Call.proc {V : Type} (cfg : Configuration V) : Call V → Service Unit
  | .sendNotificationForEvent eventType recipient vars now => do
    let _ ← Notifications.sendNotificationForEvent cfg now eventType recipient vars
    pure ()
  | .sendManualNotification input now => do
    let _ ← Notifications.sendManualNotification cfg input now
    pure ()
  | .markNotificationAsRead userId notificationId now =>
    Notifications.markNotificationAsRead userId notificationId now
  | .markAllAsRead userId now => Notifications.markAllAsRead userId now
  | .deleteNotification userId notificationId =>
    Notifications.deleteNotification userId notificationId
  | .retryFailedNotification notificationId now =>
    Notifications.retryFailedNotification cfg notificationId now
  | .registerDeviceToken userId token => Notifications.registerDeviceToken userId token
  | .unregisterDeviceToken userId token => Notifications.unregisterDeviceToken userId token
  | .updateUserPreferences userId input => Notifications.updateUserPreferences userId input

inductive Environment where
  | users (profiles : UserId → Option Profile)
  | stale (tokens : List String)

def Environment.apply (s : Store) : Environment → Store
  | .users profiles => { s with users := profiles }
  | .stale tokens => { s with stale := tokens }

/-- The notification services; the environment changes the users, and what the push server
knows. -/
def notificationServer {V : Type} (cfg : Configuration V) :
    Machine Store Commit AppError (Call V) Environment where
  apply := apply
  proc := Call.proc cfg
  environ e s := e.apply s

end MeeoServer.Notifications
