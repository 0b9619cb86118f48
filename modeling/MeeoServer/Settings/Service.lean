/-
# The system settings over time

`SettingService` of `settings/services/setting.service.ts`, with the two requests of
`settings/controller/setting.controller.ts` that change the settings.  The settings are an object
in memory; each request reads and writes them without a pause.  The audit trail is left out.
-/
import MeeoServer.Process.Sequences
import MeeoServer.Settings.Schema
import Mathlib.Logic.Function.Basic

namespace MeeoServer.Settings

open Sequences

variable (zod : SettingZod)

/-- Updates system settings with schema validation. -/
def updateSettings (input : Patch SettingField.Value) (cachedSettings : SystemSettings) :
    Option SystemSettings := revalidated zod (input.overlay cachedSettings)

/-- Toggles emergency kill switch with broadcast message. -/
def toggleEmergencyKillSwitch (input : EmergencyKillSwitchInput) (now : String)
    (cachedSettings : SystemSettings) : SystemSettings :=
  let controls : EmergencyControls :=
    { killSwitchActive := input.killSwitchActive
      emergencyMessage := (input.emergencyMessage.map Subtype.val).or
        (if input.killSwitchActive then some "Emergency maintenance in progress" else none)
      frozenAt := if input.killSwitchActive then some now else none }
  let settings := Function.update cachedSettings .emergencyControls controls
  if input.killSwitchActive then
    Function.update (Function.update (Function.update settings .maintenanceMode true)
      .disableCheckout true) .disablePayments true
  else settings

/-- A request that changes the settings. -/
inductive Request where
  | update (body : SettingField → Option JsonValue)
  | toggle (input : EmergencyKillSwitchInput) (now : String)

/-- The settings after a request.  A body that the schema rejects changes nothing. -/
def serve : Request → SystemSettings → SystemSettings
  | .update body, s =>
    (((updateSystemSettingsSchema zod).parse body).bind fun input =>
      updateSettings zod input s).getD s
  | .toggle input now, s => toggleEmergencyKillSwitch input now s

/-! ## An update says everything -/

variable {zod} {s : SystemSettings} {body : SettingField → Option JsonValue}

/-- What the schema reads in a body for a field: its default, if the body leaves it out. -/
def said (zod : SettingZod) (body : SettingField → Option JsonValue) (f : SettingField) :
    Option f.Value :=
  match body f with
  | some value => (systemSettingsSchema zod).read f value
  | none => some (defaults f)

/-- Zod accepts the addresses that the defaults name. -/
structure AcceptsDefaults (zod : SettingZod) : Prop where
  url : zod.url "https://store.example.com" = true
  support : zod.email "support@example.com" = true
  ops : zod.email "ops@example.com" = true
  security : zod.email "security@example.com" = true

/-- Every default passes its own check. -/
lemma AcceptsDefaults.accepts (h : AcceptsDefaults zod) (f : SettingField) :
    accepts zod f (defaults f) = true := by
  cases f with
  | publicDomainUrl => exact h.url
  | supportEmail => exact h.support
  | operationsEmail => exact h.ops
  | securityEmail => exact h.security
  | _ => rfl

lemma accepts_of_said (hdefaults : AcceptsDefaults zod) {f : SettingField} {v : f.Value}
    (h : said zod body f = some v) : accepts zod f v = true := by
  unfold said at h
  cases hbody : body f with
  | some value =>
    rw [hbody] at h
    exact (Option.filter_eq_some_iff.mp h).2
  | none =>
    rw [hbody] at h
    rw [← Option.some.inj h]
    exact hdefaults.accepts f

/-- The partial schema leaves no field out. -/
lemma field_updateSystemSettingsSchema (f : SettingField) :
    (updateSystemSettingsSchema zod).field body f = (said zod body f).map some := by
  unfold ObjectSchema.field said
  cases body f <;> rfl

/-- **An update replaces the settings**, by what its body says and the defaults of what it leaves
out: of the settings before it nothing stays. -/
lemma serve_updateSettings (hdefaults : AcceptsDefaults zod) :
    serve zod (.update body) s = (sequence (said zod body)).getD s := by
  show (((updateSystemSettingsSchema zod).parse body).bind fun input =>
    updateSettings zod input s).getD s = _
  cases hsaid : sequence (said zod body) with
  | some v =>
    have hall := sequence_eq_some.mp hsaid
    have hparse : (updateSystemSettingsSchema zod).parse body = some fun f => some (v f) :=
      sequence_eq_some.mpr fun f => by rw [field_updateSystemSettingsSchema, hall f]; rfl
    have hvalid : revalidated zod (Patch.overlay (fun f => some (v f)) s) = some v :=
      if_pos fun f => accepts_of_said hdefaults (hall f)
    rw [hparse, Option.bind_some, updateSettings, hvalid]
  | none =>
    have hparse : (updateSystemSettingsSchema zod).parse body = none := by
      refine Option.eq_none_iff_forall_ne_some.mpr fun patch hpatch => ?_
      have hfield := sequence_eq_some.mp hpatch
      have hall (f : SettingField) : ∃ v, said zod body f = some v := by
        have h := hfield f
        rw [field_updateSystemSettingsSchema] at h
        obtain ⟨v, hv, -⟩ := Option.map_eq_some_iff.mp h
        exact ⟨v, hv⟩
      choose v hv using hall
      rw [sequence_eq_some.mpr hv] at hsaid
      cases hsaid
    rw [hparse]
    rfl

/-! ## Since the last update -/

/-- The modes that the kill switch turns on. -/
def frozenModes : List SettingField := [.maintenanceMode, .disableCheckout, .disablePayments]

/-- The request is an update that the schema accepts. -/
def Request.Replaces (zod : SettingZod) : Request → Prop
  | .update body => sequence (said zod body) ≠ none
  | .toggle .. => False

/-- The request turns the modes on. -/
def Request.engages : Request → Bool
  | .update _ => false
  | .toggle input _ => input.killSwitchActive

/-- The emergency controls that the request sets. -/
def Request.controls? : Request → Option EmergencyControls
  | .update _ => none
  | .toggle input now =>
    some (toggleEmergencyKillSwitch input now defaults .emergencyControls)

section Toggle

variable (input : EmergencyKillSwitchInput) (now : String) (s : SystemSettings)

@[simp] lemma toggle_emergencyControls :
    toggleEmergencyKillSwitch input now s .emergencyControls =
      ⟨input.killSwitchActive, (input.emergencyMessage.map Subtype.val).or
        (if input.killSwitchActive then some "Emergency maintenance in progress" else none),
        if input.killSwitchActive then some now else none⟩ := by
  unfold toggleEmergencyKillSwitch
  split <;> simp

@[simp] lemma toggle_maintenanceMode :
    toggleEmergencyKillSwitch input now s .maintenanceMode =
      (s .maintenanceMode || input.killSwitchActive) := by
  unfold toggleEmergencyKillSwitch
  split <;> simp [*]

@[simp] lemma toggle_disableCheckout :
    toggleEmergencyKillSwitch input now s .disableCheckout =
      (s .disableCheckout || input.killSwitchActive) := by
  unfold toggleEmergencyKillSwitch
  split <;> simp [*]

@[simp] lemma toggle_disablePayments :
    toggleEmergencyKillSwitch input now s .disablePayments =
      (s .disablePayments || input.killSwitchActive) := by
  unfold toggleEmergencyKillSwitch
  split <;> simp [*]

lemma toggle_of_ne {f : SettingField} (hcontrols : f ≠ .emergencyControls)
    (hmodes : f ∉ frozenModes) : toggleEmergencyKillSwitch input now s f = s f := by
  simp only [frozenModes, List.mem_cons, List.not_mem_nil, or_false, not_or] at hmodes
  unfold toggleEmergencyKillSwitch
  split <;> simp [Function.update_of_ne, hcontrols, hmodes]

end Toggle

/-- What has become of the settings `v` after requests none of which replaces them. -/
structure Since (v : SystemSettings) (requests : List Request) (s : SystemSettings) : Prop where
  kept : ∀ f ∉ frozenModes, f ≠ .emergencyControls → s f = v f
  maintenanceMode : s .maintenanceMode = (v .maintenanceMode || requests.any Request.engages)
  disableCheckout : s .disableCheckout = (v .disableCheckout || requests.any Request.engages)
  disablePayments : s .disablePayments = (v .disablePayments || requests.any Request.engages)
  controls : s .emergencyControls =
    (requests.filterMap Request.controls?).getLast?.getD (v .emergencyControls)

lemma Since.serve (hdefaults : AcceptsDefaults zod) {v : SystemSettings} {requests : List Request}
    (h : Since v requests s) {request : Request} (hnot : ¬ request.Replaces zod) :
    Since v (requests ++ [request]) (Settings.serve zod request s) := by
  cases request with
  | update body =>
    have hsame : Settings.serve zod (.update body) s = s := by
      rw [serve_updateSettings hdefaults, not_not.mp hnot]
      rfl
    rw [hsame]
    exact
      { kept := h.kept
        maintenanceMode := by simp [h.maintenanceMode, Request.engages]
        disableCheckout := by simp [h.disableCheckout, Request.engages]
        disablePayments := by simp [h.disablePayments, Request.engages]
        controls := by simp [h.controls, Request.controls?] }
  | toggle input now =>
    exact
      { kept := fun f hmodes hcontrols =>
          (toggle_of_ne input now s hcontrols hmodes).trans (h.kept f hmodes hcontrols)
        maintenanceMode := by
          simp [Settings.serve, h.maintenanceMode, Request.engages, Bool.or_assoc]
        disableCheckout := by
          simp [Settings.serve, h.disableCheckout, Request.engages, Bool.or_assoc]
        disablePayments := by
          simp [Settings.serve, h.disablePayments, Request.engages, Bool.or_assoc]
        controls := by simp [Settings.serve, Request.controls?] }

lemma since_after (hdefaults : AcceptsDefaults zod) {requests : List Request}
    (hsince : ∀ request ∈ requests, ¬ request.Replaces zod) :
    Since s requests (after (serve zod) requests s) := by
  induction requests using List.reverseRecOn with
  | nil =>
    exact
      { kept := fun _ _ _ => rfl
        maintenanceMode := (Bool.or_false _).symm
        disableCheckout := (Bool.or_false _).symm
        disablePayments := (Bool.or_false _).symm
        controls := rfl }
  | append_singleton requests request ih =>
    have hafter : after (serve zod) (requests ++ [request]) s =
        serve zod request (after (serve zod) requests s) := by simp [after]
    rw [hafter]
    exact (ih fun r hr => hsince r (List.mem_append_left _ hr)).serve hdefaults
      (hsince request (by simp))

/-- **The settings are those of the last update.**  Whatever came before it, and whatever the
settings were then: a field has the value that the body of the last accepted update names, or its
default if the body leaves it out.  Since then the kill switch may have turned the three modes on,
which it never turns off again, and the emergency controls are as it has left them. -/
theorem settings_since_update (hdefaults : AcceptsDefaults zod) (s₀ : SystemSettings)
    (before since : List Request) {v : SystemSettings}
    (hbody : ∀ f, said zod body f = some (v f))
    (hsince : ∀ request ∈ since, ¬ request.Replaces zod) :
    Since v since (after (serve zod) (before ++ .update body :: since) s₀) := by
  have hupdate (s : SystemSettings) : serve zod (.update body) s = v := by
    rw [serve_updateSettings hdefaults, sequence_eq_some.mpr hbody]
    rfl
  have hafter : after (serve zod) (before ++ .update body :: since) s₀ =
      after (serve zod) since v := by
    simp [after, hupdate]
  rw [hafter]
  exact since_after hdefaults hsince

/-- Zod on the values that are used here. -/
def someZod : SettingZod where
  number
    | .number x => some x
    | _ => none
  uuid _ := none
  datetime _ := false
  newDate _ := 0
  toUpperCase s := s
  url s := s == "https://store.example.com"
  email s := s ∈ ["support@example.com", "ops@example.com", "security@example.com"]

lemma acceptsDefaults_someZod : AcceptsDefaults someZod := by
  constructor <;> decide +kernel

/-- A change of the shipping fee. -/
def newFee : SettingField → Option JsonValue
  | .standardShippingFee => some (.number 25)
  | _ => none

lemma said_newFee (f : SettingField) :
    said someZod newFee f =
      some ((Function.update defaults .standardShippingFee 25 : SystemSettings) f) := by
  cases f <;> rfl

def breach : EmergencyKillSwitchInput where
  killSwitchActive := true
  emergencyMessage := none

/-- A change of the shipping fee opens the shop that the kill switch has closed. -/
theorem settings_since_update_newFee :
    let s := after (serve someZod)
      [.toggle breach "2024-01-01T00:00:00.000Z", .update newFee] defaults
    s .standardShippingFee = 25 ∧ s .disableCheckout = false ∧
      (s .emergencyControls).killSwitchActive = false := by
  have h := settings_since_update acceptsDefaults_someZod defaults
    [.toggle breach "2024-01-01T00:00:00.000Z"] [] said_newFee (by simp)
  exact ⟨h.kept _ (by decide) (by decide), h.disableCheckout, congrArg _ h.controls⟩

/-! ## The kill switch -/

/-- The settings say the same of the kill switch everywhere. -/
structure Frozen (s : SystemSettings) : Prop where
  modes : (s .emergencyControls).killSwitchActive = true →
    s .maintenanceMode = true ∧ s .disableCheckout = true ∧ s .disablePayments = true
  message : (s .emergencyControls).killSwitchActive = true →
    ∃ message ∈ (s .emergencyControls).emergencyMessage, message ≠ ""
  frozenAt : (s .emergencyControls).killSwitchActive = true ↔
    (s .emergencyControls).frozenAt ≠ none

/-- The request does not set the emergency controls but through the kill switch. -/
def Request.Spares : Request → Prop
  | .update body => body .emergencyControls = none
  | .toggle .. => True

lemma frozen_of_inactive (h : s .emergencyControls = ⟨false, none, none⟩) : Frozen s where
  modes hactive := by simp [h] at hactive
  message hactive := by simp [h] at hactive
  frozenAt := by simp [h]

lemma message_ne_empty (message : {s : String // hasLength 5 500 s}) : message.val ≠ "" := by
  intro hempty
  have hlength := message.property
  rw [hempty] at hlength
  exact absurd hlength (by decide +kernel)

lemma Frozen.toggle (input : EmergencyKillSwitchInput) (now : String) (s : SystemSettings) :
    Frozen (toggleEmergencyKillSwitch input now s) := by
  refine ⟨fun h => ?_, fun h => ?_, ?_⟩
  · have hactive : input.killSwitchActive = true := by simpa using h
    simp [hactive]
  · have hactive : input.killSwitchActive = true := by simpa using h
    cases hmessage : input.emergencyMessage with
    | some message => simp [hmessage, message_ne_empty message]
    | none => simp [hmessage, hactive]
  · cases hactive : input.killSwitchActive <;> simp [hactive]

lemma Frozen.serve (hdefaults : AcceptsDefaults zod) (h : Frozen s) {request : Request}
    (hspares : request.Spares) : Frozen (Settings.serve zod request s) := by
  cases request with
  | update body =>
    rw [serve_updateSettings hdefaults]
    cases hsaid : sequence (said zod body) with
    | some v =>
      -- the body leaves the controls out, and so resets them
      have hcontrols := sequence_eq_some.mp hsaid .emergencyControls
      have hmissing : body .emergencyControls = none := hspares
      rw [said, hmissing] at hcontrols
      exact frozen_of_inactive (Option.some.inj hcontrols).symm
    | none => exact h
  | toggle input now => exact Frozen.toggle input now s

/-- **A frozen shop is frozen throughout**, in every run of a server whose updates leave the
emergency controls to the kill switch. -/
theorem kill_switch_freezes (hdefaults : AcceptsDefaults zod) (requests : List Request)
    (hspares : ∀ request ∈ requests, request.Spares) :
    Frozen (after (serve zod) requests defaults) := by
  suffices h : ∀ s, Frozen s → Frozen (after (serve zod) requests s) from
    h _ (frozen_of_inactive rfl)
  induction requests with
  | nil => exact fun s hs => hs
  | cons request requests ih =>
    intro s hs
    exact ih (fun r hr => hspares r (List.mem_cons_of_mem _ hr)) _
      (hs.serve hdefaults (hspares request List.mem_cons_self))

theorem kill_switch_freezes_breach :
    Frozen (after (serve someZod)
      [.update newFee, .toggle breach "2024-01-01T00:00:00.000Z"] defaults) :=
  kill_switch_freezes acceptsDefaults_someZod _ (by
    intro request hrequest
    simp only [List.mem_cons, List.not_mem_nil, or_false] at hrequest
    rcases hrequest with rfl | rfl
    · rfl
    · trivial)

end MeeoServer.Settings
