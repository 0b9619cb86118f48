/-
# The schema of the system settings

`SystemSettingsSchema`, `UpdateSystemSettingsSchema` and `EmergencyKillSwitchSchema` of
`settings/validations/setting.validation.ts`.  Every field has a default.  What zod makes of
numbers, URLs and mail addresses is a parameter; a number is the exact one.
-/
import MeeoServer.Storefront.Requests
import MeeoServer.Table.Patches
import Mathlib.Data.Fintype.OfMap

namespace MeeoServer.Settings

/-! ## The fields -/

/-- The keys of `SystemSettingsSchema`. -/
inductive SettingField where
  | platformBrandName
  | publicDomainUrl
  | supportEmail
  | operationsEmail
  | securityEmail
  | requireAdmin2FA
  | defaultCurrency
  | timezone
  | maintenanceMode
  | readOnlyMode
  | disableCheckout
  | disablePayments
  | globalApiRateLimit
  | loginRateLimit
  | checkoutRateLimit
  | featureFlags
  | percentageFeatureRollout
  | standardShippingFee
  | freeShippingThreshold
  | defaultTaxRate
  | settlementFrequency
  | settlementDelayDays
  | minimumPayoutAmount
  | reservePercentage
  | refundApprovalThreshold
  | automatedPayouts
  | allowedMaintenanceIps
  | emergencyControls
  | dataRetentionDays
deriving DecidableEq

inductive SettlementFrequency where
  | daily
  | weekly
  | biWeekly
  | monthly
deriving DecidableEq

structure EmergencyControls where
  killSwitchActive : Bool
  emergencyMessage : Option String
  frozenAt : Option String
deriving DecidableEq

namespace SettingField

def all : List SettingField :=
  [.platformBrandName, .publicDomainUrl, .supportEmail, .operationsEmail, .securityEmail,
    .requireAdmin2FA, .defaultCurrency, .timezone, .maintenanceMode, .readOnlyMode,
    .disableCheckout, .disablePayments, .globalApiRateLimit, .loginRateLimit, .checkoutRateLimit,
    .featureFlags, .percentageFeatureRollout, .standardShippingFee, .freeShippingThreshold,
    .defaultTaxRate, .settlementFrequency, .settlementDelayDays, .minimumPayoutAmount,
    .reservePercentage, .refundApprovalThreshold, .automatedPayouts, .allowedMaintenanceIps,
    .emergencyControls, .dataRetentionDays]

lemma mem_all (f : SettingField) : f ∈ all := by cases f <;> decide

instance : Fintype SettingField := Fintype.ofList all mem_all

/-- The values that the schema makes of a field.  A record is the list of its entries. -/
abbrev Value : SettingField → Type
  | .platformBrandName | .publicDomainUrl | .supportEmail | .operationsEmail | .securityEmail
  | .defaultCurrency | .timezone => String
  | .requireAdmin2FA | .maintenanceMode | .readOnlyMode | .disableCheckout | .disablePayments
  | .automatedPayouts => Bool
  | .globalApiRateLimit | .loginRateLimit | .checkoutRateLimit | .settlementDelayDays
  | .dataRetentionDays => ℤ
  | .standardShippingFee | .freeShippingThreshold | .defaultTaxRate | .minimumPayoutAmount
  | .reservePercentage | .refundApprovalThreshold => ℚ
  | .featureFlags => List (String × Bool)
  | .percentageFeatureRollout => List (String × ℚ)
  | .settlementFrequency => SettlementFrequency
  | .allowedMaintenanceIps => List String
  | .emergencyControls => EmergencyControls

end SettingField

/-- A value for every field. -/
abbrev SystemSettings := (f : SettingField) → f.Value

/-! ## The schemas -/

/-- What zod makes of single values of the settings. -/
structure SettingZod extends Zod where
  /-- `z.string().url()`. -/
  url : String → Bool
  /-- `z.string().email()`. -/
  email : String → Bool

def settlementFrequencies : List (String × SettlementFrequency) :=
  [("DAILY", .daily), ("WEEKLY", .weekly), ("BI_WEEKLY", .biWeekly), ("MONTHLY", .monthly)]

/-- `z.record(z.string(), schema)`. -/
def recordOf {α : Type} (schema : JsonValue → Option α) : JsonValue → Option (List (String × α))
  | .object entries => entries.mapM fun entry => (schema entry.2).map fun a => (entry.1, a)
  | _ => none

/-- `z.number()`. -/
def number : JsonValue → Option ℚ
  | .number x => some x
  | _ => none

/-- The key of an object, with a default for a missing one. -/
def keyOr {α : Type} (schema : JsonValue → Option α) (default : α) (value : Option JsonValue) :
    Option α :=
  match value with
  | some value => schema value
  | none => some default

/-- The schema of `emergencyControls`. -/
def emergencyControls : JsonValue → Option EmergencyControls
  | .object entries => do
    let killSwitchActive ← keyOr Zod.boolean false (property entries "killSwitchActive")
    let emergencyMessage ←
      keyOr (Zod.nullable Zod.string) none (property entries "emergencyMessage")
    let frozenAt ← keyOr (Zod.nullable Zod.string) none (property entries "frozenAt")
    some ⟨killSwitchActive, emergencyMessage, frozenAt⟩
  | _ => none

/-- `.min(shortest)` and `.max(longest)` of a string. -/
def hasLength (shortest longest : ℕ) (s : String) : Bool :=
  shortest ≤ JsString.length s.toList && JsString.length s.toList ≤ longest

section Schema

variable (zod : SettingZod)

open Zod

/-- The types of the fields, with the coercions. -/
def decode : (f : SettingField) → JsonValue → Option f.Value
  | .platformBrandName | .publicDomainUrl | .supportEmail | .operationsEmail | .securityEmail
  | .defaultCurrency | .timezone => string
  | .requireAdmin2FA | .maintenanceMode | .readOnlyMode | .disableCheckout | .disablePayments
  | .automatedPayouts => boolean
  | .globalApiRateLimit | .loginRateLimit | .checkoutRateLimit | .settlementDelayDays
  | .dataRetentionDays => zod.int
  | .standardShippingFee | .freeShippingThreshold | .defaultTaxRate | .minimumPayoutAmount
  | .reservePercentage | .refundApprovalThreshold => zod.number
  | .featureFlags => recordOf boolean
  | .percentageFeatureRollout => recordOf number
  | .settlementFrequency => enum settlementFrequencies
  | .allowedMaintenanceIps => array string
  | .emergencyControls => emergencyControls

/-- The checks of the fields, on values of their types. -/
def accepts : (f : SettingField) → f.Value → Bool
  | .platformBrandName => hasLength 1 100
  | .publicDomainUrl => zod.url
  | .supportEmail | .operationsEmail | .securityEmail => zod.email
  | .defaultCurrency => hasLength 3 3
  | .timezone => fun s => 1 ≤ JsString.length s.toList
  | .globalApiRateLimit => fun n => 10 ≤ n && n ≤ 10000
  | .loginRateLimit => fun n => 1 ≤ n && n ≤ 100
  | .checkoutRateLimit => fun n => 1 ≤ n && n ≤ 200
  | .percentageFeatureRollout => fun entries =>
    entries.all fun entry => 0 ≤ entry.2 && entry.2 ≤ 100
  | .standardShippingFee | .freeShippingThreshold | .minimumPayoutAmount
  | .refundApprovalThreshold => fun x => 0 ≤ x
  | .defaultTaxRate | .reservePercentage => fun x => 0 ≤ x && x ≤ 100
  | .settlementDelayDays => fun n => 0 ≤ n && n ≤ 30
  | .dataRetentionDays => fun n => 30 ≤ n && n ≤ 3650
  | .requireAdmin2FA | .maintenanceMode | .readOnlyMode | .disableCheckout | .disablePayments
  | .featureFlags | .settlementFrequency | .automatedPayouts | .allowedMaintenanceIps
  | .emergencyControls => fun _ => true

/-- The value of a field that is missing. -/
def defaults : SystemSettings
  | .platformBrandName => "E-Commerce Platform"
  | .publicDomainUrl => "https://store.example.com"
  | .supportEmail => "support@example.com"
  | .operationsEmail => "ops@example.com"
  | .securityEmail => "security@example.com"
  | .requireAdmin2FA => false
  | .defaultCurrency => "INR"
  | .timezone => "UTC"
  | .maintenanceMode | .readOnlyMode | .disableCheckout | .disablePayments => false
  | .globalApiRateLimit => 100
  | .loginRateLimit => 5
  | .checkoutRateLimit => 10
  | .featureFlags =>
    [("enableReviews", true), ("enableCoupons", true), ("enableWishlists", true),
      ("enableGuestCheckout", true), ("enableExpressPay", true), ("enableAiSearch", false)]
  | .percentageFeatureRollout => [("newCheckoutFunnel", 100), ("aiProductRecommendations", 20)]
  | .standardShippingFee => 10
  | .freeShippingThreshold => 100
  | .defaultTaxRate => 8
  | .settlementFrequency => .weekly
  | .settlementDelayDays => 2
  | .minimumPayoutAmount => 50
  | .reservePercentage => 5
  | .refundApprovalThreshold => 500
  | .automatedPayouts => true
  | .allowedMaintenanceIps => []
  | .emergencyControls => ⟨false, none, none⟩
  | .dataRetentionDays => 365

def systemSettingsSchema : ObjectSchema JsonValue SettingField.Value where
  read f value := (decode zod f value).filter (accepts zod f)
  default f := some (defaults f)
  required _ := true

/-- `SystemSettingsSchema.partial()`: the defaults stay. -/
def updateSystemSettingsSchema : ObjectSchema JsonValue SettingField.Value :=
  (systemSettingsSchema zod).asPartial

/-- What `SystemSettingsSchema.parse` makes of settings: every value has its type. -/
def revalidated (settings : SystemSettings) : Option SystemSettings :=
  if ∀ f, accepts zod f (settings f) then some settings else none

end Schema

/-- `EmergencyKillSwitchSchema`. -/
structure EmergencyKillSwitchInput where
  killSwitchActive : Bool
  emergencyMessage : Option {s : String // hasLength 5 500 s}

end MeeoServer.Settings
