/-
# Tax rules

`tax/services/taxRule.service.ts`: the life of a rule of the goods and services tax, from the
draft to its retirement, and the rule that applies to a code at a date.

Rules and classifications are never deleted, so the identifier of each is its position.  Dates are
points in time in milliseconds, before or after 1970.
-/
import MeeoServer.Process.Sequential
import MeeoServer.Storefront.Validation

namespace MeeoServer.TaxRules

open Proc
open Storefront (GstRuleStatus hsnCandidates)

abbrev RuleId := ℕ
abbrev ClassificationId := ℕ
abbrev Instant := ℤ

/-! ## The tables -/

/-- The name of a status in messages. -/
def statusName : GstRuleStatus → String
  | .draft => "DRAFT"
  | .approved => "APPROVED"
  | .scheduled => "SCHEDULED"
  | .active => "ACTIVE"
  | .retired => "RETIRED"

structure TaxClassification where
  hsnCode : String
  description : String
deriving DecidableEq

structure GstRule where
  taxClassificationId : ClassificationId
  hsnCode : String
  taxTreatment : TaxTreatment
  cgstRate : ℚ≥0
  sgstRate : ℚ≥0
  igstRate : ℚ≥0
  cessRate : ℚ≥0
  effectiveFrom : Instant
  effectiveTo : Option Instant
  notificationRef : Option String
  jurisdiction : String
  status : GstRuleStatus
  version : ℕ
  createdById : Option UserId
  approvedById : Option UserId
  publishedById : Option UserId
  approvedAt : Option Instant
  publishedAt : Option Instant
deriving DecidableEq

structure GstRuleAudit where
  ruleId : RuleId
  action : String
  previousState : Option GstRule
  newState : GstRule
  actorId : Option UserId
  reason : String
  notificationRef : Option String
deriving DecidableEq

structure RuleTables where
  classifications : List TaxClassification
  gstRules : List GstRule
  audits : List GstRuleAudit
deriving DecidableEq

/-! ## The applicable rule -/

/-- The test of a query for the rules of a code at a date: both ends of a period belong to it. -/
def GstRule.appliesAt (hsnCode : String) (transactionDate : Instant) (rule : GstRule) : Bool :=
  rule.hsnCode = hsnCode && rule.status = .active && rule.effectiveFrom ≤ transactionDate &&
    rule.effectiveTo.all (transactionDate ≤ ·)

/-- The active rules for a code at a date, the latest one first. -/
def rulesFor (rules : List GstRule) (hsnCode : String) (transactionDate : Instant) :
    List GstRule :=
  (rules.filter (GstRule.appliesAt hsnCode transactionDate)).insertionSort fun a b =>
    b.effectiveFrom < a.effectiveFrom ∨
      (a.effectiveFrom = b.effectiveFrom ∧ b.version ≤ a.version)

/-- Resolves the legally applicable approved tax rule for an HSN code as of a specific
transaction date. -/
def resolveApplicableRule (rules : List GstRule) (hsnCode : String) (transactionDate : Instant) :
    Except AppError (Option GstRule) :=
  match (hsnCandidates hsnCode).find? fun c => rulesFor rules c transactionDate ≠ [] with
  | none => .ok none
  | some candidate =>
    match rulesFor rules candidate transactionDate with
    | first :: second :: _ =>
      -- overlapping rules that differ
      if first.igstRate ≠ second.igstRate ∨ first.taxTreatment ≠ second.taxTreatment then
        .error ⟨s!"Conflicting active GST rules found for HSN \"{candidate}\" as of date " ++
          s!"{isoText transactionDate}. Legal audit required.", 409⟩
      else .ok (some first)
    | rules => .ok rules.head?

/-! ## The batches -/

inductive Commit where
  | createClassification (hsnCode : String)
  | createRule (rule : GstRule)
  | approveRule (rule : Row GstRule) (approverId : Option UserId) (reason : Option String)
      (approvedAt : Instant)
  | publishRule (rule : Row GstRule) (publisherId : Option UserId) (now publishedAt : Instant)
  | retireRule (rule : Row GstRule) (actorId : Option UserId) (reason : Option String)
      (now : Instant)
deriving DecidableEq

/-- `reason || text` -/
def reasonOr (reason : Option String) (text : String) : String :=
  (reason.filter (· ≠ "")).getD text

/-- `gstRule.update` of the rule that was read, and the row for the audit. -/
def RuleTables.updateRule (s : RuleTables) (rule : Row GstRule) (f : GstRule → GstRule)
    (action : String) (actorId : Option UserId) (reason : String) : Option RuleTables :=
  s.gstRules[rule.id]?.map fun current =>
    { s with
      gstRules := s.gstRules.modify rule.id f
      audits := s.audits ++
        [⟨rule.id, action, some rule.val, f current, actorId, reason, rule.val.notificationRef⟩] }

/-- The status that publishing gives a rule. -/
def targetStatus (rule : GstRule) (now : Instant) : GstRuleStatus :=
  if now < rule.effectiveFrom then .scheduled else .active

/-- `gstRule.updateMany` of the active rules of the code that end after the new one begins, or do
not end. -/
def supersede (rule : Row GstRule) (rules : List GstRule) : List GstRule :=
  rules.mapIdx fun id r =>
    if r.hsnCode = rule.val.hsnCode ∧ r.status = .active ∧ id ≠ rule.id ∧
        ∀ effectiveTo ∈ r.effectiveTo, rule.val.effectiveFrom < effectiveTo then
      { r with effectiveTo := some rule.val.effectiveFrom, status := .retired }
    else r

def Commit.apply : Commit → RuleTables → Option RuleTables
  | .createClassification hsnCode, s =>
    -- `hsnCode` is unique
    if hsnCode ∈ s.classifications.map TaxClassification.hsnCode then none
    else some { s with
      classifications := s.classifications ++
        [⟨hsnCode, s!"Statutory HSN {hsnCode} classification"⟩] }
  | .createRule rule, s =>
    if rule.taxClassificationId < s.classifications.length then
      some { s with
        gstRules := s.gstRules ++ [rule]
        audits := s.audits ++ [⟨s.gstRules.length, "RULE_CREATED", none, rule, rule.createdById,
          "Initial draft creation", rule.notificationRef⟩] }
    else none
  | .approveRule rule approverId reason approvedAt, s =>
    s.updateRule rule
      (fun r => { r with
        status := .approved, approvedById := approverId, approvedAt := some approvedAt })
      "RULE_APPROVED" approverId (reasonOr reason "Compliance approval granted")
  | .publishRule rule publisherId now publishedAt, s =>
    let status := targetStatus rule.val now
    -- If activating immediately, retire or bound overlapping existing active rules
    let s := if status = .active then { s with gstRules := supersede rule s.gstRules } else s
    s.updateRule rule
      (fun r => { r with
        status := status, publishedById := publisherId, publishedAt := some publishedAt })
      (if status = .active then "RULE_PUBLISHED" else "RULE_SCHEDULED") publisherId
      s!"Published as {statusName status}"
  | .retireRule rule actorId reason now, s =>
    s.updateRule rule
      (fun r => { r with
        status := .retired, effectiveTo := some (rule.val.effectiveTo.getD now) })
      "RULE_RETIRED" actorId (reasonOr reason "Statutory rule retired")

/-! ## The services -/

abbrev Service := Proc RuleTables Commit AppError

structure CreateGstRuleInput where
  taxClassificationId : Option ClassificationId
  hsnCode : String
  taxTreatment : Option TaxTreatment
  cgstRate : ℚ≥0
  sgstRate : ℚ≥0
  igstRate : ℚ≥0
  cessRate : Option ℚ≥0
  /-- `new Date(effectiveFrom)`; `none` is an invalid date. -/
  effectiveFrom : Option Instant
  effectiveTo : Option (Option Instant)
  notificationRef : Option String
  jurisdiction : Option String

/-- The dates of a draft, if both are valid. -/
def CreateGstRuleInput.period (input : CreateGstRuleInput) : Option (Instant × Option Instant) :=
  match input.effectiveFrom, input.effectiveTo with
  | some effectiveFrom, none => some (effectiveFrom, none)
  | some effectiveFrom, some (some effectiveTo) => some (effectiveFrom, some effectiveTo)
  | _, _ => none

/-- A number as a column with two decimals keeps it. -/
def decimal (x : ℚ≥0) : ℚ≥0 := (fixedTwo x).toNNRat

/-- The row of a new draft. -/
def draft (input : CreateGstRuleInput) (taxClassificationId : ClassificationId)
    (hsnCode : String) (effectiveFrom : Instant) (effectiveTo : Option Instant)
    (actorId : Option UserId) : GstRule where
  taxClassificationId := taxClassificationId
  hsnCode := hsnCode
  taxTreatment := input.taxTreatment.getD .taxable
  cgstRate := decimal input.cgstRate
  sgstRate := decimal input.sgstRate
  igstRate := decimal input.igstRate
  cessRate := decimal (input.cessRate.getD 0)
  effectiveFrom := effectiveFrom
  effectiveTo := effectiveTo
  notificationRef := input.notificationRef
  jurisdiction := input.jurisdiction.getD "IN"
  status := .draft
  version := 1
  createdById := actorId
  approvedById := none
  publishedById := none
  approvedAt := none
  publishedAt := none

/-- The classification that a draft names, or that of its code. -/
def RuleTables.findClassification (s : RuleTables) (id : Option ClassificationId)
    (hsnCode : String) : Option ClassificationId :=
  match id with
  | some id => if id < s.classifications.length then some id else none
  | none => s.classifications.findIdx? fun c => c.hsnCode = hsnCode

/-- Auto-create classification if not present -/
def ensureClassification (id : Option ClassificationId) (hsnCode : String) :
    Proc RuleTables Commit AppError ClassificationId := do
  let s ← Proc.read
  match s.findClassification id hsnCode with
  | some id => pure id
  | none =>
    let s ← Proc.commit (.createClassification hsnCode)
    pure (s.classifications.length - 1)

/-- Creates a statutory GST rule in DRAFT status with audit tracking. -/
def createDraftRule (input : CreateGstRuleInput) (actorId : Option UserId) : Service Unit := do
  let cleanHsn := String.ofList (JsString.withoutSpaces (JsString.trim input.hsnCode.toList))
  let taxClassificationId ← ensureClassification input.taxClassificationId cleanHsn
  match input.period with
  | none => throw default
  | some (effectiveFrom, effectiveTo) =>
    if ∃ date ∈ effectiveTo, date ≤ effectiveFrom then
      throw ⟨"effectiveTo timestamp must be strictly after effectiveFrom", 400⟩
    else
      let rule := draft input taxClassificationId cleanHsn effectiveFrom effectiveTo actorId
      let _ ← Proc.commit (.createRule rule)
      pure ()

/-- Approves a DRAFT rule. -/
def approveRule (ruleId : RuleId) (approverId : Option UserId) (reason : Option String)
    (approvedAt : Instant) : Service Unit := do
  let s ← Proc.read
  match s.gstRules[ruleId]? with
  | none => throw ⟨"GST rule not found", 404⟩
  | some rule =>
    if rule.status ≠ .draft then
      throw ⟨s!"Cannot approve rule in status \"{statusName rule.status}\". " ++
        "Only DRAFT rules can be approved.", 400⟩
    else
      let _ ← Proc.commit (.approveRule ⟨ruleId, rule⟩ approverId reason approvedAt)
      pure ()

/-- Publishes an APPROVED or SCHEDULED rule to ACTIVE status. -/
def publishRule (ruleId : RuleId) (publisherId : Option UserId) (now publishedAt : Instant) :
    Service Unit := do
  let s ← Proc.read
  match s.gstRules[ruleId]? with
  | none => throw ⟨"GST rule not found", 404⟩
  | some rule =>
    if rule.status ≠ .approved ∧ rule.status ≠ .scheduled then
      throw ⟨s!"Cannot publish rule in \"{statusName rule.status}\" status. " ++
        "Rule must be APPROVED first.", 400⟩
    else
      let _ ← Proc.commit (.publishRule ⟨ruleId, rule⟩ publisherId now publishedAt)
      pure ()

/-- Retires an active or scheduled GST rule without deleting history. -/
def retireRule (ruleId : RuleId) (actorId : Option UserId) (reason : Option String)
    (now : Instant) : Service Unit := do
  let s ← Proc.read
  match s.gstRules[ruleId]? with
  | none => throw ⟨"GST rule not found", 404⟩
  | some rule =>
    let _ ← Proc.commit (.retireRule ⟨ruleId, rule⟩ actorId reason now)
    pure ()

/-- The calls, with the times at which they look at the clock. -/
inductive Call where
  | createDraftRule (input : CreateGstRuleInput) (actorId : Option UserId)
  | approveRule (ruleId : RuleId) (approverId : Option UserId) (reason : Option String)
      (approvedAt : Instant)
  | publishRule (ruleId : RuleId) (publisherId : Option UserId) (now publishedAt : Instant)
  | retireRule (ruleId : RuleId) (actorId : Option UserId) (reason : Option String)
      (now : Instant)

def Call.proc : Call → Service Unit
  | .createDraftRule input actorId => TaxRules.createDraftRule input actorId
  | .approveRule ruleId approverId reason approvedAt =>
    TaxRules.approveRule ruleId approverId reason approvedAt
  | .publishRule ruleId publisherId now publishedAt =>
    TaxRules.publishRule ruleId publisherId now publishedAt
  | .retireRule ruleId actorId reason now => TaxRules.retireRule ruleId actorId reason now

/-- The other services classify as they like. -/
structure Environ where
  classify : List TaxClassification → List TaxClassification

def Environ.apply (e : Environ) (s : RuleTables) : RuleTables :=
  { s with classifications := e.classify s.classifications }

def taxRuleService : Machine RuleTables Commit AppError Call Environ where
  apply := Commit.apply
  proc := Call.proc
  environ := Environ.apply

end MeeoServer.TaxRules
