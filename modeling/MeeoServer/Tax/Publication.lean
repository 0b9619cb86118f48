/-
# The publication of tax rules

To publish a rule retires the active rules of its code that end after it begins.  A rule that ends
exactly when the new one begins stays active, and as both ends of a period belong to it, two rules
apply at that moment.  In the runs without such a publication at most one rule applies to a code
at any time.
-/
import MeeoServer.Tax.Rules

namespace MeeoServer.TaxRules

open Proc
open Storefront (GstRuleStatus hsnCandidates)

/-- At most one rule applies to a code at a date. -/
def Exclusive (rules : List GstRule) : Prop :=
  ∀ hsnCode date, (rulesFor rules hsnCode date).length ≤ 1

/-- The resolver finds no conflict. -/
def NoConflict (rules : List GstRule) : Prop :=
  ∀ hsnCode date e, resolveApplicableRule rules hsnCode date ≠ .error e

/-- A rule that is not retired ends after it begins. -/
def WellDated (rules : List GstRule) : Prop :=
  ∀ rule ∈ rules, rule.status ≠ .retired → ∀ date ∈ rule.effectiveTo, rule.effectiveFrom < date

/-- The rule that a batch makes active. -/
def Commit.activates : Commit → Option (Row GstRule)
  | .publishRule rule _ now _ => if targetStatus rule.val now = .active then some rule else none
  | _ => none

/-- No active rule ends exactly when the rule that becomes active begins. -/
def NoneEndsAt (s : RuleTables) (c : Commit) : Prop :=
  ∀ new ∈ c.activates, ∀ rule ∈ s.gstRules, rule.hsnCode = new.val.hsnCode →
    rule.status = .active → rule.effectiveTo ≠ some new.val.effectiveFrom

instance (s : RuleTables) (c : Commit) : Decidable (NoneEndsAt s c) := by
  unfold NoneEndsAt
  infer_instance

/-! ## The resolver -/

section Resolver

variable {rules : List GstRule} {hsnCode : String} {date : Instant} {rule : GstRule}

lemma appliesAt_iff : rule.appliesAt hsnCode date = true ↔
    rule.hsnCode = hsnCode ∧ rule.status = .active ∧ rule.effectiveFrom ≤ date ∧
      ∀ effectiveTo ∈ rule.effectiveTo, date ≤ effectiveTo := by
  simp [GstRule.appliesAt, Option.all_eq_true, and_assoc]

lemma exclusive_iff : Exclusive rules ↔ ∀ hsnCode date (i j : ℕ) a b, rules[i]? = some a →
    rules[j]? = some b → a.appliesAt hsnCode date = true → b.appliesAt hsnCode date = true →
    i = j := by
  refine forall_congr' fun hsnCode => forall_congr' fun date => ?_
  rw [rulesFor, List.length_insertionSort]
  exact Table.length_filter_le_one_iff

/-- Where at most one rule applies, nothing is in conflict. -/
lemma Exclusive.noConflict (h : Exclusive rules) : NoConflict rules := by
  intro hsnCode date e
  unfold resolveApplicableRule
  cases (hsnCandidates hsnCode).find? fun c => rulesFor rules c date ≠ [] with
  | none => simp
  | some candidate =>
    dsimp only
    rcases hrules : rulesFor rules candidate date with _ | ⟨first, _ | ⟨second, rest⟩⟩
    · simp
    · simp
    · have hle := h candidate date
      rw [hrules] at hle
      simp at hle

end Resolver

/-! ## The rows after a batch -/

/-- What a batch makes of the row `i`. -/
def Commit.change : Commit → RuleId → GstRule → GstRule
  | .approveRule rule approverId _ approvedAt, i, r =>
    if i = rule.id then
      { r with status := .approved, approvedById := approverId, approvedAt := some approvedAt }
    else r
  | .publishRule rule publisherId now publishedAt, i, r =>
    if i = rule.id then
      { r with
        status := targetStatus rule.val now, publishedById := publisherId
        publishedAt := some publishedAt }
    else if targetStatus rule.val now = .active ∧ r.hsnCode = rule.val.hsnCode ∧
        r.status = .active ∧ ∀ effectiveTo ∈ r.effectiveTo, rule.val.effectiveFrom < effectiveTo
    then { r with effectiveTo := some rule.val.effectiveFrom, status := .retired }
    else r
  | .retireRule rule _ _ now, i, r =>
    if i = rule.id then
      { r with status := .retired, effectiveTo := some (rule.val.effectiveTo.getD now) }
    else r
  | _, _, r => r

/-- What the call has read, and checked. -/
def Commit.Checked (s : RuleTables) : Commit → Prop
  | .createClassification _ => True
  | .createRule rule =>
    rule.status = .draft ∧ ∀ date ∈ rule.effectiveTo, rule.effectiveFrom < date
  | .approveRule rule _ _ _ => s.gstRules[rule.id]? = some rule.val ∧ rule.val.status = .draft
  | .publishRule rule _ _ _ => s.gstRules[rule.id]? = some rule.val ∧
    (rule.val.status = .approved ∨ rule.val.status = .scheduled)
  | .retireRule rule _ _ _ => s.gstRules[rule.id]? = some rule.val

/-- What is known of a batch whatever has happened since the call has read the row: the code of a
rule and its beginning never change. -/
def Commit.Known (s : RuleTables) : Commit → Prop
  | .createRule rule => rule.status = .draft
  | .publishRule rule _ _ _ => ∀ r ∈ s.gstRules[rule.id]?,
    r.hsnCode = rule.val.hsnCode ∧ r.effectiveFrom = rule.val.effectiveFrom
  | _ => True

variable {s s' : RuleTables} {c : Commit} {i : RuleId} {r : GstRule}

lemma Commit.Checked.known (h : c.Checked s) : c.Known s := by
  cases c with
  | createClassification hsnCode => trivial
  | createRule rule => exact h.1
  | approveRule rule approverId reason approvedAt => trivial
  | publishRule rule publisherId now publishedAt =>
    intro r hr
    obtain rfl : rule.val = r := Option.some.inj (h.1.symm.trans hr)
    exact ⟨rfl, rfl⟩
  | retireRule rule actorId reason now => trivial

lemma updateRule_gstRules {rule : Row GstRule} {f : GstRule → GstRule} {action : String}
    {actorId : Option UserId} {reason : String}
    (h : s.updateRule rule f action actorId reason = some s') :
    s'.gstRules[i]? = s.gstRules[i]?.map fun r => if i = rule.id then f r else r := by
  obtain ⟨_, -, rfl⟩ := Option.map_eq_some_iff.mp h
  simp only [List.getElem?_modify, eq_comm (a := i)]
  rfl

/-- The row `i` after a batch that creates no rule. -/
lemma gstRules_of_apply (h : c.apply s = some s') (hnew : ∀ rule, c ≠ .createRule rule) :
    s'.gstRules[i]? = s.gstRules[i]?.map (c.change i) := by
  cases c with
  | createClassification hsnCode =>
    simp only [Commit.apply, Option.ite_none_left_eq_some, Option.some.injEq] at h
    obtain ⟨-, rfl⟩ := h
    exact Option.map_id'.symm
  | createRule rule => exact absurd rfl (hnew rule)
  | approveRule rule approverId reason approvedAt => exact updateRule_gstRules h
  | publishRule rule publisherId now publishedAt =>
    have hrow := updateRule_gstRules (i := i) h
    rw [hrow]
    by_cases htarget : targetStatus rule.val now = .active
    · simp only [htarget, if_true, supersede, List.getElem?_mapIdx, Option.map_map]
      refine congrArg (Option.map · _) (funext fun r => ?_)
      by_cases hi : i = rule.id
      · simp [Commit.change, hi, htarget]
      · simp [Commit.change, hi, htarget]
    · simp only [htarget, if_false]
      refine congrArg (Option.map · _) (funext fun r => ?_)
      simp [Commit.change, htarget]
  | retireRule rule actorId reason now => exact updateRule_gstRules h

/-- The rows after a new draft. -/
lemma gstRules_of_createRule {rule : GstRule} (h : (Commit.createRule rule).apply s = some s') :
    s'.gstRules = s.gstRules ++ [rule] := by
  simp only [Commit.apply, Option.ite_none_right_eq_some, Option.some.injEq] at h
  obtain ⟨-, rfl⟩ := h
  rfl

/-- **An active row after a batch** was active before, and ends early enough to make room for the
rule that becomes active; or it is that rule. -/
lemma active_of_apply (hc : c.Known s) (h : c.apply s = some s')
    (hi : s'.gstRules[i]? = some r) (hr : r.status = .active) :
    (s.gstRules[i]? = some r ∧ ∀ new ∈ c.activates, r.hsnCode = new.val.hsnCode →
        ∃ date ∈ r.effectiveTo, date ≤ new.val.effectiveFrom) ∨
      ∃ new ∈ c.activates, i = new.id ∧ r.hsnCode = new.val.hsnCode ∧
        r.effectiveFrom = new.val.effectiveFrom := by
  cases c with
  | createRule rule =>
    left
    rw [gstRules_of_createRule h] at hi
    by_cases hlt : i < s.gstRules.length
    · rw [List.getElem?_append_left hlt] at hi
      exact ⟨hi, fun _ hnew => nomatch hnew⟩
    · rw [List.getElem?_append_right (not_lt.mp hlt), List.getElem?_singleton] at hi
      obtain rfl := Option.some.inj (Option.ite_none_right_eq_some.mp hi).2
      exact nomatch hc.symm.trans hr
  | createClassification hsnCode =>
    left
    rw [gstRules_of_apply h fun _ heq => nomatch heq] at hi
    obtain ⟨old, hold, rfl⟩ := Option.map_eq_some_iff.mp hi
    exact ⟨hold, fun _ hnew => nomatch hnew⟩
  | approveRule rule approverId reason approvedAt | retireRule rule actorId reason now =>
    left
    rw [gstRules_of_apply h fun _ heq => nomatch heq] at hi
    obtain ⟨old, hold, rfl⟩ := Option.map_eq_some_iff.mp hi
    by_cases hid : i = rule.id
    · simp [Commit.change, hid] at hr
    · rw [Commit.change, if_neg hid]
      exact ⟨hold, fun _ hnew => nomatch hnew⟩
  | publishRule rule publisherId now publishedAt =>
    rw [gstRules_of_apply h fun _ heq => nomatch heq] at hi
    obtain ⟨old, hold, rfl⟩ := Option.map_eq_some_iff.mp hi
    by_cases hid : i = rule.id
    · right
      subst hid
      have htarget : targetStatus rule.val now = .active := by simpa [Commit.change] using hr
      obtain ⟨hcode, hfrom⟩ := hc old hold
      refine ⟨rule, if_pos htarget, rfl, ?_⟩
      simp [Commit.change, hcode, hfrom]
    · left
      simp only [Commit.change, if_neg hid] at hr ⊢
      split at hr
      · exact nomatch hr
      · rename_i hkept
        rw [if_neg hkept]
        refine ⟨hold, fun new hnew hcode => ?_⟩
        obtain ⟨htarget, heq⟩ := Option.ite_none_right_eq_some.mp hnew
        obtain rfl := Option.some.inj heq
        -- it was left alone because it ends early enough
        by_contra hnone
        refine hkept ⟨htarget, hcode, hr, fun date hdate => ?_⟩
        exact not_le.mp fun hle => hnone ⟨date, hdate, hle⟩

/-! ## One batch -/

/-- A rule keeps its dates until it is retired, and it is not brought back then. -/
lemma change_dates (hc : c.Checked s) (hi : s.gstRules[i]? = some r)
    (hr : (c.change i r).status ≠ .retired) :
    r.status ≠ .retired ∧ (c.change i r).effectiveFrom = r.effectiveFrom ∧
      (c.change i r).effectiveTo = r.effectiveTo := by
  cases c with
  | createClassification hsnCode | createRule rule => exact ⟨hr, rfl, rfl⟩
  | approveRule rule approverId reason approvedAt =>
    by_cases hid : i = rule.id
    · subst hid
      obtain rfl : rule.val = r := Option.some.inj (hc.1.symm.trans hi)
      simp [Commit.change, hc.2]
    · rw [Commit.change, if_neg hid] at hr ⊢
      exact ⟨hr, rfl, rfl⟩
  | publishRule rule publisherId now publishedAt =>
    by_cases hid : i = rule.id
    · subst hid
      obtain rfl : rule.val = r := Option.some.inj (hc.1.symm.trans hi)
      rcases hc.2 with hstatus | hstatus <;> simp [Commit.change, hstatus]
    · rw [Commit.change, if_neg hid] at hr ⊢
      split at hr
      · exact absurd rfl hr
      · rename_i hkept
        rw [if_neg hkept]
        exact ⟨hr, rfl, rfl⟩
  | retireRule rule actorId reason now =>
    by_cases hid : i = rule.id
    · simp [Commit.change, hid] at hr
    · rw [Commit.change, if_neg hid] at hr ⊢
      exact ⟨hr, rfl, rfl⟩

/-- A new draft ends after it begins. -/
lemma WellDated.of_apply (hs : WellDated s.gstRules) (hc : c.Checked s)
    (h : c.apply s = some s') : WellDated s'.gstRules := by
  intro rule hrule hstatus
  by_cases hnew : ∃ new, c = .createRule new
  · obtain ⟨new, rfl⟩ := hnew
    rw [gstRules_of_createRule h] at hrule
    rcases List.mem_append.mp hrule with hmem | hmem
    · exact hs rule hmem hstatus
    · obtain rfl := List.mem_singleton.mp hmem
      exact hc.2
  · obtain ⟨i, hi⟩ := List.mem_iff_getElem?.mp hrule
    rw [gstRules_of_apply h fun new heq => hnew ⟨new, heq⟩] at hi
    obtain ⟨old, hold, rfl⟩ := Option.map_eq_some_iff.mp hi
    obtain ⟨hold', hfrom, hto⟩ := change_dates hc hold hstatus
    rw [hfrom, hto]
    exact hs old (List.mem_of_getElem? hold) hold'

lemma Exclusive.of_apply (hs : Exclusive s.gstRules) (hc : c.Checked s) (hcond : NoneEndsAt s c)
    (h : c.apply s = some s') : Exclusive s'.gstRules := by
  -- an old rule has ended before the new one begins
  have apart : ∀ {hsnCode date} {i j : ℕ} {a b : GstRule}, s.gstRules[i]? = some a →
      (∀ new ∈ c.activates, a.hsnCode = new.val.hsnCode →
        ∃ effectiveTo ∈ a.effectiveTo, effectiveTo ≤ new.val.effectiveFrom) →
      (∃ new ∈ c.activates, j = new.id ∧ b.hsnCode = new.val.hsnCode ∧
        b.effectiveFrom = new.val.effectiveFrom) →
      a.appliesAt hsnCode date = true → b.appliesAt hsnCode date = true → False := by
    rintro hsnCode date i j a b hi hends ⟨new, hmem, -, hcode, hfrom⟩ ha hb
    obtain ⟨hcodeA, hactive, -, hto⟩ := appliesAt_iff.mp ha
    obtain ⟨hcodeB, -, hfromB, -⟩ := appliesAt_iff.mp hb
    have hsame : a.hsnCode = new.val.hsnCode := hcodeA.trans (hcodeB.symm.trans hcode)
    obtain ⟨effectiveTo, heffective, hle⟩ := hends new hmem hsame
    have hge : new.val.effectiveFrom ≤ effectiveTo :=
      hfrom ▸ hfromB.trans (hto effectiveTo heffective)
    have heq : effectiveTo = new.val.effectiveFrom := le_antisymm hle hge
    exact hcond new hmem a (List.mem_of_getElem? hi) hsame hactive (heq ▸ heffective)
  rw [exclusive_iff] at hs ⊢
  intro hsnCode date i j a b hi hj ha hb
  rcases active_of_apply hc.known h hi (appliesAt_iff.mp ha).2.1 with ⟨hi', hends⟩ | hnew
  · rcases active_of_apply hc.known h hj (appliesAt_iff.mp hb).2.1 with ⟨hj', -⟩ | hnew
    · exact hs hsnCode date i j a b hi' hj' ha hb
    · exact (apart hi' hends hnew ha hb).elim
  · rcases active_of_apply hc.known h hj (appliesAt_iff.mp hb).2.1 with ⟨hj', hends⟩ | hnew'
    · exact (apart hj' hends hnew hb ha).elim
    · obtain ⟨new, hmem, rfl, -⟩ := hnew
      obtain ⟨new', hmem', rfl, -⟩ := hnew'
      rw [Option.mem_unique hmem hmem']

/-- The row that becomes active. -/
lemma activated_of_apply {new : Row GstRule} (hc : c.Checked s) (hnew : new ∈ c.activates)
    (h : c.apply s = some s') :
    s.gstRules[new.id]? = some new.val ∧ new.val.status ≠ .active ∧ new.val.status ≠ .retired ∧
      ∃ r, s'.gstRules[new.id]? = some r ∧ r.status = .active ∧ r.hsnCode = new.val.hsnCode ∧
        r.effectiveFrom = new.val.effectiveFrom ∧ r.effectiveTo = new.val.effectiveTo := by
  cases c with
  | publishRule rule publisherId now publishedAt =>
    obtain ⟨htarget, heq⟩ := Option.ite_none_right_eq_some.mp hnew
    obtain rfl := Option.some.inj heq
    obtain ⟨hrow, hstatus⟩ := hc
    have hrow' := gstRules_of_apply (i := rule.id) h fun _ heq => nomatch heq
    rw [hrow] at hrow'
    refine ⟨hrow, ?_, ?_, _, hrow', ?_⟩
    · rcases hstatus with hstatus | hstatus <;> simp [hstatus]
    · rcases hstatus with hstatus | hstatus <;> simp [hstatus]
    · simp [Commit.change, htarget]
  | _ => exact nomatch hnew

/-- A row that ends when the new rule begins is left alone. -/
lemma unsuperseded_of_apply {new : Row GstRule} {j : RuleId} (hc : c.Checked s)
    (hnew : new ∈ c.activates) (h : c.apply s = some s') (hj : s.gstRules[j]? = some r)
    (hne : j ≠ new.id) (hends : r.effectiveTo = some new.val.effectiveFrom) :
    s'.gstRules[j]? = some r := by
  cases c with
  | publishRule rule publisherId now publishedAt =>
    obtain ⟨htarget, heq⟩ := Option.ite_none_right_eq_some.mp hnew
    obtain rfl := Option.some.inj heq
    have hrow := gstRules_of_apply (i := j) h fun _ heq => nomatch heq
    rw [hj, Option.map_some] at hrow
    simpa [Commit.change, hne, hends] using hrow
  | _ => exact nomatch hnew

/-- **One batch**: at most one rule still applies to a code at any time exactly if no active rule
ends when the rule that becomes active begins. -/
theorem exclusive_iff_noneEndsAt (hs : Exclusive s.gstRules) (hdated : WellDated s.gstRules)
    (hc : c.Checked s) (h : c.apply s = some s') :
    Exclusive s'.gstRules ↔ NoneEndsAt s c := by
  refine ⟨fun hs' new hnew rule hrule hcode hactive hends => ?_,
    fun hcond => hs.of_apply hc hcond h⟩
  obtain ⟨hrow, hnotactive, hnotretired, r, hr, hstatus, hcode', hfrom, hto⟩ :=
    activated_of_apply hc hnew h
  obtain ⟨j, hj⟩ := List.mem_iff_getElem?.mp hrule
  have hne : j ≠ new.id := by
    rintro rfl
    obtain rfl := Option.some.inj (hrow.symm.trans hj)
    exact hnotactive hactive
  have hold : s'.gstRules[j]? = some rule := unsuperseded_of_apply hc hnew h hj hne hends
  -- both rules apply when the new one begins
  have hruleApplies : rule.appliesAt rule.hsnCode new.val.effectiveFrom = true := by
    rw [appliesAt_iff, hends]
    refine ⟨rfl, hactive, ?_, ?_⟩
    · exact (hdated rule hrule (by simp [hactive]) _ hends).le
    · rintro _ ⟨⟩
      exact le_rfl
  have hnewApplies : r.appliesAt rule.hsnCode new.val.effectiveFrom = true := by
    rw [appliesAt_iff, hcode', hfrom, hto]
    refine ⟨hcode.symm, hstatus, le_rfl, fun date hdate => ?_⟩
    exact (hdated new.val (List.mem_of_getElem? hrow) hnotretired date hdate).le
  exact hne (exclusive_iff.mp hs' _ _ j new.id rule r hold hr hruleApplies hnewApplies)

/-! ## Runs -/

/-- While nobody else runs, a call commits what it has checked. -/
lemma rules_solo (Allowed : Call → Prop) :
    Solo taxRuleService Allowed Eq fun _ s c => c.Checked s where
  refl _ := rfl
  emits x s _ := by
    cases x with
    | createDraftRule input actorId =>
      refine Emits.andThen (emits_read fun s _ => ?_) fun _ s => ?_
      · split
        · exact emits_pure
        · exact emits_commit (fun _ _ => trivial) fun _ _ _ _ _ => emits_pure
      · split
        · exact emits_throw
        · split
          · exact emits_throw
          · rename_i hends
            refine emits_commit (fun _ _ => ⟨rfl, fun date hdate => ?_⟩)
              fun _ _ _ _ _ => emits_pure
            exact not_le.mp fun hle => hends ⟨date, hdate, hle⟩
    | approveRule ruleId approverId reason approvedAt =>
      refine emits_read fun s _ => ?_
      split
      · exact emits_throw
      · rename_i rule hrow
        split
        · exact emits_throw
        · rename_i hstatus
          -- nobody else runs, so that the row is still the one that was read
          refine emits_commit ?_ fun _ _ _ _ _ => emits_pure
          rintro _ rfl
          exact ⟨hrow, not_not.mp hstatus⟩
    | publishRule ruleId publisherId now publishedAt =>
      refine emits_read fun s _ => ?_
      split
      · exact emits_throw
      · rename_i rule hrow
        split
        · exact emits_throw
        · rename_i hstatus
          refine emits_commit ?_ fun _ _ _ _ _ => emits_pure
          rintro _ rfl
          exact ⟨hrow, by tauto⟩
    | retireRule ruleId actorId reason now =>
      refine emits_read fun s _ => ?_
      split
      · exact emits_throw
      · rename_i rule hrow
        refine emits_commit ?_ fun _ _ _ _ _ => emits_pure
        rintro _ rfl
        exact hrow

/-- A draft ends after it begins, in every run. -/
theorem wellDated_of_reachable {Allowed : Call → Prop} {Cond : RuleTables → Commit → Prop}
    {s₀ s : RuleTables} (h₀ : WellDated s₀.gstRules)
    (hr : taxRuleService.SeqReachable Allowed Cond s₀ s) : WellDated s.gstRules := by
  refine (rules_solo Allowed).invariant (P := fun s => WellDated s.gstRules) hr h₀
    (fun _ _ hs => hs) ?_
  intro x s c s' _ hspec _ happ hs
  exact hs.of_apply hspec happ

/-- **Tax rules never overlap**, in the runs in which no rule becomes active while an active rule
of its code ends when it begins: at most one rule applies to a code at any time, and the resolver
finds no conflict. -/
theorem rules_exclusive {Allowed : Call → Prop} {s₀ s : RuleTables}
    (h₀ : Exclusive s₀.gstRules) (hr : taxRuleService.SeqReachable Allowed NoneEndsAt s₀ s) :
    Exclusive s.gstRules ∧ NoConflict s.gstRules := by
  have hexclusive : Exclusive s.gstRules := by
    refine (rules_solo Allowed).invariant (P := fun s => Exclusive s.gstRules) hr h₀
      (fun _ _ hs => hs) ?_
    intro x s c s' _ hspec hcond happ hs
    exact hs.of_apply hspec hcond happ
  exact ⟨hexclusive, hexclusive.noConflict⟩

/-! ## The rules of a checkout -/

section Checkout

variable {tables : Storefront.Tables} {f : Storefront.GstRule → GstRule}

/-- `f` completes the rules that a checkout reads. -/
structure Completes (f : Storefront.GstRule → GstRule) : Prop where
  hsnCode : ∀ rule, (f rule).hsnCode = rule.hsnCode
  taxTreatment : ∀ rule, (f rule).taxTreatment = rule.taxTreatment
  igstRate : ∀ rule, (f rule).igstRate = rule.igstRate
  effectiveFrom : ∀ rule, (f rule).effectiveFrom = rule.effectiveFrom
  effectiveTo : ∀ rule, (f rule).effectiveTo = rule.effectiveTo.map Nat.cast
  status : ∀ rule, (f rule).status = rule.status
  version : ∀ rule, (f rule).version = rule.version

lemma Completes.rulesFor (h : Completes f) (hsnCode : String) (date : Millis) :
    TaxRules.rulesFor (tables.gstRules.map f) hsnCode date =
      (Storefront.rulesFor tables hsnCode date).map f := by
  have happlies : GstRule.appliesAt hsnCode date ∘ f = fun rule =>
      rule.hsnCode = hsnCode && rule.status = .active && rule.effectiveFrom ≤ date &&
        rule.effectiveTo.all (date ≤ ·) := by
    funext rule
    rw [Function.comp_apply, GstRule.appliesAt, h.hsnCode, h.status, h.effectiveFrom,
      h.effectiveTo]
    cases rule.effectiveTo <;> simp
  rw [TaxRules.rulesFor, Storefront.rulesFor, List.filter_map, happlies]
  refine (List.map_insertionSort _ _ f _ fun a _ b _ => ?_).symm
  simp only [h.effectiveFrom, h.version, Nat.cast_lt, Nat.cast_inj]

/-- The resolver of a checkout finds the same rule. -/
theorem Completes.resolveApplicableRule (h : Completes f) (hsnCode : String) (date : Millis) :
    TaxRules.resolveApplicableRule (tables.gstRules.map f) hsnCode date =
      (Storefront.resolveApplicableRule tables hsnCode date).map (Option.map f) := by
  unfold TaxRules.resolveApplicableRule Storefront.resolveApplicableRule
  simp only [h.rulesFor, ne_eq, List.map_eq_nil_iff]
  cases (hsnCandidates hsnCode).find? fun c => ¬Storefront.rulesFor tables c date = [] with
  | none => rfl
  | some candidate =>
    dsimp only
    rcases Storefront.rulesFor tables candidate date with _ | ⟨first, _ | ⟨second, rest⟩⟩
    · rfl
    · rfl
    · simp only [List.map_cons, h.igstRate, h.taxTreatment]
      split
      · rfl
      · rfl

/-- A checkout whose rules never overlap resolves every rate. -/
theorem Completes.checkout_resolves (h : Completes f)
    (hexclusive : Exclusive (tables.gstRules.map f)) (hsnCode : String) (date : Millis)
    (e : AppError) : Storefront.resolveApplicableRule tables hsnCode date ≠ .error e := by
  intro herror
  refine hexclusive.noConflict hsnCode date e ?_
  rw [h.resolveApplicableRule, herror]
  rfl

end Checkout

/-! ## A rule that ends when the next one begins -/

def noRules : RuleTables := ⟨[], [], []⟩

lemma noRules_exclusive : Exclusive noRules.gstRules := fun _ _ => Nat.zero_le 1

/-- The beginning of the years 2026 and 2027. -/
def newYear : Instant := 1767225600000
def nextYear : Instant := 1798761600000

/-- A draft for laptops, with a rate for each of two taxes. -/
def laptops (rate : ℚ≥0) (effectiveFrom : Instant) (effectiveTo : Option Instant) : Call :=
  .createDraftRule ⟨none, "8471", none, rate, rate, rate + rate, none, some effectiveFrom,
    effectiveTo.map some, none, none⟩ (some 7)

/-- The draft is approved and published. -/
def enact (ruleId : RuleId) (now : Instant) : List (Call ⊕ Environ) :=
  [.inl (.approveRule ruleId (some 7) none now), .inl (.publishRule ruleId (some 7) now now)]

/-- A rule without end is followed by another one. -/
theorem rules_exclusive_superseded : ∃ s,
    taxRuleService.SeqReachable (fun _ => True) NoneEndsAt noRules s ∧
      s.gstRules.map GstRule.status = [.retired, .active] ∧
      Exclusive s.gstRules ∧ NoConflict s.gstRules := by
  obtain ⟨s, hr, hstatus⟩ := taxRuleService.exists_seqReachable_of_execSeq (fun _ => True)
    NoneEndsAt
    ([.inl (laptops 9 newYear none)] ++ enact 0 newYear ++
      [.inl (laptops 6 nextYear none)] ++ enact 1 nextYear)
    noRules (fun s => s.gstRules.map GstRule.status) [.retired, .active] (by decide +kernel)
  exact ⟨s, hr, hstatus, rules_exclusive noRules_exclusive hr⟩

/-- A rule for the year 2026 is followed by one from 2027 on.  Both apply at the turn of the year,
and the resolver throws. -/
theorem rules_overlap : ¬∀ s₀ s : RuleTables, Exclusive s₀.gstRules →
    taxRuleService.SeqReachable (fun _ => True) Free s₀ s →
    Exclusive s.gstRules ∧ NoConflict s.gstRules := by
  intro h
  obtain ⟨s, hr, hconflict⟩ := taxRuleService.exists_seqReachable_of_execSeq (fun _ => True) Free
    ([.inl (laptops 9 newYear (some nextYear))] ++ enact 0 newYear ++
      [.inl (laptops 6 nextYear none)] ++ enact 1 nextYear)
    noRules
    (fun s => match resolveApplicableRule s.gstRules "8471" nextYear with
      | .error e => e.statusCode
      | .ok _ => 200)
    409 (by decide +kernel)
  obtain ⟨-, hnone⟩ := h noRules s noRules_exclusive hr
  cases hresolve : resolveApplicableRule s.gstRules "8471" nextYear with
  | ok rule =>
    simp [hresolve] at hconflict
  | error e => exact hnone "8471" nextYear e hresolve

end MeeoServer.TaxRules
