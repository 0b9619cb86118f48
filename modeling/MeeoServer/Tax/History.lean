/-
# The history of the tax rules

The resolver looks at active rules only, and to publish a rule takes the active rules that it
supersedes out of their status.  What they said about earlier dates is lost with that: the past
is only left as it was if nothing in force is superseded.

In every table that the calls lead to, of two active rules for one code one ends before the other
begins, or when it begins; so at most two of them apply at a date.
-/
import MeeoServer.Tax.Publication

namespace MeeoServer.TaxRules

open Proc
open Storefront (GstRuleStatus hsnCandidates)

/-! ## Orderly tables -/

/-- Of two active rules for one code one ends before the other begins, or when it begins. -/
def Apart (a b : GstRule) : Prop :=
  a.hsnCode = b.hsnCode → a.status = .active → b.status = .active →
    (∃ date ∈ a.effectiveTo, date ≤ b.effectiveFrom) ∨
      ∃ date ∈ b.effectiveTo, date ≤ a.effectiveFrom

lemma Apart.symm {a b : GstRule} (h : Apart a b) : Apart b a :=
  fun hcode hb ha => (h hcode.symm ha hb).symm

/-- A code as a draft keeps it. -/
def CleanCode (hsnCode : String) : Prop :=
  String.ofList (JsString.withoutSpaces (JsString.trim hsnCode.toList)) = hsnCode

instance (hsnCode : String) : Decidable (CleanCode hsnCode) := by
  unfold CleanCode
  infer_instance

/-- The active rules for a code follow each other. -/
def Sequenced (rules : List GstRule) : Prop :=
  ∀ (i j : ℕ) a b, i ≠ j → rules[i]? = some a → rules[j]? = some b → Apart a b

/-- The rules follow each other, each ends after it begins, and their codes are clean. -/
structure Orderly (rules : List GstRule) : Prop where
  dated : WellDated rules
  apart : Sequenced rules
  clean : ∀ rule ∈ rules, CleanCode rule.hsnCode

/-! ## The resolver on orderly tables -/

/-- The order in which the resolver sees the rules. -/
abbrev LaterFirst (a b : GstRule) : Prop :=
  b.effectiveFrom < a.effectiveFrom ∨ (a.effectiveFrom = b.effectiveFrom ∧ b.version ≤ a.version)

instance : Std.Total LaterFirst where
  total a b := by
    rcases lt_trichotomy a.effectiveFrom b.effectiveFrom with h | h | h
    · exact .inr (.inl h)
    · rcases le_total b.version a.version with hv | hv
      · exact .inl (.inr ⟨h, hv⟩)
      · exact .inr (.inr ⟨h.symm, hv⟩)
    · exact .inl (.inl h)

instance : IsTrans GstRule LaterFirst where
  trans a b c hab hbc := by
    rcases hab with hab | ⟨hab, hv⟩
    · rcases hbc with hbc | ⟨hbc, -⟩
      · exact .inl (hbc.trans hab)
      · exact .inl (hbc ▸ hab)
    · rcases hbc with hbc | ⟨hbc, hv'⟩
      · exact .inl (hab ▸ hbc)
      · exact .inr ⟨hab.trans hbc, hv'.trans hv⟩

/-- The rates that the resolver compares. -/
def GstRule.SameRate (a b : GstRule) : Prop :=
  a.igstRate = b.igstRate ∧ a.taxTreatment = b.taxTreatment

section Resolver

variable {rules : List GstRule} {hsnCode : String} {date : Instant} {r q : GstRule}

lemma mem_rulesFor : r ∈ rulesFor rules hsnCode date ↔
    r ∈ rules ∧ r.appliesAt hsnCode date = true := by
  rw [rulesFor, List.mem_insertionSort, List.mem_filter]

variable (rules hsnCode date) in
lemma rulesFor_sorted : (rulesFor rules hsnCode date).Pairwise LaterFirst :=
  List.pairwise_insertionSort LaterFirst _

/-- The first candidate for the code of a draft is the code. -/
lemma hsnCandidates_of_clean (h : CleanCode hsnCode) :
    ∃ others, hsnCandidates hsnCode = hsnCode :: others := by
  unfold hsnCandidates
  dsimp only
  rw [List.map_cons, h]
  exact ⟨_, rfl⟩

/-- What the resolver makes of the rules for one candidate. -/
def pick (candidate : String) (date : Instant) :
    List GstRule → Except AppError (Option GstRule)
  | first :: second :: _ =>
    if first.igstRate ≠ second.igstRate ∨ first.taxTreatment ≠ second.taxTreatment then
      .error ⟨s!"Conflicting active GST rules found for HSN \"{candidate}\" as of date " ++
        s!"{isoText date}. Legal audit required.", 409⟩
    else .ok (some first)
  | rules => .ok rules.head?

lemma resolveApplicableRule_eq :
    resolveApplicableRule rules hsnCode date =
      match (hsnCandidates hsnCode).find? fun c => rulesFor rules c date ≠ [] with
      | none => .ok none
      | some candidate => pick candidate date (rulesFor rules candidate date) := by
  unfold resolveApplicableRule
  cases (hsnCandidates hsnCode).find? fun c => rulesFor rules c date ≠ [] with
  | none => rfl
  | some candidate =>
    dsimp only
    rcases rulesFor rules candidate date with _ | ⟨first, _ | ⟨second, rest⟩⟩ <;> rfl

/-- The resolver finds the first of the rules, unless the second one differs. -/
lemma pick_eq_ok_iff {candidate : String} {l : List GstRule} :
    pick candidate date l = .ok (some r) ↔
      l.head? = some r ∧ ∀ second ∈ l.tail.head?, r.SameRate second := by
  rcases l with _ | ⟨first, _ | ⟨second, rest⟩⟩
  · simp [pick]
  · simp [pick]
  · simp only [pick, List.head?_cons, List.tail_cons, Option.some.injEq, Option.mem_def,
      forall_eq']
    split
    · rename_i hdiff
      refine iff_of_false nofun ?_
      rintro ⟨rfl, hirate, htreatment⟩
      exact hdiff.elim (· hirate) (· htreatment)
    · rename_i hsame
      rw [not_or, not_not, not_not] at hsame
      constructor
      · rintro ⟨⟩
        exact ⟨rfl, hsame⟩
      · rintro ⟨rfl, -⟩
        rfl

/-- A code with rules is resolved by them. -/
lemma resolveApplicableRule_of_mem (hclean : CleanCode hsnCode)
    (hr : r ∈ rulesFor rules hsnCode date) :
    resolveApplicableRule rules hsnCode date =
      pick hsnCode date (rulesFor rules hsnCode date) := by
  obtain ⟨others, hcandidates⟩ := hsnCandidates_of_clean hclean
  have hne : rulesFor rules hsnCode date ≠ [] := List.ne_nil_of_mem hr
  rw [resolveApplicableRule_eq, hcandidates, List.find?_cons_of_pos (by simpa using hne)]

/-- What the resolver finds is the first of the rules for one of the candidates. -/
lemma resolveApplicableRule_ok (h : resolveApplicableRule rules hsnCode date = .ok (some r)) :
    ∃ candidate, (rulesFor rules candidate date).head? = some r := by
  rw [resolveApplicableRule_eq] at h
  cases hfind : (hsnCandidates hsnCode).find? fun c => rulesFor rules c date ≠ [] with
  | none =>
    rw [hfind] at h
    exact absurd h (by simp)
  | some candidate =>
    rw [hfind] at h
    exact ⟨candidate, (pick_eq_ok_iff.mp h).1⟩

/-- A table from which only rules are missing that the resolver has no use for. -/
lemma resolveApplicableRule_filter {rules' : List GstRule} {keep : GstRule → Bool}
    (hfilter : ∀ c, rulesFor rules' c date = (rulesFor rules c date).filter keep)
    (hkeep : ∀ c, pick c date (rulesFor rules c date) = .ok (some r) →
      ∀ q ∈ rulesFor rules c date, keep q = true)
    (h : resolveApplicableRule rules hsnCode date = .ok (some r)) :
    resolveApplicableRule rules' hsnCode date = .ok (some r) := by
  rw [resolveApplicableRule_eq] at h ⊢
  cases hfind : (hsnCandidates hsnCode).find? fun c => rulesFor rules c date ≠ [] with
  | none =>
    rw [hfind] at h
    exact absurd h (by simp)
  | some candidate =>
    rw [hfind] at h
    have hsame : rulesFor rules' candidate date = rulesFor rules candidate date := by
      rw [hfilter, List.filter_eq_self]
      exact hkeep candidate h
    obtain ⟨hne, before, after, hcandidates, hbefore⟩ := List.find?_eq_some_iff_append.mp hfind
    have hfind' : (hsnCandidates hsnCode).find? (fun c => rulesFor rules' c date ≠ []) =
        some candidate := by
      refine List.find?_eq_some_iff_append.mpr ⟨?_, before, after, hcandidates, fun c hc => ?_⟩
      · rw [hsame]
        exact hne
      · have hnil : rulesFor rules c date = [] := by simpa using hbefore c hc
        rw [hfilter, hnil]
        rfl
    rw [hfind']
    dsimp only
    rw [hsame]
    exact h

/-- Two rules that are apart and both apply at a date touch each other there. -/
lemma Apart.touch (h : Apart r q) (hr : r.appliesAt hsnCode date = true)
    (hq : q.appliesAt hsnCode date = true) :
    (r.effectiveTo = some date ∧ q.effectiveFrom = date) ∨
      (q.effectiveTo = some date ∧ r.effectiveFrom = date) := by
  obtain ⟨hcode, hactive, hfrom, hto⟩ := appliesAt_iff.mp hr
  obtain ⟨hcode', hactive', hfrom', hto'⟩ := appliesAt_iff.mp hq
  rcases h (hcode.trans hcode'.symm) hactive hactive' with ⟨e, he, hle⟩ | ⟨e, he, hle⟩
  · have hdate := hto e he
    obtain rfl : e = date := le_antisymm (hle.trans hfrom') hdate
    exact .inl ⟨he, le_antisymm hfrom' hle⟩
  · have hdate := hto' e he
    obtain rfl : e = date := le_antisymm (hle.trans hfrom) hdate
    exact .inr ⟨he, le_antisymm hfrom hle⟩

namespace Orderly

variable (h : Orderly rules)

include h

lemma lt_of_mem (hr : r ∈ rules) (hactive : r.status = .active) {e : Instant}
    (he : r.effectiveTo = some e) : r.effectiveFrom < e :=
  h.dated r hr (by simp [hactive]) e he

variable (hsnCode date) in
lemma rulesFor_apart : (rulesFor rules hsnCode date).Pairwise Apart := by
  have hpairwise : rules.Pairwise Apart := by
    rw [List.pairwise_iff_getElem]
    intro i j hi hj hlt
    exact h.apart i j _ _ hlt.ne (List.getElem?_eq_getElem hi) (List.getElem?_eq_getElem hj)
  refine (List.Perm.pairwise_iff Apart.symm (List.perm_insertionSort _ _)).mpr ?_
  exact hpairwise.sublist List.filter_sublist

/-- Of two rules that apply at a date the first begins there, and the second ends there. -/
lemma touch_of_sorted (hfirst : r ∈ rulesFor rules hsnCode date)
    (hsecond : q ∈ rulesFor rules hsnCode date) (hapart : Apart r q) (hlater : LaterFirst r q) :
    r.effectiveFrom = date ∧ q.effectiveTo = some date := by
  obtain ⟨hmem, happlies⟩ := mem_rulesFor.mp hfirst
  obtain ⟨-, happlies'⟩ := mem_rulesFor.mp hsecond
  rcases hapart.touch happlies happlies' with ⟨hto, hfrom⟩ | ⟨hto, hfrom⟩
  · have hlt := h.lt_of_mem hmem (appliesAt_iff.mp happlies).2.1 hto
    rcases hlater with hlater | ⟨hlater, -⟩
    · exact absurd (hfrom ▸ hlater) hlt.not_gt
    · exact absurd (hlater.trans hfrom) hlt.ne
  · exact ⟨hfrom, hto⟩

variable (hsnCode date) in
/-- At most two rules apply at a date, and if so, it is the end of one and the beginning of the
other. -/
lemma rulesFor_cases : rulesFor rules hsnCode date = [] ∨
    (∃ r, rulesFor rules hsnCode date = [r]) ∨
    ∃ r q, rulesFor rules hsnCode date = [r, q] ∧ r.effectiveFrom = date ∧
      q.effectiveTo = some date := by
  have hsorted := rulesFor_sorted rules hsnCode date
  have hapart := h.rulesFor_apart hsnCode date
  have hmem : ∀ x ∈ rulesFor rules hsnCode date, x ∈ rulesFor rules hsnCode date :=
    fun _ hx => hx
  rcases hrules : rulesFor rules hsnCode date with _ | ⟨r, _ | ⟨q, _ | ⟨x, rest⟩⟩⟩
  · exact .inl rfl
  · exact .inr (.inl ⟨r, rfl⟩)
  · rw [hrules] at hsorted hapart
    have hrq := h.touch_of_sorted (hmem r (by simp [hrules])) (hmem q (by simp [hrules]))
      (List.rel_of_pairwise_cons hapart (by simp)) (List.rel_of_pairwise_cons hsorted (by simp))
    exact .inr (.inr ⟨r, q, rfl, hrq⟩)
  · -- three rules: the second one would begin and end there
    exfalso
    rw [hrules] at hsorted hapart
    have hq := hmem q (by simp [hrules])
    have hrq := h.touch_of_sorted (hmem r (by simp [hrules])) hq
      (List.rel_of_pairwise_cons hapart (by simp)) (List.rel_of_pairwise_cons hsorted (by simp))
    have hqx := h.touch_of_sorted hq (hmem x (by simp [hrules]))
      (List.rel_of_pairwise_cons hapart.of_cons (by simp))
      (List.rel_of_pairwise_cons hsorted.of_cons (by simp))
    obtain ⟨hmemq, happlies⟩ := mem_rulesFor.mp hq
    exact (h.lt_of_mem hmemq (appliesAt_iff.mp happlies).2.1 hrq.2).ne hqx.1

end Orderly

end Resolver

/-! ## One publication -/

/-- The test of the publication for the rules that it retires. -/
def GstRule.Superseded (rule new : GstRule) : Prop :=
  rule.hsnCode = new.hsnCode ∧ rule.status = .active ∧
    ∀ effectiveTo ∈ rule.effectiveTo, new.effectiveFrom < effectiveTo

instance (rule new : GstRule) : Decidable (rule.Superseded new) := by
  unfold GstRule.Superseded
  infer_instance

/-- The same rule, but for the end of its period. -/
def GstRule.Continues (after before : GstRule) : Prop :=
  after = { before with effectiveTo := after.effectiveTo }

/-- A publication at the row `id` leaves the past as it was: every code is resolved by the rule it
was resolved by at every date before `date`, and from then on the published rule applies. -/
structure KeepsHistory (before after : List GstRule) (id : RuleId) (date : Instant) : Prop where
  earlier : ∀ hsnCode d rule, d < date → resolveApplicableRule before hsnCode d = .ok (some rule) →
    ∃ rule', resolveApplicableRule after hsnCode d = .ok (some rule') ∧ rule'.Continues rule
  current : ∃ rule, after[id]? = some rule ∧
    resolveApplicableRule after rule.hsnCode date = .ok (some rule)

/-- A rule is in force at a date: it applies, and no rule that applies has another rate. -/
def InForce (rules : List GstRule) (rule : GstRule) (date : Instant) : Prop :=
  rule.appliesAt rule.hsnCode date = true ∧
    ∀ other ∈ rules, other.appliesAt rule.hsnCode date = true → rule.SameRate other

/-- The rules leave room for a new one: none that is superseded has been in force before, and one
that ends when the new one begins has the same rate. -/
structure LeavesRoom (rules : List GstRule) (new : GstRule) : Prop where
  unused : ∀ rule ∈ rules, rule.Superseded new → ∀ date < new.effectiveFrom,
    ¬InForce rules rule date
  sameRate : ∀ rule ∈ rules, rule.hsnCode = new.hsnCode → rule.status = .active →
    rule.effectiveTo = some new.effectiveFrom → new.SameRate rule

/-- A filter over rows that a batch has changed, where it accepts the rows that were left alone
only. -/
lemma filter_mapIdx {α : Type} {f : ℕ → α → α} {p q : α → Bool} (l : List α)
    (h : ∀ i a, l[i]? = some a → p (f i a) = q a ∧ (q a = true → f i a = a)) :
    (l.mapIdx f).filter p = l.filter q := by
  induction l generalizing f with
  | nil => rfl
  | cons a l ih =>
    obtain ⟨hpq, hsame⟩ := h 0 a rfl
    rw [List.mapIdx_cons, List.filter_cons, List.filter_cons, hpq,
      ih fun i b hb => h (i + 1) b (by simpa using hb)]
    cases hq : q a with
    | true => rw [hsame hq]
    | false => rfl

section Publication

variable {s s' : RuleTables} {new : Row GstRule} {publisherId : Option UserId}
  {now publishedAt : Instant} {hsnCode : String} {date : Instant}

lemma gstRules_of_publish
    (happ : (Commit.publishRule new publisherId now publishedAt).apply s = some s') :
    s'.gstRules = s.gstRules.mapIdx (Commit.publishRule new publisherId now publishedAt).change := by
  refine List.ext_getElem? fun i => ?_
  rw [gstRules_of_apply happ (fun _ heq => nomatch heq), List.getElem?_mapIdx]

/-- What a publication does to the row `i`. -/
lemma change_publish (htarget : targetStatus new.val now = .active) (i : RuleId) (r : GstRule) :
    (Commit.publishRule new publisherId now publishedAt).change i r =
      if i = new.id then
        { r with
          status := .active, publishedById := publisherId, publishedAt := some publishedAt }
      else if r.Superseded new.val then
        { r with effectiveTo := some new.val.effectiveFrom, status := .retired }
      else r := by
  simp only [Commit.change, htarget, true_and]
  rfl

/-- Before the new rule begins, its publication takes the superseded rules away. -/
lemma rulesFor_of_publish
    (happ : (Commit.publishRule new publisherId now publishedAt).apply s = some s')
    (hrow : s.gstRules[new.id]? = some new.val) (hstatus : new.val.status ≠ .active)
    (htarget : targetStatus new.val now = .active) (hdate : date < new.val.effectiveFrom) :
    rulesFor s'.gstRules hsnCode date =
      (rulesFor s.gstRules hsnCode date).filter fun r => ¬r.Superseded new.val := by
  have hfilter : s'.gstRules.filter (GstRule.appliesAt hsnCode date) =
      (s.gstRules.filter (GstRule.appliesAt hsnCode date)).filter
        fun r => ¬r.Superseded new.val := by
    rw [gstRules_of_publish happ, List.filter_filter]
    refine filter_mapIdx _ fun i r hr => ?_
    rw [change_publish htarget]
    by_cases hi : i = new.id
    · subst hi
      obtain rfl : new.val = r := Option.some.inj (hrow.symm.trans hr)
      have hnot : new.val.appliesAt hsnCode date = false := by
        simp [GstRule.appliesAt, hstatus]
      have hlate : ¬new.val.effectiveFrom ≤ date := not_le.mpr hdate
      rw [if_pos rfl, hnot]
      simp [GstRule.appliesAt, hlate]
    · rw [if_neg hi]
      by_cases hsup : r.Superseded new.val
      · simp [hsup, GstRule.appliesAt]
      · simp [hsup]
  rw [rulesFor, hfilter]
  exact (Table.filter_insertionSort LaterFirst _ _).symm

/-- The published row. -/
lemma published_row
    (happ : (Commit.publishRule new publisherId now publishedAt).apply s = some s')
    (hrow : s.gstRules[new.id]? = some new.val) (htarget : targetStatus new.val now = .active) :
    s'.gstRules[new.id]? = some { new.val with
      status := .active, publishedById := publisherId, publishedAt := some publishedAt } := by
  rw [gstRules_of_publish happ, List.getElem?_mapIdx, hrow, Option.map_some,
    change_publish htarget, if_pos rfl]

/-- The other rows that are active after a publication are those that are not superseded. -/
lemma active_row_of_publish
    (happ : (Commit.publishRule new publisherId now publishedAt).apply s = some s')
    (htarget : targetStatus new.val now = .active) {i : RuleId} {r : GstRule}
    (hi : s'.gstRules[i]? = some r) (hr : r.status = .active) (hne : i ≠ new.id) :
    s.gstRules[i]? = some r ∧ ¬r.Superseded new.val := by
  rw [gstRules_of_publish happ, List.getElem?_mapIdx] at hi
  obtain ⟨old, hold, hchange⟩ := Option.map_eq_some_iff.mp hi
  rw [change_publish htarget, if_neg hne] at hchange
  split at hchange
  · rw [← hchange] at hr
    exact nomatch hr
  · rename_i hsup
    subst hchange
    exact ⟨hold, hsup⟩

/-- A rule that is not superseded keeps its row. -/
lemma kept_row_of_publish
    (happ : (Commit.publishRule new publisherId now publishedAt).apply s = some s')
    (htarget : targetStatus new.val now = .active) {i : RuleId} {r : GstRule}
    (hi : s.gstRules[i]? = some r) (hsup : ¬r.Superseded new.val) (hne : i ≠ new.id) :
    s'.gstRules[i]? = some r := by
  rw [gstRules_of_publish happ, List.getElem?_mapIdx, hi, Option.map_some,
    change_publish htarget, if_neg hne, if_neg hsup]

end Publication

/-- The rule that the resolver finds for its own code at the beginning of its period: it is the
first, and only a rule that ends there can be the second. -/
lemma Orderly.resolves_at_beginning {rules : List GstRule} (h : Orderly rules) {r : GstRule}
    (hr : r ∈ rules) (hactive : r.status = .active) :
    resolveApplicableRule rules r.hsnCode r.effectiveFrom = .ok (some r) ↔
      ∀ q ∈ rules, q.hsnCode = r.hsnCode → q.status = .active →
        q.effectiveTo = some r.effectiveFrom → r.SameRate q := by
  have happlies : r.appliesAt r.hsnCode r.effectiveFrom = true := by
    rw [appliesAt_iff]
    exact ⟨rfl, hactive, le_rfl, fun e he => (h.lt_of_mem hr hactive he).le⟩
  have hmem : r ∈ rulesFor rules r.hsnCode r.effectiveFrom := mem_rulesFor.mpr ⟨hr, happlies⟩
  -- a rule that ends at this date is still found there, beside the one that begins
  have hends : ∀ q ∈ rules, q.hsnCode = r.hsnCode → q.status = .active →
      q.effectiveTo = some r.effectiveFrom →
      q ∈ rulesFor rules r.hsnCode r.effectiveFrom ∧ q ≠ r := by
    intro q hq hcode hstatus hto
    have hlt := h.lt_of_mem hq hstatus hto
    refine ⟨mem_rulesFor.mpr ⟨hq, appliesAt_iff.mpr ⟨hcode, hstatus, hlt.le, ?_⟩⟩, ?_⟩
    · rw [hto]
      rintro _ ⟨⟩
      exact le_rfl
    · rintro rfl
      exact lt_irrefl _ hlt
  rw [resolveApplicableRule_of_mem (h.clean r hr) hmem, pick_eq_ok_iff]
  -- an orderly table has at most two rules for a date, and the second one ends there
  rcases h.rulesFor_cases r.hsnCode r.effectiveFrom with
    hrules | ⟨x, hrules⟩ | ⟨x, q, hrules, hfrom, hto⟩
  · rw [hrules] at hmem
    exact absurd hmem List.not_mem_nil
  · rw [hrules] at hmem hends ⊢
    obtain rfl := List.mem_singleton.mp hmem
    refine iff_of_true ⟨rfl, by simp⟩ fun q hq hcode hstatus hto => ?_
    obtain ⟨hq', hne⟩ := hends q hq hcode hstatus hto
    exact absurd (List.mem_singleton.mp hq') hne
  · obtain ⟨hqmem, hqapplies⟩ := mem_rulesFor.mp (show q ∈ rulesFor rules r.hsnCode
      r.effectiveFrom by simp [hrules])
    obtain ⟨hqcode, hqactive, -, -⟩ := appliesAt_iff.mp hqapplies
    have hqlt := h.lt_of_mem hqmem hqactive hto
    rw [hrules] at hmem hends ⊢
    -- the second rule begins before the date, so that the first is the rule that begins there
    have hx : r = x := by
      rcases List.mem_pair.mp hmem with hx | rfl
      · exact hx
      · exact absurd hqlt (lt_irrefl _)
    subst hx
    constructor
    · rintro ⟨-, hsame⟩ p hp hcode hstatus hpto
      obtain ⟨hp', hne⟩ := hends p hp hcode hstatus hpto
      obtain rfl : p = q := (List.mem_pair.mp hp').resolve_left hne
      exact hsame p rfl
    · intro hsame
      refine ⟨rfl, fun p hp => ?_⟩
      obtain rfl : q = p := Option.some.inj hp
      exact hsame q hqmem hqcode hqactive hto

/-! ## Every batch keeps a table orderly -/

section Batch

variable {s s' : RuleTables} {c : Commit}

/-- The code of a rule and its beginning never change. -/
lemma change_code (c : Commit) (i : RuleId) (r : GstRule) :
    (c.change i r).hsnCode = r.hsnCode ∧ (c.change i r).effectiveFrom = r.effectiveFrom := by
  cases c with
  | createClassification hsnCode | createRule rule => exact ⟨rfl, rfl⟩
  | approveRule rule approverId reason approvedAt | retireRule rule actorId reason now =>
    rw [Commit.change]
    split
    · exact ⟨rfl, rfl⟩
    · exact ⟨rfl, rfl⟩
  | publishRule rule publisherId now publishedAt =>
    rw [Commit.change]
    split
    · exact ⟨rfl, rfl⟩
    · split
      · exact ⟨rfl, rfl⟩
      · exact ⟨rfl, rfl⟩

/-- A rule that becomes active begins when or after the active rules of its code end. -/
lemma Sequenced.of_apply (hs : Sequenced s.gstRules) (hc : c.Known s)
    (h : c.apply s = some s') : Sequenced s'.gstRules := by
  -- an old rule and the new one
  have hnew : ∀ {i j : ℕ} {a b : GstRule},
      (s.gstRules[i]? = some a ∧ ∀ new ∈ c.activates, a.hsnCode = new.val.hsnCode →
        ∃ date ∈ a.effectiveTo, date ≤ new.val.effectiveFrom) →
      (∃ new ∈ c.activates, j = new.id ∧ b.hsnCode = new.val.hsnCode ∧
        b.effectiveFrom = new.val.effectiveFrom) →
      a.hsnCode = b.hsnCode → ∃ date ∈ a.effectiveTo, date ≤ b.effectiveFrom := by
    rintro i j a b ⟨-, hends⟩ ⟨new, hmem, -, hcode, hfrom⟩ hsame
    rw [hfrom]
    exact hends new hmem (hsame.trans hcode)
  intro i j a b hne hi hj hcode ha hb
  rcases active_of_apply hc h hi ha with hold | hi'
  · rcases active_of_apply hc h hj hb with ⟨hj', -⟩ | hj'
    · exact hs i j a b hne hold.1 hj' hcode ha hb
    · exact .inl (hnew hold hj' hcode)
  · rcases active_of_apply hc h hj hb with hold | hj'
    · exact .inr (hnew hold hi' hcode.symm)
    · obtain ⟨new, hmem, rfl, -⟩ := hi'
      obtain ⟨new', hmem', rfl, -⟩ := hj'
      rw [Option.mem_unique hmem hmem'] at hne
      exact absurd rfl hne

lemma clean_of_apply (hs : ∀ rule ∈ s.gstRules, CleanCode rule.hsnCode)
    (hc : ∀ rule, c = .createRule rule → CleanCode rule.hsnCode) (h : c.apply s = some s') :
    ∀ rule ∈ s'.gstRules, CleanCode rule.hsnCode := by
  intro rule hrule
  by_cases hcreate : ∃ new, c = .createRule new
  · obtain ⟨new, rfl⟩ := hcreate
    rw [gstRules_of_createRule h] at hrule
    rcases List.mem_append.mp hrule with hmem | hmem
    · exact hs rule hmem
    · obtain rfl := List.mem_singleton.mp hmem
      exact hc rule rfl
  · obtain ⟨i, hi⟩ := List.mem_iff_getElem?.mp hrule
    rw [gstRules_of_apply h fun new heq => hcreate ⟨new, heq⟩] at hi
    obtain ⟨old, hold, rfl⟩ := Option.map_eq_some_iff.mp hi
    rw [(change_code c i old).1]
    exact hs old (List.mem_of_getElem? hold)

lemma Orderly.of_apply (hs : Orderly s.gstRules) (hc : c.Checked s)
    (hclean : ∀ rule, c = .createRule rule → CleanCode rule.hsnCode)
    (h : c.apply s = some s') : Orderly s'.gstRules where
  dated := hs.dated.of_apply hc h
  apart := hs.apart.of_apply hc.known h
  clean := clean_of_apply hs.clean hclean h

end Batch

/-! ## The history -/

section History

variable {s s' : RuleTables} {new : Row GstRule} {publisherId : Option UserId}
  {now publishedAt : Instant}

/-- A superseded rule that applies before the new one begins is the one that the resolver finds
there. -/
lemma Orderly.superseded_first {rules : List GstRule} (h : Orderly rules) {q rule : GstRule}
    (hsup : q.Superseded rule) {date : Instant} (hdate : date < rule.effectiveFrom)
    (hq : q ∈ rulesFor rules q.hsnCode date) :
    (rulesFor rules q.hsnCode date).head? = some q := by
  rcases h.rulesFor_cases q.hsnCode date with
    hrules | ⟨x, hrules⟩ | ⟨x, y, hrules, -, hto⟩
  · rw [hrules] at hq
    exact absurd hq List.not_mem_nil
  · rw [hrules] at hq ⊢
    rw [List.mem_singleton.mp hq]
    rfl
  · rw [hrules] at hq ⊢
    rcases List.mem_pair.mp hq with rfl | rfl
    · rfl
    · exact absurd (hsup.2.2 date hto) hdate.not_gt

/-- No other active rule continues an active one. -/
lemma Orderly.continues_eq {rules : List GstRule} (h : Orderly rules) {i j : ℕ} {a b : GstRule}
    (hi : rules[i]? = some a) (hj : rules[j]? = some b) (ha : a.status = .active)
    (hb : b.status = .active) (hcontinues : a.Continues b) : i = j := by
  by_contra hne
  have heq : a = { b with effectiveTo := a.effectiveTo } := hcontinues
  have hcode : a.hsnCode = b.hsnCode := by rw [heq]
  have hfrom : a.effectiveFrom = b.effectiveFrom := by rw [heq]
  rcases h.apart i j a b hne hi hj hcode ha hb with ⟨date, hdate, hle⟩ | ⟨date, hdate, hle⟩
  · have hlt := h.lt_of_mem (List.mem_of_getElem? hi) ha hdate
    exact absurd (hfrom ▸ hle) hlt.not_ge
  · have hlt := h.lt_of_mem (List.mem_of_getElem? hj) hb hdate
    exact absurd (hfrom ▸ hle) hlt.not_ge

/-- **One publication** leaves the past as it was exactly if the rules leave room for the new
one. -/
theorem keepsHistory_iff_leavesRoom (h : Orderly s.gstRules)
    (hrow : s.gstRules[new.id]? = some new.val)
    (hstatus : new.val.status = .approved ∨ new.val.status = .scheduled)
    (htarget : targetStatus new.val now = .active)
    (happ : (Commit.publishRule new publisherId now publishedAt).apply s = some s') :
    KeepsHistory s.gstRules s'.gstRules new.id new.val.effectiveFrom ↔
      LeavesRoom s.gstRules new.val := by
  have hnot : new.val.status ≠ .active := by
    rcases hstatus with hstatus | hstatus <;> simp [hstatus]
  have hchecked : (Commit.publishRule new publisherId now publishedAt).Checked s :=
    ⟨hrow, hstatus⟩
  have h' : Orderly s'.gstRules := h.of_apply hchecked (fun _ heq => nomatch heq) happ
  have hrow' := published_row happ hrow htarget
  set published : GstRule := { new.val with
    status := .active, publishedById := publisherId, publishedAt := some publishedAt }
    with hpublished
  constructor
  · intro hkeeps
    constructor
    · intro q hq hsup date hdate hforce
      obtain ⟨happlies, hsame⟩ := hforce
      have hmem : q ∈ rulesFor s.gstRules q.hsnCode date := mem_rulesFor.mpr ⟨hq, happlies⟩
      have hresolve : resolveApplicableRule s.gstRules q.hsnCode date = .ok (some q) := by
        rw [resolveApplicableRule_of_mem (h.clean q hq) hmem, pick_eq_ok_iff]
        refine ⟨h.superseded_first hsup hdate hmem, fun second hsecond => ?_⟩
        obtain ⟨hmem', happlies'⟩ :=
          mem_rulesFor.mp (List.mem_of_mem_tail (List.mem_of_mem_head? hsecond))
        exact hsame second hmem' happlies'
      obtain ⟨rule, hrule, hcontinues⟩ := hkeeps.earlier q.hsnCode date q hdate hresolve
      obtain ⟨candidate, hhead⟩ := resolveApplicableRule_ok hrule
      obtain ⟨hmem', happlies'⟩ := mem_rulesFor.mp (List.mem_of_mem_head? hhead)
      obtain ⟨-, hactive, hfrom, -⟩ := appliesAt_iff.mp happlies'
      obtain ⟨j, hj⟩ := List.mem_iff_getElem?.mp hmem'
      obtain ⟨i, hi⟩ := List.mem_iff_getElem?.mp hq
      by_cases hid : j = new.id
      · -- the new rule begins later
        subst hid
        obtain rfl := Option.some.inj (hrow'.symm.trans hj)
        exact absurd hdate hfrom.not_gt
      · obtain ⟨hj', hkept⟩ := active_row_of_publish happ htarget hj hactive hid
        obtain rfl := h.continues_eq hj' hi hactive hsup.2.1 hcontinues
        obtain rfl := Option.some.inj (hi.symm.trans hj')
        exact hkept hsup
    · intro q hq hcode hactive hto
      obtain ⟨rule, hrule, hresolve⟩ := hkeeps.current
      obtain rfl : published = rule := Option.some.inj (hrow'.symm.trans hrule)
      obtain ⟨j, hj⟩ := List.mem_iff_getElem?.mp hq
      have hne : j ≠ new.id := by
        rintro rfl
        obtain rfl := Option.some.inj (hrow.symm.trans hj)
        exact hnot hactive
      have hkept : ¬q.Superseded new.val := fun hsup => lt_irrefl _ (hsup.2.2 _ hto)
      have hj' := kept_row_of_publish happ htarget hj hkept hne
      exact (h'.resolves_at_beginning (List.mem_of_getElem? hrow') rfl).mp hresolve q
        (List.mem_of_getElem? hj') hcode hactive hto
  · intro hroom
    constructor
    · intro hsnCode date rule hdate hresolve
      refine ⟨rule, resolveApplicableRule_filter (fun c =>
        rulesFor_of_publish happ hrow hnot htarget hdate) (fun c hpick q hq => ?_) hresolve, rfl⟩
      by_contra hsup
      replace hsup : q.Superseded new.val := by simpa using hsup
      obtain ⟨hmem, happlies⟩ := mem_rulesFor.mp hq
      obtain rfl : q.hsnCode = c := (appliesAt_iff.mp happlies).1
      have hhead := h.superseded_first hsup hdate hq
      obtain ⟨hfirst, hsecond⟩ := pick_eq_ok_iff.mp hpick
      obtain rfl : rule = q := Option.some.inj (hfirst.symm.trans hhead)
      refine hroom.unused rule hmem hsup date hdate ⟨happlies, fun other hother hothers => ?_⟩
      have hmem' : other ∈ rulesFor s.gstRules rule.hsnCode date :=
        mem_rulesFor.mpr ⟨hother, hothers⟩
      rcases h.rulesFor_cases rule.hsnCode date with
        hrules | ⟨x, hrules⟩ | ⟨x, y, hrules, -, -⟩
      · rw [hrules] at hmem'
        exact absurd hmem' List.not_mem_nil
      · rw [hrules] at hmem' hfirst
        obtain rfl := List.mem_singleton.mp hmem'
        rw [Option.some.inj hfirst]
        exact ⟨rfl, rfl⟩
      · rw [hrules] at hmem' hfirst hsecond
        obtain rfl : x = rule := Option.some.inj hfirst
        rcases List.mem_pair.mp hmem' with rfl | rfl
        · exact ⟨rfl, rfl⟩
        · exact hsecond other rfl
    · refine ⟨published, hrow', ?_⟩
      refine (h'.resolves_at_beginning (List.mem_of_getElem? hrow') rfl).mpr ?_
      intro q hq hcode hactive hto
      obtain ⟨j, hj⟩ := List.mem_iff_getElem?.mp hq
      by_cases hid : j = new.id
      · subst hid
        obtain rfl := Option.some.inj (hrow'.symm.trans hj)
        exact ⟨rfl, rfl⟩
      · obtain ⟨hj', -⟩ := active_row_of_publish happ htarget hj hactive hid
        exact hroom.sameRate q (List.mem_of_getElem? hj') hcode hactive hto

end History

/-! ## Runs -/

/-- A text without spaces is left alone. -/
lemma clean_of_noSpaces {l : List Char} (h : ∀ c ∈ l, JsString.isSpace c = false) :
    CleanCode (String.ofList l) := by
  have hdrop : ∀ l : List Char, (∀ c ∈ l, JsString.isSpace c = false) →
      l.dropWhile JsString.isSpace = l := by
    intro l hl
    cases l with
    | nil => rfl
    | cons c l => rw [List.dropWhile_cons_of_neg (by simp [hl c List.mem_cons_self])]
  have hreverse : ∀ c ∈ l.reverse, JsString.isSpace c = false :=
    fun c hc => h c (List.mem_reverse.mp hc)
  have htrim : JsString.trim l = l := by
    rw [JsString.trim, hdrop l h, hdrop l.reverse hreverse, List.reverse_reverse]
  have hwithout : JsString.withoutSpaces l = l :=
    List.filter_eq_self.mpr fun c hc => by simp [h c hc]
  rw [CleanCode, String.toList_ofList, htrim, hwithout]

/-- Drafts have clean codes. -/
lemma emits_clean {I G : RuleTables → RuleTables → Prop} (x : Call) (s : RuleTables) :
    x.proc.Emits Commit.apply I G
      (fun _ c => ∀ rule, c = .createRule rule → CleanCode rule.hsnCode) Any s := by
  have hcommit : ∀ {c : Commit} {s : RuleTables}, (∀ rule, c = .createRule rule → False) →
      (Proc.commit c >>= fun _ => pure () : Service Unit).Emits Commit.apply I G
        (fun _ c => ∀ rule, c = .createRule rule → CleanCode rule.hsnCode) Any s :=
    fun hc => emits_commit (fun _ _ rule heq => (hc rule heq).elim) fun _ _ _ _ _ => emits_pure
  cases x with
  | createDraftRule input actorId =>
    refine Emits.andThen (emits_read fun s _ => ?_) fun _ s => ?_
    · split
      · exact emits_pure
      · exact emits_commit (fun _ _ _ heq => nomatch heq) fun _ _ _ _ _ => emits_pure
    · split
      · exact emits_throw
      · split
        · exact emits_throw
        · refine emits_commit (fun _ _ rule heq => ?_) fun _ _ _ _ _ => emits_pure
          cases heq
          refine clean_of_noSpaces fun c hc => ?_
          simpa using (List.mem_filter.mp hc).2
  | approveRule ruleId approverId reason approvedAt
  | publishRule ruleId publisherId now publishedAt =>
    refine emits_read fun s _ => ?_
    split
    · exact emits_throw
    · split
      · exact emits_throw
      · exact hcommit fun _ heq => nomatch heq
  | retireRule ruleId actorId reason now =>
    refine emits_read fun s _ => ?_
    split
    · exact emits_throw
    · exact hcommit fun _ heq => nomatch heq

/-- Whatever happens, the rules keep their codes and beginnings. -/
def Stable (s t : RuleTables) : Prop :=
  ∀ (i : RuleId) (r : GstRule), s.gstRules[i]? = some r →
    ∃ r' : GstRule, t.gstRules[i]? = some r' ∧ r'.hsnCode = r.hsnCode ∧
      r'.effectiveFrom = r.effectiveFrom

lemma stable_of_apply {s s' : RuleTables} {c : Commit} (h : c.apply s = some s') :
    Stable s s' := by
  intro i r hr
  by_cases hcreate : ∃ new, c = .createRule new
  · obtain ⟨new, rfl⟩ := hcreate
    rw [gstRules_of_createRule h]
    exact ⟨r, by rw [List.getElem?_append_left (List.getElem?_eq_some_iff.mp hr).1, hr], rfl, rfl⟩
  · refine ⟨c.change i r, ?_, change_code c i r⟩
    rw [gstRules_of_apply h fun new heq => hcreate ⟨new, heq⟩, hr]
    rfl

/-- Calls that run at the same time commit batches of which that much is known. -/
lemma rules_rely (Allowed : Call → Prop) (Cond : RuleTables → Commit → Prop) :
    Rely taxRuleService Allowed Cond Stable fun _ s c => c.Known s where
  refl s i r hr := ⟨r, hr, rfl, rfl⟩
  trans hst htu i r hr := by
    obtain ⟨r', hr', hcode, hfrom⟩ := hst i r hr
    obtain ⟨r'', hr'', hcode', hfrom'⟩ := htu i r' hr'
    exact ⟨r'', hr'', hcode'.trans hcode, hfrom'.trans hfrom⟩
  env _ _ i r hr := ⟨r, hr, rfl, rfl⟩
  commit _ _ _ happ := stable_of_apply happ
  emits x s _ := by
    cases x with
    | createDraftRule input actorId =>
      refine Emits.andThen (emits_read fun s _ => ?_) fun _ s => ?_
      · split
        · exact emits_pure
        · exact emits_commit (fun _ _ => trivial) fun _ _ _ _ _ => emits_pure
      · split
        · exact emits_throw
        · split
          · exact emits_throw
          · exact emits_commit (fun _ _ => rfl) fun _ _ _ _ _ => emits_pure
    | approveRule ruleId approverId reason approvedAt =>
      refine emits_read fun s _ => ?_
      split
      · exact emits_throw
      · split
        · exact emits_throw
        · exact emits_commit (fun _ _ => trivial) fun _ _ _ _ _ => emits_pure
    | publishRule ruleId publisherId now publishedAt =>
      refine emits_read fun s _ => ?_
      split
      · exact emits_throw
      · rename_i rule hrow
        split
        · exact emits_throw
        -- the code and the beginning of a rule are never changed after it was read
        · refine emits_commit (fun t hst r hr => ?_) fun _ _ _ _ _ => emits_pure
          obtain ⟨r', hr', hcode, hfrom⟩ := hst ruleId rule hrow
          obtain rfl : r' = r := Option.some.inj (hr'.symm.trans hr)
          exact ⟨hcode, hfrom⟩
    | retireRule ruleId actorId reason now =>
      refine emits_read fun s _ => ?_
      split
      · exact emits_throw
      · exact emits_commit (fun _ _ => trivial) fun _ _ _ _ _ => emits_pure

/-- The tables that calls lead to, one after another; or at the same time, as long as no period
is turned around. -/
def Reached (s₀ s : RuleTables) : Prop :=
  taxRuleService.SeqReachable (fun _ => True) Free s₀ s ∨
    ∃ cfg, taxRuleService.Reachable (fun _ => True) Free s₀ cfg ∧ cfg.store = s ∧
      WellDated s.gstRules

/-- All of them are orderly. -/
theorem orderly_of_reached {s₀ s : RuleTables} (h₀ : Orderly s₀.gstRules) (hr : Reached s₀ s) :
    Orderly s.gstRules := by
  rcases hr with hr | ⟨cfg, hr, rfl, hdated⟩
  · have hclean : Solo taxRuleService (fun _ => True) Eq
        fun _ _ c => ∀ rule, c = .createRule rule → CleanCode rule.hsnCode :=
      ⟨fun _ => rfl, fun x s _ => emits_clean x s⟩
    refine ⟨wellDated_of_reachable h₀.dated hr, ?_, ?_⟩
    · exact (rules_solo _).invariant (P := fun s => Sequenced s.gstRules) hr h₀.apart
        (fun _ _ hs => hs) fun _ hspec _ happ hs => hs.of_apply hspec.known happ
    · exact hclean.invariant (P := fun s => ∀ rule ∈ s.gstRules, CleanCode rule.hsnCode) hr
        h₀.clean (fun _ _ hs => hs) fun _ hspec _ happ hs => clean_of_apply hs hspec happ
  · have hclean : Rely taxRuleService (fun _ => True) Free (fun _ _ => True)
        fun _ _ c => ∀ rule, c = .createRule rule → CleanCode rule.hsnCode :=
      ⟨fun _ => trivial, fun _ _ => trivial, fun _ _ => trivial, fun _ _ _ _ => trivial,
        fun x s _ => emits_clean x s⟩
    refine ⟨hdated, ?_, ?_⟩
    · exact (rules_rely _ _).invariant (P := fun s => Sequenced s.gstRules) hr h₀.apart
        (fun _ _ hs => hs) fun _ hspec _ happ hs => hs.of_apply hspec happ
    · exact hclean.invariant (P := fun s => ∀ rule ∈ s.gstRules, CleanCode rule.hsnCode) hr
        h₀.clean (fun _ _ hs => hs) fun _ hspec _ happ hs => clean_of_apply hs hspec happ

/-- What a call of `publishRule` for an approved rule does, if no statement fails. -/
lemma apply_of_publishRule {s s' : RuleTables} {ruleId : RuleId} {rule : GstRule}
    {publisherId : Option UserId} {now publishedAt : Instant}
    (hrow : s.gstRules[ruleId]? = some rule) (hstatus : rule.status = .approved)
    (hrun : (publishRule ruleId publisherId now publishedAt).runAlone Commit.apply Free s =
      some s') :
    (Commit.publishRule ⟨ruleId, rule⟩ publisherId now publishedAt).apply s = some s' := by
  obtain ⟨t, ht⟩ : ∃ t,
      (Commit.publishRule ⟨ruleId, rule⟩ publisherId now publishedAt).apply s = some t := by
    refine Option.ne_none_iff_exists'.mp fun hnone => ?_
    have hrows := Option.map_eq_none_iff.mp hnone
    split at hrows
    · simp [supersede, hrow] at hrows
    · simp [hrow] at hrows
  rw [publishRule, runAlone_read] at hrun
  simp only [hrow, hstatus] at hrun
  rw [if_neg (by simp), runAlone_commit ht trivial] at hrun
  rw [ht]
  exact hrun

/-- **Publishing a tax rule leaves the past as it was** exactly if nothing that was in force before
is superseded, and a rule that ends when the new one begins has the same rate. -/
theorem publish_keepsHistory_iff {s₀ s s' : RuleTables} (h₀ : Orderly s₀.gstRules)
    (hr : Reached s₀ s) {ruleId : RuleId} {rule : GstRule} {publisherId : Option UserId}
    {now publishedAt : Instant} (hrow : s.gstRules[ruleId]? = some rule)
    (hstatus : rule.status = .approved) (hpast : rule.effectiveFrom ≤ now)
    (hrun : (publishRule ruleId publisherId now publishedAt).runAlone Commit.apply Free s =
      some s') :
    KeepsHistory s.gstRules s'.gstRules ruleId rule.effectiveFrom ↔
      LeavesRoom s.gstRules rule := by
  have htarget : targetStatus rule now = .active := if_neg hpast.not_gt
  have happ := apply_of_publishRule hrow hstatus hrun
  have h := orderly_of_reached h₀ hr
  have hnew : s.gstRules[(⟨ruleId, rule⟩ : Row GstRule).id]? = some rule := hrow
  exact keepsHistory_iff_leavesRoom h hnew (.inl hstatus) htarget happ

/-! ## A rule without end is superseded -/

lemma noRules_orderly : Orderly noRules.gstRules where
  dated := by simp [WellDated, noRules]
  apart := by simp [Sequenced, noRules]
  clean := by simp [noRules]

/-- The rate that the resolver finds for laptops. -/
def rateAt (s : RuleTables) (date : Instant) : Option ℚ≥0 :=
  match resolveApplicableRule s.gstRules "8471" date with
  | .ok rule => rule.map GstRule.igstRate
  | .error _ => none

/-- The first rule for a code is published. -/
theorem publish_keepsHistory_first : ∃ s s' rule, Reached noRules s ∧
    s.gstRules[0]? = some rule ∧ rule.status = .approved ∧ rule.effectiveFrom ≤ newYear ∧
    (publishRule 0 (some 7) newYear newYear).runAlone Commit.apply Free s = some s' ∧
    (KeepsHistory s.gstRules s'.gstRules 0 rule.effectiveFrom ↔ LeavesRoom s.gstRules rule) := by
  obtain ⟨s, hr, heval⟩ := taxRuleService.exists_seqReachable_of_execSeq (fun _ => True) Free
    [.inl (laptops 9 newYear none), .inl (.approveRule 0 (some 7) none newYear)]
    noRules
    (fun s : RuleTables => (s.gstRules[0]?.map fun r : GstRule => decide (r.status = .approved ∧
      r.effectiveFrom ≤ newYear),
      ((publishRule 0 (some 7) newYear newYear).runAlone Commit.apply Free s).isSome))
    (some true, true) (by decide +kernel)
  obtain ⟨hrow, hrun⟩ := Prod.ext_iff.mp heval
  obtain ⟨rule, hrow, hchecks⟩ := Option.map_eq_some_iff.mp hrow
  obtain ⟨hstatus, hpast⟩ := of_decide_eq_true hchecks
  obtain ⟨s', hrun⟩ := Option.isSome_iff_exists.mp hrun
  exact ⟨s, s', rule, .inl hr, hrow, hstatus, hpast, hrun,
    publish_keepsHistory_iff noRules_orderly (.inl hr) hrow hstatus hpast hrun⟩

/-- A rule without end applies from 2026 on; a year later the next one is published.  The resolver
finds no rule for the first year any more. -/
theorem past_rate_lost : ¬∀ (s₀ s s' : RuleTables) (ruleId : RuleId) (rule : GstRule)
    (publisherId : Option UserId) (now publishedAt : Instant), Orderly s₀.gstRules →
    Reached s₀ s → s.gstRules[ruleId]? = some rule → rule.status = .approved →
    rule.effectiveFrom ≤ now →
    (publishRule ruleId publisherId now publishedAt).runAlone Commit.apply Free s = some s' →
    KeepsHistory s.gstRules s'.gstRules ruleId rule.effectiveFrom := by
  intro hall
  obtain ⟨s, hr, heval⟩ := taxRuleService.exists_seqReachable_of_execSeq (fun _ => True) Free
    ([.inl (laptops 9 newYear none)] ++ enact 0 newYear ++
      [.inl (laptops 6 nextYear none), .inl (.approveRule 1 (some 7) none nextYear)])
    noRules
    (fun s : RuleTables => (s.gstRules[1]?.map fun r : GstRule => decide (r.status = .approved ∧
      r.effectiveFrom = nextYear), rateAt s newYear,
      ((publishRule 1 (some 7) nextYear nextYear).runAlone Commit.apply Free s).map
        fun s' => rateAt s' newYear))
    (some true, some 18, some none) (by decide +kernel)
  simp only [Prod.mk.injEq] at heval
  obtain ⟨hrow, hbefore, hafter⟩ := heval
  obtain ⟨rule, hrow, hchecks⟩ := Option.map_eq_some_iff.mp hrow
  obtain ⟨hstatus, hfrom⟩ := of_decide_eq_true hchecks
  obtain ⟨s', hrun, hafter⟩ := Option.map_eq_some_iff.mp hafter
  have hkeeps := hall noRules s s' 1 rule (some 7) nextYear nextYear noRules_orderly (.inl hr)
    hrow hstatus hfrom.le hrun
  obtain ⟨old, hold⟩ : ∃ old, resolveApplicableRule s.gstRules "8471" newYear =
      .ok (some old) := by
    unfold rateAt at hbefore
    split at hbefore
    · rename_i found hfound
      obtain ⟨old, rfl, -⟩ := Option.map_eq_some_iff.mp hbefore
      exact ⟨old, hfound⟩
    · exact absurd hbefore (by simp)
  obtain ⟨found, hfound, -⟩ := hkeeps.earlier "8471" newYear old (hfrom ▸ by decide) hold
  simp [rateAt, hfound] at hafter

end MeeoServer.TaxRules
