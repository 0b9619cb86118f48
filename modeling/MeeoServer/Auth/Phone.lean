/-
# Phone numbers

`user/services/userPhone.service.ts`.  A user asks for a code for a phone number, which the server
keeps for five minutes, and presents it.  A later code takes the place of an earlier one, and two
requests that present the same code may both be accepted.

Which codes were issued and which checks have succeeded is history.  The cache of the user's rights
is left out; it is emptied after the last statement.
-/
import MeeoServer.Process.Interleaving
import MeeoServer.Schema.Commit
import MeeoServer.Schema.Database
import MeeoServer.Table.Updates
import Mathlib.Logic.Function.Basic

namespace MeeoServer.Auth.Phone

open Proc

/-! ## The store -/

/-- The columns of `users` that the service works with. -/
structure PhoneRow where
  id : UserId
  phone : Option String
  phoneVerified : Bool
deriving DecidableEq

/-- A code that was issued. -/
structure Issue where
  userId : UserId
  phone : String
  otp : String
  time : ℕ
deriving DecidableEq

/-- The value of `PHONE_OTP`, with the number of its issue. -/
structure StoredOtp where
  phone : String
  otp : String
  expiresAt : ℕ
  issue : ℕ

/-- A code that was presented and accepted, and how many codes had been issued by then. -/
structure Check where
  userId : UserId
  phone : String
  otp : String
  time : ℕ
  seen : ℕ
deriving DecidableEq

structure PhoneStore where
  clock : ℕ
  users : List PhoneRow
  otps : UserId → Option StoredOtp
  /-- The value that the last `GET` has returned. -/
  reply : Option StoredOtp
  issued : List Issue
  checks : List Check

/-- Five minutes. -/
def PHONE_OTP_EXPIRY_SECONDS : ℕ := 60 * 5

namespace PhoneStore

variable (s : PhoneStore)

def live (userId : UserId) : Option StoredOtp :=
  (s.otps userId).filter fun stored => s.clock < stored.expiresAt

/-- Some other user has the phone number. -/
def taken (userId : UserId) (phone : String) : Bool :=
  s.users.any fun row => row.phone = some phone ∧ row.id ≠ userId

/-- `SET` of a new code, which replaces the one that was there. -/
def issue (userId : UserId) (phone otp : String) : PhoneStore :=
  { s with
    otps := Function.update s.otps userId
      (some ⟨phone, otp, s.clock + PHONE_OTP_EXPIRY_SECONDS * 1000, s.issued.length⟩)
    issued := s.issued ++ [⟨userId, phone, otp, s.clock⟩] }

/-- The check that succeeds if the code that is stored is the one presented. -/
def accepts (userId : UserId) (otp : String) : Option Check :=
  ((s.live userId).filter fun stored => stored.otp = otp).map fun stored =>
    ⟨userId, stored.phone, stored.otp, s.clock, s.issued.length⟩

/-- `GET` of the code, to be compared with the one presented. -/
def check (userId : UserId) (otp : String) : PhoneStore :=
  { s with
    reply := s.live userId
    checks := s.checks ++ (s.accepts userId otp).toList }

end PhoneStore

inductive Commit where
  | issue (userId : UserId) (phone otp : String)
  | check (userId : UserId) (otp : String)
  /-- The user gets the phone number, which nobody else may have. -/
  | update (userId : UserId) (phone : String)
  | delete (userId : UserId)

def Commit.apply : Commit → PhoneStore → Option PhoneStore
  | .issue userId phone otp, s => some (s.issue userId phone otp)
  | .check userId otp, s => some (s.check userId otp)
  | .update userId phone, s =>
    if s.taken userId phone then none
    else if s.users.any fun row => row.id = userId then
      some { s with
        users := Table.updateWhere (fun row => row.id = userId)
          (fun row => { row with phone := some phone, phoneVerified := true }) s.users }
    else none
  | .delete userId, s => some { s with otps := Function.update s.otps userId none }

/-! ## The service -/

abbrev Service (α : Type) := Proc PhoneStore Commit AppError α

/-- Validates that the provided OTP matches the stored value in Redis for the user. -/
def assertPhoneOtp (userId : UserId) (otp : String) : Service StoredOtp := do
  let s ← Proc.commit (.check userId otp)
  match s.reply with
  | none => throw ⟨"OTP is invalid or expired", 400⟩
  | some parsed =>
    if parsed.otp ≠ otp then throw ⟨"OTP is invalid or expired", 400⟩
    else pure parsed

/-- Requests an OTP for phone verification. -/
def requestPhoneOtp (userId : UserId) (phone otp : String) : Service Unit := do
  let s ← Proc.read
  if s.taken userId phone then throw ⟨"Phone number is already in use", 409⟩
  else do
    let _ ← Proc.commit (.issue userId phone otp)
    pure ()

/-- Verifies the submitted OTP against Redis, updates the user's phone, and sets phoneVerified to
true. -/
def verifyPhone (userId : UserId) (phone otp : String) : Service Unit := do
  let stored ← assertPhoneOtp userId otp
  if stored.phone ≠ phone then
    throw ⟨"OTP was requested for a different phone number", 400⟩
  else do
    let _ ← Proc.commit (.update userId phone)
    let _ ← Proc.commit (.delete userId)
    pure ()

inductive Call where
  /-- The code is drawn when it is needed. -/
  | requestPhoneOtp (userId : UserId) (phone otp : String)
  | verifyPhone (userId : UserId) (phone otp : String)

def Call.proc : Call → Service Unit
  | requestPhoneOtp userId phone otp => Phone.requestPhoneOtp userId phone otp
  | verifyPhone userId phone otp => Phone.verifyPhone userId phone otp

/-- Time passes, somebody registers, and Redis may forget a code. -/
inductive Action where
  | tick (elapsed : ℕ)
  | register (id : UserId)
  | evict (userId : UserId)

def Action.apply (e : Action) (s : PhoneStore) : PhoneStore :=
  match e with
  | .tick elapsed => { s with clock := s.clock + elapsed }
  | .register id =>
    if s.users.any fun row => row.id = id then s
    else { s with users := s.users ++ [⟨id, none, false⟩] }
  | .evict userId => { s with otps := Function.update s.otps userId none }

def phoneServer : Machine PhoneStore Commit AppError Call Action where
  apply := Commit.apply
  proc := Call.proc
  environ := Action.apply

/-! ## What every step does -/

/-- No history is forgotten. -/
structure Within (s s' : PhoneStore) : Prop where
  issued : s.issued <+: s'.issued
  checks : s.checks ⊆ s'.checks

namespace Within

variable {s s' s'' : PhoneStore}

lemma refl (s : PhoneStore) : Within s s := ⟨List.prefix_rfl, fun _ h => h⟩

lemma trans (h : Within s s') (h' : Within s' s'') : Within s s'' :=
  ⟨h.issued.trans h'.issued, fun _ hmem => h'.checks (h.checks hmem)⟩

end Within

/-- The code was issued to the user as the number `k`, and none after it, among the first `n`. -/
structure Last (issued : List Issue) (n : ℕ) (userId : UserId) (k : ℕ) (issue : Issue) : Prop where
  get : issued[k]? = some issue
  below : k < n
  owner : issue.userId = userId
  last : ∀ j later, k < j → j < n → issued[j]? = some later → later.userId ≠ userId

/-- What was accepted was the last code of the user, and no older than five minutes. -/
def Valid (issued : List Issue) (check : Check) : Prop :=
  check.seen ≤ issued.length ∧ ∃ k issue, Last issued check.seen check.userId k issue ∧
    issue.phone = check.phone ∧ issue.otp = check.otp ∧ issue.time ≤ check.time ∧
    check.time < issue.time + PHONE_OTP_EXPIRY_SECONDS * 1000

/-- The phone number was proven. -/
def Proven (checks : List Check) (row : PhoneRow) : Prop :=
  row.phoneVerified = true → ∃ check ∈ checks, check.userId = row.id ∧ row.phone = some check.phone

/-- The stored code is the last one of the user. -/
def Current (s : PhoneStore) (userId : UserId) (stored : StoredOtp) : Prop :=
  ∃ issue, Last s.issued s.issued.length userId stored.issue issue ∧ issue.phone = stored.phone ∧
    issue.otp = stored.otp ∧ issue.time ≤ s.clock ∧
    stored.expiresAt = issue.time + PHONE_OTP_EXPIRY_SECONDS * 1000

/-- No two users have the same phone number. -/
def Distinct (users : List PhoneRow) : Prop :=
  ∀ row ∈ users, ∀ row' ∈ users, ∀ phone, row.phone = some phone → row'.phone = some phone →
    row.id = row'.id

structure PhoneStore.Sound (s : PhoneStore) : Prop where
  otps : ∀ userId stored, s.otps userId = some stored → Current s userId stored
  checks : ∀ check ∈ s.checks, Valid s.issued check
  users : ∀ row ∈ s.users, Proven s.checks row
  distinct : Distinct s.users

/-- What is said about a batch that a call commits. -/
def Emitted (s : PhoneStore) : Commit → Prop
  | .update userId phone => ∃ check ∈ s.checks, check.userId = userId ∧ check.phone = phone
  | _ => True

section Steps

variable {s s' : PhoneStore} {c : Commit}

lemma within_apply (happ : c.apply s = some s') : Within s s' := by
  cases c with
  | issue userId phone otp =>
    obtain rfl := Option.some.inj happ
    exact ⟨List.prefix_append _ _, fun _ h => h⟩
  | check userId otp =>
    obtain rfl := Option.some.inj happ
    exact ⟨List.prefix_rfl, List.subset_append_left _ _⟩
  | update userId phone =>
    simp only [Commit.apply, Option.ite_none_left_eq_some, Option.ite_none_right_eq_some,
      Option.some.injEq] at happ
    obtain ⟨-, -, rfl⟩ := happ
    exact ⟨List.prefix_rfl, fun _ h => h⟩
  | delete userId =>
    obtain rfl := Option.some.inj happ
    exact ⟨List.prefix_rfl, fun _ h => h⟩

/-- Codes that are issued later do not matter. -/
lemma Last.mono {issued issued' : List Issue} {n k : ℕ} {userId : UserId} {issue : Issue}
    (h : Last issued n userId k issue) (hn : n ≤ issued.length) (hgrows : issued <+: issued') :
    Last issued' n userId k issue := by
  obtain ⟨rest, rfl⟩ := hgrows
  have hget {j : ℕ} (hj : j < n) : (issued ++ rest)[j]? = issued[j]? :=
    List.getElem?_append_left (Nat.lt_of_lt_of_le hj hn)
  refine ⟨(hget h.below).trans h.get, h.below, h.owner, fun j later hkj hjn hlater => ?_⟩
  exact h.last j later hkj hjn ((hget hjn).symm.trans hlater)

lemma Valid.mono {issued issued' : List Issue} {check : Check} (h : Valid issued check)
    (hgrows : issued <+: issued') : Valid issued' check := by
  obtain ⟨hseen, k, issue, hlast, hrest⟩ := h
  exact ⟨hseen.trans hgrows.length_le, k, issue, hlast.mono hseen hgrows, hrest⟩

/-- A code that is issued to another user does not take the place of this one. -/
lemma Last.issue {issued : List Issue} {userId : UserId} {k : ℕ} {issue new : Issue}
    (h : Last issued issued.length userId k issue) (hnew : new.userId ≠ userId) :
    Last (issued ++ [new]) (issued ++ [new]).length userId k issue := by
  have hlength : (issued ++ [new]).length = issued.length + 1 := by simp
  refine ⟨(List.getElem?_append_left h.below).trans h.get, hlength ▸ Nat.lt_succ_of_lt h.below,
    h.owner, fun j later hkj hj hlater => ?_⟩
  rcases Nat.lt_or_ge j issued.length with hlt | hge
  · exact h.last j later hkj hlt ((List.getElem?_append_left hlt).symm.trans hlater)
  · obtain rfl : j = issued.length := by omega
    rw [List.getElem?_concat_length] at hlater
    obtain rfl := Option.some.inj hlater
    exact hnew

lemma last_issued (issued : List Issue) (new : Issue) :
    Last (issued ++ [new]) (issued ++ [new]).length new.userId issued.length new where
  get := List.getElem?_concat_length
  below := by simp
  owner := rfl
  last j later hlt hj := by
    rw [List.length_append, List.length_singleton] at hj
    omega

/-- A check succeeds with the code that is stored, before it expires. -/
lemma accepts_eq_some_iff {userId : UserId} {otp : String} {check : Check} :
    s.accepts userId otp = some check ↔ ∃ stored, s.otps userId = some stored ∧
      s.clock < stored.expiresAt ∧ stored.otp = otp ∧
      ⟨userId, stored.phone, stored.otp, s.clock, s.issued.length⟩ = check := by
  simp only [PhoneStore.accepts, PhoneStore.live, Option.map_eq_some_iff,
    Option.filter_eq_some_iff, decide_eq_true_eq]
  constructor
  · rintro ⟨stored, ⟨⟨hstored, hlive⟩, hotp⟩, rfl⟩
    exact ⟨stored, hstored, hlive, hotp, rfl⟩
  · rintro ⟨stored, hstored, hlive, hotp, rfl⟩
    exact ⟨stored, ⟨⟨hstored, hlive⟩, hotp⟩, rfl⟩

lemma PhoneStore.Sound.valid (h : s.Sound) {userId : UserId} {otp : String} {check : Check}
    (hcheck : s.accepts userId otp = some check) : Valid s.issued check := by
  obtain ⟨stored, hstored, hlive, -, rfl⟩ := accepts_eq_some_iff.mp hcheck
  obtain ⟨issue, hlast, hphone, hotp, htime, hexpires⟩ := h.otps userId stored hstored
  exact ⟨le_rfl, stored.issue, issue, hlast, hphone, hotp, htime, hexpires ▸ hlive⟩

/-- The other codes are what they were. -/
lemma current_update {s' : PhoneStore} {userId : UserId} {new : Option StoredOtp}
    (h : ∀ v stored, v ≠ userId → s.otps v = some stored → Current s' v stored)
    (hnew : ∀ stored, new = some stored → Current s' userId stored) {v : UserId}
    {stored : StoredOtp} (hstored : Function.update s.otps userId new v = some stored) :
    Current s' v stored := by
  by_cases hv : v = userId
  · subst hv
    rw [Function.update_self] at hstored
    exact hnew stored hstored
  · rw [Function.update_of_ne hv] at hstored
    exact h v stored hv hstored

lemma Proven.mono {checks checks' : List Check} {row : PhoneRow} (h : Proven checks row)
    (hsub : checks ⊆ checks') : Proven checks' row := by
  intro hverified
  obtain ⟨check, hmem, hrest⟩ := h hverified
  exact ⟨check, hsub hmem, hrest⟩

/-- A phone number that nobody else has goes to one user. -/
lemma Distinct.update (h : Distinct s.users) {userId : UserId} {phone : String}
    (hfree : ¬s.taken userId phone) : Distinct (Table.updateWhere (fun row => row.id = userId)
      (fun row => { row with phone := some phone, phoneVerified := true }) s.users) := by
  have hother {row : PhoneRow} (hrow : row ∈ s.users) (hphone : row.phone = some phone) :
      row.id = userId := by
    by_contra hid
    exact hfree (List.any_eq_true.mpr ⟨row, hrow, decide_eq_true ⟨hphone, hid⟩⟩)
  intro row hrow row' hrow' p hp hp'
  obtain ⟨old, hold, rfl⟩ := List.mem_map.mp hrow
  obtain ⟨old', hold', rfl⟩ := List.mem_map.mp hrow'
  by_cases hid : old.id = userId
  · by_cases hid' : old'.id = userId
    · simp [hid, hid']
    · simp only [hid, hid', decide_true, decide_false, if_true, Bool.false_eq_true, if_false]
        at hp hp' ⊢
      exact (hother hold' (hp'.trans hp.symm)).symm
  · by_cases hid' : old'.id = userId
    · simp only [hid, hid', decide_true, decide_false, if_true, Bool.false_eq_true, if_false]
        at hp hp' ⊢
      exact hid (hother hold (hp.trans hp'.symm))
    · simp only [hid, hid', decide_false, Bool.false_eq_true, if_false] at hp hp' ⊢
      exact h old hold old' hold' p hp hp'

lemma PhoneStore.Sound.apply (h : s.Sound) (hc : Emitted s c) (happ : c.apply s = some s') :
    s'.Sound := by
  have hwithin := within_apply happ
  cases c with
  | issue userId phone otp =>
    obtain rfl := Option.some.inj happ
    refine ⟨fun v stored hstored => ?_, fun check hcheck => (h.checks check hcheck).mono
      hwithin.issued, h.users, h.distinct⟩
    refine current_update (s := s) (fun v stored hv hstored => ?_) (fun stored hstored => ?_)
      hstored
    · obtain ⟨issue, hlast, hrest⟩ := h.otps v stored hstored
      exact ⟨issue, hlast.issue hv.symm, hrest⟩
    · obtain rfl := Option.some.inj hstored
      exact ⟨_, last_issued s.issued _, rfl, rfl, le_rfl, rfl⟩
  | check userId otp =>
    obtain rfl := Option.some.inj happ
    refine ⟨h.otps, fun check hcheck => ?_, fun row hrow => (h.users row hrow).mono hwithin.checks,
      h.distinct⟩
    rcases List.mem_append.mp hcheck with hcheck | hcheck
    · exact h.checks check hcheck
    · exact h.valid (Option.mem_toList.mp hcheck)
  | update userId phone =>
    simp only [Commit.apply, Option.ite_none_left_eq_some, Option.ite_none_right_eq_some,
      Option.some.injEq] at happ
    obtain ⟨hfree, -, rfl⟩ := happ
    refine ⟨h.otps, h.checks, ?_, h.distinct.update hfree⟩
    refine (Table.forall_mem_updateWhere_iff h.users).mpr fun row hrow hid _ => ?_
    obtain ⟨check, hcheck, huser, rfl⟩ := hc
    exact ⟨check, hcheck, huser.trans (of_decide_eq_true hid).symm, rfl⟩
  | delete userId =>
    obtain rfl := Option.some.inj happ
    exact ⟨fun v stored hstored => current_update (s := s) (fun v stored _ => h.otps v stored)
      (by rintro stored ⟨⟩) hstored, h.checks, h.users, h.distinct⟩

/-! ### The service keeps to it -/

lemma verifyPhone_emits (userId : UserId) (phone otp : String) :
    (verifyPhone userId phone otp).Emits Commit.apply Within Within Emitted Any s := by
  refine Emits.bind (Q := Any) ((?_ : (assertPhoneOtp userId otp).Emits Commit.apply Within Within
    Emitted (fun r s => ∀ stored, r = .ok stored →
      ∃ check ∈ s.checks, check.userId = userId ∧ check.phone = stored.phone) s).mono ?_)
  · refine emits_commit_post (fun _ => nofun) (fun _ _ => trivial) fun s₁ s₂ _ happ _ => ?_
    obtain rfl := Option.some.inj happ
    split
    · rintro _ ⟨⟩
    · rename_i parsed hreply
      split
      · rintro _ ⟨⟩
      · rename_i hotp
        rintro _ ⟨⟩
        obtain ⟨hstored, hlive⟩ := Option.filter_eq_some_iff.mp hreply
        have haccepts := accepts_eq_some_iff.mpr
          ⟨parsed, hstored, of_decide_eq_true hlive, not_not.mp hotp, rfl⟩
        exact ⟨_, List.mem_append_right _ (Option.mem_toList.mpr haccepts), rfl, rfl⟩
  · rintro r s₁ hr
    cases r with
    | error e => trivial
    | ok stored =>
      obtain ⟨check, hcheck, huser, hphone⟩ := hr stored rfl
      dsimp only
      split
      · trivial
      · rename_i hsame
        refine emits_commit (fun s₂ h₂ => ⟨check, h₂.checks hcheck, huser,
          hphone.trans (not_not.mp hsame)⟩) fun _ _ _ _ _ => ?_
        exact emits_commit (fun _ _ => trivial) fun _ _ _ _ _ => emits_pure

lemma call_emits (x : Call) : x.proc.Emits Commit.apply Within Within Emitted Any s := by
  cases x with
  | requestPhoneOtp userId phone otp =>
    refine emits_read fun _ _ => ?_
    split
    · exact emits_throw
    · exact emits_commit (fun _ _ => trivial) fun _ _ _ _ _ => emits_pure
  | verifyPhone userId phone otp => exact verifyPhone_emits userId phone otp

end Steps

/-! ## Runs -/

lemma within_environ (e : Action) (s : PhoneStore) : Within s (e.apply s) := by
  cases e with
  | tick elapsed => exact ⟨List.prefix_rfl, fun _ h => h⟩
  | evict userId => exact ⟨List.prefix_rfl, fun _ h => h⟩
  | register id =>
    unfold Action.apply
    dsimp only
    split
    · exact Within.refl s
    · exact ⟨List.prefix_rfl, fun _ h => h⟩

lemma phoneServer_rely : Rely phoneServer (fun _ => True) Free Within fun _ => Emitted where
  refl := Within.refl
  trans := Within.trans
  env := within_environ
  commit _ _ _ happ := within_apply happ
  emits x _ _ := call_emits x

lemma PhoneStore.Sound.environ {s : PhoneStore} (h : s.Sound) (e : Action) : (e.apply s).Sound := by
  cases e with
  | tick elapsed =>
    refine ⟨fun userId stored hstored => ?_, h.checks, h.users, h.distinct⟩
    obtain ⟨issue, hlast, hphone, hotp, htime, hexpires⟩ := h.otps userId stored hstored
    exact ⟨issue, hlast, hphone, hotp, htime.trans (Nat.le_add_right _ _), hexpires⟩
  | evict userId =>
    exact ⟨fun v stored hstored => current_update (s := s) (fun v stored _ => h.otps v stored)
      (by rintro stored ⟨⟩) hstored, h.checks, h.users, h.distinct⟩
  | register id =>
    unfold Action.apply
    dsimp only
    split
    · exact h
    · refine ⟨h.otps, h.checks, fun row hrow => ?_, fun row hrow row' hrow' phone hp hp' => ?_⟩
      · rcases List.mem_append.mp hrow with hrow | hrow
        · exact h.users row hrow
        · rw [List.mem_singleton.mp hrow]
          exact fun hverified => nomatch hverified
      · -- a new user has no phone number
        have hold {row : PhoneRow} (hrow : row ∈ s.users ++ [⟨id, none, false⟩])
            (hp : row.phone = some phone) : row ∈ s.users := by
          rcases List.mem_append.mp hrow with hrow | hrow
          · exact hrow
          · rw [List.mem_singleton.mp hrow] at hp
            cases hp
        exact h.distinct row (hold hrow hp) row' (hold hrow' hp') phone hp hp'

section Runs

variable {s₀ : PhoneStore} {cfg : Config PhoneStore Commit AppError}

lemma sound_of_reachable (h₀ : s₀.Sound)
    (hr : phoneServer.Reachable (fun _ => True) Free s₀ cfg) : cfg.store.Sound :=
  phoneServer_rely.invariant hr h₀ (fun e _ h => h.environ e) fun _ hc _ happ h => h.apply hc happ

/-- **A verified phone number was proven.**  The user has presented a code that was issued to them
for this number less than five minutes before, and none had been issued to them since; and nobody
else has the number. -/
theorem phone_proven (h₀ : s₀.Sound)
    (hr : phoneServer.Reachable (fun _ => True) Free s₀ cfg) {row : PhoneRow}
    (hrow : row ∈ cfg.store.users) (hverified : row.phoneVerified = true) :
    (∃ check ∈ cfg.store.checks, check.userId = row.id ∧ row.phone = some check.phone ∧
      ∃ (k : ℕ) (issue : Issue), cfg.store.issued[k]? = some issue ∧ issue.userId = row.id ∧
        issue.phone = check.phone ∧ issue.otp = check.otp ∧ issue.time ≤ check.time ∧
        check.time < issue.time + 300000 ∧ k < check.seen ∧
        ∀ (j : ℕ) (later : Issue), k < j → j < check.seen →
          cfg.store.issued[j]? = some later → later.userId ≠ row.id) ∧
      ∀ row' ∈ cfg.store.users, row'.phone = row.phone → row'.id = row.id := by
  have hsound := sound_of_reachable h₀ hr
  obtain ⟨check, hcheck, huser, hphone⟩ := hsound.users row hrow hverified
  obtain ⟨-, k, issue, hlast, hrest⟩ := hsound.checks check hcheck
  obtain ⟨hissuePhone, hotp, htime, hlt⟩ := hrest
  refine ⟨⟨check, hcheck, huser, hphone, k, issue, hlast.get, hlast.owner.trans huser, hissuePhone,
    hotp, htime, hlt, hlast.below, fun j later hkj hj hlater => ?_⟩, fun row' hrow' hsame => ?_⟩
  · exact huser ▸ hlast.last j later hkj hj hlater
  · exact hsound.distinct row' hrow' row hrow check.phone (hsame.trans hphone) hphone

/-- The users 7 and 8, who have no phone number. -/
def twoUsers : PhoneStore where
  clock := 0
  users := [⟨7, none, false⟩, ⟨8, none, false⟩]
  otps _ := none
  reply := none
  issued := []
  checks := []

lemma sound_twoUsers : twoUsers.Sound where
  otps _ _ h := nomatch h
  checks _ h := nomatch h
  users := by
    intro row hrow hverified
    rcases List.mem_pair.mp hrow with rfl | rfl <;> cases hverified
  distinct := by
    intro row hrow _ _ phone hp _
    rcases List.mem_pair.mp hrow with rfl | rfl <;> cases hp

/-- The user 7 asks twice, and presents the second code; the user 8 has asked for the same number
in the meantime, and comes too late. -/
theorem phone_proven_asked_twice : ∃ c : Config PhoneStore Commit AppError,
    ∃ row ∈ c.store.users, row.id = 7 ∧ row.phone = some "+4912345678" ∧
      ∃ check ∈ c.store.checks, check.userId = 7 ∧ check.phone = "+4912345678" ∧
        ∀ row' ∈ c.store.users, row'.phone = some "+4912345678" → row'.id = 7 := by
  obtain ⟨c, hr, hrun⟩ := phoneServer.exists_reachable_of_exec (fun _ => True) Free
    [.call (.requestPhoneOtp 7 "+4912345678" "1111"), .step 0 .ok, .step 0 .ok,
      .call (.requestPhoneOtp 8 "+4912345678" "2222"), .step 1 .ok, .step 1 .ok,
      .call (.requestPhoneOtp 7 "+4912345678" "3333"), .step 2 .ok, .step 2 .ok,
      .env (.tick 299999), .call (.verifyPhone 7 "+4912345678" "3333"), .step 3 .ok, .step 3 .ok,
      .step 3 .ok, .call (.verifyPhone 8 "+4912345678" "2222"), .step 4 .ok, .step 4 .failed]
    twoUsers (fun s : PhoneStore => s.users)
    [⟨7, some "+4912345678", true⟩, ⟨8, none, false⟩] (by decide +kernel)
  have hrow : ⟨7, some "+4912345678", true⟩ ∈ c.store.users := hrun ▸ List.mem_cons_self
  obtain ⟨⟨check, hcheck, huser, hphone, -⟩, hother⟩ := phone_proven sound_twoUsers hr hrow rfl
  exact ⟨c, _, hrow, rfl, rfl, check, hcheck, huser, (Option.some.inj hphone).symm, hother⟩

end Runs

end MeeoServer.Auth.Phone
