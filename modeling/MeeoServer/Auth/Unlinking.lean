/-
# Unlinking a sign-in method

`unlinkProvider` of `auth/authSession.service.ts`.  The methods that a user has left are counted
when the user is read; what the transaction deletes is found among the accounts that were read.

The cached contexts, which are invalidated afterwards, are those of Auth/ContextCache.
-/
import MeeoServer.Auth.Accounts
import MeeoServer.Process.Interleaving

namespace MeeoServer.Unlinking

open Proc

variable {η : Type}

inductive AuthProvider where
  | password
  | google
deriving DecidableEq

/-- `provider.toLowerCase()` -/
def AuthProvider.label : AuthProvider → String
  | password => "password"
  | google => "google"

/-! ## Methods -/

section Methods

variable (u : User η) (provider : AuthProvider)

def account : Option (AuthAccount η) :=
  match provider with
  | .password => u.passwordAccount
  | .google => u.googleAccount

def authAccounts : List (AuthAccount η) := u.passwordAccount.toList ++ u.googleAccount.toList

def hasLegacyPassword : Bool := u.passwordHash.isSome && u.passwordAccount.isNone

def effectiveCount : ℕ :=
  (authAccounts u).length + if hasLegacyPassword u then 1 else 0

/-- A password, legacy or linked, or a linked Google account. -/
def HasMethod : Prop :=
  u.passwordHash.isSome ∨ u.passwordAccount.isSome ∨ u.googleAccount.isSome

/-- A method besides those of this provider. -/
def HasOther : Prop :=
  match provider with
  | .password => u.googleAccount.isSome
  | .google => u.passwordHash.isSome ∨ u.passwordAccount.isSome

instance : Decidable (HasMethod u) := by
  unfold HasMethod
  infer_instance

instance : Decidable (HasOther u provider) := by
  unfold HasOther
  split <;> infer_instance

/-- The user after the transaction; `deleted` says whether there was an account to delete. -/
def withoutProvider (deleted : Bool) : User η :=
  match provider with
  | .password => { u with
      passwordHash := none
      passwordAccount := if deleted then none else u.passwordAccount }
  | .google => { u with googleAccount := if deleted then none else u.googleAccount }

end Methods

/-! ## The transaction -/

/-- The transaction of a call, with the user that the call has read. -/
structure Unlink (η : Type) where
  userId : UserId
  user : User η
  provider : AuthProvider

/-- It fails if the account that was read is not there any more. -/
def Unlink.apply (c : Unlink η) (s : AuthStore η) : Option (AuthStore η) :=
  s.users[c.userId]?.bind fun current =>
    match account c.user c.provider with
    | none => some (s.setUser c.userId (withoutProvider current c.provider false))
    | some targetAccount =>
      if (account current c.provider).map AuthAccount.providerAccountId =
          some targetAccount.providerAccountId then
        some (s.setUser c.userId (withoutProvider current c.provider true))
      else none

abbrev Service (η α : Type) := Proc (AuthStore η) (Unlink η) AppError α

def unlinkProvider (userId : UserId) (provider : AuthProvider) : Service η Unit := do
  let s ← Proc.read
  match s.findUser userId with
  | none => throw ⟨"User not found", 404⟩
  | some user =>
    -- Security rule: Never allow removing the last remaining authentication method
    if effectiveCount user ≤ 1 then throw ⟨"Cannot remove your only sign-in method", 400⟩
    else if (account user provider).isNone &&
        !(provider = .password && user.passwordHash.isSome) then
      throw ⟨s!"No {provider.label} authentication method linked to your account", 404⟩
    else do
      let _ ← Proc.commit ⟨userId, user, provider⟩
      pure ()

/-- Any number of calls, by any users. -/
def accountServer (η : Type) :
    Machine (AuthStore η) (Unlink η) AppError (UserId × AuthProvider) Empty where
  apply := Unlink.apply
  proc call := unlinkProvider call.1 call.2
  environ e := e.elim

/-! ## The last method -/

/-- The other methods that the call has counted are still there. -/
def OtherKept (s : AuthStore η) (c : Unlink η) : Prop :=
  HasOther c.user c.provider → ∀ current ∈ s.users[c.userId]?, HasOther current c.provider

/-- The user has a sign-in method. -/
def CanSignIn (userId : UserId) (s : AuthStore η) : Prop :=
  ∃ u, s.users[userId]? = some u ∧ HasMethod u

instance (s : AuthStore η) (c : Unlink η) : Decidable (OtherKept s c) := by
  unfold OtherKept
  infer_instance

instance (userId : UserId) (s : AuthStore η) : Decidable (CanSignIn userId s) :=
  decidable_of_iff (∃ u ∈ s.users[userId]?, HasMethod u) Iff.rfl

section Unlinked

variable {u : User η} {provider : AuthProvider} {deleted : Bool} {s s' : AuthStore η}
  {c : Unlink η} {userId : UserId}

/-- What is counted is at most one method of each kind. -/
lemma hasOther_of_effectiveCount (h : 1 < effectiveCount u) : HasOther u provider := by
  unfold effectiveCount authAccounts hasLegacyPassword at h
  unfold HasOther
  cases hpassword : u.passwordAccount <;> cases hgoogle : u.googleAccount <;>
    cases hhash : u.passwordHash <;> cases provider <;> simp [hpassword, hgoogle, hhash] at h ⊢

lemma hasMethod_withoutProvider (h : HasOther u provider) :
    HasMethod (withoutProvider u provider deleted) := by
  cases provider with
  | password => exact Or.inr (Or.inr h)
  | google => exact h.imp_right Or.inl

/-- Where no other method is left, none is left afterwards, unless a password account has been
linked since the call has read the user. -/
lemma not_hasMethod_withoutProvider (hother : ¬HasOther u provider)
    (h : deleted = false → provider = .password ∧ u.passwordAccount = none) :
    ¬HasMethod (withoutProvider u provider deleted) := by
  cases provider with
  | password =>
    rintro (hhash | haccount | hgoogle)
    · exact nomatch hhash
    · cases deleted with
      | false =>
        have hnone := (h rfl).2
        simp [withoutProvider, hnone] at haccount
      | true => exact nomatch haccount
    · exact hother hgoogle
  | google =>
    have hdeleted : deleted = true := by
      by_contra hfalse
      exact nomatch (h (Bool.eq_false_iff.mpr hfalse)).1
    subst hdeleted
    rintro (hhash | haccount | hgoogle)
    · exact hother (Or.inl hhash)
    · exact hother (Or.inr haccount)
    · exact nomatch hgoogle

/-- What a transaction does to the users. -/
lemma Unlink.apply_eq_some (h : c.apply s = some s') :
    ∃ current, s.users[c.userId]? = some current ∧ s' = s.setUser c.userId
      (withoutProvider current c.provider (account c.user c.provider).isSome) := by
  obtain ⟨current, hcurrent, h⟩ := Option.bind_eq_some_iff.mp h
  split at h
  · rename_i hnone
    rw [hnone]
    exact ⟨current, hcurrent, (Option.some.inj h).symm⟩
  · rename_i targetAccount hsome
    obtain ⟨-, h⟩ := Option.ite_none_right_eq_some.mp h
    rw [hsome]
    exact ⟨current, hcurrent, (Option.some.inj h).symm⟩

lemma users_setUser {current : User η} (h : s.users[userId]? = some current) :
    (s.setUser userId u).users[userId]? = some u := by
  rw [AuthStore.setUser_users, List.getElem?_set_self (List.getElem?_eq_some_iff.mp h).1]

lemma canSignIn_of_apply (hother : HasOther c.user c.provider) (hkept : OtherKept s c)
    (happ : c.apply s = some s') (h : CanSignIn userId s) : CanSignIn userId s' := by
  obtain ⟨current, hcurrent, rfl⟩ := Unlink.apply_eq_some happ
  obtain ⟨u, hu, hmethod⟩ := h
  by_cases hid : c.userId = userId
  · subst hid
    exact ⟨_, users_setUser hcurrent, hasMethod_withoutProvider (hkept hother current hcurrent)⟩
  · refine ⟨u, ?_, hmethod⟩
    rw [AuthStore.setUser_users, List.getElem?_set_ne hid]
    exact hu

/-- One transaction leaves the user a method exactly if the others are still there; here no
password has been linked to the user since. -/
lemma canSignIn_apply_iff (hother : HasOther c.user c.provider) (happ : c.apply s = some s')
    (hlinked : account c.user c.provider = none → c.provider = .password ∧
      ∀ current ∈ s.users[c.userId]?, current.passwordAccount = none) :
    CanSignIn c.userId s' ↔ OtherKept s c := by
  obtain ⟨current, hcurrent, rfl⟩ := Unlink.apply_eq_some happ
  constructor
  · rintro ⟨u, hu, hmethod⟩ - current' hcurrent'
    rw [users_setUser hcurrent] at hu
    obtain rfl := Option.some.inj hu
    obtain rfl := Option.some.inj (hcurrent.symm.trans hcurrent')
    by_contra hlost
    refine not_hasMethod_withoutProvider hlost (fun hdeleted => ?_) hmethod
    obtain ⟨hprovider, hnone⟩ := hlinked (Option.not_isSome_iff_eq_none.mp
      (Bool.eq_false_iff.mp hdeleted))
    exact ⟨hprovider, hnone current hcurrent⟩
  · intro hkept
    exact ⟨_, users_setUser hcurrent, hasMethod_withoutProvider (hkept hother current hcurrent)⟩

end Unlinked

section Runs

/-- A call commits only what it has counted to leave another method. -/
lemma accountServer_rely (Cond : AuthStore η → Unlink η → Prop) :
    Rely (accountServer η) (fun _ => True) Cond (fun _ _ => True)
      fun _ _ c => HasOther c.user c.provider where
  refl _ := trivial
  trans _ _ := trivial
  env e := e.elim
  commit _ _ _ _ := trivial
  emits call s _ := by
    show (unlinkProvider call.1 call.2).Emits Unlink.apply _ _ _ Proc.Any s
    refine emits_read fun s _ => ?_
    split
    · exact emits_throw
    · rename_i user _
      split
      · exact emits_throw
      · rename_i hcount
        split
        · exact emits_throw
        · refine emits_commit (fun _ _ => ?_) fun _ _ _ _ _ => emits_pure
          exact hasOther_of_effectiveCount (not_le.mp hcount)

/-- **A user always keeps a way to sign in**, in every run whose transactions find the other
methods that were counted. -/
theorem canSignIn_of_reachable {s₀ : AuthStore η}
    {cfg : Config (AuthStore η) (Unlink η) AppError} {userId : UserId}
    (hr : (accountServer η).Reachable (fun _ => True) OtherKept s₀ cfg)
    (h : CanSignIn userId s₀) : CanSignIn userId cfg.store := by
  refine (accountServer_rely OtherKept).invariant hr h (fun e => e.elim) ?_
  intro _ s c s' _ hother hkept happ hs
  exact canSignIn_of_apply hother hkept happ hs

end Runs

/-- A user with a linked Google account and a password from before accounts. -/
def legacyUser : AuthStore String where
  clock := 0
  users := [⟨some "a@b.in", none, none, none, some "secret", true, .active, false, none,
    some ⟨"g", none⟩⟩]
  sessions := []
  otps _ := none
  outbox := []

/-- The Google account is unlinked, and then the password cannot be. -/
theorem canSignIn_of_reachable_legacy : ∃ cfg,
    (accountServer String).Reachable (fun _ => True) OtherKept legacyUser cfg ∧
      (cfg.store.users.map fun u => u.googleAccount.isSome) = [false] ∧
      CanSignIn 0 cfg.store := by
  obtain ⟨cfg, hr, hstore⟩ := (accountServer String).exists_reachable_of_exec (fun _ => True)
    OtherKept [.call (0, .google), .step 0 .ok, .step 0 .ok, .call (0, .password), .step 1 .ok]
    legacyUser (fun s => s.users.map fun u => u.googleAccount.isSome) [false] (by decide +kernel)
  exact ⟨cfg, hr, hstore, canSignIn_of_reachable hr (by decide +kernel)⟩

/-- Both calls count before either deletes. -/
theorem last_method_unlinked : ¬∀ (η : Type) (s₀ : AuthStore η)
    (cfg : Config (AuthStore η) (Unlink η) AppError) (userId : UserId),
    (accountServer η).Reachable (fun _ => True) Free s₀ cfg →
    CanSignIn userId s₀ → CanSignIn userId cfg.store := by
  intro h
  obtain ⟨cfg, hr, hlost⟩ := (accountServer String).exists_reachable_of_exec (fun _ => True) Free
    [.call (0, .password), .call (0, .google), .step 0 .ok, .step 1 .ok, .step 0 .ok, .step 1 .ok]
    legacyUser (fun s => decide (CanSignIn 0 s)) false (by decide +kernel)
  exact of_decide_eq_false hlost (h String legacyUser cfg 0 hr (by decide +kernel))

end MeeoServer.Unlinking
