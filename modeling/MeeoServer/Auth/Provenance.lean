/-
# Whose password opens an account

The owner of an address and an attacker make requests in any order.  Codes and Google
identities reach the owner alone; passwords and sessions are held by whoever submitted them or
was given them.

An account that was registered for the address may carry the attacker's password, and the two
ways of verifying the address keep whatever is stored.  In the runs in which the address is only
verified while the stored password is one of the owner's, and the attacker never changes a
password by presenting the right one, every login to the account uses a password that the owner
has submitted.
-/
import MeeoServer.Auth.SignIn
import Mathlib.Logic.Relation

namespace MeeoServer

open Relation

inductive Party where
  | owner
  | attacker
deriving DecidableEq

/-- The store, and what the parties have done: the passwords the owner has submitted, and who
was given each session. -/
structure Journal (η : Type) where
  store : AuthStore η
  submitted : List String
  holder : SessionId → Option Party

section Steps

variable {η : Type} (hasher : PasswordHasher η)

/-- A session goes to whoever is answered with its tokens. -/
def Answer.hands (party : Party) (holder : SessionId → Option Party) (answer : Answer) :
    SessionId → Option Party :=
  match answer.data with
  | .signedIn _ sessionId => Function.update holder sessionId (some party)
  | _ => holder

/-- The journal after a request: what a failed request submits is not stored. -/
def Journal.request (j : Journal η) (party : Party) (r : AuthRequest) (otp : String) :
    Journal η :=
  match r.handle hasher j.store otp with
  | .error _ => j
  | .ok (answer, t) =>
    { store := t
      submitted := if party = .owner then j.submitted ++ r.submits.toList else j.submitted
      holder := answer.hands party j.holder }

/-- What the parties can do.  Nobody uses a session or a Google identity of the other party;
Google vouches for the address only to its owner; and a code for the address that the attacker
presents is wrong. -/
structure Permitted (E : Email) (identity : String → Party) (j : Journal η) (party : Party)
    (r : AuthRequest) : Prop where
  session : ∀ access ∈ r.access, j.holder access.sessionId = some party
  google : ∀ googleUser ∈ r.googleUser, identity googleUser.googleId = party ∧
    (googleUser.email = E → party = .owner)
  code : party = .attacker → ∀ x ∈ r.presents, x.1.email = E →
    j.store.acceptsOtp x.1 x.2 = false

inductive Journal.Step (E : Email) (identity : String → Party)
    (Cond : Journal η → Party → AuthRequest → Prop) : Journal η → Journal η → Prop
  | tick (j : Journal η) (elapsed : Millis) :
    Step E identity Cond j
      { j with store := { j.store with clock := j.store.clock + elapsed } }
  | request (j : Journal η) (party : Party) (r : AuthRequest) (otp : String) :
    Permitted E identity j party r → Cond j party r →
      Step E identity Cond j (j.request hasher party r otp)

end Steps

/-! ## The condition on a run -/

section Conditions

variable {η : Type} (hasher : PasswordHasher η) (E : Email)

/-- The password that a login compares with, if there is one, was submitted by the owner. -/
def OwnersPassword (submitted : List String) (u : User η) : Prop :=
  ∀ stored ∈ u.hashToVerify, ∃ password ∈ submitted, stored = hasher.hash password

/-- The address is verified only while the stored password is the owner's. -/
def VerifiesOwned (j : Journal η) : AuthRequest → Prop
  | .verifyOtp email otp =>
    email = E → j.store.acceptsOtp (.userOtp E) otp = true →
      ∀ u ∈ j.store.users, u.email = some E → OwnersPassword hasher j.submitted u
  | .authenticateWithGoogle googleUser =>
    googleUser.email = E → j.store.findGoogleAccount googleUser.googleId = none →
      ∀ u ∈ j.store.users, u.email = some E → OwnersPassword hasher j.submitted u
  | _ => True

/-- The request changes no password of the address: what it presents is not the current one. -/
def ChangesNothing (j : Journal η) : AuthRequest → Prop
  | .changePassword access currentPassword _ =>
    ∀ userId ∈ j.store.sessionUsers[access.sessionId]?, ∀ u ∈ j.store.users[userId]?,
      u.email = some E → ∀ stored ∈ u.hashToVerify, hasher.verify stored currentPassword = false
  | _ => True

/-- The condition: the address is verified with the owner's password in place, and the attacker
does not change it. -/
def Careful (j : Journal η) (party : Party) (r : AuthRequest) : Prop :=
  VerifiesOwned hasher E j r ∧ (party = .attacker → ChangesNothing hasher E j r)

end Conditions

/-! ## What holds in every reachable journal -/

section Invariant

variable {η : Type} (hasher : PasswordHasher η) (E : Email) (identity : String → Party)

/-- An account for the address: once the address is verified, its password is the owner's; and
an identity of the attacker is linked to it only where there is a password. -/
structure Guarded (submitted : List String) (u : User η) : Prop where
  owned : u.emailVerified = true → OwnersPassword hasher submitted u
  google : ∀ a ∈ u.googleAccount, identity a.providerAccountId = .attacker →
    u.hashToVerify.isSome = true

/-- Every account for the address is guarded, and the attacker has been given a session of one
only where there is a password. -/
structure Traced (users : List (User η)) (sessionUsers : List UserId) (submitted : List String)
    (holder : SessionId → Option Party) : Prop where
  bound : ∀ userId ∈ sessionUsers, userId < users.length
  guarded : ∀ u ∈ users, u.email = some E → Guarded hasher identity submitted u
  sessions : ∀ (id : SessionId) (userId : UserId), sessionUsers[id]? = some userId →
    holder id = some .attacker → ∀ u, users[userId]? = some u → u.email = some E →
      u.hashToVerify.isSome = true

/-- The journal is traced. -/
def Journal.Traced (j : Journal η) : Prop :=
  MeeoServer.Traced hasher E identity j.store.users j.store.sessionUsers j.submitted j.holder

variable {hasher E identity} {users : List (User η)} {sessionUsers : List UserId}
  {submitted : List String} {holder : SessionId → Option Party}

lemma OwnersPassword.mono {u : User η} (h : OwnersPassword hasher submitted u)
    (more : List String) : OwnersPassword hasher (submitted ++ more) u := by
  intro stored hstored
  obtain ⟨password, hpassword, heq⟩ := h stored hstored
  exact ⟨password, List.mem_append_left _ hpassword, heq⟩

/-- A user with a new password of the owner. -/
lemma ownersPassword_of_submitted {u : User η} {password : String}
    (hu : u.hashToVerify = some (hasher.hash password)) :
    OwnersPassword hasher (submitted ++ [password]) u := by
  intro stored hstored
  rw [hu, Option.mem_some_iff] at hstored
  exact ⟨password, List.mem_append_right _ (List.mem_singleton_self _), hstored.symm⟩

/-- A user whose password and address have not changed is guarded as before. -/
lemma Guarded.congr {u u' : User η} (h : Guarded hasher identity submitted u)
    (hhash : u'.hashToVerify = u.hashToVerify) (hverified : u'.emailVerified = u.emailVerified)
    (hgoogle : u'.googleAccount = u.googleAccount) : Guarded hasher identity submitted u' := by
  refine ⟨fun hv => ?_, fun a ha hid => ?_⟩
  · unfold OwnersPassword
    rw [hhash]
    exact h.owned (hverified ▸ hv)
  · rw [hhash]
    exact h.google a (hgoogle ▸ ha) hid

namespace Traced

lemma mono (h : Traced hasher E identity users sessionUsers submitted holder)
    (more : List String) :
    Traced hasher E identity users sessionUsers (submitted ++ more) holder := by
  refine ⟨h.bound, fun u hu hE => ?_, h.sessions⟩
  have hguarded := h.guarded u hu hE
  exact ⟨fun hv => (hguarded.owned hv).mono more, hguarded.google⟩

/-- One user changes, but keeps the address and does not lose its password. -/
lemma set (h : Traced hasher E identity users sessionUsers submitted holder) {i : ℕ}
    {u u' : User η} (hu : users[i]? = some u) (hemail : u'.email = u.email)
    (hguarded : u.email = some E → Guarded hasher identity submitted u')
    (hsome : u.hashToVerify.isSome = true → u'.hashToVerify.isSome = true) :
    Traced hasher E identity (users.set i u') sessionUsers submitted holder := by
  have hlt : i < users.length := (List.getElem?_eq_some_iff.mp hu).1
  refine ⟨?_, fun v hv hE => ?_, fun id userId hid hholder v hv hE => ?_⟩
  · simpa using h.bound
  · rcases List.mem_or_eq_of_mem_set hv with hv | rfl
    · exact h.guarded v hv hE
    · exact hguarded (hemail ▸ hE)
  · by_cases heq : i = userId
    · subst heq
      obtain rfl : u' = v := by simpa [hlt] using hv
      exact hsome (h.sessions id i hid hholder u hu (hemail ▸ hE))
    · rw [List.getElem?_set_ne heq] at hv
      exact h.sessions id userId hid hholder v hv hE

/-- A user is given a new password. -/
lemma withPassword (h : Traced hasher E identity users sessionUsers submitted holder) {i : ℕ}
    {u : User η} (hu : users[i]? = some u) (providerAccountId : String) (passwordHash : η)
    (howned : u.email = some E →
      OwnersPassword hasher submitted (Auth.withPassword u providerAccountId passwordHash)) :
    Traced hasher E identity (users.set i (Auth.withPassword u providerAccountId passwordHash))
      sessionUsers submitted holder :=
  h.set hu rfl (fun hE => ⟨fun _ => howned hE, fun _ _ _ => rfl⟩) fun _ => rfl

/-- A new user; no session refers to it yet. -/
lemma append (h : Traced hasher E identity users sessionUsers submitted holder) {u : User η}
    (hguarded : u.email = some E → Guarded hasher identity submitted u) :
    Traced hasher E identity (users ++ [u]) sessionUsers submitted holder := by
  refine ⟨fun userId hmem => ?_, fun v hv hE => ?_, fun id userId hid hholder v hv hE => ?_⟩
  · have hlt := h.bound userId hmem
    rw [List.length_append]
    exact Nat.lt_of_lt_of_le hlt (Nat.le_add_right _ _)
  · rcases List.mem_append.mp hv with hv | hv
    · exact h.guarded v hv hE
    · obtain rfl := List.mem_singleton.mp hv
      exact hguarded hE
  · have hlt := h.bound userId (List.mem_of_getElem? hid)
    rw [List.getElem?_append_left hlt] at hv
    exact h.sessions id userId hid hholder v hv hE

/-- A new session, given to a party. -/
lemma open_session (h : Traced hasher E identity users sessionUsers submitted holder)
    {userId : UserId} {u : User η} (hu : users[userId]? = some u) (party : Party)
    (hattacker : party = .attacker → u.email = some E → u.hashToVerify.isSome = true) :
    Traced hasher E identity users (sessionUsers ++ [userId]) submitted
      (Function.update holder sessionUsers.length (some party)) := by
  refine ⟨fun v hv => ?_, h.guarded, fun id v hid hholder w hw hE => ?_⟩
  · rcases List.mem_append.mp hv with hv | hv
    · exact h.bound v hv
    · obtain rfl := List.mem_singleton.mp hv
      exact (List.getElem?_eq_some_iff.mp hu).1
  · by_cases hlt : id < sessionUsers.length
    · rw [List.getElem?_append_left hlt] at hid
      rw [Function.update_of_ne (Nat.ne_of_lt hlt)] at hholder
      exact h.sessions id v hid hholder w hw hE
    · have hlast : id = sessionUsers.length ∧ userId = v := by
        rw [List.getElem?_append_right (Nat.le_of_not_lt hlt), List.getElem?_singleton] at hid
        obtain ⟨hzero, hv⟩ := Option.ite_none_right_eq_some.mp hid
        exact ⟨Nat.le_antisymm (Nat.le_of_sub_eq_zero hzero) (Nat.le_of_not_lt hlt),
          Option.some.inj hv⟩
      obtain ⟨rfl, rfl⟩ := hlast
      rw [Function.update_self, Option.some.injEq] at hholder
      rw [hu, Option.some.injEq] at hw
      subst hw
      exact hattacker hholder hE

/-- The store and the holders after a sign-in. -/
lemma signedIn {s t : AuthStore η} {message : String} {v u : User η} {userId : UserId}
    {answer : Answer} {party : Party}
    (h : Traced hasher E identity s.users s.sessionUsers submitted holder)
    (hsigned : (answer, t) = Auth.signedIn s message v userId)
    (hu : s.users[userId]? = some u)
    (hattacker : party = .attacker → u.email = some E → u.hashToVerify.isSome = true) :
    Traced hasher E identity t.users t.sessionUsers submitted (answer.hands party holder) := by
  obtain ⟨rfl, rfl⟩ := Prod.ext_iff.mp hsigned
  have hlength : s.sessions.length = s.sessionUsers.length := (List.length_map _).symm
  have hopen := h.open_session hu party hattacker
  rw [← hlength] at hopen
  simpa [Auth.signedIn, Answer.hands] using hopen

end Traced

/-! ## One request -/

variable {j : Journal η} {party : Party} {t : AuthStore η} {answer : Answer}
  {email : Email} {otp password : String}

/-- The passwords of the owner after a successful request. -/
def Journal.submissions (j : Journal η) (party : Party) (password : Option String) :
    List String :=
  if party = .owner then j.submitted ++ password.toList else j.submitted

lemma submissions_none {r : AuthRequest} (h : r.submits = none) :
    j.submissions party r.submits = j.submitted := by
  unfold Journal.submissions
  rw [h, Option.toList_none, List.append_nil, ite_self]

/-- Submissions only add to what the owner has submitted. -/
lemma Journal.Traced.submissions (h : j.Traced hasher E identity) (party : Party)
    (password : Option String) :
    MeeoServer.Traced hasher E identity j.store.users j.store.sessionUsers
      (j.submissions party password) j.holder := by
  unfold Journal.submissions
  split
  · exact h.mono _
  · exact h

lemma Journal.Traced.register (h : j.Traced hasher E identity) {firstName lastName : String}
    (hok : Auth.register hasher j.store firstName lastName email password otp =
      .ok (answer, t)) :
    MeeoServer.Traced hasher E identity t.users t.sessionUsers
      (j.submissions party (some password)) (answer.hands party j.holder) := by
  have htraced := h.submissions party (some password)
  rcases Auth.register_eq_ok hok with ⟨r, user, hr, hverified, rfl, hresult⟩ |
    ⟨user, -, rfl, hresult⟩
  · obtain ⟨rfl, rfl⟩ := Prod.ext_iff.mp hresult
    obtain ⟨hrow, -⟩ := j.store.findByEmail_eq_some hr
    -- the account is not verified yet
    refine htraced.set hrow rfl (fun _ => ⟨fun hv => ?_, fun _ _ _ => rfl⟩) fun _ => rfl
    exact absurd (hverified.symm.trans hv) Bool.false_ne_true
  · obtain ⟨rfl, rfl⟩ := Prod.ext_iff.mp hresult
    refine htraced.append fun _ => ⟨fun hv => ?_, fun _ _ _ => rfl⟩
    exact absurd hv Bool.false_ne_true

lemma Journal.Traced.verifyOtp (h : j.Traced hasher E identity)
    (hcareful : VerifiesOwned hasher E j (.verifyOtp email otp))
    (hok : Auth.verifyOtp j.store email otp = .ok (answer, t)) :
    MeeoServer.Traced hasher E identity t.users t.sessionUsers j.submitted
      (answer.hands party j.holder) := by
  obtain ⟨haccepts, r, hr, hresult⟩ := Auth.verifyOtp_eq_ok hok
  obtain ⟨rfl, rfl⟩ := Prod.ext_iff.mp hresult
  obtain ⟨hrow, hemail⟩ := j.store.findByEmail_eq_some hr
  have hmem := List.mem_of_getElem? hrow
  refine MeeoServer.Traced.set h hrow rfl (fun hE => ⟨fun _ => ?_, ?_⟩) id
  · obtain rfl : email = E := Option.some.inj (hemail.symm.trans hE)
    exact hcareful rfl haccepts r.val hmem hE
  · exact (h.guarded r.val hmem hE).google

lemma Journal.Traced.resetPassword (h : j.Traced hasher E identity)
    (hp : Permitted E identity j party (.resetPassword email otp password))
    (hok : Auth.resetPassword hasher j.store email otp password = .ok (answer, t)) :
    MeeoServer.Traced hasher E identity t.users t.sessionUsers
      (j.submissions party (some password)) (answer.hands party j.holder) := by
  obtain ⟨haccepts, r, user, hr, rfl, hresult⟩ := Auth.resetPassword_eq_ok hok
  obtain ⟨rfl, rfl⟩ := Prod.ext_iff.mp hresult
  obtain ⟨hrow, hemail⟩ := j.store.findByEmail_eq_some hr
  have htraced := (h.submissions party (some password)).withPassword hrow
    (r.val.email.getD email) (hasher.hash password) fun hE => by
      obtain rfl : email = E := Option.some.inj (hemail.symm.trans hE)
      cases party with
      | owner => exact ownersPassword_of_submitted rfl
      | attacker =>
        have hwrong := hp.code rfl _ rfl rfl
        rw [haccepts] at hwrong
        cases hwrong
  simpa [Answer.hands] using htraced

lemma Journal.Traced.login (h : j.Traced hasher E identity)
    (hok : Auth.login hasher j.store email password = .ok (answer, t)) :
    MeeoServer.Traced hasher E identity t.users t.sessionUsers j.submitted
      (answer.hands party j.holder) := by
  obtain ⟨r, hashToVerify, hrow, -, hhash, -, -, hresult⟩ := Auth.login_eq_ok hok
  have hlt : r.id < j.store.users.length := (List.getElem?_eq_some_iff.mp hrow).1
  rcases Auth.migratePassword_cases j.store r hhash with hsame |
    ⟨user, hset, hsamehash, hemail, hverified, hgoogle⟩
  · rw [hsame] at hresult
    exact MeeoServer.Traced.signedIn h hresult hrow fun _ _ => by simp [hhash]
  · rw [hset] at hresult
    have hmigrated : MeeoServer.Traced hasher E identity (j.store.users.set r.id user)
        j.store.sessionUsers j.submitted j.holder := by
      refine MeeoServer.Traced.set h hrow hemail (fun hE => ?_) fun hsome => ?_
      · exact (h.guarded r.val (List.mem_of_getElem? hrow) hE).congr hsamehash hverified hgoogle
      · rw [hsamehash]
        exact hsome
    have hrow' : (j.store.users.set r.id user)[r.id]? = some user := by simp [hlt]
    refine MeeoServer.Traced.signedIn hmigrated hresult hrow' fun _ _ => ?_
    rw [hsamehash, hhash]
    rfl

lemma Journal.Traced.authenticateWithGoogle (h : j.Traced hasher E identity)
    {googleUser : VerifiedGoogleUser}
    (hp : Permitted E identity j party (.authenticateWithGoogle googleUser))
    (hcareful : VerifiesOwned hasher E j (.authenticateWithGoogle googleUser))
    (hok : Auth.authenticateWithGoogle j.store googleUser = .ok (answer, t)) :
    MeeoServer.Traced hasher E identity t.users t.sessionUsers j.submitted
      (answer.hands party j.holder) := by
  obtain ⟨hidentity, hvouch⟩ := hp.google googleUser rfl
  rcases Auth.authenticateWithGoogle_eq_ok hok with ⟨r, hr, hresult⟩ |
    ⟨r, linked, hnone, hrow, hemail, rfl, hresult⟩ | hresult
  · obtain ⟨hrow, a, ha, hid⟩ := j.store.findGoogleAccount_eq_some hr
    refine MeeoServer.Traced.signedIn h hresult hrow fun hattacker hE => ?_
    refine (h.guarded r.val (List.mem_of_getElem? hrow) hE).google a ha ?_
    rw [hid, hidentity, hattacker]
  · have hmem := List.mem_of_getElem? hrow
    have hlt : r.id < j.store.users.length := (List.getElem?_eq_some_iff.mp hrow).1
    -- if the account is for the address, then Google vouches for the owner
    have howner : r.val.email = some E → party = .owner := fun hE =>
      hvouch (Option.some.inj (hemail.symm.trans hE))
    have hlinked : MeeoServer.Traced hasher E identity
        (j.store.users.set r.id (Auth.linkedCustomer r.val googleUser)) j.store.sessionUsers
        j.submitted j.holder := by
      refine MeeoServer.Traced.set h hrow rfl (fun hE => ⟨fun _ => ?_, ?_⟩) id
      · have hE' : googleUser.email = E := Option.some.inj (hemail.symm.trans hE)
        exact hcareful hE' hnone r.val hmem hE
      · rintro a ⟨⟩ hattacker
        rw [hidentity, howner hE] at hattacker
        cases hattacker
    have hrow' : (j.store.users.set r.id (Auth.linkedCustomer r.val googleUser))[r.id]? =
        some (Auth.linkedCustomer r.val googleUser) := by simp [hlt]
    refine MeeoServer.Traced.signedIn hlinked hresult hrow' fun hattacker hE => ?_
    rw [howner hE] at hattacker
    cases hattacker
  · have hnew : (Auth.googleCustomer googleUser : User η).email = some E → party = .owner :=
      fun hE => hvouch (Option.some.inj hE)
    have hcreated : MeeoServer.Traced hasher E identity
        (j.store.users ++ [Auth.googleCustomer googleUser]) j.store.sessionUsers j.submitted
        j.holder := by
      refine MeeoServer.Traced.append h fun hE => ⟨fun _ => ?_, ?_⟩
      · rintro stored ⟨⟩
      · rintro a ⟨⟩ hattacker
        rw [hidentity, hnew hE] at hattacker
        cases hattacker
    have hrow : (j.store.users ++ [Auth.googleCustomer googleUser])[j.store.users.length]? =
        some (Auth.googleCustomer googleUser) := by simp
    refine MeeoServer.Traced.signedIn hcreated hresult hrow fun hattacker hE => ?_
    rw [hnew hE] at hattacker
    cases hattacker

/-- The session of a request that was let in belongs to the party. -/
lemma Permitted.attacker_session (h : j.Traced hasher E identity) {r : AuthRequest}
    (hp : Permitted E identity j .attacker r) {access : Access} (haccess : access ∈ r.access)
    {userId : UserId} {u : User η} (hsession : j.store.sessionUsers[access.sessionId]? = some userId)
    (hu : j.store.users[userId]? = some u) (hE : u.email = some E) :
    u.hashToVerify.isSome = true :=
  h.sessions access.sessionId userId hsession (hp.session access haccess) u hu hE

lemma Journal.Traced.setPassword (h : j.Traced hasher E identity) {access : Access}
    (hp : Permitted E identity j party (.setPassword access password))
    (hok : Auth.setPassword hasher j.store access password = .ok (answer, t)) :
    MeeoServer.Traced hasher E identity t.users t.sessionUsers
      (j.submissions party (some password)) (answer.hands party j.holder) := by
  obtain ⟨userId, u, hsession, hu, hnone, hresult⟩ := Auth.setPassword_eq_ok hok
  obtain ⟨rfl, rfl⟩ := Prod.ext_iff.mp hresult
  refine (h.submissions party (some password)).withPassword hu _ _ fun hE => ?_
  cases party with
  | owner => exact ownersPassword_of_submitted rfl
  | attacker =>
    have hsome := hp.attacker_session h rfl hsession hu hE
    rw [hnone] at hsome
    cases hsome

lemma Journal.Traced.changePassword (h : j.Traced hasher E identity) {access : Access}
    {currentPassword newPassword : String}
    (hcareful : party = .attacker →
      ChangesNothing hasher E j (.changePassword access currentPassword newPassword))
    (hok : Auth.changePassword hasher j.store access currentPassword newPassword =
      .ok (answer, t)) :
    MeeoServer.Traced hasher E identity t.users t.sessionUsers
      (j.submissions party (some newPassword)) (answer.hands party j.holder) := by
  obtain ⟨userId, u, currentHash, hsession, hu, hhash, hverify, hresult⟩ :=
    Auth.changePassword_eq_ok hok
  obtain ⟨rfl, rfl⟩ := Prod.ext_iff.mp hresult
  have htraced := (h.submissions party (some newPassword)).withPassword hu
    (u.email.getD (toString userId)) (hasher.hash newPassword) fun hE => by
      cases party with
      | owner => exact ownersPassword_of_submitted rfl
      | attacker =>
        have hwrong := hcareful rfl userId hsession u hu hE currentHash hhash
        rw [hverify] at hwrong
        cases hwrong
  simpa [Answer.hands] using htraced

lemma Journal.Traced.linkGoogle (h : j.Traced hasher E identity) {access : Access}
    {googleUser : VerifiedGoogleUser}
    (hp : Permitted E identity j party (.linkGoogle access googleUser))
    (hok : Auth.linkGoogle j.store access googleUser = .ok (answer, t)) :
    MeeoServer.Traced hasher E identity t.users t.sessionUsers j.submitted
      (answer.hands party j.holder) := by
  obtain ⟨userId, u, hsession, hu, hresult⟩ := Auth.linkGoogle_eq_ok hok
  obtain ⟨rfl, rfl⟩ := Prod.ext_iff.mp hresult
  have hidentity := (hp.google googleUser rfl).1
  refine MeeoServer.Traced.set h hu rfl (fun hE => ⟨?_, ?_⟩) id
  · exact (h.guarded u (List.mem_of_getElem? hu) hE).owned
  · rintro a ⟨⟩ hattacker
    obtain rfl : party = .attacker := hidentity.symm.trans hattacker
    have hsome : u.hashToVerify.isSome = true := hp.attacker_session h rfl hsession hu hE
    exact hsome

/-- The accounts and sessions are those from before. -/
lemma Journal.Traced.unchanged (h : j.Traced hasher E identity) (husers : t.users = j.store.users)
    (hsessions : t.sessionUsers = j.store.sessionUsers) (hands : answer.hands party j.holder =
      j.holder) :
    MeeoServer.Traced hasher E identity t.users t.sessionUsers j.submitted
      (answer.hands party j.holder) := by
  rw [husers, hsessions, hands]
  exact h

/-- **One request.**  What the parties can do, with the condition, keeps every account for the
address guarded. -/
theorem Journal.Traced.request (h : j.Traced hasher E identity) {r : AuthRequest}
    (hp : Permitted E identity j party r) (hcareful : Careful hasher E j party r) (otp : String) :
    (j.request hasher party r otp).Traced hasher E identity := by
  unfold Journal.request
  split
  · exact h
  rename_i answer t hok
  show MeeoServer.Traced hasher E identity t.users t.sessionUsers
    (j.submissions party r.submits) (answer.hands party j.holder)
  -- only some of the requests set a password, and the others submit none
  cases r with
  | register firstName lastName email password => exact h.register hok
  | resetPassword email code password => exact h.resetPassword hp hok
  | setPassword access password => exact h.setPassword hp hok
  | changePassword access current new => exact h.changePassword hcareful.2 hok
  | verifyOtp email code =>
    rw [submissions_none rfl]
    exact h.verifyOtp hcareful.1 hok
  | verifyResetOtp email code =>
    rw [submissions_none rfl]
    obtain ⟨-, hresult⟩ := Auth.withOtp_eq_ok hok
    obtain ⟨rfl, rfl⟩ := Prod.ext_iff.mp (Except.ok.inj hresult)
    exact h.unchanged rfl rfl rfl
  | resendOtp email =>
    rw [submissions_none rfl]
    obtain ⟨hdata, husers, hsessions⟩ := Auth.resendOtp_eq_ok hok
    exact h.unchanged husers hsessions (by simp [Answer.hands, hdata])
  | forgotPassword email =>
    rw [submissions_none rfl]
    obtain ⟨hdata, husers, hsessions⟩ := Auth.forgotPassword_eq_ok hok
    exact h.unchanged husers hsessions (by simp [Answer.hands, hdata])
  | login email password =>
    rw [submissions_none rfl]
    exact h.login hok
  | authenticateWithGoogle googleUser =>
    rw [submissions_none rfl]
    exact h.authenticateWithGoogle hp hcareful.1 hok
  | linkGoogle access googleUser =>
    rw [submissions_none rfl]
    exact h.linkGoogle hp hok

/-- A store in which nobody has used the address yet. -/
structure Untouched (E : Email) (j : Journal η) : Prop where
  address : ∀ u ∈ j.store.users, u.email ≠ some E
  bound : ∀ userId ∈ j.store.sessionUsers, userId < j.store.users.length

lemma Untouched.traced (h : Untouched E j) : j.Traced hasher E identity where
  bound := h.bound
  guarded u hu hE := absurd hE (h.address u hu)
  sessions _ _ _ _ u hu hE := absurd hE (h.address u (List.mem_of_getElem? hu))

/-- Every journal of a run is traced. -/
lemma traced_of_reachable {j₀ : Journal η} (h₀ : Untouched E j₀)
    (hr : ReflTransGen (Journal.Step hasher E identity (Careful hasher E)) j₀ j) :
    j.Traced hasher E identity := by
  induction hr with
  | refl => exact h₀.traced
  | tail _ hstep ih =>
    cases hstep with
    | tick elapsed => exact ih
    | request party r otp hp hcareful => exact ih.request hp hcareful otp

end Invariant

/-- **Password provenance.**  In the runs from a store in which nobody has used the address, in
which the address is only verified while the owner's password is stored, and the attacker does
not change that password by presenting it: every login for the address that succeeds uses a
password that the owner has submitted. -/
theorem login_password_owned {η : Type} (hasher : PasswordHasher η) (E : Email)
    (identity : String → Party) {j₀ j : Journal η} (h₀ : Untouched E j₀)
    (hr : ReflTransGen (Journal.Step hasher E identity (Careful hasher E)) j₀ j)
    {password : String} {answer : Answer} {t : AuthStore η}
    (hlogin : Auth.login hasher j.store E password = .ok (answer, t)) :
    password ∈ j.submitted := by
  obtain ⟨r, stored, hrow, hE, hhash, hverify, hverified, -⟩ := Auth.login_eq_ok hlogin
  have hguarded := (traced_of_reachable h₀ hr).guarded r.val (List.mem_of_getElem? hrow) hE
  obtain ⟨owned, hmem, rfl⟩ := hguarded.owned hverified stored hhash
  rw [hasher.verify_hash, decide_eq_true_eq] at hverify
  exact hverify ▸ hmem

/-! ## Playing a run -/

section Play

variable {η : Type} (hasher : PasswordHasher η) (E : Email)
  (identity : String → Party) (Cond : Journal η → Party → AuthRequest → Prop)
  [∀ j party r, Decidable (Cond j party r)]

instance (j : Journal η) (party : Party) (r : AuthRequest) :
    Decidable (Permitted E identity j party r) :=
  decidable_of_iff
    ((∀ access ∈ r.access, j.holder access.sessionId = some party) ∧
      (∀ googleUser ∈ r.googleUser, identity googleUser.googleId = party ∧
        (googleUser.email = E → party = .owner)) ∧
      (party = .attacker → ∀ x ∈ r.presents, x.1.email = E →
        j.store.acceptsOtp x.1 x.2 = false))
    ⟨fun h => ⟨h.1, h.2.1, h.2.2⟩, fun h => ⟨h.session, h.google, h.code⟩⟩

instance [DecidableEq η] (submitted : List String) (u : User η) :
    Decidable (OwnersPassword hasher submitted u) := by
  unfold OwnersPassword
  infer_instance

instance [DecidableEq η] (j : Journal η) (party : Party) (r : AuthRequest) :
    Decidable (Careful hasher E j party r) := by
  unfold Careful VerifiesOwned ChangesNothing
  cases r <;> infer_instance

/-- Make the requests one after another, as long as they are permitted and meet the condition. -/
def Journal.play : List (Party × AuthRequest × String) → Journal η → Option (Journal η)
  | [], j => some j
  | (party, r, otp) :: rest, j =>
    if Permitted E identity j party r ∧ Cond j party r then
      play rest (j.request hasher party r otp)
    else none

lemma steps_of_play {requests : List (Party × AuthRequest × String)} {j j' : Journal η}
    (h : j.play hasher E identity Cond requests = some j') :
    ReflTransGen (Journal.Step hasher E identity Cond) j j' := by
  induction requests generalizing j with
  | nil =>
    obtain rfl : j = j' := by simpa [Journal.play] using h
    exact ReflTransGen.refl
  | cons request requests ih =>
    obtain ⟨party, r, otp⟩ := request
    obtain ⟨⟨hp, hcond⟩, hrest⟩ := Option.ite_none_right_eq_some.mp h
    exact ReflTransGen.head (.request j party r otp hp hcond) (ih hrest)

lemma exists_of_play {α : Type} (requests : List (Party × AuthRequest × String))
    (j : Journal η) (f : Journal η → α) (a : α)
    (h : (j.play hasher E identity Cond requests).map f = some a) :
    ∃ j', ReflTransGen (Journal.Step hasher E identity Cond) j j' ∧ f j' = a := by
  obtain ⟨j', hj', hf⟩ := Option.map_eq_some_iff.mp h
  exact ⟨j', steps_of_play hasher E identity Cond hj', hf⟩

end Play

/-- Nothing has happened yet. -/
def Journal.init : Journal String := ⟨.init, [], fun _ => none⟩

lemma Journal.init_untouched (E : Email) : Untouched E Journal.init where
  address := by simp [Journal.init, AuthStore.init]
  bound := by simp [Journal.init, AuthStore.init, AuthStore.sessionUsers]

/-- The answer to a login, without the store. -/
def Journal.loginAnswer (j : Journal String) (email : Email) (password : String) :
    Option Answer :=
  (Auth.login plainHasher j.store email password).toOption.map Prod.fst

lemma Journal.login_of_answer {j : Journal String} {email : Email} {password : String}
    (h : (j.loginAnswer email password).isSome = true) :
    ∃ answer t, Auth.login plainHasher j.store email password = .ok (answer, t) := by
  unfold Journal.loginAnswer at h
  cases hlogin : Auth.login plainHasher j.store email password with
  | ok result => exact ⟨result.1, result.2, rfl⟩
  | error error => simp [hlogin, Except.toOption] at h

/-- An attacker registers the address first; the customer registers again, verifies the address
and logs in. -/
theorem login_password_owned_again :
    ∃ j, ReflTransGen (Journal.Step plainHasher "ada@shop" (fun _ => .owner)
        (Careful plainHasher "ada@shop")) .init j ∧ "lovelace" ∈ j.submitted := by
  obtain ⟨j, hr, hanswer⟩ := exists_of_play plainHasher "ada@shop" (fun _ => .owner)
    (Careful plainHasher "ada@shop")
    [(.attacker, .register "Eve" "E" "ada@shop" "secret", "1111"),
      (.owner, .register "Ada" "A" "ada@shop" "lovelace", "2222"),
      (.owner, .verifyOtp "ada@shop" "2222", "")]
    .init (fun j => (j.loginAnswer "ada@shop" "lovelace").isSome) true (by decide +kernel)
  obtain ⟨answer, t, hlogin⟩ := Journal.login_of_answer hanswer
  exact ⟨j, hr, login_password_owned plainHasher "ada@shop" (fun _ => .owner)
    (Journal.init_untouched _) hr hlogin⟩

/-- Without the condition: the attacker registers the address after the customer, who verifies
it with the newest code; the attacker's password opens the account. -/
theorem attackers_password_opens :
    ¬ ∀ (η : Type) (hasher : PasswordHasher η) (E : Email) (identity : String → Party)
      (j₀ j : Journal η) (password : String) (answer : Answer) (t : AuthStore η),
      Untouched E j₀ →
      ReflTransGen (Journal.Step hasher E identity fun _ _ _ => True) j₀ j →
      Auth.login hasher j.store E password = .ok (answer, t) → password ∈ j.submitted := by
  intro h
  obtain ⟨j, hr, hf⟩ := exists_of_play plainHasher "ada@shop" (fun _ => .owner)
    (fun _ _ _ => True)
    [(.owner, .register "Ada" "A" "ada@shop" "lovelace", "1111"),
      (.attacker, .register "Eve" "E" "ada@shop" "secret", "2222"),
      (.owner, .verifyOtp "ada@shop" "2222", "")]
    .init (fun j => ((j.loginAnswer "ada@shop" "secret").isSome, j.submitted))
    (true, ["lovelace"]) (by decide +kernel)
  obtain ⟨hanswer, hsubmitted⟩ := Prod.ext_iff.mp hf
  obtain ⟨answer, t, hlogin⟩ := Journal.login_of_answer hanswer
  have hmem := h String plainHasher "ada@shop" (fun _ => .owner) .init j "secret" answer t
    (Journal.init_untouched _) hr hlogin
  rw [show j.submitted = ["lovelace"] from hsubmitted] at hmem
  exact absurd hmem (by decide)

end MeeoServer
