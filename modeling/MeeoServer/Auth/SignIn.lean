/-
# Signing in

The endpoints that use a proof of identity: a password, an identity that Google vouches for, or
an access token.  A sign-in opens a session; what an access token proves is that its bearer was
given the session it names.
-/
import MeeoServer.Auth.Registration

namespace MeeoServer

/-- What a verified Google token says, once its signature and audience have been checked. -/
structure VerifiedGoogleUser where
  googleId : String
  email : Email
  firstName : Option String
  lastName : Option String
deriving DecidableEq

/-- An access token: the session it names, and whether its context is still in the cache. -/
structure Access where
  sessionId : SessionId
  cached : Bool
deriving DecidableEq

variable {η : Type} (hasher : PasswordHasher η) (s : AuthStore η)

namespace Auth

/-- `issueUserSessionAndTokens`: a new session, and the answer that carries its tokens. -/
def signedIn (s : AuthStore η) (message : String) (u : User η) (userId : UserId) :
    Answer × AuthStore η :=
  (⟨200, message, .signedIn (u.summary userId) s.sessions.length⟩, s.createSession userId)

/-- `Account is …` -/
def inactive (status : UserStatus) : AppError := ⟨"Account is " ++ status.label, 403⟩

/-- Give a user that has only a legacy hash a password account, unless somebody else has taken
its name. -/
def migratePassword (s : AuthStore η) (u : Row (User η)) (hashToVerify : η) : AuthStore η :=
  let providerAccountId := u.val.email.getD (toString u.id)
  if u.val.passwordAccount.isSome || s.passwordAccountTaken providerAccountId u.id then s
  else s.setUser u.id { u.val with passwordAccount := some ⟨providerAccountId, some hashToVerify⟩ }

def login (email : Email) (password : String) : AuthResult η :=
  let user := Table.findFirst (fun u => decide (u.email = some email) && !u.deleted) 0 s.users
  match user with
  | none => .error ⟨"Invalid email or password", 401⟩
  | some user =>
    match user.val.hashToVerify with
    | none => .error ⟨"Invalid email or password", 401⟩
    | some hashToVerify =>
      if hasher.verify hashToVerify password = false then
        .error ⟨"Invalid email or password", 401⟩
      else if user.val.emailVerified = false then
        .error ⟨"Please verify your email before logging in", 403⟩
      else if user.val.status ≠ .active then .error (inactive user.val.status)
      else .ok (signedIn (migratePassword s user hashToVerify) "Login successful" user.val user.id)

/-- An account for a customer that Google has introduced. -/
def googleCustomer (googleUser : VerifiedGoogleUser) : User η where
  email := some googleUser.email
  phone := none
  firstName := googleUser.firstName
  lastName := googleUser.lastName
  passwordHash := none
  emailVerified := true
  status := .active
  deleted := false
  passwordAccount := none
  googleAccount := some ⟨googleUser.googleId, none⟩

/-- An account that is linked to a Google identity with its e-mail address. -/
def linkedCustomer (u : User η) (googleUser : VerifiedGoogleUser) : User η :=
  { u with emailVerified := true, googleAccount := some ⟨googleUser.googleId, none⟩ }

def authenticateWithGoogle (googleUser : VerifiedGoogleUser) : AuthResult η :=
  let message := "Google authentication successful"
  match s.findGoogleAccount googleUser.googleId with
  | some targetUser =>
    if targetUser.val.deleted then .error ⟨"Account has been deleted", 403⟩
    else if targetUser.val.status ≠ .active then .error (inactive targetUser.val.status)
    else .ok (signedIn s message targetUser.val targetUser.id)
  | none =>
    match Table.findFirst
      (fun u => decide (u.email = some googleUser.email) && !u.deleted) 0 s.users with
    | some existing =>
      if existing.val.status ≠ .active then .error (inactive existing.val.status)
      else if existing.val.googleAccount.isSome then .error recordExists
      else
        let linked := linkedCustomer existing.val googleUser
        .ok (signedIn (s.setUser existing.id linked) message linked existing.id)
    | none =>
      -- the address may still belong to a deleted account
      if (s.findByEmail googleUser.email).isSome then .error recordExists
      else .ok (signedIn (s.createUser (googleCustomer googleUser)) message
        (googleCustomer googleUser) s.users.length)

/-- `authenticate`: the user whose session an access token names.  While the cache answers for
the session, neither its row nor the status of the user is looked at. -/
def authenticate (access : Access) : Except AppError UserId :=
  match s.sessions[access.sessionId]? with
  | none => .error ⟨"Invalid or expired session", 401⟩
  | some session =>
    if access.cached then .ok session.userId
    else
      match s.users[session.userId]? with
      | none => .error ⟨"Authentication required", 401⟩
      | some user =>
        if user.status ≠ .active then .error ⟨"Authentication required", 401⟩
        else if session.revoked then .error ⟨"Invalid or expired session", 401⟩
        else .ok session.userId

/-- What an endpoint does for the user of the session, if there is one. -/
def withSession (access : Access) (k : UserId → User η → AuthResult η) : AuthResult η :=
  match authenticate s access with
  | .error error => .error error
  | .ok userId =>
    match s.findUser userId with
    | none => .error ⟨"User not found", 404⟩
    | some user => k userId user

def setPassword (access : Access) (password : String) : AuthResult η :=
  withSession s access fun userId user =>
    if user.passwordAccount.isSome || user.passwordHash.isSome then
      .error ⟨"Password already set. Use change password instead.", 400⟩
    else
      let providerAccountId := user.email.getD (toString userId)
      if s.passwordAccountTaken providerAccountId userId then .error recordExists
      else
        .ok (⟨200, "Password set successfully", .success⟩,
          s.setUser userId (withPassword user providerAccountId (hasher.hash password)))

def changePassword (access : Access) (currentPassword newPassword : String) : AuthResult η :=
  withSession s access fun userId user =>
    match user.hashToVerify with
    | none => .error ⟨"No password set for this account. Use set password instead.", 400⟩
    | some currentHash =>
      if hasher.verify currentHash currentPassword = false then
        .error ⟨"Current password is incorrect", 400⟩
      else
        let providerAccountId := user.email.getD (toString userId)
        if user.passwordAccount.isNone && s.passwordAccountTaken providerAccountId userId then
          .error recordExists
        else
          let updated := withPassword user providerAccountId (hasher.hash newPassword)
          .ok (⟨200, "Password changed successfully", .success⟩,
            (s.setUser userId updated).revokeSessions userId fun id => id == access.sessionId)

def linkGoogle (access : Access) (googleUser : VerifiedGoogleUser) : AuthResult η :=
  withSession s access fun userId user =>
    match s.findGoogleAccount googleUser.googleId with
    | some existing =>
      if existing.id = userId then
        .error ⟨"This Google account is already linked to your profile", 400⟩
      else .error ⟨"This Google account is already linked to another user", 409⟩
    | none =>
      if user.googleAccount.isSome then
        .error ⟨"You already have a Google account linked", 400⟩
      else
        .ok (⟨200, "Google account linked successfully", .success⟩,
          s.setUser userId { user with googleAccount := some ⟨googleUser.googleId, none⟩ })

/-! ## The hash a login will compare with -/

@[simp] lemma hashToVerify_newCustomer (firstName lastName : String) (email : Email)
    (passwordHash : η) :
    (newCustomer firstName lastName email passwordHash).hashToVerify = some passwordHash := rfl

@[simp] lemma hashToVerify_refreshedCustomer (u : User η) (firstName lastName : String)
    (email : Email) (passwordHash : η) :
    (refreshedCustomer u firstName lastName email passwordHash).hashToVerify =
      some passwordHash := rfl

@[simp] lemma hashToVerify_withPassword (u : User η) (providerAccountId : String)
    (passwordHash : η) :
    (withPassword u providerAccountId passwordHash).hashToVerify = some passwordHash := rfl

@[simp] lemma hashToVerify_linkedCustomer (u : User η) (googleUser : VerifiedGoogleUser) :
    (linkedCustomer u googleUser).hashToVerify = u.hashToVerify := rfl

@[simp] lemma hashToVerify_googleCustomer (googleUser : VerifiedGoogleUser) :
    (googleCustomer googleUser : User η).hashToVerify = none := rfl

/-- The migration changes at most where the hash of the user is stored. -/
lemma migratePassword_cases (s : AuthStore η) (r : Row (User η)) {hashToVerify : η}
    (h : r.val.hashToVerify = some hashToVerify) :
    migratePassword s r hashToVerify = s ∨
      ∃ user : User η, migratePassword s r hashToVerify = s.setUser r.id user ∧
        user.hashToVerify = r.val.hashToVerify ∧ user.email = r.val.email ∧
          user.emailVerified = r.val.emailVerified ∧
            user.googleAccount = r.val.googleAccount := by
  unfold migratePassword
  dsimp only
  split
  · exact Or.inl rfl
  · exact Or.inr ⟨_, rfl, h.symm, rfl, rfl, rfl⟩

/-! ## What a successful request has done -/

section Done

variable {hasher s} {email : Email} {password : String} {access : Access} {answer : Answer}
  {t : AuthStore η}

lemma login_eq_ok (h : login hasher s email password = .ok (answer, t)) :
    ∃ r hashToVerify, s.users[r.id]? = some r.val ∧ r.val.email = some email ∧
      r.val.hashToVerify = some hashToVerify ∧ hasher.verify hashToVerify password = true ∧
        r.val.emailVerified = true ∧ (answer, t) =
          signedIn (migratePassword s r hashToVerify) "Login successful" r.val r.id := by
  unfold login at h
  dsimp only at h
  split at h
  · cases h
  rename_i r hr
  obtain ⟨hrow, huser⟩ := Table.findFirst_eq_some hr
  simp only [Bool.and_eq_true, decide_eq_true_eq] at huser
  split at h
  · cases h
  rename_i hashToVerify hhash
  split at h
  · cases h
  rename_i hverify
  split at h
  · cases h
  rename_i hverified
  split at h
  · cases h
  · exact ⟨r, hashToVerify, hrow, huser.1, hhash, by simpa using hverify,
      by simpa using hverified, (Except.ok.inj h).symm⟩

/-- A Google sign-in finds the linked account, or links the account with its address, or opens
a new one. -/
lemma authenticateWithGoogle_eq_ok {googleUser : VerifiedGoogleUser}
    (h : authenticateWithGoogle s googleUser = .ok (answer, t)) :
    (∃ r, s.findGoogleAccount googleUser.googleId = some r ∧
      (answer, t) = signedIn s "Google authentication successful" r.val r.id) ∨
    (∃ (r : Row (User η)) (linked : User η), s.findGoogleAccount googleUser.googleId = none ∧
      s.users[r.id]? = some r.val ∧ r.val.email = some googleUser.email ∧
        linked = linkedCustomer r.val googleUser ∧ (answer, t) = signedIn (s.setUser r.id linked) "Google authentication successful"
          linked r.id) ∨
    (answer, t) = signedIn (s.createUser (googleCustomer googleUser))
      "Google authentication successful" (googleCustomer googleUser) s.users.length := by
  unfold authenticateWithGoogle at h
  dsimp only at h
  split at h
  · rename_i r hr
    split at h
    · cases h
    split at h
    · cases h
    · exact Or.inl ⟨r, hr, (Except.ok.inj h).symm⟩
  rename_i hnone
  split at h
  · rename_i r hr
    obtain ⟨hrow, huser⟩ := Table.findFirst_eq_some hr
    simp only [Bool.and_eq_true, decide_eq_true_eq] at huser
    split at h
    · cases h
    split at h
    · cases h
    · exact Or.inr (Or.inl ⟨r, _, hnone, hrow, huser.1, rfl, (Except.ok.inj h).symm⟩)
  split at h
  · cases h
  · exact Or.inr (Or.inr (Except.ok.inj h).symm)

/-- Only somebody who was given a session is let in. -/
lemma withSession_eq_ok {k : UserId → User η → AuthResult η} {x : Answer × AuthStore η}
    (h : withSession s access k = .ok x) :
    ∃ userId u, s.sessionUsers[access.sessionId]? = some userId ∧
      s.users[userId]? = some u ∧ k userId u = .ok x := by
  unfold withSession at h
  split at h
  · cases h
  rename_i userId hauth
  split at h
  · cases h
  rename_i u hu
  refine ⟨userId, u, ?_, s.findUser_eq_some hu, h⟩
  unfold authenticate at hauth
  split at hauth
  · cases hauth
  rename_i session hsession
  have huser : session.userId = userId := by
    split at hauth
    · exact Except.ok.inj hauth
    split at hauth
    · cases hauth
    split at hauth
    · cases hauth
    split at hauth
    · cases hauth
    · exact Except.ok.inj hauth
  rw [AuthStore.sessionUsers, List.getElem?_map, hsession, ← huser]
  rfl

lemma setPassword_eq_ok (h : setPassword hasher s access password = .ok (answer, t)) :
    ∃ userId u, s.sessionUsers[access.sessionId]? = some userId ∧ s.users[userId]? = some u ∧
      u.hashToVerify = none ∧ (answer, t) = (⟨200, "Password set successfully", .success⟩,
        s.setUser userId (withPassword u (u.email.getD (toString userId))
          (hasher.hash password))) := by
  obtain ⟨userId, u, hsession, hu, h⟩ := withSession_eq_ok h
  split at h
  · cases h
  rename_i hnone
  dsimp only at h
  split at h
  · cases h
  · refine ⟨userId, u, hsession, hu, ?_, (Except.ok.inj h).symm⟩
    simp only [Bool.or_eq_true, Option.isSome_iff_ne_none, not_or, not_not] at hnone
    simp [User.hashToVerify, hnone.1, hnone.2]

lemma changePassword_eq_ok {currentPassword newPassword : String}
    (h : changePassword hasher s access currentPassword newPassword = .ok (answer, t)) :
    ∃ userId u currentHash, s.sessionUsers[access.sessionId]? = some userId ∧
      s.users[userId]? = some u ∧ u.hashToVerify = some currentHash ∧
        hasher.verify currentHash currentPassword = true ∧
          (answer, t) = (⟨200, "Password changed successfully", .success⟩,
            (s.setUser userId (withPassword u (u.email.getD (toString userId))
              (hasher.hash newPassword))).revokeSessions userId fun id => id == access.sessionId) := by
  obtain ⟨userId, u, hsession, hu, h⟩ := withSession_eq_ok h
  split at h
  · cases h
  rename_i currentHash hhash
  split at h
  · cases h
  rename_i hverify
  dsimp only at h
  split at h
  · cases h
  · exact ⟨userId, u, currentHash, hsession, hu, hhash, by simpa using hverify,
      (Except.ok.inj h).symm⟩

lemma linkGoogle_eq_ok {googleUser : VerifiedGoogleUser}
    (h : linkGoogle s access googleUser = .ok (answer, t)) :
    ∃ userId u, s.sessionUsers[access.sessionId]? = some userId ∧ s.users[userId]? = some u ∧
      (answer, t) = (⟨200, "Google account linked successfully", .success⟩,
        s.setUser userId { u with googleAccount := some ⟨googleUser.googleId, none⟩ }) := by
  obtain ⟨userId, u, hsession, hu, h⟩ := withSession_eq_ok h
  split at h
  · split at h <;> cases h
  split at h
  · cases h
  · exact ⟨userId, u, hsession, hu, (Except.ok.inj h).symm⟩

end Done

end Auth

/-! ## The endpoints as one server -/

/-- A request after its body was validated. -/
inductive AuthRequest where
  | register (firstName lastName : String) (email : Email) (password : String)
  | verifyOtp (email : Email) (otp : String)
  | verifyResetOtp (email : Email) (otp : String)
  | resendOtp (email : Email)
  | forgotPassword (email : Email)
  | resetPassword (email : Email) (otp password : String)
  | login (email : Email) (password : String)
  | authenticateWithGoogle (googleUser : VerifiedGoogleUser)
  | setPassword (access : Access) (password : String)
  | changePassword (access : Access) (currentPassword newPassword : String)
  | linkGoogle (access : Access) (googleUser : VerifiedGoogleUser)
deriving DecidableEq

/-- Serve a request; `otp` is what `generateOtp` draws, if it is called. -/
def AuthRequest.handle (s : AuthStore η) (otp : String) : AuthRequest → AuthResult η
  | .register firstName lastName email password =>
    Auth.register hasher s firstName lastName email password otp
  | .verifyOtp email otp => Auth.verifyOtp s email otp
  | .verifyResetOtp email otp => Auth.verifyResetOtp s email otp
  | .resendOtp email => Auth.resendOtp s email otp
  | .forgotPassword email => Auth.forgotPassword s email otp
  | .resetPassword email otp password => Auth.resetPassword hasher s email otp password
  | .login email password => Auth.login hasher s email password
  | .authenticateWithGoogle googleUser => Auth.authenticateWithGoogle s googleUser
  | .setPassword access password => Auth.setPassword hasher s access password
  | .changePassword access currentPassword newPassword =>
    Auth.changePassword hasher s access currentPassword newPassword
  | .linkGoogle access googleUser => Auth.linkGoogle s access googleUser

namespace AuthRequest

/-- The code that a request presents, and the key it is meant for. -/
def presents : AuthRequest → Option (OtpKey × String)
  | verifyOtp email otp => some (.userOtp email, otp)
  | verifyResetOtp email otp | resetPassword email otp _ => some (.passwordResetOtp email, otp)
  | _ => none

/-- The password that a request asks the server to store. -/
def submits : AuthRequest → Option String
  | register _ _ _ password | resetPassword _ _ password | setPassword _ password
  | changePassword _ _ password => some password
  | _ => none

/-- The access token that a request carries. -/
def access : AuthRequest → Option Access
  | setPassword access _ | changePassword access _ _ | linkGoogle access _ => some access
  | _ => none

/-- The Google identity that a request presents. -/
def googleUser : AuthRequest → Option VerifiedGoogleUser
  | authenticateWithGoogle googleUser | linkGoogle _ googleUser => some googleUser
  | _ => none

end AuthRequest

end MeeoServer
