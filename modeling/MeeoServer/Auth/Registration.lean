/-
# Registration and password reset

The endpoints that prove that somebody reads a mailbox: registering, asking for a new code,
verifying the address, and resetting a forgotten password.  The code is drawn by the server; it
is an argument here.
-/
import MeeoServer.Auth.Accounts

namespace MeeoServer

variable {η : Type} (hasher : PasswordHasher η) (s : AuthStore η)

namespace Auth

/-- A new account: the default role aside, what the customer has typed. -/
def newCustomer (firstName lastName : String) (email : Email) (passwordHash : η) : User η where
  email := some email
  phone := none
  firstName := some firstName
  lastName := some lastName
  passwordHash := some passwordHash
  emailVerified := false
  status := .active
  deleted := false
  passwordAccount := some ⟨email, some passwordHash⟩
  googleAccount := none

/-- An account that registers again before it was verified. -/
def refreshedCustomer (u : User η) (firstName lastName : String) (email : Email)
    (passwordHash : η) : User η :=
  { u with
    firstName := some firstName
    lastName := some lastName
    passwordHash := some passwordHash
    passwordAccount := some ⟨email, some passwordHash⟩ }

/-- Store a code for the customer and stage the mail that carries it. -/
def issueOtp (s : AuthStore η) (key : OtpKey) (eventType subject : String) (userId : UserId)
    (otp : String) : AuthStore η :=
  (s.createOtp key otp).stageMail ⟨eventType, userId, key.email, otp, subject⟩

/-- The answer of a registration, and the code it has issued. -/
def registered (s : AuthStore η) (u : User η) (userId : UserId) (email : Email) (otp : String) :
    Answer × AuthStore η :=
  (⟨201, "User registered successfully", .registered { u.summary userId with phone := none } otp⟩,
    issueOtp s (.userOtp email) "USER_REGISTERED" "Your Verification Code" userId otp)

def register (firstName lastName : String) (email : Email) (password otp : String) :
    AuthResult η :=
  let passwordHash := hasher.hash password
  match s.findByEmail email with
  | some existingUser =>
    if existingUser.val.emailVerified then .error ⟨"Email already registered", 400⟩
    else if s.passwordAccountTaken email existingUser.id then
      .error ⟨"Email already registered", 400⟩
    else
      let user := refreshedCustomer existingUser.val firstName lastName email passwordHash
      .ok (registered (s.setUser existingUser.id user) user existingUser.id email otp)
  | none =>
    let id := s.users.length
    if s.passwordAccountTaken email id then .error ⟨"Email already registered", 400⟩
    else
      let user := newCustomer firstName lastName email passwordHash
      .ok (registered (s.createUser user) user id email otp)

/-- `assertOtp(key, otp)`, and what follows if the code is right. -/
def withOtp (key : OtpKey) (otp : String) (k : AuthResult η) : AuthResult η :=
  if s.acceptsOtp key otp then k else .error ⟨"OTP is invalid or expired", 400⟩

def verifyOtp (email : Email) (otp : String) : AuthResult η :=
  withOtp s (.userOtp email) otp <|
    match s.findByEmail email with
    | none => .error recordNotFound
    | some user =>
      .ok (⟨200, "Email verified successfully", .verified⟩,
        (s.setUser user.id { user.val with emailVerified := true }).deleteOtp (.userOtp email))

def verifyResetOtp (email : Email) (otp : String) : AuthResult η :=
  withOtp s (.passwordResetOtp email) otp <|
    .ok (⟨200, "Reset code verified successfully", .verified⟩, s)

def resendOtp (email : Email) (otp : String) : AuthResult η :=
  match s.findByEmail email with
  | none => .error ⟨"No account found with this email", 404⟩
  | some user =>
    if user.val.emailVerified then .error ⟨"Email is already verified. Please log in.", 400⟩
    else
      .ok (⟨200, "A new verification code has been sent to your email", .tempOtp otp⟩,
        issueOtp s (.userOtp email) "USER_OTP_REQUESTED" "Your New Verification Code" user.id otp)

def forgotPassword (email : Email) (otp : String) : AuthResult η :=
  match s.findByEmail email with
  | none => .error ⟨"No account found with this email", 404⟩
  | some user =>
    .ok (⟨200, "Password reset code sent successfully", .tempOtp otp⟩,
      issueOtp s (.passwordResetOtp email) "USER_OTP_REQUESTED"
        "Password Reset Verification Code" user.id otp)

/-- Put a new hash into the user and into its password account, which is created if there is
none. -/
def withPassword (u : User η) (providerAccountId : String) (passwordHash : η) : User η :=
  { u with
    passwordHash := some passwordHash
    passwordAccount := some
      { u.passwordAccount.getD ⟨providerAccountId, none⟩ with passwordHash := some passwordHash } }

def resetPassword (email : Email) (otp password : String) : AuthResult η :=
  withOtp s (.passwordResetOtp email) otp <|
    match s.findByEmail email with
    | none => .error ⟨"Unable to reset password", 400⟩
    | some user =>
      let providerAccountId := user.val.email.getD email
      if user.val.passwordAccount.isNone && s.passwordAccountTaken providerAccountId user.id then
        .error recordExists
      else
        let updated := withPassword user.val providerAccountId (hasher.hash password)
        .ok (⟨200, "Password reset successfully", .none⟩,
          ((s.setUser user.id updated).revokeSessions user.id fun _ => false).deleteOtp
            (.passwordResetOtp email))

/-! ## What a successful request has done -/

section Done

variable {hasher s} {email : Email} {otp password firstName lastName : String} {answer : Answer}
  {t : AuthStore η}

lemma register_eq_ok
    (h : register hasher s firstName lastName email password otp = .ok (answer, t)) :
    (∃ r user, s.findByEmail email = some r ∧ r.val.emailVerified = false ∧
      user = refreshedCustomer r.val firstName lastName email (hasher.hash password) ∧
        (answer, t) = registered (s.setUser r.id user) user r.id email otp) ∨
      ∃ user, s.findByEmail email = none ∧
        user = newCustomer firstName lastName email (hasher.hash password) ∧
          (answer, t) = registered (s.createUser user) user s.users.length email otp := by
  unfold register at h
  dsimp only at h
  split at h
  · rename_i r hr
    split at h
    · cases h
    rename_i hverified
    split at h
    · cases h
    · exact Or.inl ⟨r, _, hr, by simpa using hverified, rfl, (Except.ok.inj h).symm⟩
  · rename_i hnone
    split at h
    · cases h
    · exact Or.inr ⟨_, hnone, rfl, (Except.ok.inj h).symm⟩

lemma withOtp_eq_ok {key : OtpKey} {k : AuthResult η} {x : Answer × AuthStore η}
    (h : withOtp s key otp k = .ok x) : s.acceptsOtp key otp = true ∧ k = .ok x := by
  unfold withOtp at h
  split at h
  · rename_i haccepts
    exact ⟨haccepts, h⟩
  · cases h

lemma verifyOtp_eq_ok (h : verifyOtp s email otp = .ok (answer, t)) :
    s.acceptsOtp (.userOtp email) otp = true ∧ ∃ r, s.findByEmail email = some r ∧
      (answer, t) = (⟨200, "Email verified successfully", .verified⟩,
        (s.setUser r.id { r.val with emailVerified := true }).deleteOtp (.userOtp email)) := by
  obtain ⟨haccepts, h⟩ := withOtp_eq_ok h
  split at h
  · cases h
  · rename_i r hr
    exact ⟨haccepts, r, hr, (Except.ok.inj h).symm⟩

lemma resendOtp_eq_ok (h : resendOtp s email otp = .ok (answer, t)) :
    answer.data = .tempOtp otp ∧ t.users = s.users ∧ t.sessionUsers = s.sessionUsers := by
  unfold resendOtp at h
  split at h
  · cases h
  split at h
  · cases h
  · obtain ⟨rfl, rfl⟩ := Prod.ext_iff.mp (Except.ok.inj h)
    exact ⟨rfl, rfl, rfl⟩

lemma forgotPassword_eq_ok (h : forgotPassword s email otp = .ok (answer, t)) :
    answer.data = .tempOtp otp ∧ t.users = s.users ∧ t.sessionUsers = s.sessionUsers := by
  unfold forgotPassword at h
  split at h
  · cases h
  · obtain ⟨rfl, rfl⟩ := Prod.ext_iff.mp (Except.ok.inj h)
    exact ⟨rfl, rfl, rfl⟩

lemma resetPassword_eq_ok (h : resetPassword hasher s email otp password = .ok (answer, t)) :
    s.acceptsOtp (.passwordResetOtp email) otp = true ∧ ∃ r user,
      s.findByEmail email = some r ∧
        user = withPassword r.val (r.val.email.getD email) (hasher.hash password) ∧
          (answer, t) = (⟨200, "Password reset successfully", .none⟩,
            ((s.setUser r.id user).revokeSessions r.id fun _ => false).deleteOtp
              (.passwordResetOtp email)) := by
  obtain ⟨haccepts, h⟩ := withOtp_eq_ok h
  split at h
  · cases h
  rename_i r hr
  dsimp only at h
  split at h
  · cases h
  · exact ⟨haccepts, r, _, hr, rfl, (Except.ok.inj h).symm⟩

end Done

end Auth

end MeeoServer
