/-
# Accounts

The tables behind the sign-in of the customers: users with their sign-in methods, sessions, the
one-time codes in Redis and the outbox of mails.  A user has at most one account for each
provider, so the accounts are columns of the user.

Every endpoint is a function from the store to an answer and the next store, or to an error;
an endpoint that fails has not written anything.
-/
import MeeoServer.Auth.Tokens
import MeeoServer.Table.Rows

namespace MeeoServer

open Table

inductive UserStatus where
  | active
  | suspended
  | blocked
  | pendingVerification
deriving DecidableEq

/-- `status.toLowerCase().replaceAll("_", " ")` -/
def UserStatus.label : UserStatus → String
  | active => "active"
  | suspended => "suspended"
  | blocked => "blocked"
  | pendingVerification => "pending verification"

/-- A sign-in method, of the provider whose column it is in. -/
structure AuthAccount (η : Type) where
  providerAccountId : String
  passwordHash : Option η
deriving DecidableEq

structure User (η : Type) where
  email : Option Email
  phone : Option String
  firstName : Option String
  lastName : Option String
  passwordHash : Option η
  emailVerified : Bool
  status : UserStatus
  deleted : Bool
  passwordAccount : Option (AuthAccount η)
  googleAccount : Option (AuthAccount η)
deriving DecidableEq

/-- A login session; its identifier is its position in the table. -/
structure LoginSession where
  userId : UserId
  revoked : Bool
deriving DecidableEq

/-- The Redis keys of one-time codes. -/
inductive OtpKey where
  | userOtp (email : Email)
  | passwordResetOtp (email : Email)
deriving DecidableEq

def OtpKey.email : OtpKey → Email
  | userOtp email | passwordResetOtp email => email

@[simp] lemma OtpKey.email_userOtp (email : Email) : (userOtp email).email = email := rfl

@[simp] lemma OtpKey.email_passwordResetOtp (email : Email) :
    (passwordResetOtp email).email = email := rfl

structure StoredOtp where
  otp : String
  expiresAt : Millis
deriving DecidableEq

/-- An event of the outbox: a mail with a code, which a worker sends later. -/
structure OtpMail where
  eventType : String
  userId : UserId
  email : Email
  otpCode : String
  subject : String
deriving DecidableEq

structure AuthStore (η : Type) where
  clock : Millis
  users : List (User η)
  sessions : List LoginSession
  otps : OtpKey → Option StoredOtp
  outbox : List OtpMail

/-- The password hash of the server: a hash verifies the password it was made from, and no
other. -/
structure PasswordHasher (η : Type) where
  hash : String → η
  verify : η → String → Bool
  verify_hash : ∀ p q, verify (hash p) q = decide (p = q)

/-- Passwords in the clear. -/
def plainHasher : PasswordHasher String where
  hash := id
  verify stored password := decide (stored = password)
  verify_hash _ _ := rfl

/-- A shop without customers. -/
def AuthStore.init {η : Type} : AuthStore η := ⟨0, [], [], fun _ => none, []⟩

/-! ## Answers -/

/-- What the response schema lets through of a user. -/
structure UserSummary where
  id : UserId
  email : Option Email
  firstName : Option String
  lastName : Option String
  phone : Option String
deriving DecidableEq

inductive AnswerData where
  | none
  | registered (user : UserSummary) (tempOtp : String)
  | tempOtp (tempOtp : String)
  | verified
  /-- The user, and an access and a refresh token for the new session. -/
  | signedIn (user : UserSummary) (sessionId : SessionId)
  | success
deriving DecidableEq

structure Answer where
  statusCode : ℕ
  message : String
  data : AnswerData
deriving DecidableEq

deriving instance DecidableEq for AppError

/-- The answer to a violated unique constraint that the service does not catch. -/
def recordExists : AppError := ⟨"A record with this value already exists", 409⟩

/-- The answer to an update of a row that is not there. -/
def recordNotFound : AppError := ⟨"Record not found", 404⟩

/-- What an endpoint does. -/
abbrev AuthResult (η : Type) := Except AppError (Answer × AuthStore η)

namespace User

variable {η : Type}

def summary (u : User η) (id : UserId) : UserSummary :=
  ⟨id, u.email, u.firstName, u.lastName, u.phone⟩

/-- The hash a login compares with: `passwordAccount?.passwordHash || user.passwordHash`. -/
def hashToVerify (u : User η) : Option η :=
  (u.passwordAccount.bind AuthAccount.passwordHash).or u.passwordHash

end User

namespace AuthStore

variable {η : Type} (s : AuthStore η)

/-! ## Queries and updates -/

def findByEmail (email : Email) : Option (Row (User η)) :=
  findFirst (fun u => decide (u.email = some email)) 0 s.users

/-- The user with the identifier, unless it was deleted. -/
def findUser (id : UserId) : Option (User η) :=
  s.users[id]?.filter fun u => !u.deleted

def findGoogleAccount (googleId : String) : Option (Row (User η)) :=
  findFirst (fun u => u.googleAccount.any fun a => a.providerAccountId = googleId) 0 s.users

/-- Somebody but `id` signs in with a password under the name `providerAccountId`. -/
def passwordAccountTaken (providerAccountId : String) (id : UserId) : Bool :=
  (findMany (fun u => u.passwordAccount.any fun a => a.providerAccountId = providerAccountId)
    s.users).any fun r => r.id ≠ id

def setUser (id : UserId) (u : User η) : AuthStore η := { s with users := s.users.set id u }

def createUser (u : User η) : AuthStore η := { s with users := s.users ++ [u] }

def createSession (userId : UserId) : AuthStore η :=
  { s with sessions := s.sessions ++ [⟨userId, false⟩] }

/-- Revoke the sessions of a user, except those that `keep` says. -/
def revokeSessions (userId : UserId) (keep : SessionId → Bool) : AuthStore η :=
  { s with sessions := s.sessions.mapIdx fun id session =>
      if session.userId = userId ∧ keep id = false then { session with revoked := true }
      else session }

/-- `redis.set(key, otp, "EX", 60 * 5)` -/
def createOtp (key : OtpKey) (otp : String) : AuthStore η :=
  { s with otps := Function.update s.otps key (some ⟨otp, s.clock + 60 * 5 * 1000⟩) }

/-- `redis.del(key)` -/
def deleteOtp (key : OtpKey) : AuthStore η :=
  { s with otps := Function.update s.otps key none }

def stageMail (mail : OtpMail) : AuthStore η := { s with outbox := s.outbox ++ [mail] }

/-- The users of the sessions, by the identifiers of the sessions; a revocation keeps them. -/
def sessionUsers : List UserId := s.sessions.map LoginSession.userId

section Updates

variable (id userId : UserId) (u : User η) (key : OtpKey) (otp : String) (mail : OtpMail)
  (keep : SessionId → Bool)

@[simp] lemma setUser_users : (s.setUser id u).users = s.users.set id u := rfl

@[simp] lemma setUser_sessionUsers : (s.setUser id u).sessionUsers = s.sessionUsers := rfl

@[simp] lemma createUser_users : (s.createUser u).users = s.users ++ [u] := rfl

@[simp] lemma createUser_sessionUsers : (s.createUser u).sessionUsers = s.sessionUsers := rfl

@[simp] lemma createSession_users : (s.createSession userId).users = s.users := rfl

@[simp] lemma createSession_sessionUsers :
    (s.createSession userId).sessionUsers = s.sessionUsers ++ [userId] := by
  simp [createSession, sessionUsers]

@[simp] lemma revokeSessions_users : (s.revokeSessions userId keep).users = s.users := rfl

@[simp] lemma revokeSessions_sessionUsers :
    (s.revokeSessions userId keep).sessionUsers = s.sessionUsers := by
  unfold revokeSessions sessionUsers
  apply List.ext_getElem?
  intro i
  rw [List.getElem?_map, List.getElem?_map, List.getElem?_mapIdx]
  cases s.sessions[i]? with
  | none => rfl
  | some session =>
    simp only [Option.map_some, Option.some.injEq]
    split <;> rfl

@[simp] lemma createOtp_users : (s.createOtp key otp).users = s.users := rfl

@[simp] lemma createOtp_sessionUsers : (s.createOtp key otp).sessionUsers = s.sessionUsers := rfl

@[simp] lemma deleteOtp_users : (s.deleteOtp key).users = s.users := rfl

@[simp] lemma deleteOtp_sessionUsers : (s.deleteOtp key).sessionUsers = s.sessionUsers := rfl

@[simp] lemma stageMail_users : (s.stageMail mail).users = s.users := rfl

@[simp] lemma stageMail_sessionUsers : (s.stageMail mail).sessionUsers = s.sessionUsers := rfl

end Updates

lemma findByEmail_eq_some {email : Email} {r : Row (User η)} (h : s.findByEmail email = some r) :
    s.users[r.id]? = some r.val ∧ r.val.email = some email := by
  obtain ⟨hrow, hemail⟩ := findFirst_eq_some h
  exact ⟨hrow, of_decide_eq_true hemail⟩

lemma findUser_eq_some {id : UserId} {u : User η} (h : s.findUser id = some u) :
    s.users[id]? = some u :=
  (Option.filter_eq_some_iff.mp h).1

lemma findGoogleAccount_eq_some {googleId : String} {r : Row (User η)}
    (h : s.findGoogleAccount googleId = some r) :
    s.users[r.id]? = some r.val ∧
      ∃ a, r.val.googleAccount = some a ∧ a.providerAccountId = googleId := by
  obtain ⟨hrow, hany⟩ := findFirst_eq_some h
  cases hg : r.val.googleAccount with
  | none => simp [hg] at hany
  | some a => exact ⟨hrow, a, rfl, by simpa [hg] using hany⟩

/-- The code is the one stored under the key, and it has not expired. -/
def acceptsOtp (key : OtpKey) (otp : String) : Bool :=
  (s.otps key).any fun stored => s.clock < stored.expiresAt && stored.otp == otp

end AuthStore

end MeeoServer
