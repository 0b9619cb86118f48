/-
# Proof of a mailbox

A one-time code proves that somebody reads the mails to an address, if nobody else can learn
it.  An attacker calls the endpoints by what it has been answered so far; the owner of the
address and everybody else act in between, unseen.

Registering, asking for a new code and asking for a password reset answer with the code they
have issued.  In the runs in which the attacker asks for none for the address, it sees the same
whatever the codes are, and nothing it presents without guessing is accepted.
-/
import MeeoServer.Auth.SignIn
import MeeoServer.Process.Noninterference

namespace MeeoServer

/-! ## The server and its clients -/

/-- What the attacker does not see: time passes, and others make requests. -/
inductive AuthEnvironment where
  | tick (elapsed : Millis)
  | request (r : AuthRequest) (otp : String)

section Server

variable {η : Type} (hasher : PasswordHasher η)

/-- Serve a request; an endpoint that fails leaves the store as it was. -/
def AuthRequest.serve (s : AuthStore η) (r : AuthRequest) (otp : String) :
    Except AppError Answer × AuthStore η :=
  match r.handle hasher s otp with
  | .ok (answer, t) => (.ok answer, t)
  | .error error => (.error error, s)

def authService : Responder (AuthStore η) AuthRequest String (Except AppError Answer)
    AuthEnvironment where
  serve := AuthRequest.serve hasher
  environ s
    | .tick elapsed => { s with clock := s.clock + elapsed }
    | .request r otp => (AuthRequest.serve hasher s r otp).2

end Server

/-- A registration of the address is not refused. -/
def AuthStore.registrationOpen {η : Type} (s : AuthStore η) (email : Email) : Bool :=
  match s.findByEmail email with
  | some user => !user.val.emailVerified && !s.passwordAccountTaken email user.id
  | none => !s.passwordAccountTaken email s.users.length

namespace AuthRequest

/-- The request stands or falls with a code for the address. -/
def ProvesMailbox (E : Email) (r : AuthRequest) : Prop :=
  ∃ presented ∈ r.presents, presented.1.email = E

variable {η : Type} (s : AuthStore η)

/-- The key under which a request makes the server store a new code. -/
def issues : AuthRequest → Option OtpKey
  | register _ _ email _ => if s.registrationOpen email then some (.userOtp email) else none
  | resendOtp email =>
    if (s.findByEmail email).any fun user => !user.val.emailVerified then some (.userOtp email)
    else none
  | forgotPassword email =>
    if (s.findByEmail email).isSome then some (.passwordResetOtp email) else none
  | _ => none

end AuthRequest

/-! ## Stores that differ in the codes for an address -/

/-- A mail without the code, if it goes to the address. -/
def OtpMail.hideCode (E : Email) (mail : OtpMail) : OtpMail :=
  if mail.email = E then { mail with otpCode := "" } else mail

/-- The stores agree in everything but the values of the codes for the address `E`. -/
structure Alike {η : Type} (E : Email) (s s' : AuthStore η) : Prop where
  clock : s.clock = s'.clock
  users : s.users = s'.users
  sessions : s.sessions = s'.sessions
  otps : ∀ key, key.email ≠ E → s.otps key = s'.otps key
  expiries : ∀ key, (s.otps key).map StoredOtp.expiresAt = (s'.otps key).map StoredOtp.expiresAt
  outbox : s.outbox.map (OtpMail.hideCode E) = s'.outbox.map (OtpMail.hideCode E)

namespace Alike

variable {η : Type} {E : Email} {s s' : AuthStore η}

lemma refl (E : Email) (s : AuthStore η) : Alike E s s := ⟨rfl, rfl, rfl, fun _ _ => rfl,
  fun _ => rfl, rfl⟩

/-! ### The queries see no difference -/

lemma findByEmail (h : Alike E s s') (email : Email) :
    s'.findByEmail email = s.findByEmail email := by
  unfold AuthStore.findByEmail
  rw [h.users]

lemma findUser (h : Alike E s s') (id : UserId) : s'.findUser id = s.findUser id := by
  unfold AuthStore.findUser
  rw [h.users]

lemma findGoogleAccount (h : Alike E s s') (googleId : String) :
    s'.findGoogleAccount googleId = s.findGoogleAccount googleId := by
  unfold AuthStore.findGoogleAccount
  rw [h.users]

lemma passwordAccountTaken (h : Alike E s s') (providerAccountId : String) (id : UserId) :
    s'.passwordAccountTaken providerAccountId id = s.passwordAccountTaken providerAccountId id := by
  unfold AuthStore.passwordAccountTaken
  rw [h.users]

lemma acceptsOtp (h : Alike E s s') {key : OtpKey} (hkey : key.email ≠ E) (otp : String) :
    s'.acceptsOtp key otp = s.acceptsOtp key otp := by
  unfold AuthStore.acceptsOtp
  rw [h.otps key hkey, h.clock]

lemma authenticate (h : Alike E s s') (access : Access) :
    Auth.authenticate s' access = Auth.authenticate s access := by
  unfold Auth.authenticate
  rw [h.sessions, h.users]

/-! ### The updates keep it -/

lemma setUser (h : Alike E s s') (id : UserId) (u : User η) :
    Alike E (s.setUser id u) (s'.setUser id u) :=
  { h with users := congrArg (List.set · id u) h.users }

lemma createUser (h : Alike E s s') (u : User η) : Alike E (s.createUser u) (s'.createUser u) :=
  { h with users := congrArg (· ++ [u]) h.users }

lemma createSession (h : Alike E s s') (userId : UserId) :
    Alike E (s.createSession userId) (s'.createSession userId) :=
  { h with sessions := congrArg (· ++ [LoginSession.mk userId false]) h.sessions }

lemma revokeSessions (h : Alike E s s') (userId : UserId) (keep : SessionId → Bool) :
    Alike E (s.revokeSessions userId keep) (s'.revokeSessions userId keep) :=
  { h with sessions := congrArg (List.mapIdx _) h.sessions }

/-- A new code may differ if it is for the address. -/
lemma createOtp (h : Alike E s s') {key : OtpKey} {otp otp' : String}
    (hotp : otp = otp' ∨ key.email = E) : Alike E (s.createOtp key otp) (s'.createOtp key otp') where
  clock := h.clock
  users := h.users
  sessions := h.sessions
  outbox := h.outbox
  otps := by
    intro key' hkey'
    show Function.update s.otps key _ key' = Function.update s'.otps key _ key'
    by_cases heq : key' = key
    · subst heq
      rw [Function.update_self, Function.update_self, h.clock,
        hotp.resolve_right hkey']
    · rw [Function.update_of_ne heq, Function.update_of_ne heq]
      exact h.otps key' hkey'
  expiries := by
    intro key'
    show (Function.update s.otps key _ key').map _ = (Function.update s'.otps key _ key').map _
    by_cases heq : key' = key
    · subst heq
      rw [Function.update_self, Function.update_self, h.clock]
      rfl
    · rw [Function.update_of_ne heq, Function.update_of_ne heq]
      exact h.expiries key'

lemma deleteOtp (h : Alike E s s') (key : OtpKey) :
    Alike E (s.deleteOtp key) (s'.deleteOtp key) where
  clock := h.clock
  users := h.users
  sessions := h.sessions
  outbox := h.outbox
  otps := by
    intro key' hkey'
    show Function.update s.otps key _ key' = Function.update s'.otps key _ key'
    by_cases heq : key' = key
    · subst heq
      rw [Function.update_self, Function.update_self]
    · rw [Function.update_of_ne heq, Function.update_of_ne heq]
      exact h.otps key' hkey'
  expiries := by
    intro key'
    show (Function.update s.otps key _ key').map _ = (Function.update s'.otps key _ key').map _
    by_cases heq : key' = key
    · subst heq
      rw [Function.update_self, Function.update_self]
    · rw [Function.update_of_ne heq, Function.update_of_ne heq]
      exact h.expiries key'

lemma issueOtp (h : Alike E s s') {key : OtpKey} {otp otp' : String}
    (hotp : otp = otp' ∨ key.email = E) (eventType subject : String) (userId : UserId) :
    Alike E (Auth.issueOtp s key eventType subject userId otp)
      (Auth.issueOtp s' key eventType subject userId otp') :=
  { h.createOtp hotp with
    outbox := by
      show (s.outbox ++ [_]).map _ = (s'.outbox ++ [_]).map _
      rw [List.map_append, List.map_append, h.outbox]
      rcases hotp with rfl | hkey
      · rfl
      · simp [OtpMail.hideCode, hkey] }

end Alike

/-! ## The endpoints -/

/-- Two results that differ at most in codes for the address; if `P`, the answers are the
same. -/
def Similar {η : Type} (E : Email) (P : Prop) : AuthResult η → AuthResult η → Prop
  | .ok (answer, t), .ok (answer', t') => (P → answer = answer') ∧ Alike E t t'
  | .error e, .error e' => e = e'
  | _, _ => False

section Endpoints

open Auth

variable {η : Type} {hasher : PasswordHasher η} {E : Email} {s s' : AuthStore η}
  {otp otp' : String}

lemma registered_similar (h : Alike E s s') (u : User η) (userId : UserId) {email : Email}
    (hotp : otp = otp' ∨ email = E) :
    Similar E (otp = otp') (.ok (registered s u userId email otp))
      (.ok (registered s' u userId email otp')) := by
  refine ⟨?_, h.issueOtp hotp _ _ _⟩
  rintro rfl
  rfl

lemma register_similar (h : Alike E s s') (firstName lastName : String) (email : Email)
    (password : String) (hotp : s.registrationOpen email = true → otp = otp' ∨ email = E) :
    Similar E (otp = otp') (register hasher s firstName lastName email password otp)
      (register hasher s' firstName lastName email password otp') := by
  unfold register
  unfold AuthStore.registrationOpen at hotp
  rw [h.findByEmail]
  cases hfind : s.findByEmail email with
  | some existingUser =>
    rw [hfind] at hotp
    simp only [h.passwordAccountTaken]
    split
    · rfl
    · split
      · rfl
      · rename_i hverified htaken
        exact registered_similar (h.setUser _ _) _ _ (hotp (by simp [hverified, htaken]))
  | none =>
    rw [hfind] at hotp
    simp only [h.passwordAccountTaken, ← h.users]
    split
    · rfl
    · rename_i htaken
      exact registered_similar (h.createUser _) _ _ (hotp (by simp [htaken]))

/-- An endpoint that asks for a code: both codes are right, or both are wrong. -/
lemma withOtp_similar {P : Prop} {key : OtpKey} {k k' : AuthResult η}
    (haccepts : s.acceptsOtp key otp = s'.acceptsOtp key otp') (hk : Similar E P k k') :
    Similar E P (withOtp s key otp k) (withOtp s' key otp' k') := by
  unfold withOtp
  rw [haccepts]
  split
  · exact hk
  · rfl

lemma verifyOtp_similar {P : Prop} (h : Alike E s s') {email : Email}
    (haccepts : s.acceptsOtp (.userOtp email) otp = s'.acceptsOtp (.userOtp email) otp') :
    Similar E P (verifyOtp s email otp) (verifyOtp s' email otp') := by
  refine withOtp_similar haccepts ?_
  rw [h.findByEmail]
  split
  · rfl
  · exact ⟨fun _ => rfl, (h.setUser _ _).deleteOtp _⟩

lemma verifyResetOtp_similar {P : Prop} (h : Alike E s s') {email : Email}
    (haccepts : s.acceptsOtp (.passwordResetOtp email) otp =
      s'.acceptsOtp (.passwordResetOtp email) otp') :
    Similar E P (verifyResetOtp s email otp) (verifyResetOtp s' email otp') :=
  withOtp_similar haccepts ⟨fun _ => rfl, h⟩

lemma resendOtp_similar (h : Alike E s s') (email : Email)
    (hotp : (s.findByEmail email).any (fun user => !user.val.emailVerified) = true →
      otp = otp' ∨ email = E) :
    Similar E (otp = otp') (resendOtp s email otp) (resendOtp s' email otp') := by
  unfold resendOtp
  rw [h.findByEmail]
  cases hfind : s.findByEmail email with
  | none => rfl
  | some user =>
    rw [hfind] at hotp
    dsimp only
    split
    · rfl
    · rename_i hverified
      refine ⟨?_, h.issueOtp (hotp (by simpa using hverified)) _ _ _⟩
      rintro rfl
      rfl

lemma forgotPassword_similar (h : Alike E s s') (email : Email)
    (hotp : (s.findByEmail email).isSome = true → otp = otp' ∨ email = E) :
    Similar E (otp = otp') (forgotPassword s email otp) (forgotPassword s' email otp') := by
  unfold forgotPassword
  rw [h.findByEmail]
  cases hfind : s.findByEmail email with
  | none => rfl
  | some user =>
    rw [hfind] at hotp
    refine ⟨?_, h.issueOtp (hotp rfl) _ _ _⟩
    rintro rfl
    rfl

lemma resetPassword_similar {P : Prop} (h : Alike E s s') {email : Email} (password : String)
    (haccepts : s.acceptsOtp (.passwordResetOtp email) otp =
      s'.acceptsOtp (.passwordResetOtp email) otp') :
    Similar E P (resetPassword hasher s email otp password)
      (resetPassword hasher s' email otp' password) := by
  refine withOtp_similar haccepts ?_
  rw [h.findByEmail]
  split
  · rfl
  · simp only [h.passwordAccountTaken]
    split
    · rfl
    · exact ⟨fun _ => rfl, ((h.setUser _ _).revokeSessions _ _).deleteOtp _⟩

lemma signedIn_similar {P : Prop} (h : Alike E s s') (message : String) (u : User η)
    (userId : UserId) :
    Similar E P (.ok (signedIn s message u userId)) (.ok (signedIn s' message u userId)) := by
  refine ⟨fun _ => ?_, h.createSession userId⟩
  rw [h.sessions]

lemma migratePassword_alike (h : Alike E s s') (u : Row (User η)) (hashToVerify : η) :
    Alike E (migratePassword s u hashToVerify) (migratePassword s' u hashToVerify) := by
  unfold migratePassword
  simp only [h.passwordAccountTaken]
  split
  · exact h
  · exact h.setUser _ _

lemma login_similar {P : Prop} (h : Alike E s s') (email : Email) (password : String) :
    Similar E P (login hasher s email password) (login hasher s' email password) := by
  unfold login
  simp only [← h.users]
  split
  · rfl
  split
  · rfl
  split
  · rfl
  split
  · rfl
  split
  · rfl
  · exact signedIn_similar (migratePassword_alike h _ _) _ _ _

lemma authenticateWithGoogle_similar {P : Prop} (h : Alike E s s')
    (googleUser : VerifiedGoogleUser) :
    Similar E P (authenticateWithGoogle s googleUser) (authenticateWithGoogle s' googleUser) := by
  unfold authenticateWithGoogle
  simp only [h.findGoogleAccount, h.findByEmail, ← h.users]
  split
  · split
    · rfl
    split
    · rfl
    · exact signedIn_similar h _ _ _
  split
  · split
    · rfl
    split
    · rfl
    · exact signedIn_similar (h.setUser _ _) _ _ _
  split
  · rfl
  · exact signedIn_similar (h.createUser _) _ _ _

lemma withSession_similar {P : Prop} (h : Alike E s s') {access : Access}
    {k k' : UserId → User η → AuthResult η} (hk : ∀ id u, Similar E P (k id u) (k' id u)) :
    Similar E P (withSession s access k) (withSession s' access k') := by
  unfold withSession
  rw [h.authenticate]
  split
  · rfl
  · rw [h.findUser]
    split
    · rfl
    · exact hk _ _

lemma setPassword_similar {P : Prop} (h : Alike E s s') (access : Access) (password : String) :
    Similar E P (setPassword hasher s access password) (setPassword hasher s' access password) := by
  refine withSession_similar h fun id u => ?_
  simp only [h.passwordAccountTaken]
  split
  · rfl
  split
  · rfl
  · exact ⟨fun _ => rfl, h.setUser _ _⟩

lemma changePassword_similar {P : Prop} (h : Alike E s s') (access : Access)
    (currentPassword newPassword : String) :
    Similar E P (changePassword hasher s access currentPassword newPassword)
      (changePassword hasher s' access currentPassword newPassword) := by
  refine withSession_similar h fun id u => ?_
  simp only [h.passwordAccountTaken]
  split
  · rfl
  split
  · rfl
  split
  · rfl
  · exact ⟨fun _ => rfl, (h.setUser _ _).revokeSessions _ _⟩

lemma linkGoogle_similar {P : Prop} (h : Alike E s s') (access : Access)
    (googleUser : VerifiedGoogleUser) :
    Similar E P (linkGoogle s access googleUser) (linkGoogle s' access googleUser) := by
  refine withSession_similar h fun id u => ?_
  simp only [h.findGoogleAccount]
  split
  · split <;> rfl
  split
  · rfl
  · exact ⟨fun _ => rfl, h.setUser _ _⟩

end Endpoints

/-! ## What the parties may do -/

/-- The same request, up to a code that is presented for the address. -/
inductive SameButCode (E : Email) : AuthRequest → AuthRequest → Prop
  | same (r : AuthRequest) : SameButCode E r r
  | verifyOtp (otp otp' : String) : SameButCode E (.verifyOtp E otp) (.verifyOtp E otp')
  | verifyResetOtp (otp otp' : String) :
    SameButCode E (.verifyResetOtp E otp) (.verifyResetOtp E otp')
  | resetPassword (otp otp' password : String) :
    SameButCode E (.resetPassword E otp password) (.resetPassword E otp' password)

section Conditions

variable {η : Type} (E : Email) (s s' : AuthStore η)

/-- Whoever reads the mails to the address presents the right code in both runs or in none. -/
def ReadsMails (r r' : AuthRequest) : Prop :=
  SameButCode E r r' ∧ ∀ x ∈ r.presents, ∀ x' ∈ r'.presents, x.1.email = E →
    s.acceptsOtp x.1 x.2 = s'.acceptsOtp x'.1 x'.2

/-- What is drawn is the same, unless it becomes a code for the address. -/
def DrawsAlike (r : AuthRequest) (otp otp' : String) : Prop :=
  otp = otp' ∨ ∃ key ∈ r.issues s, key.email = E

instance (r : AuthRequest) (otp otp' : String) : Decidable (DrawsAlike E s r otp otp') := by
  unfold DrawsAlike
  infer_instance

/-- The unseen part of the world does the same in both runs, up to the codes for the address. -/
def Hidden : AuthEnvironment → AuthEnvironment → Prop
  | .tick elapsed, .tick elapsed' => elapsed = elapsed'
  | .request r otp, .request r' otp' => ReadsMails E s s' r r' ∧ DrawsAlike E s r otp otp'
  | _, _ => False

/-- The attacker does not guess: no code it presents for the address is right. -/
def Guessless (r : AuthRequest) (otp otp' : String) : Prop :=
  (∀ x ∈ r.presents, x.1.email = E →
    s.acceptsOtp x.1 x.2 = false ∧ s'.acceptsOtp x.1 x.2 = false) ∧ DrawsAlike E s r otp otp'

/-- Moreover, it does not make the server issue a code for the address. -/
def AsksForNone (r : AuthRequest) (otp otp' : String) : Prop :=
  Guessless E s s' r otp otp' ∧ ∀ key ∈ r.issues s, key.email ≠ E

end Conditions

section Unwinding

open Auth

variable {η : Type} {hasher : PasswordHasher η} {E : Email} {s s' : AuthStore η}
  {otp otp' : String} {r r' : AuthRequest}

lemma handle_similar (h : Alike E s s') (hmails : ReadsMails E s s' r r')
    (hdraws : DrawsAlike E s r otp otp') :
    Similar E (otp = otp') (r.handle hasher s otp) (r'.handle hasher s' otp') := by
  obtain ⟨hsame, haccepts⟩ := hmails
  cases hsame with
  | verifyOtp code code' => exact verifyOtp_similar h (haccepts _ rfl _ rfl rfl)
  | verifyResetOtp code code' => exact verifyResetOtp_similar h (haccepts _ rfl _ rfl rfl)
  | resetPassword code code' password =>
    exact resetPassword_similar h password (haccepts _ rfl _ rfl rfl)
  | same r =>
    -- a code for another address is the same in both stores
    have hsame : ∀ key code, r.presents = some (key, code) →
        s.acceptsOtp key code = s'.acceptsOtp key code := by
      intro key code hpresents
      by_cases hkey : key.email = E
      · exact haccepts (key, code) hpresents (key, code) hpresents hkey
      · exact (h.acceptsOtp hkey code).symm
    cases r with
    | register firstName lastName email password =>
      refine register_similar h _ _ _ _ fun hopen => ?_
      simpa [DrawsAlike, AuthRequest.issues, hopen] using hdraws
    | verifyOtp email code => exact verifyOtp_similar h (hsame _ _ rfl)
    | verifyResetOtp email code => exact verifyResetOtp_similar h (hsame _ _ rfl)
    | resendOtp email =>
      refine resendOtp_similar h _ fun hany => ?_
      simpa only [DrawsAlike, AuthRequest.issues, hany, if_true, Option.mem_some_iff,
        exists_eq_left', OtpKey.email_userOtp] using hdraws
    | forgotPassword email =>
      refine forgotPassword_similar h _ fun hsome => ?_
      simpa only [DrawsAlike, AuthRequest.issues, hsome, if_true, Option.mem_some_iff,
        exists_eq_left', OtpKey.email_passwordResetOtp] using hdraws
    | resetPassword email code password => exact resetPassword_similar h password (hsame _ _ rfl)
    | login email password => exact login_similar h email password
    | authenticateWithGoogle googleUser => exact authenticateWithGoogle_similar h googleUser
    | setPassword access password => exact setPassword_similar h access password
    | changePassword access current new => exact changePassword_similar h access current new
    | linkGoogle access googleUser => exact linkGoogle_similar h access googleUser

/-- The answers are the same if the draws are, and the stores stay alike. -/
lemma serve_similar (h : Alike E s s') (hmails : ReadsMails E s s' r r')
    (hdraws : DrawsAlike E s r otp otp') :
    (otp = otp' → (r.serve hasher s otp).1 = (r'.serve hasher s' otp').1) ∧
      Alike E (r.serve hasher s otp).2 (r'.serve hasher s' otp').2 := by
  have hsimilar := @handle_similar _ hasher _ _ _ _ _ _ _ h hmails hdraws
  unfold AuthRequest.serve
  revert hsimilar
  cases r.handle hasher s otp with
  | ok result =>
    cases r'.handle hasher s' otp' with
    | ok result' => exact fun hsimilar => ⟨fun heq => congrArg Except.ok (hsimilar.1 heq), hsimilar.2⟩
    | error error' => exact False.elim
  | error error =>
    cases r'.handle hasher s' otp' with
    | ok result' => exact False.elim
    | error error' => exact fun hsimilar => ⟨fun _ => congrArg Except.error hsimilar, h⟩

lemma Guessless.readsMails (h : Guessless E s s' r otp otp') : ReadsMails E s s' r r := by
  refine ⟨.same r, fun x hx x' hx' hkey => ?_⟩
  obtain rfl := Option.mem_unique hx hx'
  rw [(h.1 x hx hkey).1, (h.1 x hx hkey).2]

lemma mailbox_unwinding (hasher : PasswordHasher η) (E : Email) :
    Responder.Unwinding (authService hasher) (Alike E) (AsksForNone E) (Hidden E) where
  observer h hasks := by
    obtain ⟨hguessless, hnone⟩ := hasks
    obtain ⟨hanswers, hstores⟩ := serve_similar h hguessless.readsMails hguessless.2
    refine ⟨hanswers ?_, hstores⟩
    rcases hguessless.2 with heq | ⟨key, hkey, hE⟩
    · exact heq
    · exact absurd hE (hnone key hkey)
  environ {s s' e e'} h hhidden := by
    cases e with
    | tick elapsed =>
      cases e' with
      | tick elapsed' =>
        obtain rfl : elapsed = elapsed' := hhidden
        exact { h with clock := congrArg (· + elapsed) h.clock }
      | request r' otp' => exact hhidden.elim
    | request r otp =>
      cases e' with
      | tick elapsed' => exact hhidden.elim
      | request r' otp' => exact (serve_similar h hhidden.1 hhidden.2).2

/-- A request that makes the server issue a code is answered with it: two codes, two answers. -/
lemma answer_reveals {key : OtpKey} (hissues : r.issues s = some key)
    (hanswer : (r.serve hasher s otp).1 = (r.serve hasher s otp').1) : otp = otp' := by
  cases r with
  | register firstName lastName email password =>
    have hopen := (Option.ite_none_right_eq_some.mp hissues).1
    unfold AuthStore.registrationOpen at hopen
    simp only [AuthRequest.serve, AuthRequest.handle, register] at hanswer
    cases hfind : s.findByEmail email with
    | some user =>
      simp only [hfind, Bool.and_eq_true, Bool.not_eq_true'] at hopen
      simpa [hfind, hopen.1, hopen.2, registered] using hanswer
    | none =>
      simp only [hfind, Bool.not_eq_true'] at hopen
      simpa [hfind, hopen, registered] using hanswer
  | resendOtp email =>
    have hany := (Option.ite_none_right_eq_some.mp hissues).1
    simp only [AuthRequest.serve, AuthRequest.handle, resendOtp] at hanswer
    cases hfind : s.findByEmail email with
    | none => simp [hfind] at hany
    | some user =>
      simp only [hfind, Option.any_some, Bool.not_eq_true'] at hany
      simpa [hfind, hany] using hanswer
  | forgotPassword email =>
    obtain ⟨user, hfind⟩ := Option.isSome_iff_exists.mp (Option.ite_none_right_eq_some.mp hissues).1
    simpa [AuthRequest.serve, AuthRequest.handle, forgotPassword, hfind] using hanswer
  | _ => cases hissues

/-- Without the right code nothing that depends on the mailbox is done. -/
lemma serve_guessless (h : Guessless E s s' r otp otp') (hproves : r.ProvesMailbox E) :
    ∃ e, (r.serve hasher s otp).1 = .error e := by
  obtain ⟨x, hx, hE⟩ := hproves
  have hwrong := (h.1 x hx hE).1
  cases r with
  | verifyOtp email code | verifyResetOtp email code | resetPassword email code password =>
    obtain rfl := Option.some.inj hx
    refine ⟨⟨"OTP is invalid or expired", 400⟩, ?_⟩
    simp only [AuthRequest.serve, AuthRequest.handle, verifyOtp, verifyResetOtp, resetPassword,
      withOtp, hwrong, Bool.false_eq_true, if_false]
  | _ => cases hx

end Unwinding

/-- **Proof of a mailbox.**  In the runs in which the attacker, which does not guess, makes the
server issue no code for the address: it sees the same whatever the codes for the address are,
and none of its requests that stand or fall with such a code succeeds. -/
theorem mailbox_proof {η : Type} (hasher : PasswordHasher η) (E : Email)
    (ask : View AuthRequest (Except AppError Answer) → AuthRequest)
    {twins : List (Twin String AuthEnvironment)} {s s' : AuthStore η} (hs : Alike E s s')
    (halong : (authService hasher).Along ask (AsksForNone E) (Hidden E) twins s s' []) :
    ((authService hasher).run ask (twins.map Twin.left) s []).1 =
        ((authService hasher).run ask (twins.map Twin.right) s' []).1 ∧
      ∀ x ∈ ((authService hasher).run ask (twins.map Twin.left) s []).1,
        x.1.ProvesMailbox E → ∃ e, x.2 = .error e := by
  refine ⟨((mailbox_unwinding hasher E).run hs halong).1, ?_⟩
  refine halong.view (fun s s' r otp otp' hasks hproves => ?_) (by simp)
  exact serve_guessless hasks.1 hproves

/-- An attacker that tries to log in to an account, tries a code, and goes to register an
address of its own. -/
def probe (view : View AuthRequest (Except AppError Answer)) : AuthRequest :=
  match view.length with
  | 0 => .login "ada@shop" "guess"
  | 1 => .verifyOtp "ada@shop" "0000"
  | _ => .register "Eve" "E" "eve@shop" "secret"

/-- A customer registers, is probed, and verifies the address with the code from the mail. -/
def probed : List (Twin String AuthEnvironment) :=
  [.environ (.request (.register "Ada" "A" "ada@shop" "lovelace") "1111")
      (.request (.register "Ada" "A" "ada@shop" "lovelace") "2222"),
    .observer "" "", .observer "" "", .observer "3333" "3333",
    .environ (.request (.verifyOtp "ada@shop" "1111") "")
      (.request (.verifyOtp "ada@shop" "2222") "")]

theorem mailbox_proof_probed :
    ((authService plainHasher).run probe (probed.map Twin.left) .init []).1 =
      ((authService plainHasher).run probe (probed.map Twin.right) .init []).1 := by
  refine (mailbox_proof plainHasher "ada@shop" probe (Alike.refl _ _) ?_).1
  refine ⟨⟨⟨.same _, ?_⟩, ?_⟩, ⟨⟨?_, ?_⟩, ?_⟩, ⟨⟨?_, ?_⟩, ?_⟩, ⟨⟨?_, ?_⟩, ?_⟩,
    ⟨⟨.verifyOtp _ _, ?_⟩, ?_⟩, trivial⟩ <;> decide +kernel

/-- Without the condition the attacker reads the code in the answer to its own registration. -/
theorem code_in_answer :
    ¬ ∀ (η : Type) (hasher : PasswordHasher η) (E : Email)
      (ask : View AuthRequest (Except AppError Answer) → AuthRequest)
      (twins : List (Twin String AuthEnvironment)) (s s' : AuthStore η), Alike E s s' →
      (authService hasher).Along ask (Guessless E) (Hidden E) twins s s' [] →
      ((authService hasher).run ask (twins.map Twin.left) s []).1 =
        ((authService hasher).run ask (twins.map Twin.right) s' []).1 := by
  intro h
  have heq := h String plainHasher "ada@shop"
    (fun _ => .register "Ada" "A" "ada@shop" "secret") [.observer "1111" "2222"] .init .init
    (Alike.refl _ _) ⟨⟨by decide +kernel, by decide +kernel⟩, trivial⟩
  revert heq
  decide +kernel

end MeeoServer
