/-
# Rotation of refresh tokens

A session row stores the hash of the one refresh token that is valid for it.  A refresh looks
the session up, compares the hashes, signs a new token and then exchanges the hashes with one
conditional update, so that of two calls with the same token only one can win.

That the old token is dead afterwards rests on the new one being different from it.  It is
signed for the same payload, and its times are whole seconds: a token that is rotated in the
second in which it was issued is exchanged for itself.
-/
import MeeoServer.Auth.Tokens
import MeeoServer.Process.Interleaving
import Mathlib.Data.List.Nodup

namespace MeeoServer

open Relation TokenScheme

/-! ## Sessions -/

structure UserSession (η : Type) where
  userId : UserId
  refreshTokenHash : η
  expiresAt : Millis
  revokedAt : Option Millis

/-- What is known under the identifier of a session.  A deleted row leaves its identifier
behind: no other session will ever be given it. -/
inductive SessionSlot (η : Type) where
  | unused
  | row (session : UserSession η)
  | deleted

/-- The sessions, the clock, and the history of the rotations. -/
structure SessionStore (τ η : Type) where
  clock : Millis
  slots : SessionId → SessionSlot η
  /-- The rows that the last conditional update has changed. -/
  affected : ℕ
  /-- The tokens that were accepted by a rotation, in order. -/
  accepted : List τ

inductive SessionCommit (τ η : Type) where
  | createSession (sessionId : SessionId) (session : UserSession η)
  | deleteSession (sessionId : SessionId)
  /-- Exchange the presented token for the one that is signed in the second `signedAt`. -/
  | rotate (payload : RefreshTokenPayload) (presented : τ) (signedAt : ℕ)

namespace SessionStore

variable {τ η : Type}

def findUnique (s : SessionStore τ η) (id : SessionId) : Option (UserSession η) :=
  match s.slots id with
  | .row session => some session
  | _ => none

def setSlot (s : SessionStore τ η) (id : SessionId) (slot : SessionSlot η) : SessionStore τ η :=
  { s with slots := Function.update s.slots id slot }

/-- Mark a session as revoked, unless it is. -/
def revoke (s : SessionStore τ η) (id : SessionId) : SessionStore τ η :=
  match s.slots id with
  | .row session =>
    s.setSlot id (.row { session with revokedAt := session.revokedAt.orElse fun _ => s.clock })
  | _ => s

/-- A shop nobody has logged in to. -/
def init : SessionStore τ η := ⟨0, fun _ => .unused, 0, []⟩

lemma findUnique_eq_some {s : SessionStore τ η} {id : SessionId} {session : UserSession η} :
    s.findUnique id = some session ↔ s.slots id = .row session := by
  unfold findUnique
  split <;> simp_all

end SessionStore

/-- What the rest of the server does to the sessions: time passes, and a logout, a password
change or an administrator revokes a session. -/
inductive SessionAction where
  | tick (elapsed : Millis)
  | revoke (id : SessionId)

section Machine

variable {τ η : Type} [DecidableEq η] (jwt : TokenScheme τ η)

/-- The rows `where: { id, refreshTokenHash, revokedAt: null }`: at most one. -/
def SessionStore.rotatable (s : SessionStore τ η) (payload : RefreshTokenPayload)
    (presented : τ) : Option (UserSession η) :=
  (s.findUnique payload.sessionId).filter fun session =>
    session.refreshTokenHash = jwt.hashToken presented ∧ session.revokedAt = none

def SessionCommit.apply (c : SessionCommit τ η) (s : SessionStore τ η) :
    Option (SessionStore τ η) :=
  match c with
  | .createSession id session =>
    match s.slots id with
    | .unused => some (s.setSlot id (.row session))
    | _ => none
  | .deleteSession id =>
    match s.slots id with
    | .row _ => some (s.setSlot id .deleted)
    | _ => some s
  | .rotate payload presented signedAt =>
    match s.rotatable jwt payload presented with
    | none => some { s with affected := 0 }
    | some session =>
      let refreshTokenHash := jwt.hashToken (jwt.signRefresh (refreshContent payload signedAt))
      some { s.setSlot payload.sessionId (.row { session with refreshTokenHash }) with
        affected := 1, accepted := s.accepted ++ [presented] }

/-! ## The service -/

structure TokenPair (τ : Type) where
  accessToken : τ
  refreshToken : τ

/-- A login: a new session, and its first pair of tokens. -/
def issueUserSessionAndTokens (userId : UserId) (email : Email) (sessionId : SessionId) :
    Proc (SessionStore τ η) (SessionCommit τ η) AppError (TokenPair τ) := do
  let now ← Proc.read
  let expiresAt := now.clock + 7 * 24 * 60 * 60 * 1000
  let payload := ⟨userId, email, sessionId⟩
  let refreshToken := jwt.generateRefreshToken now.clock payload
  let now ← Proc.commit (.createSession sessionId
    ⟨userId, jwt.hashToken refreshToken, expiresAt, none⟩)
  pure ⟨jwt.generateAccessToken now.clock payload, refreshToken⟩

def refreshToken (refreshToken : τ) :
    Proc (SessionStore τ η) (SessionCommit τ η) AppError (TokenPair τ) := do
  let now ← Proc.read
  match jwt.verifyRefreshToken now.clock refreshToken with
  | none => throw ⟨"Invalid or expired refresh token", 401⟩
  | some payload =>
    let tokenHash := jwt.hashToken refreshToken
    let db ← Proc.read
    match db.findUnique payload.sessionId with
    | none => throw ⟨"Invalid refresh token", 401⟩
    | some session =>
      if session.userId ≠ payload.userId ∨ session.revokedAt.isSome then
        throw ⟨"Invalid refresh token", 401⟩
      else if session.refreshTokenHash ≠ tokenHash then do
        let _ ← Proc.commit (.deleteSession payload.sessionId)
        throw ⟨"Refresh token is invalid", 401⟩
      else
        let now ← Proc.read
        if session.expiresAt < now.clock then do
          let _ ← Proc.commit (.deleteSession payload.sessionId)
          throw ⟨"Session expired", 401⟩
        else
          let now ← Proc.read
          let newRefreshToken := jwt.generateRefreshToken now.clock payload
          let rotation ← Proc.commit (.rotate payload refreshToken (secondOf now.clock))
          if rotation.affected ≠ 1 then throw ⟨"Refresh token is invalid", 401⟩
          else pure ⟨jwt.generateAccessToken rotation.clock payload, newRefreshToken⟩

inductive SessionCall (τ : Type) where
  | issueUserSessionAndTokens (userId : UserId) (email : Email) (sessionId : SessionId)
  | refreshToken (refreshToken : τ)

/-- The session service: any number of logins and refreshes at once. -/
def sessionServer : Machine (SessionStore τ η) (SessionCommit τ η) AppError (SessionCall τ)
    SessionAction where
  apply := SessionCommit.apply jwt
  proc
    | .issueUserSessionAndTokens userId email sessionId => do
      let _ ← MeeoServer.issueUserSessionAndTokens jwt userId email sessionId
      pure ()
    | .refreshToken token => do
      let _ ← MeeoServer.refreshToken jwt token
      pure ()
  environ
    | .tick elapsed, s => { s with clock := s.clock + elapsed }
    | .revoke id, s => s.revoke id

end Machine

/-! ## What a refresh commits -/

section SingleUse

variable {τ η : Type} [DecidableEq η] (jwt : TokenScheme τ η)

/-- A refresh rotates the token it was given, for the payload that token carries. -/
def RotatesOwn (_ : SessionStore τ η) : SessionCommit τ η → Prop
  | .rotate payload presented _ =>
    ∃ content, jwt.decodeRefresh presented = some content ∧ content.payload = payload
  | _ => True

/-- A rotation signs the new token in a later second than that of the token it replaces. -/
def LaterSecond (_ : SessionStore τ η) : SessionCommit τ η → Prop
  | .rotate _ presented signedAt =>
    ∀ content ∈ jwt.decodeRefresh presented, content.iat < signedAt
  | _ => True

instance (s : SessionStore τ η) (c : SessionCommit τ η) : Decidable (LaterSecond jwt s c) := by
  unfold LaterSecond
  split <;> infer_instance

variable {jwt}

lemma mem_rotatable {s : SessionStore τ η} {payload : RefreshTokenPayload} {presented : τ}
    {session : UserSession η} (h : s.rotatable jwt payload presented = some session) :
    s.slots payload.sessionId = .row session ∧
      session.refreshTokenHash = jwt.hashToken presented := by
  obtain ⟨hfind, hhash⟩ := Option.filter_eq_some_iff.mp h
  have hhash := of_decide_eq_true hhash
  exact ⟨SessionStore.findUnique_eq_some.mp hfind, hhash.1⟩

/-- What a rotation does: it finds no row, or it replaces the hash in the row it finds and
accepts the presented token. -/
lemma apply_rotate {s s' : SessionStore τ η} {payload : RefreshTokenPayload} {presented : τ}
    {signedAt : ℕ} (h : SessionCommit.apply jwt (.rotate payload presented signedAt) s = some s') :
    s' = { s with affected := 0 } ∨
      ∃ session, s.rotatable jwt payload presented = some session ∧
        s'.accepted = s.accepted ++ [presented] ∧ s'.affected = 1 ∧
        s'.slots = Function.update s.slots payload.sessionId (.row { session with
          refreshTokenHash := jwt.hashToken (jwt.signRefresh (refreshContent payload signedAt)) }) := by
  simp only [SessionCommit.apply] at h
  split at h
  · exact Or.inl (Option.some.inj h).symm
  · rename_i session hsession
    obtain rfl := Option.some.inj h
    exact Or.inr ⟨session, hsession, rfl, rfl, rfl⟩

/-- **A refresh.**  It rotates only its own token, and if it returns a new pair, then its token
has been accepted by a rotation. -/
theorem refreshToken_emits {I G : SessionStore τ η → SessionStore τ η → Prop} (token : τ)
    (s₀ : SessionStore τ η) :
    (refreshToken jwt token).Emits (SessionCommit.apply jwt) I G (RotatesOwn jwt)
      (fun r s => ∀ pair, r = .ok pair → token ∈ s.accepted) s₀ := by
  refine Proc.emits_read_post (by simp) fun s₁ _ => ?_
  split
  · rintro pair ⟨⟩
  rename_i payload hpayload
  have hown := jwt.decode_of_verify hpayload
  refine Proc.emits_read_post (by simp) fun s₂ _ => ?_
  split
  · rintro pair ⟨⟩
  split
  · rintro pair ⟨⟩
  split
  · refine Proc.emits_commit_post (by simp) (fun _ _ => trivial) fun _ _ _ _ _ => ?_
    rintro pair ⟨⟩
  refine Proc.emits_read_post (by simp) fun s₃ _ => ?_
  split
  · refine Proc.emits_commit_post (by simp) (fun _ _ => trivial) fun _ _ _ _ _ => ?_
    rintro pair ⟨⟩
  refine Proc.emits_read_post (by simp) fun s₄ _ => ?_
  refine Proc.emits_commit_post (by simp) (fun _ _ => hown) fun s s' _ happ _ => ?_
  split
  · rintro pair ⟨⟩
  · rename_i haffected
    intro pair _
    rcases apply_rotate happ with rfl | ⟨session, -, haccepted, -, -⟩
    · simp at haffected
    · rw [haccepted]
      simp

lemma issueUserSessionAndTokens_emits {I G : SessionStore τ η → SessionStore τ η → Prop}
    (userId : UserId) (email : Email) (sessionId : SessionId) (s₀ : SessionStore τ η) :
    (issueUserSessionAndTokens jwt userId email sessionId).Emits (SessionCommit.apply jwt) I G
      (RotatesOwn jwt) Proc.Any s₀ :=
  Proc.emits_read fun _ _ => Proc.emits_commit (fun _ _ => trivial) fun _ _ _ _ _ =>
    Proc.emits_pure

/-- Nothing is assumed about what the calls do to each other. -/
lemma sessionServer_rely :
    Rely (sessionServer jwt) (fun _ => True) (LaterSecond jwt) (fun _ _ => True)
      fun _ => RotatesOwn jwt where
  refl _ := trivial
  trans _ _ := trivial
  env _ _ := trivial
  commit _ _ _ _ := trivial
  emits x s _ := by
    cases x with
    | issueUserSessionAndTokens userId email sessionId =>
      exact (issueUserSessionAndTokens_emits userId email sessionId s).andThen
        fun _ _ => Proc.emits_pure
    | refreshToken token =>
      exact ((refreshToken_emits token s).mono fun _ _ _ => trivial).andThen
        fun _ _ => Proc.emits_pure

end SingleUse

/-! ## Accepted tokens are dead -/

section MovedOn

variable {τ η : Type} {jwt : TokenScheme τ η}

/-- The session of an accepted token has moved on: its row, if it is still there, holds the
hash of a token that was signed in a later second. -/
def SessionStore.MovedOn (jwt : TokenScheme τ η) (s : SessionStore τ η)
    (content : SignedPayload) : Prop :=
  s.slots content.payload.sessionId ≠ .unused ∧
    ∀ session, s.slots content.payload.sessionId = .row session →
      ∃ current, session.refreshTokenHash = jwt.hashToken (jwt.signRefresh current) ∧
        content.iat < current.iat

structure RotatedAway (jwt : TokenScheme τ η) (s : SessionStore τ η) : Prop where
  once : s.accepted.Nodup
  movedOn : ∀ token ∈ s.accepted, ∀ content, jwt.decodeRefresh token = some content →
    s.MovedOn jwt content

variable {s s' : SessionStore τ η} {content : SignedPayload}

lemma SessionStore.MovedOn.update {id : SessionId} {slot : SessionSlot η}
    (h : s.MovedOn jwt content) (hs' : s'.slots = Function.update s.slots id slot)
    (hused : slot ≠ .unused)
    (hslot : id = content.payload.sessionId → ∀ session, slot = .row session →
      ∃ current, session.refreshTokenHash = jwt.hashToken (jwt.signRefresh current) ∧
        content.iat < current.iat) :
    s'.MovedOn jwt content := by
  unfold SessionStore.MovedOn
  rw [hs']
  by_cases hid : content.payload.sessionId = id
  · rw [hid, Function.update_self]
    exact ⟨hused, hslot hid.symm⟩
  · rw [Function.update_of_ne hid]
    exact h

lemma SessionStore.MovedOn.revoke (h : s.MovedOn jwt content) (id : SessionId) :
    (s.revoke id).MovedOn jwt content := by
  unfold SessionStore.revoke
  split
  · rename_i session hsession
    refine h.update rfl (by simp) ?_
    -- a revocation keeps the hash
    rintro rfl revoked ⟨⟩
    exact h.2 session hsession
  · exact h

end MovedOn

section SingleUse

variable {τ η : Type} [DecidableEq η] {jwt : TokenScheme τ η} {s s' : SessionStore τ η}

/-- The token that was presented is older than the one that replaces it, and so is every token
that the session has left behind. -/
lemma RotatedAway.rotate (h : RotatedAway jwt s) {payload : RefreshTokenPayload} {presented : τ}
    {signedAt : ℕ} (hown : RotatesOwn jwt s (.rotate payload presented signedAt))
    (hlater : LaterSecond jwt s (.rotate payload presented signedAt))
    (happ : SessionCommit.apply jwt (.rotate payload presented signedAt) s = some s') :
    RotatedAway jwt s' := by
  obtain ⟨own, hdecode, rfl⟩ := hown
  rcases apply_rotate happ with rfl | ⟨session, hsession, haccepted, -, hslots⟩
  · exact ⟨h.once, h.movedOn⟩
  obtain ⟨hslot, hhash⟩ := mem_rotatable hsession
  -- a token that the session has moved on from is older than the presented one
  have holder : ∀ {content : SignedPayload}, s.MovedOn jwt content →
      own.payload.sessionId = content.payload.sessionId → content.iat < own.iat := by
    intro content hmoved hid
    obtain ⟨current, hcurrent, hiat⟩ := hmoved.2 session (hid ▸ hslot)
    have hsame : jwt.decodeRefresh presented = some current :=
      jwt.decode_of_hash (hhash.symm.trans hcurrent)
    rw [hdecode, Option.some.injEq] at hsame
    rwa [hsame]
  have hown : own.iat < signedAt := hlater own hdecode
  constructor
  · rw [haccepted, List.nodup_append]
    refine ⟨h.once, List.nodup_singleton _, fun token htoken token' htoken' heq => ?_⟩
    obtain rfl := List.mem_singleton.mp htoken'
    subst heq
    exact absurd (holder (h.movedOn token htoken own hdecode) rfl) (Nat.lt_irrefl _)
  · intro token htoken content hcontent
    rw [haccepted, List.mem_append, List.mem_singleton] at htoken
    rcases htoken with htoken | rfl
    · have hmoved := h.movedOn token htoken content hcontent
      refine hmoved.update hslots (by simp) ?_
      rintro hid renewed ⟨⟩
      exact ⟨_, rfl, Nat.lt_trans (holder hmoved hid) hown⟩
    · rw [hdecode, Option.some.injEq] at hcontent
      subst hcontent
      unfold SessionStore.MovedOn
      rw [hslots, Function.update_self]
      refine ⟨by simp, ?_⟩
      rintro renewed ⟨⟩
      exact ⟨_, rfl, hown⟩

lemma RotatedAway.of_apply (h : RotatedAway jwt s) {c : SessionCommit τ η}
    (hown : RotatesOwn jwt s c) (hlater : LaterSecond jwt s c)
    (happ : SessionCommit.apply jwt c s = some s') : RotatedAway jwt s' := by
  cases c with
  | rotate payload presented signedAt => exact h.rotate hown hlater happ
  | createSession id session =>
    simp only [SessionCommit.apply] at happ
    split at happ
    · rename_i hunused
      obtain rfl := Option.some.inj happ
      refine ⟨h.once, fun token htoken content hcontent => ?_⟩
      have hmoved := h.movedOn token htoken content hcontent
      refine hmoved.update rfl (by simp) fun hid => ?_
      exact absurd (hid ▸ hunused) hmoved.1
    · cases happ
  | deleteSession id =>
    simp only [SessionCommit.apply] at happ
    split at happ
    · obtain rfl := Option.some.inj happ
      refine ⟨h.once, fun token htoken content hcontent => ?_⟩
      refine (h.movedOn token htoken content hcontent).update rfl (by simp) ?_
      rintro - session ⟨⟩
    · obtain rfl := Option.some.inj happ
      exact h

lemma accepted_environ (e : SessionAction) (s : SessionStore τ η) :
    ((sessionServer jwt).environ e s).accepted = s.accepted := by
  cases e with
  | tick elapsed => rfl
  | revoke id =>
    show (s.revoke id).accepted = s.accepted
    unfold SessionStore.revoke
    split <;> rfl

/-- The history of the rotations is only ever extended. -/
lemma accepted_grows {c : SessionCommit τ η} (h : SessionCommit.apply jwt c s = some s') :
    s.accepted <+: s'.accepted := by
  cases c with
  | rotate payload presented signedAt =>
    rcases apply_rotate h with rfl | ⟨session, -, haccepted, -, -⟩
    · exact List.prefix_refl _
    · rw [haccepted]
      exact List.prefix_append _ _
  | createSession id session =>
    simp only [SessionCommit.apply] at h
    split at h
    · obtain rfl := Option.some.inj h
      exact List.prefix_refl _
    · cases h
  | deleteSession id =>
    simp only [SessionCommit.apply] at h
    split at h <;> obtain rfl := Option.some.inj h <;> exact List.prefix_refl _

/-- The history of the rotations begins with `history`. -/
def SessionStore.Extends (s : SessionStore τ η) (history : List τ) : Prop :=
  history <+: s.accepted

lemma RotatedAway.environ (h : RotatedAway jwt s) (e : SessionAction) :
    RotatedAway jwt ((sessionServer jwt).environ e s) := by
  cases e with
  | tick elapsed => exact ⟨h.once, h.movedOn⟩
  | revoke id =>
    have haccepted : (s.revoke id).accepted = s.accepted :=
      @accepted_environ _ _ _ jwt (.revoke id) s
    show RotatedAway jwt (s.revoke id)
    refine ⟨haccepted ▸ h.once, fun token htoken content hcontent => ?_⟩
    rw [haccepted] at htoken
    exact (h.movedOn token htoken content hcontent).revoke id

/-- **Refresh tokens are single use.**  In the runs in which every rotation signs in a later
second than that of the token it replaces, however the calls are interleaved and wherever they
fail: each token is accepted once, and the tokens that are accepted after some moment are none
of those that had been rotated away by then. -/
theorem refresh_tokens_single_use (jwt : TokenScheme τ η) {s₀ : SessionStore τ η}
    (h₀ : s₀.accepted = []) {cfg cfg' : Config (SessionStore τ η) (SessionCommit τ η) AppError}
    (hr : (sessionServer jwt).Reachable (fun _ => True) (LaterSecond jwt) s₀ cfg)
    (hlater : ReflTransGen ((sessionServer jwt).Step (fun _ => True) (LaterSecond jwt)) cfg cfg') :
    cfg'.store.accepted.Nodup ∧ ∃ since, cfg'.store.accepted = cfg.store.accepted ++ since ∧
      ∀ token ∈ cfg.store.accepted, token ∉ since := by
  have hstart : RotatedAway jwt s₀ := by
    constructor <;> simp [h₀]
  have hrotated : RotatedAway jwt cfg'.store :=
    sessionServer_rely.invariant (hr.trans hlater) hstart
      (fun e s hs => hs.environ e) fun _ hown hcond happ hs => hs.of_apply hown hcond happ
  have hgrows : cfg'.store.Extends cfg.store.accepted := by
    refine @Rely.preserved _ _ _ _ _ _ _ _ _ _ _ _ _ sessionServer_rely
      (fun s => s.Extends cfg.store.accepted) hr hlater (List.prefix_refl _) (fun e s hs => ?_)
      fun _ _ _ happ hs => hs.trans (accepted_grows happ)
    show cfg.store.accepted <+: ((sessionServer jwt).environ e s).accepted
    rw [accepted_environ]
    exact hs
  obtain ⟨since, hsince⟩ := hgrows
  refine ⟨hrotated.once, since, hsince.symm, fun token htoken hmem => ?_⟩
  have honce := hrotated.once
  rw [← hsince] at honce
  exact List.disjoint_of_nodup_append honce htoken hmem

end SingleUse

/-- A customer logs in, refreshes, waits two seconds and refreshes again; the first token is
then presented once more. -/
theorem refresh_tokens_single_use_twice :
    ∃ cfg, (sessionServer plainTokens).Reachable (fun _ => True) (LaterSecond plainTokens)
        .init cfg ∧ cfg.store.accepted.length = 2 ∧ cfg.store.accepted.Nodup := by
  obtain ⟨cfg, hr, hlength⟩ := Machine.exists_reachable_of_exec
    (sessionServer plainTokens) (fun _ => True) (LaterSecond plainTokens)
    [.call (.issueUserSessionAndTokens 7 "a@shop" 0), .step 0 .ok, .step 0 .ok,
      .env (.tick 2000),
      .call (.refreshToken (plainTokens.generateRefreshToken 0 ⟨7, "a@shop", 0⟩)),
      .step 1 .ok, .step 1 .ok, .step 1 .ok, .step 1 .ok, .step 1 .ok,
      .env (.tick 2000),
      .call (.refreshToken (plainTokens.generateRefreshToken 2000 ⟨7, "a@shop", 0⟩)),
      .step 2 .ok, .step 2 .ok, .step 2 .ok, .step 2 .ok, .step 2 .ok,
      .call (.refreshToken (plainTokens.generateRefreshToken 0 ⟨7, "a@shop", 0⟩)),
      .step 3 .ok, .step 3 .ok, .step 3 .ok]
    .init (fun s => s.accepted.length) 2 (by decide +kernel)
  exact ⟨cfg, hr, hlength, (refresh_tokens_single_use plainTokens rfl hr .refl).1⟩

/-- Without the condition a token is accepted twice: it is refreshed in the second in which it
was issued, and the new token is the old one. -/
theorem token_accepted_twice :
    ¬ ∀ (τ η : Type) [DecidableEq η] (jwt : TokenScheme τ η) (s₀ : SessionStore τ η)
      (cfg : Config (SessionStore τ η) (SessionCommit τ η) AppError), s₀.accepted = [] →
      (sessionServer jwt).Reachable (fun _ => True) Free s₀ cfg → cfg.store.accepted.Nodup := by
  intro h
  obtain ⟨cfg, hr, htwice⟩ := Machine.exists_reachable_of_exec
    (sessionServer plainTokens) (fun _ => True) Free
    [.call (.issueUserSessionAndTokens 7 "a@shop" 0), .step 0 .ok, .step 0 .ok,
      .call (.refreshToken (plainTokens.generateRefreshToken 0 ⟨7, "a@shop", 0⟩)),
      .step 1 .ok, .step 1 .ok, .step 1 .ok, .step 1 .ok, .step 1 .ok,
      .env (.tick 5000),
      .call (.refreshToken (plainTokens.generateRefreshToken 0 ⟨7, "a@shop", 0⟩)),
      .step 2 .ok, .step 2 .ok, .step 2 .ok, .step 2 .ok, .step 2 .ok]
    .init (fun s => decide s.accepted.Nodup) false (by decide +kernel)
  exact absurd (h _ _ plainTokens .init cfg rfl hr) (of_decide_eq_false htwice)

end MeeoServer
