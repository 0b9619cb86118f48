/-
# Tokens

A JSON web token is a signed text: whoever has it can read what it was signed for, and nobody
can make one without the secret.  The library signs deterministically, so a token is a function
of its payload and of the two times it carries, and these are whole seconds.

The signer, the check of a signature and the hash of a token are parameters; `TokenScheme`
collects what the server relies on.
-/
import MeeoServer.Schema.Database
import Mathlib.Logic.Function.Basic

namespace MeeoServer

abbrev Email := String

/-- A session is named by a random identifier that is never drawn twice. -/
abbrev SessionId := ℕ

structure RefreshTokenPayload where
  userId : UserId
  email : Email
  sessionId : SessionId
deriving DecidableEq

/-- What a token carries: the payload, and the seconds in which it was issued and expires. -/
structure SignedPayload where
  payload : RefreshTokenPayload
  iat : ℕ
  exp : ℕ
deriving DecidableEq

/-- The signer of the server, for refresh tokens and for access tokens, and its hash. -/
structure TokenScheme (τ η : Type) where
  /-- Sign with the secret of the refresh tokens. -/
  signRefresh : SignedPayload → τ
  /-- Sign with the secret of the access tokens. -/
  signAccess : SignedPayload → τ
  /-- What a refresh token carries, if its signature is valid. -/
  decodeRefresh : τ → Option SignedPayload
  hashToken : τ → η
  decode_sign : ∀ content, decodeRefresh (signRefresh content) = some content
  hashToken_injective : Function.Injective hashToken

/-- The second a time falls in. -/
def secondOf (now : Millis) : ℕ := now / 1000

namespace TokenScheme

variable {τ η : Type} (jwt : TokenScheme τ η)

/-- The content of a refresh token that is signed in the second `iat`, for seven days. -/
def refreshContent (payload : RefreshTokenPayload) (iat : ℕ) : SignedPayload :=
  ⟨payload, iat, iat + 7 * 24 * 60 * 60⟩

def generateRefreshToken (now : Millis) (payload : RefreshTokenPayload) : τ :=
  jwt.signRefresh (refreshContent payload (secondOf now))

/-- Access tokens live for five minutes. -/
def generateAccessToken (now : Millis) (payload : RefreshTokenPayload) : τ :=
  jwt.signAccess ⟨payload, secondOf now, secondOf now + 5 * 60⟩

/-- The payload of a token with a valid signature that has not expired. -/
def verifyRefreshToken (now : Millis) (token : τ) : Option RefreshTokenPayload :=
  match jwt.decodeRefresh token with
  | none => none
  | some content => if content.exp ≤ secondOf now then none else some content.payload

lemma decode_of_verify {now : Millis} {token : τ} {payload : RefreshTokenPayload}
    (h : jwt.verifyRefreshToken now token = some payload) :
    ∃ content, jwt.decodeRefresh token = some content ∧ content.payload = payload := by
  unfold verifyRefreshToken at h
  split at h
  · cases h
  · rename_i content hcontent
    obtain ⟨-, hpayload⟩ := Option.ite_none_left_eq_some.mp h
    exact ⟨content, hcontent, Option.some.inj hpayload⟩

/-- Two tokens with the same hash as a signed one carry the same content. -/
lemma decode_of_hash {token : τ} {content : SignedPayload}
    (h : jwt.hashToken token = jwt.hashToken (jwt.signRefresh content)) :
    jwt.decodeRefresh token = some content := by
  rw [jwt.hashToken_injective h]
  exact jwt.decode_sign content

end TokenScheme

/-- Tokens in the clear: a token is what it carries, and which secret it was signed with. -/
def plainTokens : TokenScheme (Bool × SignedPayload) (Bool × SignedPayload) where
  signRefresh content := (true, content)
  signAccess content := (false, content)
  decodeRefresh token := if token.1 then some token.2 else none
  hashToken := id
  decode_sign _ := rfl
  hashToken_injective := Function.injective_id

end MeeoServer
