/-
# What lets a request in

Whatever the others do meanwhile, `authenticate` lets a request in only with a context that the
cache has answered with since it started, or with grants that the tables have held since then.
-/
import MeeoServer.Auth.ContextCache

namespace MeeoServer.ContextCache

open Proc

/-! ## Grants in a context -/

/-- What a request rests on. -/
def grantsOf (sessionId : Option SessionId) (roles permissions : List String) : List Grant :=
  sessionId.toList.map .session ++ roles.map .role ++ permissions.map .permission

def CachedAuthContext.grants (context : CachedAuthContext) : List Grant :=
  grantsOf context.sessionId context.roles context.permissions

def AuthorizationContext.grants (user : AuthorizationContext) : List Grant :=
  grantsOf user.sessionId user.roles user.permissions

/-- A session is cached under its own key only, roles and permissions under every key. -/
def Grant.Fits (key : ContextKey) : Grant → Prop
  | .session id => key.sessionId = some id
  | _ => True

lemma fits_of_mem_grants {context : CachedAuthContext} {grant : Grant}
    (h : grant ∈ context.grants) : Grant.Fits context.key grant := by
  cases grant with
  | role name => trivial
  | permission name => trivial
  | session id =>
    show context.sessionId = some id
    unfold CachedAuthContext.grants grantsOf at h
    simpa using h

/-- A request that is let in with a cached context has the grants of the context. -/
lemma grants_requestUser {token : TokenPayload} {context : CachedAuthContext}
    (h : context.sessionId = token.sessionId) :
    (requestUser token context).grants = context.grants := by
  unfold AuthorizationContext.grants CachedAuthContext.grants requestUser
  rw [h]
  cases token.sessionId <;> rfl

variable {ownerOf : SessionId → UserId}

namespace Store

variable (s : Store ownerOf)

/-- Of the grants of the user, no change in `vs` has taken one for good. -/
def UpToDate (vs : List ℕ) (userId : UserId) (grants : List Grant) : Prop :=
  ∀ v ∈ vs, ∀ grant ∈ grants, ¬ s.history.Lost v fun db => db.Holds userId grant

instance (vs : List ℕ) (userId : UserId) (grants : List Grant) :
    Decidable (s.UpToDate vs userId grants) := by
  unfold UpToDate
  infer_instance

/-- The cache has answered with the context of the user since the moment when `settled` was. -/
def FromCache (user : AuthorizationContext) (settled : List ℕ) : Prop :=
  ∃ hit ∈ s.hits, ∃ token : TokenPayload, hit.key = ⟨token.userId, token.sessionId⟩ ∧
    user = requestUser token hit.context ∧ ∀ v ∈ settled, v ∈ hit.settled

/-- The tables have held each grant of the user since each of the versions `vs`. -/
def FromTables (vs : List ℕ) (userId : UserId) (grants : List Grant) : Prop :=
  ∀ v ∈ vs, ∀ grant ∈ grants, s.history.Since v fun db => db.Holds userId grant

/-- Where something was cached that the change `v` has taken, has been cleared. -/
def Cleared (v : ℕ) : Prop :=
  ∀ userId grant, (s.history.Took v fun db => db.Holds userId grant) →
    ∀ key : ContextKey, key.userId = userId → Grant.Fits key grant →
      ∀ level, v ∈ s.swept level key

end Store

/-- What a call may commit. -/
def Emitted (s : Store ownerOf) : Commit → Prop
  | .memorySet key context _ => key = context.key ∨ ∃ hit ∈ s.hits, hit.key = key ∧
      hit.context = context
  | .memoryDelete _ v | .redisDelete _ _ v | .redisDeleteAll _ _ v => v ≤ s.history.version
  | .settle v true => v ∈ s.overlooked ∨ s.Cleared v
  | .letIn user settled => s.FromCache user settled ∨ s.FromTables settled user.userId user.grants
  | _ => True

/-- History is only ever extended. -/
structure Grows (s s' : Store ownerOf) : Prop where
  history : s.history.Extends s'.history
  swept : ∀ level key, ∀ v ∈ s.swept level key, v ∈ s'.swept level key
  hits : ∀ hit ∈ s.hits, hit ∈ s'.hits
  overlooked : ∀ v ∈ s.overlooked, v ∈ s'.overlooked

variable {s s' s₀ : Store ownerOf}

lemma Grows.refl (s : Store ownerOf) : Grows s s :=
  ⟨.refl _, fun _ _ _ h => h, fun _ h => h, fun _ h => h⟩

lemma Grows.trans {s'' : Store ownerOf} (h : Grows s s') (h' : Grows s' s'') : Grows s s'' where
  history := h.history.trans h'.history
  swept level key v hv := h'.swept level key v (h.swept level key v hv)
  hits hit hhit := h'.hits hit (h.hits hit hhit)
  overlooked v hv := h'.overlooked v (h.overlooked v hv)

/-! ## Single statements -/

/-- What a lookup does: it records the answer, if there is one, and forgets what has expired. -/
structure LookedUp (level : CacheLevel) (key : ContextKey) (s s' : Store ownerOf) : Prop where
  clock : s'.clock = s.clock
  history : s'.history = s.history
  overlooked : s'.overlooked = s.overlooked
  swept : s'.swept = s.swept
  index : s'.index = s.index
  admitted : s'.admitted = s.admitted
  live : ∀ l, s'.live l = s.live l
  kept : ∀ hit ∈ s.hits, hit ∈ s'.hits
  new : ∀ hit ∈ s'.hits, hit ∈ s.hits ∨
    s.cached level key = some hit.context ∧ hit.key = key ∧ hit.settled = s.history.settled
  recorded : ∀ context, s.cached level key = some context →
    ⟨key, context, s.history.settled⟩ ∈ s'.hits

/-- Forgetting what has expired does not show. -/
lemma live_forgetExpired (s : Store ownerOf) (key : ContextKey) (l : CacheLevel) :
    (s.forgetExpired key).live l = s.live l := by
  cases l with
  | redis => rfl
  | memory =>
    show ((s.cache .memory).filter fun entry => entry.key ≠ key || s.clock < entry.expiresAt).filter
      (fun entry => s.clock < entry.expiresAt) = _
    rw [List.filter_filter]
    refine List.filter_congr fun entry _ => ?_
    cases decide (s.clock < entry.expiresAt) <;> simp

lemma lookedUp_of_apply {level : CacheLevel} {key : ContextKey}
    (h : (Commit.lookup level key).apply s = some s') : LookedUp level key s s' := by
  obtain rfl := Option.some.inj h
  -- the memory cache drops an expired entry as it looks, which the live ones do not show
  cases hcached : s.cached level key with
  | none =>
    have hnone : ∀ context, s.cached level key = some context →
        (⟨key, context, s.history.settled⟩ : CacheHit) ∈ s.hits := by
      intro context hcontext
      rw [hcached] at hcontext
      cases hcontext
    cases level with
    | memory =>
      exact ⟨rfl, rfl, rfl, rfl, rfl, rfl, live_forgetExpired s key, fun _ h => h,
        fun _ h => .inl h, hnone⟩
    | redis =>
      exact ⟨rfl, rfl, rfl, rfl, rfl, rfl, fun _ => rfl, fun _ h => h, fun _ h => .inl h, hnone⟩
  | some context =>
    have hkept : ∀ hit ∈ s.hits, hit ∈ s.hits ++ [⟨key, context, s.history.settled⟩] :=
      fun hit hhit => List.mem_append_left _ hhit
    have hnew : ∀ hit ∈ s.hits ++ [(⟨key, context, s.history.settled⟩ : CacheHit)],
        hit ∈ s.hits ∨ s.cached level key = some hit.context ∧ hit.key = key ∧
          hit.settled = s.history.settled := by
      intro hit hhit
      rcases List.mem_append.mp hhit with hhit | hhit
      · exact .inl hhit
      · obtain rfl := List.mem_singleton.mp hhit
        exact .inr ⟨hcached, rfl, rfl⟩
    have hrecorded : ∀ other, s.cached level key = some other →
        (⟨key, other, s.history.settled⟩ : CacheHit) ∈
          s.hits ++ [⟨key, context, s.history.settled⟩] := by
      intro other hother
      rw [hcached, Option.some.injEq] at hother
      subst hother
      exact List.mem_append_right _ (List.mem_singleton_self _)
    cases level with
    | memory =>
      exact ⟨rfl, rfl, rfl, rfl, rfl, rfl, live_forgetExpired s key, hkept, hnew, hrecorded⟩
    | redis => exact ⟨rfl, rfl, rfl, rfl, rfl, rfl, fun _ => rfl, hkept, hnew, hrecorded⟩

lemma LookedUp.cached {level : CacheLevel} {key : ContextKey} (h : LookedUp level key s s')
    (l : CacheLevel) (k : ContextKey) : s'.cached l k = s.cached l k := by
  unfold Store.cached
  rw [h.live l]

lemma swept_sweep {level l : CacheLevel} {scope : InvalidationScope} {v w : ℕ} {key : ContextKey} :
    w ∈ (s.sweep level scope v).swept l key ↔
      w ∈ s.swept l key ∨ l = level ∧ scope.covers key = true ∧ w = v := by
  unfold Store.sweep
  by_cases hl : l = level
  · subst hl
    show w ∈ Function.update s.swept l _ l key ↔ _
    rw [Function.update_self]
    by_cases hkey : scope.covers key = true
    · rw [if_pos hkey, List.mem_cons]
      constructor
      · rintro (rfl | hw)
        · exact .inr ⟨rfl, hkey, rfl⟩
        · exact .inl hw
      · rintro (hw | ⟨-, -, rfl⟩)
        · exact .inr hw
        · exact .inl rfl
    · rw [if_neg hkey]
      exact ⟨.inl, fun hw => hw.resolve_right fun hnew => hkey hnew.2.1⟩
  · show w ∈ Function.update s.swept level _ l key ↔ _
    rw [Function.update_of_ne hl]
    exact ⟨.inl, fun hw => hw.resolve_right fun hnew => hl hnew.1⟩

lemma Grows.sweep (h : Grows s s') (level : CacheLevel) (scope : InvalidationScope) (v : ℕ) :
    Grows s (s'.sweep level scope v) where
  history := h.history
  swept l key w hw := swept_sweep.mpr (.inl (h.swept l key w hw))
  hits := h.hits
  overlooked := h.overlooked

lemma Grows.of_apply {c : Commit} (h : c.apply s = some s') : Grows s s' := by
  cases c with
  | change c =>
    obtain ⟨db, -, rfl⟩ := Option.map_eq_some_iff.mp h
    refine ⟨History.extends_record _ _, fun _ _ _ hv => hv, fun _ hhit => hhit, fun v hv => ?_⟩
    show v ∈ if _ then _ else _
    split
    · exact List.mem_cons_of_mem _ hv
    · exact hv
  | lookup level key =>
    have hlooked := lookedUp_of_apply h
    refine ⟨?_, ?_, hlooked.kept, ?_⟩
    · rw [hlooked.history]
      exact .refl _
    · rw [hlooked.swept]
      exact fun _ _ _ hv => hv
    · rw [hlooked.overlooked]
      exact fun _ hv => hv
  | settle v invalidated =>
    simp only [Commit.apply] at h
    split at h
    · rename_i hv
      obtain rfl := Option.some.inj h
      exact ⟨History.extends_settle _ _ hv, fun _ _ _ hv => hv, fun _ hhit => hhit, fun _ hv => hv⟩
    · cases h
  | memorySet key context expiresAt | redisSet context | letIn user settled =>
    obtain rfl := Option.some.inj h
    exact ⟨.refl _, fun _ _ _ hv => hv, fun _ hhit => hhit, fun _ hv => hv⟩
  | memoryDelete scope v | redisDelete userId sessionId v | redisDeleteAll userId contextKeys v =>
    obtain rfl := Option.some.inj h
    refine Grows.sweep ?_ _ _ v
    exact ⟨.refl _, fun _ _ _ hw => hw, fun _ hhit => hhit, fun _ hw => hw⟩

/-! ## Requests -/

/-- The cache has answered with the context since the store was `s₀`. -/
def Answered (s₀ : Store ownerOf) (key : ContextKey) (context : CachedAuthContext)
    (s : Store ownerOf) : Prop :=
  ∃ hit ∈ s.hits, hit.key = key ∧ hit.context = context ∧
    ∀ v ∈ s₀.history.settled, v ∈ hit.settled

lemma Answered.mono {key : ContextKey} {context : CachedAuthContext}
    (h : Answered s₀ key context s) (hs : Grows s s') : Answered s₀ key context s' := by
  obtain ⟨hit, hhit, hrest⟩ := h
  exact ⟨hit, hs.hits hit hhit, hrest⟩

/-- An answer to a lookup counts from any earlier store on. -/
lemma LookedUp.answered {level : CacheLevel} {key : ContextKey} {context : CachedAuthContext}
    (h : LookedUp level key s s') (hs : Grows s₀ s) (hcached : s'.cached level key = some context) :
    Answered s₀ key context s' := by
  rw [h.cached] at hcached
  exact ⟨_, h.recorded context hcached, rfl, rfl, hs.history.settled⟩

lemma getRedisContext_emits (userId : UserId) (sessionId : Option SessionId) (now : Millis)
    (hs : Grows s₀ s) :
    (getRedisContext userId sessionId now).Emits Commit.apply Grows Grows
      Emitted (fun r s => ∀ context, r = .ok (some context) →
        Answered s₀ ⟨userId, sessionId⟩ context s) s := by
  refine emits_commit_post (by simp) (fun _ _ => trivial) fun s₁ s₂ h₁ happ _ => ?_
  have hlooked := lookedUp_of_apply happ
  split
  · rintro context ⟨⟩
  rename_i context hcached
  have hanswered := hlooked.answered (hs.trans h₁) hcached
  split
  · rintro context ⟨⟩
  split
  · rintro context ⟨⟩
  refine emits_read_post (by simp) fun s₃ h₃ => ?_
  split
  · rintro context ⟨⟩
  refine emits_commit_post (by simp) (fun s₄ h₄ => ?_) fun s₄ s₅ h₄ _ h₅ => ?_
  · obtain ⟨hit, hhit, hkey, hcontext, -⟩ := (hanswered.mono h₃).mono h₄
    exact .inr ⟨hit, hhit, hkey, hcontext⟩
  · rintro other ⟨⟩
    exact ((hanswered.mono h₃).mono h₄).mono h₅

lemma getAuthContext_emits (cacheEnabled : Bool) (userId : UserId)
    (sessionId : Option SessionId) (s₀ : Store ownerOf) :
    (getAuthContext cacheEnabled userId sessionId).Emits Commit.apply Grows
      Grows Emitted (fun r s => ∀ context, r = .ok (some context) →
        Answered s₀ ⟨userId, sessionId⟩ context s) s₀ := by
  unfold getAuthContext
  split
  · rintro context ⟨⟩
  refine emits_commit_post (by simp) (fun _ _ => trivial) fun s₁ s₂ h₁ happ h₂ => ?_
  split
  · rename_i context hcached
    rintro other ⟨⟩
    exact (lookedUp_of_apply happ).answered h₁ hcached
  · refine Emits.tryCatch ((getRedisContext_emits userId sessionId _ (h₁.trans h₂)).mono ?_)
    intro r s hr
    cases r with
    | ok context => exact hr
    | error e => rintro context ⟨⟩

lemma setAuthContext_emits (cacheEnabled : Bool) (context : CachedAuthContext)
    (s₀ : Store ownerOf) :
    (setAuthContext cacheEnabled context).Emits Commit.apply Grows Grows
      Emitted Any s₀ := by
  unfold setAuthContext
  split
  · exact emits_pure
  · exact emits_read fun _ _ => emits_commit (fun _ _ => .inl rfl) fun _ _ _ _ _ =>
      emits_attempt fun _ _ => trivial

lemma Store.FromTables.mono {vs : List ℕ} {userId : UserId} {grants : List Grant}
    (h : s.FromTables vs userId grants) (hs : Grows s s') : s'.FromTables vs userId grants :=
  fun v hv grant hgrant => (h v hv grant hgrant).mono hs.history

/-- What the tables hold now they have held since everything that is settled. -/
lemma since_settled {userId : UserId} {grant : Grant} (hs : Grows s₀ s)
    (h : s.db.Holds userId grant) :
    ∀ v ∈ s₀.history.settled, s.history.Since v fun db => db.Holds userId grant := by
  intro v hv
  have hle : v ≤ s.history.version :=
    (s₀.history.settled_le v hv).trans hs.history.version_le
  exact History.since_of_now hle h

/-- A session that passes the check is held by the user. -/
lemma checkSession_emits (userId : UserId) (sessionId : Option SessionId) (hs : Grows s₀ s) :
    (checkSession userId sessionId).Emits Commit.apply Grows Grows Emitted
      (fun r s => ∀ expiresAt, r = .ok expiresAt →
        s.FromTables s₀.history.settled userId (sessionId.toList.map .session)) s := by
  cases sessionId with
  | none =>
    intro expiresAt _ v _ grant hgrant
    cases hgrant
  | some sessionId =>
    refine emits_read_post (by simp) fun s₁ h₁ => ?_
    split
    · rintro expiresAt ⟨⟩
    rename_i session hfind
    split
    · rintro expiresAt ⟨⟩
    rename_i hchecked
    rw [not_or, not_or] at hchecked
    obtain ⟨huser, hrevoked, -⟩ := hchecked
    have hid : session.id = sessionId := by simpa using List.find?_some hfind
    have hholds : s₁.db.Holds userId (.session sessionId) :=
      ⟨session, List.mem_of_find?_eq_some hfind, hid, not_not.mp huser, by simpa using hrevoked⟩
    intro expiresAt _ v hv grant hgrant
    obtain rfl := List.mem_singleton.mp hgrant
    exact since_settled (hs.trans h₁) hholds v hv

lemma loadContext_emits (token : TokenPayload) (hs : Grows s₀ s) :
    (loadContext token).Emits Commit.apply Grows Grows Emitted
      (fun r s => ∀ context, r = .ok context → context.key = ⟨token.userId, token.sessionId⟩ ∧
        s.FromTables s₀.history.settled token.userId context.grants) s := by
  refine emits_read_post (by simp) fun s₁ h₁ => ?_
  split
  · rintro context ⟨⟩
  rename_i user hfind
  split
  · rintro context ⟨⟩
  have hid : user.id = token.userId := by simpa using List.find?_some hfind
  rw [hid]
  have hroles : ∀ grant, s₁.db.Holds token.userId grant →
      s₁.FromTables s₀.history.settled token.userId [grant] := by
    intro grant hholds v hv grant' hgrant'
    obtain rfl := List.mem_singleton.mp hgrant'
    exact since_settled (hs.trans h₁) hholds v hv
  have hchecked := (checkSession_emits token.userId token.sessionId (hs.trans h₁)).frame
    (F := Grows s₁) (fun _ _ h h' => h'.trans h) (fun _ _ h h' => h'.trans h) (Grows.refl s₁)
  refine Emits.bind (hchecked.mono ?_)
  rintro r s₂ ⟨hsession, h₂⟩
  cases r with
  | error e => rintro context ⟨⟩
  | ok expiresAt =>
    rintro context ⟨⟩
    refine ⟨rfl, fun v hv grant hgrant => ?_⟩
    -- the session was looked at after the roles and the permissions
    rcases List.mem_append.mp hgrant with hgrant | hgrant
    · rcases List.mem_append.mp hgrant with hgrant | hgrant
      · exact hsession expiresAt rfl v hv grant hgrant
      · obtain ⟨name, hname, rfl⟩ := List.mem_map.mp hgrant
        exact ((hroles (.role name) hname).mono h₂) v hv _ (List.mem_singleton_self _)
    · obtain ⟨name, hname, rfl⟩ := List.mem_map.mp hgrant
      exact ((hroles (.permission name) hname).mono h₂) v hv _ (List.mem_singleton_self _)

/-- **A request is let in** with a context that the cache has answered with, or with grants that
the tables have held, since it started. -/
theorem authenticate_emits (cacheEnabled : Bool) (token : TokenPayload) (s₀ : Store ownerOf) :
    (authenticate cacheEnabled token).Emits Commit.apply Grows Grows Emitted
      Any s₀ := by
  refine emits_read fun start _ => Emits.orElse ?_ fun _ _ => emits_throw
  have hcached := (getAuthContext_emits cacheEnabled token.userId token.sessionId start).frame
    (F := Grows start) (fun _ _ h h' => h'.trans h) (fun _ _ h h' => h'.trans h) (Grows.refl start)
  refine Emits.bind (hcached.mono ?_)
  rintro r s₁ ⟨hanswered, h₁⟩
  cases r with
  | error e => trivial
  | ok found =>
    cases found with
    | some context =>
      refine emits_commit (fun s₂ h₂ => ?_) fun _ _ _ _ _ => emits_pure
      -- the hit is still recorded when the request is let in
      obtain ⟨hit, hhit, hkey, hcontext, hsettled⟩ := (hanswered context rfl).mono h₂
      exact .inl ⟨hit, hhit, token, hkey, by rw [hcontext], hsettled⟩
    | none =>
      refine Emits.bind ((loadContext_emits token h₁).mono ?_)
      intro r s₂ hloaded
      cases r with
      | error e => trivial
      | ok context =>
        -- the cache has missed, so that the context is from the tables
        obtain ⟨hkey, hfrom⟩ := hloaded context rfl
        have hset := (setAuthContext_emits cacheEnabled context s₂).frame
          (F := fun s => s.FromTables start.history.settled token.userId context.grants)
          (fun _ _ h h' => h'.mono h) (fun _ _ h h' => h'.mono h) hfrom
        refine Emits.bind (hset.mono ?_)
        rintro r s₃ ⟨-, hfrom⟩
        cases r with
        | error e => trivial
        | ok _ =>
          refine emits_commit (fun s₄ h₄ => .inr ?_) fun _ _ _ _ _ => emits_pure
          have huser : (requestUser token context).userId = token.userId :=
            congrArg ContextKey.userId hkey
          rw [huser, grants_requestUser (congrArg ContextKey.sessionId hkey)]
          exact hfrom.mono h₄

lemma getCurrentUser_emits (cacheEnabled : Bool) (userId : UserId)
    (sessionId : Option SessionId) (s₀ : Store ownerOf) :
    (getCurrentUser cacheEnabled userId sessionId).Emits Commit.apply Grows
      Grows Emitted Any s₀ := by
  have hcached := getAuthContext_emits cacheEnabled userId sessionId s₀
  refine (hcached.mono fun _ _ _ => trivial).andThen fun found s₁ => ?_
  cases found with
  | some context => exact emits_pure
  | none =>
    refine emits_read fun s₂ _ => ?_
    split
    · exact emits_throw
    · exact (setAuthContext_emits cacheEnabled _ _).andThen fun _ _ => emits_pure

end MeeoServer.ContextCache
