/-
# What an operation clears

An operation that clears the cache returns only after it has cleared, on both levels, the keys
of everybody its change has taken something from.  Three of the operations do not clear it.
-/
import MeeoServer.Auth.Admission

namespace MeeoServer.ContextCache

open Proc

variable {ownerOf : SessionId → UserId}

namespace Store

variable (s : Store ownerOf)

/-- Whoever has lost something to the change `v` is covered by one of the scopes. -/
def TakesWithin (v : ℕ) (scopes : List InvalidationScope) : Prop :=
  ∀ userId grant, (s.history.Took v fun db => db.Holds userId grant) →
    ∀ key : ContextKey, key.userId = userId → Grant.Fits key grant →
      ∃ scope ∈ scopes, scope.covers key = true

/-- The keys of the scope have been cleared on the level after the change `v`. -/
def Swept (level : CacheLevel) (v : ℕ) (scope : InvalidationScope) : Prop :=
  ∀ key, scope.covers key = true → v ∈ s.swept level key

end Store

variable {s s' s₀ : Store ownerOf}

/-! ## Clearing the cache -/

section Clearing

variable {v : ℕ} {scopes : List InvalidationScope}

lemma Store.TakesWithin.mono (h : s.TakesWithin v scopes) (hv : v ≤ s.history.version)
    (hs : Grows s s') : s'.TakesWithin v scopes := by
  intro userId grant htook
  exact h userId grant ((History.took_iff_of_extends hs.history hv).mp htook)

lemma Store.Swept.mono {level : CacheLevel} {scope : InvalidationScope}
    (h : s.Swept level v scope) (hs : Grows s s') : s'.Swept level v scope :=
  fun key hkey => hs.swept level key v (h key hkey)

lemma swept_of_sweep (s : Store ownerOf) (level : CacheLevel) (scope : InvalidationScope) (v : ℕ) :
    (s.sweep level scope v).Swept level v scope :=
  fun _ hkey => swept_sweep.mpr (.inr ⟨rfl, hkey, rfl⟩)

/-- When the loop has come to its end, every scope has been cleared in memory. -/
lemma clearMemory_emits (scopes : List InvalidationScope) (hv : v ≤ s.history.version) :
    (clearMemory v scopes).Emits Commit.apply Grows Grows Emitted
      (fun r s => r = .ok () → ∀ scope ∈ scopes, s.Swept .memory v scope) s := by
  induction scopes generalizing s with
  | nil =>
    intro _ scope hscope
    cases hscope
  | cons scope scopes ih =>
    refine emits_commit_post (by simp) (fun s₁ h₁ => hv.trans h₁.history.version_le)
      fun s₁ s₂ h₁ happ h₂ => ?_
    have hswept : s₂.Swept .memory v scope := by
      obtain rfl := Option.some.inj happ
      exact swept_of_sweep _ _ _ _
    have hrest := (ih (hv.trans (h₁.trans h₂).history.version_le)).frame
      (F := fun s => s.Swept .memory v scope) (fun _ _ h h' => h'.mono h)
      (fun _ _ h h' => h'.mono h) hswept
    refine hrest.mono ?_
    rintro r s₃ ⟨hall, hone⟩ hr other hother
    rcases List.mem_cons.mp hother with rfl | hother
    · exact hone
    · exact hall hr other hother

lemma clearRedisScope_emits (scope : InvalidationScope) (hv : v ≤ s.history.version) :
    (clearRedisScope v scope).Emits Commit.apply Grows Grows Emitted
      (fun r s => r = .ok () → s.Swept .redis v scope) s := by
  cases scope with
  | session userId sessionId =>
    refine emits_commit_post (by simp) (fun s₁ h₁ => hv.trans h₁.history.version_le)
      fun s₁ s₂ _ happ _ _ => ?_
    obtain rfl := Option.some.inj happ
    exact swept_of_sweep _ _ _ _
  | user userId =>
    refine emits_read_post (by simp) fun s₁ h₁ => ?_
    have hv₁ : v ≤ s₁.history.version := hv.trans h₁.history.version_le
    refine emits_commit_post (by simp) (fun s₂ h₂ => hv₁.trans h₂.history.version_le)
      fun s₂ s₃ _ happ _ _ => ?_
    obtain rfl := Option.some.inj happ
    exact swept_of_sweep _ _ _ _

lemma clearRedis_eq_tryAll (v : ℕ) (scopes : List InvalidationScope) :
    (clearRedis v scopes : Service ownerOf Bool) = tryAll (clearRedisScope v) scopes := by
  induction scopes with
  | nil => rfl
  | cons scope scopes ih =>
    unfold clearRedis tryAll
    rw [ih]

/-- If Redis was reachable throughout, every scope has been cleared there. -/
lemma clearRedis_emits (scopes : List InvalidationScope) (hv : v ≤ s.history.version) :
    (clearRedis v scopes).Emits Commit.apply Grows Grows Emitted
      (fun r s => r = .ok true → ∀ scope ∈ scopes, s.Swept .redis v scope) s := by
  rw [clearRedis_eq_tryAll]
  exact tryAll_emits (F := fun s => v ≤ s.history.version)
    (fun _ _ h h' => h'.trans h.history.version_le) (fun _ _ h h' => h'.trans h.history.version_le)
    (fun _ _ _ h h' => h'.mono h) (fun _ _ _ h h' => h'.mono h)
    (fun scope _ hv => clearRedisScope_emits scope hv) scopes hv

lemma invalidateAuthContexts_emits (cacheEnabled : Bool) (scopes : List InvalidationScope)
    (hv : v ≤ s.history.version) :
    (invalidateAuthContexts cacheEnabled v scopes).Emits Commit.apply Grows
      Grows Emitted (fun r s => r = .ok true →
        ∀ scope ∈ scopes, ∀ level, s.Swept level v scope) s := by
  have hmemory := (clearMemory_emits scopes hv).frame (F := fun s => v ≤ s.history.version)
    (fun _ _ h h' => h'.trans h.history.version_le)
    (fun _ _ h h' => h'.trans h.history.version_le) hv
  refine Emits.bind (hmemory.mono ?_)
  rintro r s₁ ⟨hswept, hv₁⟩
  cases r with
  | error e => rintro ⟨⟩
  | ok _ =>
    cases cacheEnabled with
    | false => rintro ⟨⟩
    | true =>
      have hredis := (clearRedis_emits scopes hv₁).frame
        (F := fun s => ∀ scope ∈ scopes, s.Swept .memory v scope)
        (fun _ _ h h' scope hscope => (h' scope hscope).mono h)
        (fun _ _ h h' scope hscope => (h' scope hscope).mono h) (hswept rfl)
      refine hredis.mono ?_
      rintro r s₂ ⟨hredis, hmemory⟩ hr scope hscope level
      cases level with
      | memory => exact hmemory scope hscope
      | redis => exact hredis hr scope hscope

/-- **An operation that clears the cache** after its change returns only when everything that
the change has taken from somebody has been cleared on both levels. -/
theorem invalidateAndReturn_emits (cacheEnabled : Bool) (hv : v ≤ s.history.version)
    (hwithin : v ∈ s.overlooked ∨ s.TakesWithin v scopes) :
    (invalidateAndReturn cacheEnabled v scopes).Emits Commit.apply Grows
      Grows Emitted Any s := by
  have hswept := (invalidateAuthContexts_emits cacheEnabled scopes hv).frame
    (F := fun s => v ≤ s.history.version ∧ (v ∈ s.overlooked ∨ s.TakesWithin v scopes))
    (fun _ _ h h' => ⟨h'.1.trans h.history.version_le,
      h'.2.imp (h.overlooked v) fun hw => hw.mono h'.1 h⟩)
    (fun _ _ h h' => ⟨h'.1.trans h.history.version_le,
      h'.2.imp (h.overlooked v) fun hw => hw.mono h'.1 h⟩) ⟨hv, hwithin⟩
  refine Emits.bind (hswept.mono ?_)
  rintro r s₁ ⟨hswept, hv₁, hwithin⟩
  cases r with
  | error e => trivial
  | ok reached =>
    cases reached with
    | false => exact emits_pure
    | true =>
      refine emits_commit (fun s₂ h₂ => ?_) fun _ _ _ _ _ => emits_pure
      refine hwithin.imp (h₂.overlooked v) fun hwithin userId grant htook key huser hfits level => ?_
      obtain ⟨scope, hscope, hcovers⟩ := hwithin.mono hv₁ h₂ userId grant htook key huser hfits
      exact (hswept rfl scope hscope level).mono h₂ key hcovers

lemma returnOnly_emits (v : ℕ) (s₀ : Store ownerOf) :
    (returnOnly v).Emits Commit.apply Grows Grows Emitted Any s₀ :=
  emits_commit (fun _ _ => trivial) fun _ _ _ _ _ => emits_pure

end Clearing

/-! ## Operations -/

section Operations

/-- Who may have lost something to a change is known from the tables it was made on. -/
lemma takesWithin_of_change {c : AuthChange} {scopes : List InvalidationScope}
    (happ : (Commit.change c).apply s = some s')
    (hwithin : ∀ db' userId grant, c.apply s.db = some db' → s.db.Holds userId grant →
      ¬ db'.Holds userId grant → ∀ key : ContextKey, key.userId = userId →
        Grant.Fits key grant → ∃ scope ∈ scopes, scope.covers key = true) :
    s'.TakesWithin s'.history.version scopes := by
  obtain ⟨db', hdb', rfl⟩ := Option.map_eq_some_iff.mp happ
  intro userId grant htook
  obtain ⟨hbefore, hafter⟩ := History.took_record htook
  exact hwithin db' userId grant hdb' hbefore hafter

lemma covers_user {userId : UserId} {key : ContextKey} (h : key.userId = userId) :
    (InvalidationScope.user userId).covers key = true := decide_eq_true h

lemma covers_session {userId : UserId} {id : SessionId} {key : ContextKey}
    (huser : key.userId = userId) (hfits : Grant.Fits key (.session id)) :
    (InvalidationScope.session userId id).covers key = true := by
  have hsession : key.sessionId = some id := hfits
  refine decide_eq_true ?_
  rw [← huser, ← hsession]

/-- A revocation of sessions of one user takes nothing from another one. -/
lemma takesWithin_of_revoke {filter : SessionWhere} {now : Millis} {userId : UserId}
    (happ : (Commit.change (.revokeSessions filter now)).apply s = some s')
    (hfilter : ∀ row, filter.matches row = true → row.userId = userId) :
    s'.TakesWithin s'.history.version [.user userId] := by
  refine takesWithin_of_change happ fun db' holder grant hdb' hbefore hafter key hkey _ => ?_
  obtain rfl := Option.some.inj hdb'
  obtain ⟨row, -, -, hholder, hmatches⟩ := taken_of_revokeSessions hbefore hafter
  refine ⟨_, List.mem_singleton_self _, covers_user ?_⟩
  rw [hkey, ← hholder]
  exact hfilter row hmatches

/-- A revocation of one session takes nothing but this session. -/
lemma takesWithin_of_revokeOne {filter : SessionWhere} {now : Millis} {userId : UserId}
    {sessionId : SessionId}
    (happ : (Commit.change (.revokeSessions filter now)).apply s = some s')
    (hfilter : ∀ row ∈ s.db.sessions.rows, filter.matches row = true →
      row.id = sessionId ∧ row.userId = userId) :
    s'.TakesWithin s'.history.version [.session userId sessionId] := by
  refine takesWithin_of_change happ fun db' holder grant hdb' hbefore hafter key hkey hfits => ?_
  obtain rfl := Option.some.inj hdb'
  obtain ⟨row, hrow, rfl, hholder, hmatches⟩ := taken_of_revokeSessions hbefore hafter
  obtain ⟨hid, huser⟩ := hfilter row hrow hmatches
  rw [hid] at hfits
  refine ⟨_, List.mem_singleton_self _, covers_session ?_ hfits⟩
  rw [hkey, ← hholder, huser]

lemma logout_emits (cacheEnabled : Bool) (userId : UserId) (sessionId : Option SessionId)
    (hown : ∀ id ∈ sessionId, ownerOf id = userId) (s₀ : Store ownerOf) :
    (logout cacheEnabled userId sessionId).Emits Commit.apply Grows Grows
      Emitted Any s₀ := by
  cases sessionId with
  | none => exact emits_pure
  | some sessionId =>
    refine emits_read fun now _ => emits_commit (fun _ _ => trivial) fun s s' _ happ _ => ?_
    refine invalidateAndReturn_emits cacheEnabled le_rfl (.inr ?_)
    refine takesWithin_of_revokeOne happ fun row hrow hmatches => ?_
    have hid : row.id = sessionId := of_decide_eq_true (Bool.and_eq_true_iff.mp hmatches).2
    refine ⟨hid, ?_⟩
    rw [s.db.sessions.owned row hrow, hid]
    exact hown sessionId rfl

lemma revokeSession_emits (cacheEnabled : Bool) (userId : UserId) (sessionId : SessionId)
    (s₀ : Store ownerOf) :
    (revokeSession cacheEnabled userId sessionId).Emits Commit.apply Grows
      Grows Emitted Any s₀ := by
  refine emits_read fun now _ => emits_commit (fun _ _ => trivial) fun s s' _ happ _ => ?_
  split
  · exact emits_throw
  refine invalidateAndReturn_emits cacheEnabled le_rfl (.inr ?_)
  refine takesWithin_of_revokeOne happ fun row _ hmatches => ?_
  obtain ⟨hid, huser⟩ := Bool.and_eq_true_iff.mp (Bool.and_eq_true_iff.mp hmatches).2
  exact ⟨of_decide_eq_true hid, of_decide_eq_true huser⟩

lemma revokeAllSessions_emits (cacheEnabled : Bool) (userId : UserId) (s₀ : Store ownerOf) :
    (revokeAllSessions cacheEnabled userId).Emits Commit.apply Grows Grows
      Emitted Any s₀ := by
  refine emits_read fun now _ => emits_commit (fun _ _ => trivial) fun s s' _ happ _ => ?_
  refine invalidateAndReturn_emits cacheEnabled le_rfl (.inr ?_)
  refine takesWithin_of_revoke happ fun row hmatches => ?_
  exact of_decide_eq_true (Bool.and_eq_true_iff.mp hmatches).2

lemma changePassword_emits (cacheEnabled : Bool) (userId : UserId)
    (current : Option SessionId) (s₀ : Store ownerOf) :
    (changePassword cacheEnabled userId current).Emits Commit.apply Grows
      Grows Emitted Any s₀ := by
  refine emits_read fun db _ => ?_
  split
  · exact emits_throw
  rename_i user hfind
  have hid : user.id = userId := by
    obtain ⟨hfind, -⟩ := Option.filter_eq_some_iff.mp hfind
    simpa using List.find?_some hfind
  refine emits_read fun now _ => ?_
  cases current with
  | none =>
    have hcleared := invalidateAuthContexts_emits cacheEnabled [.user userId]
      (le_refl now.history.version)
    exact (hcleared.mono fun _ _ _ => trivial).andThen fun _ _ => emits_pure
  | some current =>
    refine emits_commit (fun _ _ => trivial) fun s s' _ happ _ => ?_
    refine invalidateAndReturn_emits cacheEnabled le_rfl (.inr ?_)
    refine takesWithin_of_revoke happ fun row hmatches => ?_
    have huser := (Bool.and_eq_true_iff.mp (Bool.and_eq_true_iff.mp hmatches).2).1
    rw [of_decide_eq_true huser, hid]

lemma resetPassword_emits (userId : UserId) (s₀ : Store ownerOf) :
    (resetPassword userId).Emits Commit.apply Grows Grows Emitted Any
      s₀ := by
  refine emits_read fun db _ => ?_
  split
  · exact emits_throw
  · exact emits_read fun now _ => emits_commit (fun _ _ => trivial) fun _ _ _ _ _ =>
      returnOnly_emits _ _

lemma updateUserStatus_emits (cacheEnabled : Bool) (userId : UserId) (status : UserStatus)
    (s₀ : Store ownerOf) :
    (updateUserStatus cacheEnabled userId status).Emits Commit.apply Grows
      Grows Emitted Any s₀ := by
  refine emits_read fun db _ => ?_
  split
  · exact emits_throw
  refine emits_commit (fun _ _ => trivial) fun s s' _ happ _ => ?_
  split
  · refine emits_commit (fun _ _ => trivial) fun s₁ s₂ _ happ _ => ?_
    refine invalidateAndReturn_emits cacheEnabled le_rfl (.inr ?_)
    refine takesWithin_of_revoke happ fun row hmatches => ?_
    exact of_decide_eq_true (Bool.and_eq_true_iff.mp hmatches).2
  · refine invalidateAndReturn_emits cacheEnabled le_rfl (.inr ?_)
    refine takesWithin_of_change happ fun db' holder grant hdb' hbefore hafter => ?_
    -- the status of a user is none of his grants
    obtain rfl := Option.some.inj hdb'
    exact absurd (hbefore.congr rfl rfl fun _ _ => rfl) hafter

lemma updateRole_emits (roleId : RoleId) (name : Option String) (s₀ : Store ownerOf) :
    (updateRole roleId name).Emits Commit.apply Grows Grows Emitted Any
      s₀ := by
  refine emits_read fun db _ => ?_
  split
  · exact emits_throw
  · exact emits_commit (fun _ _ => trivial) fun _ _ _ _ _ => returnOnly_emits _ _

lemma deleteRole_emits (roleId : RoleId) (s₀ : Store ownerOf) :
    (deleteRole roleId).Emits Commit.apply Grows Grows Emitted Any s₀ := by
  refine emits_read fun db _ => ?_
  split
  · exact emits_throw
  split
  · exact emits_throw
  · exact emits_commit (fun _ _ => trivial) fun _ _ _ _ _ => returnOnly_emits _ _

lemma replaceRolePermissions_emits (cacheEnabled : Bool) (roleId : RoleId)
    (identifiers : List String) (s₀ : Store ownerOf) :
    (replaceRolePermissions cacheEnabled roleId identifiers).Emits
      Commit.apply Grows Grows Emitted Any s₀ := by
  refine emits_read fun db _ => ?_
  split
  · exact emits_throw
  refine emits_read fun db _ => ?_
  dsimp only
  split
  · exact emits_throw
  refine emits_commit (fun _ _ => trivial) fun s s' _ happ _ => ?_
  refine invalidateAndReturn_emits cacheEnabled le_rfl ?_
  set userIds := db.db.assignedUsers roleId with huserIds
  by_cases hassigned : ∀ userId ∈ s.db.assignedUsers roleId, userId ∈ userIds
  · refine .inr (takesWithin_of_change happ fun db' holder grant hdb' hbefore hafter key hkey _ => ?_)
    have hmem := hassigned holder (taken_of_replaceRolePermissions hdb' hbefore hafter)
    exact ⟨.user holder, List.mem_map_of_mem hmem, covers_user hkey⟩
  · obtain ⟨db', -, rfl⟩ := Option.map_eq_some_iff.mp happ
    refine .inl ?_
    have hoverlooks : (s.db.assignedUsers roleId).any (fun userId => userId ∉ userIds) = true := by
      rw [List.any_eq_true]
      push Not at hassigned
      obtain ⟨userId, hmem, hnot⟩ := hassigned
      exact ⟨userId, hmem, decide_eq_true hnot⟩
    show _ ∈ if (s.db.assignedUsers roleId).any (fun userId => userId ∉ userIds) = true then _ else _
    rw [if_pos hoverlooks]
    exact List.mem_cons_self

lemma replaceUserRoles_emits (cacheEnabled : Bool) (userId : UserId) (identifiers : List String)
    (s₀ : Store ownerOf) :
    (replaceUserRoles cacheEnabled userId identifiers).Emits Commit.apply
      Grows Grows Emitted Any s₀ := by
  refine emits_read fun db _ => ?_
  split
  · exact emits_throw
  refine emits_read fun db _ => ?_
  dsimp only
  split
  · exact emits_throw
  refine emits_commit (fun _ _ => trivial) fun s s' _ happ _ => ?_
  refine invalidateAndReturn_emits cacheEnabled le_rfl (.inr ?_)
  refine takesWithin_of_change happ fun db' holder grant hdb' hbefore hafter key hkey _ => ?_
  refine ⟨_, List.mem_singleton_self _, covers_user ?_⟩
  rw [hkey]
  exact taken_of_replaceUserRoles hdb' hbefore hafter

end Operations

/-- The calls of the server only extend the history, whatever a commit has to satisfy besides. -/
lemma authServer_rely (ownerOf : SessionId → UserId) (cacheEnabled : Bool)
    (Cond : Store ownerOf → Commit → Prop) :
    Rely (authServer ownerOf cacheEnabled) (OwnToken ownerOf) Cond Grows fun _ => Emitted where
  refl := Grows.refl
  trans h h' := h.trans h'
  env e s := by
    cases e with
    | tick elapsed => exact ⟨.refl _, fun _ _ _ h => h, fun _ h => h, fun _ h => h⟩
    | write tables =>
      exact ⟨History.extends_record _ _, fun _ _ _ h => h, fun _ h => h, fun _ h => h⟩
  commit _ _ _ happ := Grows.of_apply happ
  emits x s hx := by
    cases x with
    | authenticate token => exact authenticate_emits cacheEnabled token s
    | getCurrentUser userId sessionId =>
      exact (getCurrentUser_emits cacheEnabled userId sessionId s).andThen fun _ _ => emits_pure
    | logout userId sessionId => exact logout_emits cacheEnabled userId sessionId hx s
    | revokeSession userId sessionId => exact revokeSession_emits cacheEnabled userId sessionId s
    | revokeAllSessions userId => exact revokeAllSessions_emits cacheEnabled userId s
    | changePassword userId current => exact changePassword_emits cacheEnabled userId current s
    | resetPassword userId => exact resetPassword_emits userId s
    | updateUserStatus userId status => exact updateUserStatus_emits cacheEnabled userId status s
    | updateRole roleId name => exact updateRole_emits roleId name s
    | deleteRole roleId => exact deleteRole_emits roleId s
    | replaceRolePermissions roleId identifiers =>
      exact replaceRolePermissions_emits cacheEnabled roleId identifiers s
    | replaceUserRoles userId identifiers =>
      exact replaceUserRoles_emits cacheEnabled userId identifiers s

end MeeoServer.ContextCache
