/-
# The cache of authentication contexts

`common/utils/auth-cache.ts`, with the requests that fill the cache (`authenticate` of the auth
plugin and `getCurrentUser`) and the operations that revoke access or change what a user may do.

A context is cached on two levels, in the memory of the process and in Redis, each for five
minutes.  An invalidation for a session deletes its key on both levels; one for a user deletes
all keys of the user in memory, and in Redis those that an index lists.

Some fields of the store are history, which no program looks at: the versions of the tables
with the changes that have returned, the changes that have overlooked a user, which keys were
cleared after which change, and what the cache has answered.  A program passes the number of
its own change on to the statements that clear the cache for it.
-/
import MeeoServer.Auth.Grants
import MeeoServer.Process.History
import MeeoServer.Process.Interleaving

namespace MeeoServer.ContextCache

open Proc

def AUTH_CONTEXT_TTL_SECONDS : ℕ := 300

/-- What is cached, as far as the decisions of the server depend on it. -/
structure CachedAuthContext where
  userId : UserId
  id : UserId
  roles : List String
  permissions : List String
  sessionId : Option SessionId
  sessionExpiresAt : Option Millis
deriving DecidableEq

/-- `auth:context:<userId>:<sessionId>`, and the same for the memory; without a session it ends
in `account`. -/
structure ContextKey where
  userId : UserId
  sessionId : Option SessionId
deriving DecidableEq

def CachedAuthContext.key (context : CachedAuthContext) : ContextKey :=
  ⟨context.userId, context.sessionId⟩

structure CacheEntry where
  key : ContextKey
  context : CachedAuthContext
  expiresAt : Millis
deriving DecidableEq

/-- The two levels of the cache. -/
inductive CacheLevel where
  | memory
  | redis
deriving DecidableEq

/-- The Redis set `auth:context-index:<userId>`. -/
structure ContextIndex where
  members : List ContextKey
  expiresAt : Millis
deriving DecidableEq

/-- What an invalidation is called for: a session, or all sessions of a user. -/
inductive InvalidationScope where
  | session (userId : UserId) (sessionId : SessionId)
  | user (userId : UserId)
deriving DecidableEq

def InvalidationScope.covers : InvalidationScope → ContextKey → Bool
  | session userId sessionId, key => key = ⟨userId, some sessionId⟩
  | user userId, key => key.userId = userId

structure TokenPayload where
  userId : UserId
  sessionId : Option SessionId
deriving DecidableEq

/-- `request.user`. -/
structure AuthorizationContext where
  userId : UserId
  id : UserId
  roles : List String
  permissions : List String
  sessionId : Option SessionId
deriving DecidableEq

/-- `{ ...tokenPayload, ...context }` -/
def requestUser (tokenPayload : TokenPayload) (context : CachedAuthContext) :
    AuthorizationContext where
  userId := context.userId
  id := context.id
  roles := context.roles
  permissions := context.permissions
  sessionId := context.sessionId.orElse fun _ => tokenPayload.sessionId

/-- A context that the cache has answered with, and what was settled at that moment. -/
structure CacheHit where
  key : ContextKey
  context : CachedAuthContext
  settled : List ℕ

/-- A request that was let in, and what was settled when it started. -/
structure Admission where
  user : AuthorizationContext
  settled : List ℕ

variable {ownerOf : SessionId → UserId}

structure Store (ownerOf : SessionId → UserId) where
  clock : Millis
  history : History (AuthTables ownerOf)
  /-- The rows that the last `updateMany` has changed. -/
  affected : ℕ
  /-- The changes that have overlooked a user. -/
  overlooked : List ℕ
  cache : CacheLevel → List CacheEntry
  index : UserId → Option ContextIndex
  /-- The changes after which a key was cleared. -/
  swept : CacheLevel → ContextKey → List ℕ
  hits : List CacheHit
  admitted : List Admission

namespace Store

variable (s : Store ownerOf)

def db : AuthTables ownerOf := s.history.now

/-- The entries of a level that have not expired. -/
def live (level : CacheLevel) : List CacheEntry :=
  (s.cache level).filter fun entry => s.clock < entry.expiresAt

/-- What a level answers for a key. -/
def cached (level : CacheLevel) (key : ContextKey) : Option CachedAuthContext :=
  ((s.live level).find? fun entry => entry.key = key).map CacheEntry.context

/-- The set `auth:context-index:<userId>`, while it exists. -/
def liveIndex (userId : UserId) : Option ContextIndex :=
  (s.index userId).filter fun index => s.clock < index.expiresAt

/-- `redis.smembers` of the index of a user. -/
def smembers (userId : UserId) : List ContextKey :=
  ((s.liveIndex userId).map ContextIndex.members).getD []

/-- The memory forgets the entry under a key if it has expired. -/
def forgetExpired (key : ContextKey) : Store ownerOf :=
  { s with
    cache := Function.update s.cache .memory
      ((s.cache .memory).filter fun entry => entry.key ≠ key || s.clock < entry.expiresAt) }

/-- Put an entry on a level, in place of the one under its key. -/
def put (level : CacheLevel) (entry : CacheEntry) : Store ownerOf :=
  { s with
    cache := Function.update s.cache level
      (entry :: (s.cache level).filter fun old => old.key ≠ entry.key) }

/-- Delete the entries of a level under the keys in `p`. -/
def delete (level : CacheLevel) (p : ContextKey → Bool) : Store ownerOf :=
  { s with
    cache := Function.update s.cache level
      ((s.cache level).filter fun entry => !p entry.key) }

/-- The keys of a scope were cleared on a level after the change `v`. -/
def sweep (level : CacheLevel) (scope : InvalidationScope) (v : ℕ) : Store ownerOf :=
  { s with
    swept := Function.update s.swept level fun key =>
      if scope.covers key then v :: s.swept level key else s.swept level key }

/-- A server that has just been started on the tables `tables`. -/
def start (clock : Millis) (tables : AuthTables ownerOf) : Store ownerOf where
  clock := clock
  history := .start tables
  affected := 0
  overlooked := []
  cache _ := []
  index _ := none
  swept _ _ := []
  hits := []
  admitted := []

end Store

inductive Commit where
  | change (change : AuthChange)
  /-- Ask a level for a key; the memory forgets an entry that has expired. -/
  | lookup (level : CacheLevel) (key : ContextKey)
  | memorySet (key : ContextKey) (context : CachedAuthContext) (expiresAt : Millis)
  /-- One pipeline: the entry, its key in the index, and the life of the index. -/
  | redisSet (context : CachedAuthContext)
  | memoryDelete (scope : InvalidationScope) (v : ℕ)
  | redisDelete (userId : UserId) (sessionId : SessionId) (v : ℕ)
  /-- One pipeline: the keys that the index has listed, and the index. -/
  | redisDeleteAll (userId : UserId) (contextKeys : List ContextKey) (v : ℕ)
  /-- The operation that made the change `v` returns; `invalidated` if it has cleared the cache
  after it. -/
  | settle (v : ℕ) (invalidated : Bool)
  | letIn (user : AuthorizationContext) (settled : List ℕ)
deriving DecidableEq

def Commit.apply (c : Commit) (s : Store ownerOf) : Option (Store ownerOf) :=
  match c with
  | .change c =>
    (c.apply s.db).map fun db =>
      { s with
        history := s.history.record db
        affected := c.affected s.db
        overlooked := if c.overlooks s.db then (s.history.record db).version :: s.overlooked
          else s.overlooked }
  | lookup level key =>
    let s := match s.cached level key with
      | some context => { s with hits := s.hits ++ [⟨key, context, s.history.settled⟩] }
      | none => s
    some <| match level with
      | .memory => s.forgetExpired key
      | .redis => s
  | memorySet key context expiresAt => some (s.put .memory ⟨key, context, expiresAt⟩)
  | redisSet context =>
    let expiresAt := s.clock + AUTH_CONTEXT_TTL_SECONDS * 1000
    let members := s.smembers context.userId
    some { s.put .redis ⟨context.key, context, expiresAt⟩ with
      index := Function.update s.index context.userId
        (some ⟨if context.key ∈ members then members else context.key :: members, expiresAt⟩) }
  | memoryDelete scope v => some ((s.delete .memory scope.covers).sweep .memory scope v)
  | redisDelete userId sessionId v =>
    let scope := InvalidationScope.session userId sessionId
    some ((s.delete .redis scope.covers).sweep .redis scope v)
  | redisDeleteAll userId contextKeys v =>
    let s := { s.delete .redis (· ∈ contextKeys) with
      index := Function.update s.index userId none }
    some (s.sweep .redis (.user userId) v)
  | settle v _ => if hv : v ≤ s.history.version then
      some { s with history := s.history.settle v hv } else none
  | letIn user settled => some { s with admitted := s.admitted ++ [⟨user, settled⟩] }

abbrev Service (ownerOf : SessionId → UserId) (α : Type) :=
  Proc (Store ownerOf) Commit AppError α

/-! ## The cache -/

/-- The Redis part of `getAuthContext`, with the checks of what was found. -/
def getRedisContext (userId : UserId) (sessionId : Option SessionId) (now : Millis) :
    Service ownerOf (Option CachedAuthContext) := do
  let key := ⟨userId, sessionId⟩
  let s ← Proc.commit (.lookup .redis key)
  match s.cached .redis key with
  | none => pure none
  | some context =>
    if context.userId ≠ userId ∧ context.id ≠ userId then pure none
    else if sessionId.isSome ∧ context.sessionId ≠ sessionId then pure none
    else
      let s ← Proc.read
      if ∃ expiresAt ∈ context.sessionExpiresAt, expiresAt ≤ s.clock then pure none
      else do
        let _ ← Proc.commit (.memorySet key context (now + AUTH_CONTEXT_TTL_SECONDS * 1000))
        pure (some context)

def getAuthContext (cacheEnabled : Bool) (userId : UserId) (sessionId : Option SessionId) :
    Service ownerOf (Option CachedAuthContext) :=
  if !cacheEnabled then pure none
  else do
    let s ← Proc.commit (.lookup .memory ⟨userId, sessionId⟩)
    match s.cached .memory ⟨userId, sessionId⟩ with
    | some context => pure (some context)
    | none => Proc.tryCatch (getRedisContext userId sessionId s.clock) fun _ => pure none

def setAuthContext (cacheEnabled : Bool) (context : CachedAuthContext) :
    Service ownerOf Unit :=
  if !cacheEnabled then pure ()
  else do
    let s ← Proc.read
    let _ ← Proc.commit (.memorySet context.key context
      (s.clock + AUTH_CONTEXT_TTL_SECONDS * 1000))
    -- without Redis the authentication goes on against the database
    Proc.attempt (.redisSet context)

/-- The memory parts of some invalidations, after the change `v`. -/
def clearMemory (v : ℕ) : List InvalidationScope → Service ownerOf Unit
  | [] => pure ()
  | scope :: scopes => do
    let _ ← Proc.commit (.memoryDelete scope v)
    clearMemory v scopes

/-- The Redis part of an invalidation. -/
def clearRedisScope (v : ℕ) : InvalidationScope → Service ownerOf Unit
  | .session userId sessionId => do
    let _ ← Proc.commit (.redisDelete userId sessionId v)
    pure ()
  | .user userId => do
    let s ← Proc.read
    let _ ← Proc.commit (.redisDeleteAll userId (s.smembers userId) v)
    pure ()

/-- The Redis parts of some invalidations.  An invalidation swallows its exceptions; the result
tells whether Redis was reachable throughout. -/
def clearRedis (v : ℕ) : List InvalidationScope → Service ownerOf Bool
  | [] => pure true
  | scope :: scopes => do
    let reached ← Proc.tryCatch (do clearRedisScope v scope; pure true) fun _ => pure false
    let rest ← clearRedis v scopes
    pure (reached && rest)

/-- `Promise.all` of `invalidateAuthContext`: each call clears the memory before it waits for
Redis for the first time. -/
def invalidateAuthContexts (cacheEnabled : Bool) (v : ℕ) (scopes : List InvalidationScope) :
    Service ownerOf Bool := do
  clearMemory v scopes
  if !cacheEnabled then pure false else clearRedis v scopes

/-! ## Requests -/

/-- The context of a user as the tables have it. -/
def tablesContext (db : AuthTables ownerOf) (userId : UserId) (sessionId : Option SessionId)
    (sessionExpiresAt : Option Millis) : CachedAuthContext where
  userId := userId
  id := userId
  roles := db.roleNames userId
  permissions := db.permissionNames userId
  sessionId := sessionId
  sessionExpiresAt := sessionExpiresAt

/-- The session of a token: it is there, belongs to the user, and is neither revoked nor
expired. -/
def checkSession (userId : UserId) : Option SessionId → Service ownerOf (Option Millis)
  | none => pure none
  | some sessionId => do
    let s ← Proc.read
    match s.db.findSession sessionId with
    | none => throw ⟨"Invalid or expired session", 401⟩
    | some session =>
      if session.userId ≠ userId ∨ session.revokedAt.isSome ∨ session.expiresAt < s.clock then
        throw ⟨"Invalid or expired session", 401⟩
      else pure (some session.expiresAt)

/-- The part of `authenticate` that asks the database. -/
def loadContext (token : TokenPayload) : Service ownerOf CachedAuthContext := do
  let s ← Proc.read
  match s.db.findUser token.userId with
  | none => throw ⟨"Authentication required", 401⟩
  | some user =>
    if user.status ≠ .active then throw ⟨"Authentication required", 401⟩
    else do
      let sessionExpiresAt ← checkSession user.id token.sessionId
      pure (tablesContext s.db user.id token.sessionId sessionExpiresAt)

/-- `authenticate`, for a token with a valid signature. -/
def authenticate (cacheEnabled : Bool) (tokenPayload : TokenPayload) :
    Service ownerOf Unit := do
  let start ← Proc.read
  Proc.tryCatch
    (do
      match ← getAuthContext cacheEnabled tokenPayload.userId tokenPayload.sessionId with
      | some cachedContext => do
        let _ ← Proc.commit (.letIn (requestUser tokenPayload cachedContext)
          start.history.settled)
        pure ()
      | none => do
        let authContext ← loadContext tokenPayload
        setAuthContext cacheEnabled authContext
        let _ ← Proc.commit (.letIn (requestUser tokenPayload authContext) start.history.settled)
        pure ())
    fun error => throw <|
      if error = default then ⟨"Authentication context unavailable", 401⟩ else error

/-- The session is not looked at. -/
def getCurrentUser (cacheEnabled : Bool) (userId : UserId) (sessionId : Option SessionId) :
    Service ownerOf CachedAuthContext := do
  match ← getAuthContext cacheEnabled userId sessionId with
  | some cached => pure cached
  | none => do
    let s ← Proc.read
    match (s.db.findUser userId).filter fun user => !user.deleted with
    | none => throw ⟨"User not found", 404⟩
    | some user => do
      let profileResult := tablesContext s.db user.id sessionId none
      setAuthContext cacheEnabled profileResult
      pure profileResult

/-! ## Operations -/

/-- The end of an operation that clears the cache after its change. -/
def invalidateAndReturn (cacheEnabled : Bool) (v : ℕ) (scopes : List InvalidationScope) :
    Service ownerOf Unit := do
  let reached ← invalidateAuthContexts cacheEnabled v scopes
  if reached then do
    let _ ← Proc.commit (.settle v true)
    pure ()
  else pure ()

/-- The end of an operation that does not clear the cache. -/
def returnOnly (v : ℕ) : Service ownerOf Unit := do
  let _ ← Proc.commit (.settle v false)
  pure ()

def logout (cacheEnabled : Bool) (userId : UserId) : Option SessionId → Service ownerOf Unit
  | none => pure ()
  | some sessionId => do
    let now ← Proc.read
    let s ← Proc.commit (.change (.revokeSessions (.byId sessionId) now.clock))
    invalidateAndReturn cacheEnabled s.history.version [.session userId sessionId]

def revokeSession (cacheEnabled : Bool) (userId : UserId) (sessionId : SessionId) :
    Service ownerOf Unit := do
  let now ← Proc.read
  let s ← Proc.commit (.change (.revokeSessions (.byIdAndUser sessionId userId) now.clock))
  if s.affected ≠ 1 then throw ⟨"Session not found", 404⟩
  else invalidateAndReturn cacheEnabled s.history.version [.session userId sessionId]

def revokeAllSessions (cacheEnabled : Bool) (userId : UserId) : Service ownerOf Unit := do
  let now ← Proc.read
  let s ← Proc.commit (.change (.revokeSessions (.byUser userId) now.clock))
  invalidateAndReturn cacheEnabled s.history.version [.user userId]

/-- `changePassword`, once the current password is found to be correct. -/
def changePassword (cacheEnabled : Bool) (userId : UserId) (currentSessionId : Option SessionId) :
    Service ownerOf Unit := do
  let db ← Proc.read
  match (db.db.findUser userId).filter fun user => !user.deleted with
  | none => throw ⟨"User not found", 404⟩
  | some user => do
    let now ← Proc.read
    match currentSessionId with
    | none => do
      let _ ← invalidateAuthContexts cacheEnabled now.history.version [.user userId]
      pure ()
    | some current => do
      let s ← Proc.commit (.change (.revokeSessions (.othersOfUser user.id current) now.clock))
      invalidateAndReturn cacheEnabled s.history.version [.user userId]

/-- `resetPassword`, once the code is found to be correct; the cache is left alone. -/
def resetPassword (userId : UserId) : Service ownerOf Unit := do
  let db ← Proc.read
  match db.db.findUser userId with
  | none => throw ⟨"Unable to reset password", 400⟩
  | some user => do
    let now ← Proc.read
    let s ← Proc.commit (.change (.revokeSessions (.byUser user.id) now.clock))
    returnOnly s.history.version

/-- `updateUserStatus`, and the status of `updateUser`. -/
def updateUserStatus (cacheEnabled : Bool) (userId : UserId) (status : UserStatus) :
    Service ownerOf Unit := do
  let db ← Proc.read
  match (db.db.findUser userId).filter fun user => !user.deleted with
  | none => throw ⟨"User not found", 404⟩
  | some _ => do
    let s ← Proc.commit (.change (.setStatus userId status))
    if status = .suspended ∨ status = .blocked then do
      let s ← Proc.commit (.change (.revokeSessions (.byUser userId) s.clock))
      invalidateAndReturn cacheEnabled s.history.version [.user userId]
    else invalidateAndReturn cacheEnabled s.history.version [.user userId]

def updateRole (roleId : RoleId) (name : Option String) : Service ownerOf Unit := do
  let db ← Proc.read
  match db.db.findRole roleId with
  | none => throw ⟨"Role not found", 404⟩
  | some _ => do
    let s ← Proc.commit (.change (.updateRole roleId name))
    returnOnly s.history.version

def deleteRole (roleId : RoleId) : Service ownerOf Unit := do
  let db ← Proc.read
  match db.db.findRole roleId with
  | none => throw ⟨"Role not found", 404⟩
  | some role =>
    if role.name = "SUPER_ADMIN" then throw ⟨"The SUPER_ADMIN role is protected", 409⟩
    else do
      let s ← Proc.commit (.change (.deleteRole roleId))
      returnOnly s.history.version

def replaceRolePermissions (cacheEnabled : Bool) (roleId : RoleId)
    (permissionIdentifiers : List String) : Service ownerOf Unit := do
  let db ← Proc.read
  match db.db.findRole roleId with
  | none => throw ⟨"Role not found", 404⟩
  | some _ => do
    let db ← Proc.read
    let userIds := db.db.assignedUsers roleId
    let identifiers := uniqueIdentifiers permissionIdentifiers
    let permissions := db.db.permissions.filter fun row => isNamed identifiers row.id row.name
    if permissions.length ≠ identifiers.length then
      throw ⟨"One or more permissions were not found in the database", 404⟩
    else do
      let s ← Proc.commit (.change (.replaceRolePermissions roleId
        (permissions.map PermissionRow.id) userIds))
      invalidateAndReturn cacheEnabled s.history.version (userIds.map .user)

def replaceUserRoles (cacheEnabled : Bool) (userId : UserId) (roleIdentifiers : List String) :
    Service ownerOf Unit := do
  let db ← Proc.read
  match db.db.findUser userId with
  | none => throw ⟨"User not found", 404⟩
  | some _ => do
    let db ← Proc.read
    let identifiers := uniqueIdentifiers roleIdentifiers
    let matchedRoles := db.db.roles.filter fun row => isNamed identifiers row.id row.name
    if matchedRoles.length ≠ identifiers.length then
      throw ⟨"One or more roles were not found in the database", 404⟩
    else do
      let s ← Proc.commit (.change (.replaceUserRoles userId (matchedRoles.map RoleRow.id)))
      invalidateAndReturn cacheEnabled s.history.version [.user userId]

/-! ## The server -/

inductive Call where
  | authenticate (tokenPayload : TokenPayload)
  | getCurrentUser (userId : UserId) (sessionId : Option SessionId)
  | logout (userId : UserId) (sessionId : Option SessionId)
  | revokeSession (userId : UserId) (sessionId : SessionId)
  | revokeAllSessions (userId : UserId)
  | changePassword (userId : UserId) (currentSessionId : Option SessionId)
  | resetPassword (userId : UserId)
  | updateUserStatus (userId : UserId) (status : UserStatus)
  | updateRole (roleId : RoleId) (name : Option String)
  | deleteRole (roleId : RoleId)
  | replaceRolePermissions (roleId : RoleId) (permissionIdentifiers : List String)
  | replaceUserRoles (userId : UserId) (roleIdentifiers : List String)
deriving DecidableEq

/-- What happens besides: time passes, and the rest of the server writes to the tables in any
way. -/
inductive Action (ownerOf : SessionId → UserId) where
  | tick (elapsed : Millis)
  | write (tables : AuthTables ownerOf)

/-- One process with its database and its Redis. -/
def authServer (ownerOf : SessionId → UserId) (cacheEnabled : Bool) :
    Machine (Store ownerOf) Commit AppError Call (Action ownerOf) where
  apply := Commit.apply
  proc
    | .authenticate tokenPayload => ContextCache.authenticate cacheEnabled tokenPayload
    | .getCurrentUser userId sessionId => do
      let _ ← ContextCache.getCurrentUser cacheEnabled userId sessionId
      pure ()
    | .logout userId sessionId => ContextCache.logout cacheEnabled userId sessionId
    | .revokeSession userId sessionId => ContextCache.revokeSession cacheEnabled userId sessionId
    | .revokeAllSessions userId => ContextCache.revokeAllSessions cacheEnabled userId
    | .changePassword userId current => ContextCache.changePassword cacheEnabled userId current
    | .resetPassword userId => ContextCache.resetPassword userId
    | .updateUserStatus userId status => ContextCache.updateUserStatus cacheEnabled userId status
    | .updateRole roleId name => ContextCache.updateRole roleId name
    | .deleteRole roleId => ContextCache.deleteRole roleId
    | .replaceRolePermissions roleId identifiers =>
      ContextCache.replaceRolePermissions cacheEnabled roleId identifiers
    | .replaceUserRoles userId identifiers =>
      ContextCache.replaceUserRoles cacheEnabled userId identifiers
  environ
    | .tick elapsed, s => { s with clock := s.clock + elapsed }
    | .write tables, s => { s with history := s.history.record tables }

/-- A logout is called with the session of the token that the request has shown, which was
signed for the user of the session. -/
def OwnToken (ownerOf : SessionId → UserId) : Call → Prop
  | .logout userId sessionId => ∀ id ∈ sessionId, ownerOf id = userId
  | _ => True

instance (ownerOf : SessionId → UserId) (x : Call) : Decidable (OwnToken ownerOf x) := by
  unfold OwnToken
  split <;> infer_instance

end MeeoServer.ContextCache
