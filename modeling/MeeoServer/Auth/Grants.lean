/-
# Sessions, roles and permissions

The tables that decide what a request may do: the users, their login sessions, and the roles and
permissions with the two tables that assign them.  A *grant* is what a request may rest on: a
session that has not been revoked, a role or a permission of the user.

Each operation of the administration and of the account pages changes these tables in one way,
and the second half of the file says which grants of which users a change can take away.

The identifiers of roles and permissions are texts here, since a client may name either one by
its identifier or by its name.
-/
import MeeoServer.Auth.Accounts
import MeeoServer.Text.JsString

namespace MeeoServer

abbrev RoleId := String

abbrev PermissionId := String

/-! ## The tables -/

structure UserRow where
  id : UserId
  status : UserStatus
  deleted : Bool
deriving DecidableEq

structure SessionRow where
  id : SessionId
  userId : UserId
  expiresAt : Millis
  revokedAt : Option Millis
deriving DecidableEq

structure RoleRow where
  id : RoleId
  name : String
deriving DecidableEq

structure PermissionRow where
  id : PermissionId
  name : String
deriving DecidableEq

structure UserRole where
  userId : UserId
  roleId : RoleId
deriving DecidableEq

structure RolePermission where
  roleId : RoleId
  permissionId : PermissionId
deriving DecidableEq

/-- The table `user_sessions`.  The identifier of a session is drawn for one user, `ownerOf`. -/
structure SessionTable (ownerOf : SessionId → UserId) where
  rows : List SessionRow
  owned : ∀ row ∈ rows, row.userId = ownerOf row.id

structure AuthTables (ownerOf : SessionId → UserId) where
  users : List UserRow
  sessions : SessionTable ownerOf
  roles : List RoleRow
  permissions : List PermissionRow
  userRoles : List UserRole
  rolePermissions : List RolePermission

/-- The conditions `where` on sessions that the operations use; each of them also demands
`revokedAt: null`. -/
inductive SessionWhere where
  | byId (sessionId : SessionId)
  | byIdAndUser (sessionId : SessionId) (userId : UserId)
  | byUser (userId : UserId)
  | othersOfUser (userId : UserId) (current : SessionId)
deriving DecidableEq

def SessionWhere.matches (filter : SessionWhere) (row : SessionRow) : Bool :=
  row.revokedAt = none && match filter with
    | .byId sessionId => row.id = sessionId
    | .byIdAndUser sessionId userId => row.id = sessionId && row.userId = userId
    | .byUser userId => row.userId = userId
    | .othersOfUser userId current => row.userId = userId && row.id ≠ current

variable {ownerOf : SessionId → UserId}

/-- `userSession.updateMany` of `revokedAt`. -/
def SessionTable.revoke (table : SessionTable ownerOf) (filter : SessionWhere) (now : Millis) :
    SessionTable ownerOf where
  rows := table.rows.map fun row =>
    if filter.matches row then { row with revokedAt := some now } else row
  owned := by
    simp only [List.mem_map]
    rintro row ⟨row, hrow, rfl⟩
    split <;> exact table.owned row hrow

namespace AuthTables

variable (db : AuthTables ownerOf)

def findUser (userId : UserId) : Option UserRow := db.users.find? fun user => user.id = userId

def findSession (id : SessionId) : Option SessionRow :=
  db.sessions.rows.find? fun row => row.id = id

def findRole (id : RoleId) : Option RoleRow := db.roles.find? fun role => role.id = id

def findPermission (id : PermissionId) : Option PermissionRow :=
  db.permissions.find? fun permission => permission.id = id

/-- `user.roles`, with the rows of the roles. -/
def rolesOf (userId : UserId) : List RoleRow :=
  (db.userRoles.filter fun assigned => assigned.userId = userId).filterMap
    fun assigned => db.findRole assigned.roleId

/-- `role.permissions`, with the rows of the permissions. -/
def permissionsOf (roleId : RoleId) : List PermissionRow :=
  (db.rolePermissions.filter fun assigned => assigned.roleId = roleId).filterMap
    fun assigned => db.findPermission assigned.permissionId

/-- The names of the roles of a user; `filter(Boolean)` drops empty names. -/
def roleNames (userId : UserId) : List String :=
  ((db.rolesOf userId).map RoleRow.name).filter (· ≠ "")

/-- The names of the permissions of a user, without duplicates. -/
def permissionNames (userId : UserId) : List String :=
  ((db.rolesOf userId).flatMap fun role =>
    ((db.permissionsOf role.id).map PermissionRow.name).filter (· ≠ "")).eraseDups

/-- The users a role is assigned to. -/
def assignedUsers (roleId : RoleId) : List UserId :=
  (db.userRoles.filter fun assigned => assigned.roleId = roleId).map UserRole.userId

end AuthTables

/-! ## Naming roles and permissions -/

/-- Groups of 8, 4, 4, 4 and 12 hexadecimal digits, with hyphens between them. -/
def isUuid (text : String) : Bool :=
  let groups := text.toList.splitOn '-'
  groups.map List.length = [8, 4, 4, 4, 12] &&
    groups.all (·.all fun c => c.isDigit || ('a' ≤ c.toLower && c.toLower ≤ 'f'))

/-- `[...new Set(identifiers.map((id) => id.trim()).filter(Boolean))]` -/
def uniqueIdentifiers (identifiers : List String) : List String :=
  ((identifiers.map fun id => String.ofList (JsString.trim id.toList)).filter (· ≠ "")).eraseDups

/-- A row is named by one of the identifiers; the database ignores the case of a UUID. -/
def isNamed (identifiers : List String) (id name : String) : Bool :=
  identifiers.any fun text => if isUuid text then text.toLower = id else text = name

/-! ## Changes -/

/-- What the operations write to the tables, each in one statement or transaction. -/
inductive AuthChange where
  | revokeSessions (filter : SessionWhere) (now : Millis)
  | setStatus (userId : UserId) (status : UserStatus)
  | updateRole (roleId : RoleId) (name : Option String)
  | deleteRole (roleId : RoleId)
  /-- `userIds` are the users that the transaction has found the role assigned to. -/
  | replaceRolePermissions (roleId : RoleId) (permissionIds : List PermissionId)
      (userIds : List UserId)
  | replaceUserRoles (userId : UserId) (roleIds : List RoleId)
deriving DecidableEq

/-- The effect of a change; `none` if a constraint of the tables rejects it. -/
def AuthChange.apply (change : AuthChange) (db : AuthTables ownerOf) :
    Option (AuthTables ownerOf) :=
  match change with
  | revokeSessions filter now => some { db with sessions := db.sessions.revoke filter now }
  | setStatus userId status =>
    some { db with users := db.users.map fun user =>
      if user.id = userId then { user with status := status } else user }
  | updateRole roleId name =>
    if (db.findRole roleId).isNone then none
    else if ∃ role ∈ db.roles, role.id ≠ roleId ∧ some role.name = name then none
    else some { db with roles := db.roles.map fun role =>
      if role.id = roleId then { role with name := name.getD role.name } else role }
  | deleteRole roleId =>
    if (db.findRole roleId).isNone then none
    else some { db with
      roles := db.roles.filter (·.id ≠ roleId)
      userRoles := db.userRoles.filter (·.roleId ≠ roleId)
      rolePermissions := db.rolePermissions.filter (·.roleId ≠ roleId) }
  | replaceRolePermissions roleId permissionIds _ =>
    if (db.findRole roleId).isNone ∧ permissionIds ≠ [] ∨
        ∃ id ∈ permissionIds, (db.findPermission id).isNone then none
    else some { db with
      rolePermissions := db.rolePermissions.filter (·.roleId ≠ roleId) ++
        permissionIds.map fun id => ⟨roleId, id⟩ }
  | replaceUserRoles userId roleIds =>
    if (db.findUser userId).isNone ∧ roleIds ≠ [] ∨
        ∃ id ∈ roleIds, (db.findRole id).isNone then none
    else some { db with
      userRoles := db.userRoles.filter (·.userId ≠ userId) ++
        roleIds.map fun id => ⟨userId, id⟩ }

/-- How many rows `updateMany` reports. -/
def AuthChange.affected (change : AuthChange) (db : AuthTables ownerOf) : ℕ :=
  match change with
  | revokeSessions filter _ => db.sessions.rows.countP filter.matches
  | _ => 1

/-- The transaction has found a role assigned to fewer users than it is assigned to now. -/
def AuthChange.overlooks (change : AuthChange) (db : AuthTables ownerOf) : Bool :=
  match change with
  | replaceRolePermissions roleId _ userIds =>
    (db.assignedUsers roleId).any fun userId => userId ∉ userIds
  | _ => false

/-! ## Grants -/

/-- What an authenticated request may rest on. -/
inductive Grant where
  | session (id : SessionId)
  | role (name : String)
  | permission (name : String)
deriving DecidableEq

/-- The user has the grant: the session is his and has not been revoked, or the role or the
permission is among those the tables give him. -/
def AuthTables.Holds (db : AuthTables ownerOf) (userId : UserId) : Grant → Prop
  | .session id => ∃ row ∈ db.sessions.rows, row.id = id ∧ row.userId = userId ∧
      row.revokedAt = none
  | .role name => name ∈ db.roleNames userId
  | .permission name => name ∈ db.permissionNames userId

instance (db : AuthTables ownerOf) (userId : UserId) (grant : Grant) :
    Decidable (db.Holds userId grant) := by
  unfold AuthTables.Holds
  split <;> infer_instance

instance (userId : UserId) (grant : Grant) :
    DecidablePred fun db : AuthTables ownerOf => db.Holds userId grant :=
  fun db => inferInstanceAs (Decidable (db.Holds userId grant))

/-! ## What a change takes -/

section Taken

variable {db db' : AuthTables ownerOf} {userId : UserId} {grant : Grant}

/-- A user keeps what he has if his sessions, the rows of his roles and the permissions of these
stay as they are. -/
lemma AuthTables.Holds.congr (hbefore : db.Holds userId grant)
    (hsessions : db'.sessions = db.sessions) (hroles : db'.rolesOf userId = db.rolesOf userId)
    (hpermissions : ∀ role ∈ db.rolesOf userId,
      db'.permissionsOf role.id = db.permissionsOf role.id) :
    db'.Holds userId grant := by
  cases grant with
  | session id =>
    show ∃ row ∈ db'.sessions.rows, _
    rw [hsessions]
    exact hbefore
  | role name =>
    show name ∈ ((db'.rolesOf userId).map RoleRow.name).filter (· ≠ "")
    rw [hroles]
    exact hbefore
  | permission name =>
    have heq : db'.permissionNames userId = db.permissionNames userId := by
      unfold permissionNames
      rw [hroles]
      congr 1
      refine List.flatMap_congr fun role hrole => ?_
      rw [hpermissions role hrole]
    show name ∈ db'.permissionNames userId
    rw [heq]
    exact hbefore

/-- A revocation takes sessions only, and only those that it matches. -/
lemma taken_of_revokeSessions {filter : SessionWhere} {now : Millis}
    (hbefore : db.Holds userId grant)
    (hafter : ¬ ({ db with sessions := db.sessions.revoke filter now } : AuthTables ownerOf).Holds
      userId grant) :
    ∃ row ∈ db.sessions.rows, grant = .session row.id ∧ row.userId = userId ∧
      filter.matches row = true := by
  cases grant with
  | role name => exact absurd hbefore hafter
  | permission name => exact absurd hbefore hafter
  | session id =>
    obtain ⟨row, hrow, rfl, rfl, hlive⟩ := hbefore
    refine ⟨row, hrow, rfl, rfl, ?_⟩
    by_contra hkept
    refine hafter ⟨row, ?_, rfl, rfl, hlive⟩
    refine List.mem_map.mpr ⟨row, hrow, ?_⟩
    rw [if_neg hkept]

/-- Only the users that a role is assigned to can lose one of its permissions. -/
lemma taken_of_replaceRolePermissions {roleId : RoleId} {permissionIds : List PermissionId}
    {userIds : List UserId}
    (happ : (AuthChange.replaceRolePermissions roleId permissionIds userIds).apply db = some db')
    (hbefore : db.Holds userId grant) (hafter : ¬ db'.Holds userId grant) :
    userId ∈ db.assignedUsers roleId := by
  by_contra hfree
  obtain ⟨-, heq⟩ := Option.ite_none_left_eq_some.mp happ
  obtain rfl := Option.some.inj heq
  refine hafter (hbefore.congr rfl rfl fun role hrole => ?_)
  have hother : role.id ≠ roleId := by
    rintro rfl
    obtain ⟨assigned, hassigned, hfind⟩ := List.mem_filterMap.mp hrole
    obtain ⟨hmem, huser⟩ := List.mem_filter.mp hassigned
    have hid : role.id = assigned.roleId := by simpa using List.find?_some hfind
    refine hfree (List.mem_map.mpr ⟨assigned, ?_, of_decide_eq_true huser⟩)
    exact List.mem_filter.mpr ⟨hmem, decide_eq_true hid.symm⟩
  refine congrArg (List.filterMap _) (Table.filter_replace ?_ ?_)
  · intro assigned hassigned
    obtain ⟨id, -, rfl⟩ := List.mem_map.mp hassigned
    exact decide_eq_false hother.symm
  · intro assigned _ hrole
    rw [of_decide_eq_true hrole]
    exact decide_eq_true hother

/-- A user loses nothing when the roles of another one are replaced. -/
lemma taken_of_replaceUserRoles {target : UserId} {roleIds : List RoleId}
    (happ : (AuthChange.replaceUserRoles target roleIds).apply db = some db')
    (hbefore : db.Holds userId grant) (hafter : ¬ db'.Holds userId grant) : userId = target := by
  by_contra hother
  obtain ⟨-, heq⟩ := Option.ite_none_left_eq_some.mp happ
  obtain rfl := Option.some.inj heq
  refine hafter (hbefore.congr rfl ?_ fun _ _ => rfl)
  refine congrArg (List.filterMap _) (Table.filter_replace ?_ ?_)
  · intro assigned hassigned
    obtain ⟨id, -, rfl⟩ := List.mem_map.mp hassigned
    exact decide_eq_false (Ne.symm hother)
  · intro assigned _ huser
    rw [of_decide_eq_true huser]
    exact decide_eq_true hother

end Taken

end MeeoServer
