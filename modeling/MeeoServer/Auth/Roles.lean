/-
# Roles and their assignment

`authorization/authorization.service.ts` with the schemas of `authorization.validation.ts`.  Each
operation is one transaction, statement by statement: any of the statements may fail, and then
the transaction is rolled back.

Texts that describe roles are checked and not stored here.  The caches that an assignment clears
afterwards are in `Auth/ContextCache`; nothing that goes wrong there reaches the caller.
-/
import MeeoServer.Auth.Grants
import MeeoServer.Process.Faults
import MeeoServer.Storefront.Requests

namespace MeeoServer.Authorization

variable {ownerOf : SessionId → UserId}

/-! ## The tables -/

/-- The columns that are `@unique`. -/
structure Valid (db : AuthTables ownerOf) : Prop where
  roles_ids : (db.roles.map RoleRow.id).Nodup
  roles_names : (db.roles.map RoleRow.name).Nodup
  permissions_ids : (db.permissions.map PermissionRow.id).Nodup
  permissions_names : (db.permissions.map PermissionRow.name).Nodup

lemma valid_iff {db : AuthTables ownerOf} : Valid db ↔
    (db.roles.map RoleRow.id).Nodup ∧ (db.roles.map RoleRow.name).Nodup ∧
      (db.permissions.map PermissionRow.id).Nodup ∧
        (db.permissions.map PermissionRow.name).Nodup :=
  ⟨fun h => ⟨h.roles_ids, h.roles_names, h.permissions_ids, h.permissions_names⟩,
    fun h => ⟨h.1, h.2.1, h.2.2.1, h.2.2.2⟩⟩

instance (db : AuthTables ownerOf) : Decidable (Valid db) := decidable_of_iff' _ valid_iff

/-- A row of the audit log; the values are the names of the roles or permissions. -/
structure AuditLog where
  actorId : UserId
  action : String
  entityType : String
  entityId : String
  oldValue : List String
  newValue : List String
deriving DecidableEq

def noSessions (ownerOf : SessionId → UserId) : SessionTable ownerOf := ⟨[], by simp⟩

structure Store (ownerOf : SessionId → UserId) where
  db : AuthTables ownerOf
  valid : Valid db
  auditLogs : List AuditLog

/-- What an assignment replaces: the permissions of a role, or the roles of a user. -/
inductive Target where
  | permissionsOf (roleId : RoleId)
  | rolesOf (userId : UserId)
deriving DecidableEq

/-- `select: { id: true, name: true }` -/
structure NamedRow where
  id : String
  name : String
deriving DecidableEq

namespace Target

variable (db : AuthTables ownerOf)

/-- The rows that may be assigned. -/
def rows : Target → List NamedRow
  | permissionsOf _ => db.permissions.map fun row => ⟨row.id, row.name⟩
  | rolesOf _ => db.roles.map fun row => ⟨row.id, row.name⟩

/-- The role or the user is there. -/
def present : Target → Bool
  | permissionsOf roleId => (db.findRole roleId).isSome
  | rolesOf userId => (db.findUser userId).isSome

/-- The rows that are assigned. -/
def assigned : Target → List String
  | permissionsOf roleId =>
    (db.rolePermissions.filter (·.roleId = roleId)).map RolePermission.permissionId
  | rolesOf userId => (db.userRoles.filter (·.userId = userId)).map UserRole.roleId

/-- `deleteMany` -/
def deleted : Target → AuthTables ownerOf
  | permissionsOf roleId =>
    { db with rolePermissions := db.rolePermissions.filter (·.roleId ≠ roleId) }
  | rolesOf userId => { db with userRoles := db.userRoles.filter (·.userId ≠ userId) }

/-- `createMany`, with `skipDuplicates`. -/
def created (ids : List String) : Target → AuthTables ownerOf
  | permissionsOf roleId =>
    let data := ids.eraseDups.map fun id => (⟨roleId, id⟩ : RolePermission)
    { db with rolePermissions := db.rolePermissions ++ data.filter (· ∉ db.rolePermissions) }
  | rolesOf userId =>
    let data := ids.eraseDups.map fun id => (⟨userId, id⟩ : UserRole)
    { db with userRoles := db.userRoles ++ data.filter (· ∉ db.userRoles) }

def notFound : Target → AppError
  | permissionsOf _ => ⟨"Role not found", 404⟩
  | rolesOf _ => ⟨"User not found", 404⟩

def missing : Target → AppError
  | permissionsOf _ => ⟨"One or more permissions were not found in the database", 404⟩
  | rolesOf _ => ⟨"One or more roles were not found in the database", 404⟩

/-- The row of the audit log. -/
def audit (actorId : UserId) (oldValue newValue : List String) : Target → AuditLog
  | permissionsOf roleId =>
    ⟨actorId, "PERMISSIONS_ASSIGNED_TO_ROLE", "Role", roleId, oldValue, newValue⟩
  | rolesOf userId =>
    ⟨actorId, "ROLES_ASSIGNED_TO_USER", "User", toString userId, oldValue, newValue⟩

end Target

inductive Statement where
  | createRole (row : RoleRow)
  | updateRole (roleId : RoleId) (name : Option String)
  | deleteRole (roleId : RoleId)
  | deleteAssignments (target : Target)
  | createAssignments (target : Target) (ids : List String)
  | createAuditLog (log : AuditLog)

/-- The tables after a statement, before the unique columns are checked; `none` if a row is
missing. -/
def Statement.change (db : AuthTables ownerOf) : Statement → Option (AuthTables ownerOf)
  | createRole row => some { db with roles := db.roles ++ [row] }
  | updateRole roleId name =>
    if (db.findRole roleId).isNone then none
    else some { db with roles := db.roles.map fun role =>
      if role.id = roleId then { role with name := name.getD role.name } else role }
  | deleteRole roleId => (AuthChange.deleteRole roleId).apply db
  | deleteAssignments target => some (target.deleted db)
  | createAssignments target ids =>
    if target.present db ∧ ∀ id ∈ ids, id ∈ (target.rows db).map NamedRow.id then
      some (target.created db ids)
    else none
  | createAuditLog _ => some db

def Statement.apply (statement : Statement) (s : Store ownerOf) : Option (Store ownerOf) :=
  (statement.change s.db).bind fun db =>
    if h : Valid db then
      some ⟨db, h, match statement with
        | createAuditLog log => s.auditLogs ++ [log]
        | _ => s.auditLogs⟩
    else none

section Statements

variable {statement : Statement} {s s' : Store ownerOf} {db : AuthTables ownerOf}

lemma Statement.change_of_apply (h : statement.apply s = some s') :
    statement.change s.db = some s'.db := by
  obtain ⟨db, hdb, h⟩ := Option.bind_eq_some_iff.mp h
  split at h
  · cases h
    exact hdb
  · cases h

lemma Statement.exists_apply (statement : Statement) (h : statement.change s.db = some db)
    (hvalid : Valid db) :
    ∃ s', statement.apply s = some s' ∧ s'.db = db := by
  unfold Statement.apply
  rw [h, Option.bind_some, dif_pos hvalid]
  exact ⟨_, rfl, rfl⟩

end Statements

/-- The callback of a transaction. -/
abbrev Service (ownerOf : SessionId → UserId) (α : Type) :=
  Proc (Store ownerOf) Statement AppError α

/-- `prisma.$transaction` of a callback, some of whose statements may fail. -/
def atomically {α : Type} (service : Service ownerOf α) (faults : Faults) (s : Store ownerOf) :
    Except AppError α × Store ownerOf :=
  transaction (service.callback Statement.apply faults) s

/-! ## Roles -/

def isRoleName (name : String) : Bool :=
  name ≠ "" && name.toList.all fun c => c.isUpper || c.isDigit || c = '_'

/-- `z.string().trim().min(2).max(80).regex(/^[A-Z0-9_]+$/)` -/
def roleName (value : JsonValue) : Option String :=
  (((Zod.string value).map Storefront.trimmed).bind (Storefront.withLength 2 80)).filter isRoleName

/-- `z.string().trim().max(500)` -/
def roleDescription (value : JsonValue) : Option String :=
  ((Zod.string value).map Storefront.trimmed).bind (Storefront.withLength 0 500)

/-- `schema.optional()`, of a value that may be missing. -/
def optional {α : Type} (schema : JsonValue → Option α) : Option JsonValue → Option (Option α)
  | none => some none
  | some value => (schema value).map some

structure RoleBody where
  name : String
  description : Option String

structure UpdateRoleBody where
  name : Option String
  description : Option String

def roleBody (body : List (String × JsonValue)) : Option RoleBody := do
  let name ← (property body "name").bind roleName
  let description ← optional roleDescription (property body "description")
  pure ⟨name, description⟩

def updateRoleBody (body : List (String × JsonValue)) : Option UpdateRoleBody := do
  let name ← optional roleName (property body "name")
  let description ← optional roleDescription (property body "description")
  pure ⟨name, description⟩

/-- Creates a role and its audit record atomically; the database draws the identifier. -/
def createRole (id : RoleId) (input : RoleBody) (actorId : UserId) : Service ownerOf RoleRow := do
  let _ ← Proc.commit (.createRole ⟨id, input.name⟩)
  let _ ← Proc.commit (.createAuditLog ⟨actorId, "ROLE_CREATED", "Role", id, [], [input.name]⟩)
  pure ⟨id, input.name⟩

/-- Updates a role and records the before/after values in the same transaction. -/
def updateRole (roleId : RoleId) (input : UpdateRoleBody) (actorId : UserId) :
    Service ownerOf RoleRow := do
  let s ← Proc.read
  match s.db.findRole roleId with
  | none => throw ⟨"Role not found", 404⟩
  | some current =>
    let name := input.name.getD current.name
    let _ ← Proc.commit (.updateRole roleId input.name)
    let _ ← Proc.commit
      (.createAuditLog ⟨actorId, "ROLE_UPDATED", "Role", roleId, [current.name], [name]⟩)
    pure ⟨roleId, name⟩

/-- Deletes a non-protected role and records the deleted role in the audit log. -/
def deleteRole (roleId : RoleId) (actorId : UserId) : Service ownerOf Unit := do
  let s ← Proc.read
  match s.db.findRole roleId with
  | none => throw ⟨"Role not found", 404⟩
  | some role =>
    if role.name = "SUPER_ADMIN" then throw ⟨"The SUPER_ADMIN role is protected", 409⟩
    else do
      let _ ← Proc.commit (.deleteRole roleId)
      let _ ← Proc.commit
        (.createAuditLog ⟨actorId, "ROLE_DELETED", "Role", roleId, [role.name], []⟩)
      pure ()

/-! ## Assignments -/

/-- The rows that some identifiers name; without identifiers there is no query. -/
def findNamed (target : Target) (uniqueIdentifiers : List String) :
    Service ownerOf (List NamedRow) :=
  if uniqueIdentifiers = [] then pure []
  else do
    let s ← Proc.read
    pure ((target.rows s.db).filter fun row => isNamed uniqueIdentifiers row.id row.name)

/-- Without rows there is no statement either. -/
def createFound (target : Target) (found : List NamedRow) : Service ownerOf Unit :=
  if found = [] then pure ()
  else do
    let _ ← Proc.commit (.createAssignments target (found.map NamedRow.id))
    pure ()

/-- What the two assignments have in common, once the role or the user is found. -/
def replaceAssignments (target : Target) (identifiers : List String) (actorId : UserId)
    (oldValue : List String) : Service ownerOf (List NamedRow) := do
  let found ← findNamed target (uniqueIdentifiers identifiers)
  if found.length ≠ (uniqueIdentifiers identifiers).length then throw target.missing
  else do
    let _ ← Proc.commit (.deleteAssignments target)
    createFound target found
    let _ ← Proc.commit (.createAuditLog (target.audit actorId oldValue (found.map NamedRow.name)))
    pure found

/-- Validates and replaces a role's permissions atomically, then audits the change. -/
def replaceRolePermissions (roleId : RoleId) (permissionIdentifiers : List String)
    (actorId : UserId) : Service ownerOf (Option RoleRow × List UserId) := do
  let s ← Proc.read
  if (Target.permissionsOf roleId).present s.db then do
    let oldValue := (s.db.permissionsOf roleId).map PermissionRow.name
    let s ← Proc.read
    let assignedUsers := s.db.assignedUsers roleId
    let _ ← replaceAssignments (.permissionsOf roleId) permissionIdentifiers actorId oldValue
    let s ← Proc.read
    pure (s.db.findRole roleId, assignedUsers)
  else throw (Target.permissionsOf roleId).notFound

/-- Validates and replaces a user's roles atomically, then audits the change. -/
def replaceUserRoles (userId : UserId) (roleIdentifiers : List String) (actorId : UserId) :
    Service ownerOf (List NamedRow) := do
  let s ← Proc.read
  if (Target.rolesOf userId).present s.db then
    replaceAssignments (.rolesOf userId) roleIdentifiers actorId
      ((s.db.rolesOf userId).map RoleRow.name)
  else throw (Target.rolesOf userId).notFound

/-- `z.array(z.string().trim().min(1)).max(longest)` -/
def identifierList (longest : ℕ) (value : JsonValue) : Option (List String) :=
  (Zod.array (fun v => ((Zod.string v).map Storefront.trimmed).filter (· ≠ "")) value).filter
    (·.length ≤ longest)

/-- `permissionAssignmentBody`, and which of the two lists the controller takes. -/
def permissionAssignmentBody (body : List (String × JsonValue)) : Option (List String) := do
  let permissionIds ← optional (identifierList 100) (property body "permissionIds")
  let permissions ← optional (identifierList 100) (property body "permissions")
  permissionIds.or permissions

end MeeoServer.Authorization
