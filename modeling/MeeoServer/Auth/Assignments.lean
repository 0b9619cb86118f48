/-
# Assigning roles and permissions

`replaceRolePermissions` and `replaceUserRoles` count the rows that they find, and compare the
number with the number of identifiers.  The two numbers differ also if all identifiers are
right and two of them are the same row's: its identifier and its name, or its identifier in two
spellings.
-/
import MeeoServer.Auth.Roles
import MeeoServer.Process.Results
import MeeoServer.Table.Naming
import MeeoServer.Table.Updates

namespace MeeoServer.Authorization

open Storefront (trimmed)

variable {ownerOf : SessionId → UserId}

/-- The identifiers that are not blank. -/
def nonBlank (identifiers : List String) : List String :=
  (identifiers.map trimmed).filter (· ≠ "")

/-- An identifier resolves to a row: a UUID by the identifier of the row, in either case, and
another text by the name. -/
def Resolves (text : String) (row : NamedRow) : Prop :=
  if isUuid text then text.toLower = row.id else text = row.name

instance (text : String) (row : NamedRow) : Decidable (Resolves text row) := by
  unfold Resolves
  infer_instance

/-- An operation replaces what is assigned by the rows that the identifiers resolve to, all of it
or nothing. -/
structure ReplacesSet {α : Type} (target : Target) (identifiers : List String) (s : Store ownerOf)
    (operation : Faults → Except AppError α × Store ownerOf) : Prop where
  succeeds_iff : (operation Faults.none).1.isOk ↔
    ∀ text ∈ nonBlank identifiers, ∃ row ∈ target.rows s.db, Resolves text row
  assigned : ∀ faults, (operation faults).1.isOk → ∀ id,
    id ∈ target.assigned (operation faults).2.db ↔
      ∃ row ∈ target.rows s.db, row.id = id ∧ ∃ text ∈ nonBlank identifiers, Resolves text row
  kept : ∀ faults, ¬(operation faults).1.isOk → (operation faults).2 = s

/-- Two of the identifiers resolve to one row. -/
def NamedTwice (rows : List NamedRow) (identifiers : List String) : Prop :=
  ∃ row ∈ rows, ∃ text ∈ nonBlank identifiers, ∃ text' ∈ nonBlank identifiers,
    Resolves text row ∧ Resolves text' row ∧ text ≠ text'

instance (rows : List NamedRow) (identifiers : List String) :
    Decidable (NamedTwice rows identifiers) := by
  unfold NamedTwice
  infer_instance

/-! ## The rows that are found -/

section Found

variable {target : Target} {db : AuthTables ownerOf} {identifiers : List String}

lemma mem_uniqueIdentifiers {text : String} :
    text ∈ uniqueIdentifiers identifiers ↔ text ∈ nonBlank identifiers :=
  List.mem_eraseDups

lemma isNamed_eq {row : NamedRow} : isNamed identifiers row.id row.name =
    decide (∃ text ∈ identifiers, Resolves text row) := by
  rw [Bool.eq_iff_iff, decide_eq_true_eq, isNamed, List.any_eq_true]
  refine exists_congr fun text => and_congr_right fun _ => ?_
  unfold Resolves
  split <;> rw [decide_eq_true_eq]

/-- What an operation finds. -/
def foundRows (target : Target) (db : AuthTables ownerOf) (identifiers : List String) :
    List NamedRow :=
  (target.rows db).filter fun row => isNamed (uniqueIdentifiers identifiers) row.id row.name

lemma mem_foundRows {row : NamedRow} : row ∈ foundRows target db identifiers ↔
    row ∈ target.rows db ∧ ∃ text ∈ nonBlank identifiers, Resolves text row := by
  rw [foundRows, List.mem_filter, isNamed_eq, decide_eq_true_eq]
  simp only [mem_uniqueIdentifiers]

lemma nodup_rows (h : Valid db) : ((target.rows db).map NamedRow.id).Nodup ∧
    ((target.rows db).map NamedRow.name).Nodup := by
  cases target with
  | permissionsOf roleId =>
    simp only [Target.rows, List.map_map]
    exact ⟨h.permissions_ids, h.permissions_names⟩
  | rolesOf userId =>
    simp only [Target.rows, List.map_map]
    exact ⟨h.roles_ids, h.roles_names⟩

lemma eq_of_resolves (h : Valid db) (text : String) : ∀ a ∈ target.rows db,
    ∀ b ∈ target.rows db, Resolves text a → Resolves text b → a = b := by
  intro a ha b hb hra hrb
  unfold Resolves at hra hrb
  split at hra
  · rw [if_pos ‹_›] at hrb
    exact List.inj_on_of_nodup_map (nodup_rows h).1 ha hb (hra.symm.trans hrb)
  · rw [if_neg ‹_›] at hrb
    exact List.inj_on_of_nodup_map (nodup_rows h).2 ha hb (hra.symm.trans hrb)

/-- The two numbers that an operation compares. -/
lemma length_foundRows_iff (h : Valid db) :
    (foundRows target db identifiers).length = (uniqueIdentifiers identifiers).length ↔
      (∀ text ∈ nonBlank identifiers, ∃ row ∈ target.rows db, Resolves text row) ∧
        ¬NamedTwice (target.rows db) identifiers := by
  have hrows : (target.rows db).Nodup := (nodup_rows h).1.of_map
  have hunique : (uniqueIdentifiers identifiers).Nodup := Table.nodup_eraseDups _
  rw [foundRows]
  simp only [isNamed_eq]
  rw [Table.length_filter_names_iff (eq_of_resolves h) hunique hrows]
  simp only [mem_uniqueIdentifiers, NamedTwice]
  push Not
  rfl

end Found

/-! ## The statements -/

section Statements

variable {target : Target} {db : AuthTables ownerOf} {ids : List String}

/-- An assignment leaves the rows and their owners as they are. -/
lemma Target.deleted_rows (target : Target) (db : AuthTables ownerOf) :
    target.rows (target.deleted db) = target.rows db ∧
      target.present (target.deleted db) = target.present db := by
  cases target <;> exact ⟨rfl, rfl⟩

lemma Target.valid_deleted (h : Valid db) : Valid (target.deleted db) := by
  cases target <;> exact ⟨h.1, h.2, h.3, h.4⟩

lemma Target.valid_created (h : Valid db) : Valid (target.created db ids) := by
  cases target <;> exact ⟨h.1, h.2, h.3, h.4⟩

lemma Target.assigned_deleted : target.assigned (target.deleted db) = [] := by
  cases target <;> simp [assigned, deleted, List.filter_filter]

lemma Target.mem_assigned_created {id : String} :
    id ∈ target.assigned (target.created (target.deleted db) ids) ↔ id ∈ ids := by
  cases target <;> simp [assigned, deleted, created, List.filter_filter]

/-- The change of `Auth/Grants` that an assignment makes. -/
def Target.change (ids : List String) : Target → AuthChange
  | permissionsOf roleId => .replaceRolePermissions roleId ids []
  | rolesOf userId => .replaceUserRoles userId ids

lemma Target.created_deleted (hids : ids.Nodup) :
    target.created (target.deleted db) ids =
      match target with
      | permissionsOf roleId =>
        { db with
          rolePermissions := db.rolePermissions.filter (·.roleId ≠ roleId) ++
            ids.map (RolePermission.mk roleId) }
      | rolesOf userId =>
        { db with
          userRoles := db.userRoles.filter (·.userId ≠ userId) ++
            ids.map (UserRole.mk userId) } := by
  -- nothing that is created is left after the deletion
  have hpermissions : ∀ roleId, (ids.map (RolePermission.mk roleId)).filter
      (· ∉ db.rolePermissions.filter (·.roleId ≠ roleId)) =
        ids.map (RolePermission.mk roleId) :=
    fun roleId => List.filter_eq_self.mpr (by simp)
  have hroles : ∀ userId, (ids.map (UserRole.mk userId)).filter
      (· ∉ db.userRoles.filter (·.userId ≠ userId)) =
        ids.map (UserRole.mk userId) :=
    fun userId => List.filter_eq_self.mpr (by simp)
  cases target with
  | permissionsOf roleId =>
    show { db with rolePermissions := _ ++ (ids.eraseDups.map _).filter _ } = _
    rw [Table.eraseDups_of_nodup hids]
    exact congrArg (fun rows => ({ db with
      rolePermissions := db.rolePermissions.filter (·.roleId ≠ roleId) ++ rows } :
        AuthTables ownerOf)) (hpermissions roleId)
  | rolesOf userId =>
    show { db with userRoles := _ ++ (ids.eraseDups.map _).filter _ } = _
    rw [Table.eraseDups_of_nodup hids]
    exact congrArg (fun rows => ({ db with
      userRoles := db.userRoles.filter (·.userId ≠ userId) ++ rows } : AuthTables ownerOf))
      (hroles userId)

/-- The two statements of an assignment make the change of `Auth/Grants`. -/
theorem change_createAssignments (hids : ids.Nodup) (hne : ids ≠ []) :
    (Statement.createAssignments target ids).change (target.deleted db) =
      (target.change ids).apply db := by
  have hrows := (Target.deleted_rows target db).1
  have hpresent := (Target.deleted_rows target db).2
  rw [Statement.change, hrows, hpresent, Target.created_deleted hids]
  cases target with
  | permissionsOf roleId =>
    have hiff : ((Target.permissionsOf roleId).present db ∧
        ∀ id ∈ ids, id ∈ ((Target.permissionsOf roleId).rows db).map NamedRow.id) ↔
        ¬((db.findRole roleId).isNone ∧ ids ≠ [] ∨ ∃ id ∈ ids, (db.findPermission id).isNone) := by
      simp [Target.present, Target.rows, AuthTables.findPermission, hne, Option.isSome_iff_ne_none]
    exact (if_congr hiff rfl rfl).trans (ite_not ..)
  | rolesOf userId =>
    have hiff : ((Target.rolesOf userId).present db ∧
        ∀ id ∈ ids, id ∈ ((Target.rolesOf userId).rows db).map NamedRow.id) ↔
        ¬((db.findUser userId).isNone ∧ ids ≠ [] ∨ ∃ id ∈ ids, (db.findRole id).isNone) := by
      simp [Target.present, Target.rows, AuthTables.findRole, hne, Option.isSome_iff_ne_none]
    exact (if_congr hiff rfl rfl).trans (ite_not ..)

end Statements

/-! ## The operations -/

section Operations

variable {target : Target} {s t : Store ownerOf} {identifiers oldValue : List String}
  {actorId : UserId} {faults φ : Faults} {found : List NamedRow}

lemma foundRows_of_no_identifiers {db : AuthTables ownerOf}
    (h : uniqueIdentifiers identifiers = []) :
    foundRows target db identifiers = [] := by
  rw [foundRows, h]
  exact List.filter_eq_nil_iff.mpr fun _ _ => by simp [isNamed]

lemma findNamed_returns
    (h : (findNamed target (uniqueIdentifiers identifiers)).faulty Statement.apply faults s =
      (.ok found, φ, t)) : found = foundRows target s.db identifiers ∧ t = s := by
  unfold findNamed at h
  split at h
  · rename_i hnone
    rw [Proc.faulty_pure] at h
    cases h
    exact ⟨(foundRows_of_no_identifiers hnone).symm, rfl⟩
  · cases (Proc.faulty_read_eq_ok_iff.mp h).2
    exact ⟨rfl, rfl⟩

lemma findNamed_none :
    (findNamed target (uniqueIdentifiers identifiers)).faulty Statement.apply Faults.none s =
      (.ok (foundRows target s.db identifiers), Faults.none, s) := by
  unfold findNamed
  split
  · rename_i hnone
    rw [foundRows_of_no_identifiers hnone, Proc.faulty_pure]
  · rw [Proc.faulty_read_none]
    rfl

lemma createFound_returns {db : AuthTables ownerOf} {u : Unit}
    (h : (createFound target found).faulty Statement.apply faults s = (.ok u, φ, t))
    (hs : s.db = target.deleted db) :
    ∀ id, id ∈ target.assigned t.db ↔ id ∈ found.map NamedRow.id := by
  intro id
  unfold createFound at h
  split at h
  · rename_i hnone
    cases h
    rw [hs, Target.assigned_deleted, hnone, List.map_nil]
  · obtain ⟨-, s', hcreated, h⟩ := Proc.faulty_commit_eq_ok_iff.mp h
    cases h
    have hdb := (Option.ite_none_right_eq_some.mp (Statement.change_of_apply hcreated)).2
    rw [← Option.some.inj hdb, hs, Target.mem_assigned_created]

/-- An assignment that returns has found a row for each identifier, and has assigned these. -/
lemma replaceAssignments_returns
    (h : (replaceAssignments target identifiers actorId oldValue).faulty Statement.apply faults s =
      (.ok found, φ, t)) :
    found = foundRows target s.db identifiers ∧
      found.length = (uniqueIdentifiers identifiers).length ∧
        ∀ id, id ∈ target.assigned t.db ↔ id ∈ found.map NamedRow.id := by
  obtain ⟨rows, _, _, hfind, h⟩ := Proc.faulty_bind_eq_ok h
  obtain ⟨rfl, rfl⟩ := findNamed_returns hfind
  split at h
  · cases h
  · rename_i hlength
    obtain ⟨-, s₁, hdeleted, h⟩ := Proc.faulty_commit_eq_ok_iff.mp h
    obtain ⟨_, _, s₂, hcreated, h⟩ := Proc.faulty_bind_eq_ok h
    obtain ⟨-, s₃, hlogged, h⟩ := Proc.faulty_commit_eq_ok_iff.mp h
    cases h
    refine ⟨rfl, not_not.mp hlength, ?_⟩
    rw [← Option.some.inj (Statement.change_of_apply hlogged)]
    exact createFound_returns hcreated (Option.some.inj (Statement.change_of_apply hdeleted)).symm

lemma createFound_none (hpresent : target.present s.db)
    (hfound : ∀ id ∈ found.map NamedRow.id, id ∈ (target.rows s.db).map NamedRow.id) :
    ∃ t, (createFound target found).faulty Statement.apply Faults.none s =
      (.ok (), Faults.none, t) := by
  unfold createFound
  split
  · exact ⟨s, rfl⟩
  · have hchange : (Statement.createAssignments target (found.map NamedRow.id)).change s.db =
        some (target.created s.db (found.map NamedRow.id)) := if_pos ⟨hpresent, hfound⟩
    obtain ⟨t, happ, -⟩ := Statement.exists_apply _ hchange (Target.valid_created s.valid)
    exact ⟨t, (Proc.faulty_commit_none happ).trans (Proc.faulty_pure ())⟩

/-- An assignment returns if the two numbers agree and nothing fails. -/
lemma replaceAssignments_none (actorId : UserId) (oldValue : List String)
    (hpresent : target.present s.db) (hlength : (foundRows target s.db identifiers).length =
      (uniqueIdentifiers identifiers).length) :
    ∃ found t, (replaceAssignments target identifiers actorId oldValue).faulty Statement.apply
      Faults.none s = (.ok found, Faults.none, t) := by
  obtain ⟨s₁, hdeleted, hdb₁⟩ := Statement.exists_apply (.deleteAssignments target)
    (s := s) rfl (Target.valid_deleted s.valid)
  have hpresent₁ : target.present s₁.db := by
    rw [hdb₁, (target.deleted_rows s.db).2]
    exact hpresent
  have hfound : ∀ id ∈ (foundRows target s.db identifiers).map NamedRow.id,
      id ∈ (target.rows s₁.db).map NamedRow.id := by
    rw [hdb₁, (target.deleted_rows s.db).1]
    exact fun id hid => (List.filter_sublist.map NamedRow.id).subset hid
  obtain ⟨s₂, hcreated⟩ := createFound_none hpresent₁ hfound
  obtain ⟨s₃, hlogged, -⟩ := Statement.exists_apply (.createAuditLog (target.audit
    actorId oldValue ((foundRows target s.db identifiers).map NamedRow.name))) (s := s₂) rfl
    s₂.valid
  refine ⟨foundRows target s.db identifiers, s₃, ?_⟩
  unfold replaceAssignments
  rw [Proc.faulty_bind, findNamed_none]
  dsimp only
  rw [if_neg (not_not.mpr hlength), Proc.faulty_commit_none hdeleted, Proc.faulty_bind, hcreated]
  exact Proc.faulty_commit_none hlogged

/-- The two operations, by what an assignment does in them. -/
lemma replacesSet_iff {α : Type} {service : Service ownerOf α}
    (hreturns : ∀ {faults a φ t}, service.faulty Statement.apply faults s = (.ok a, φ, t) →
      (foundRows target s.db identifiers).length = (uniqueIdentifiers identifiers).length ∧
        ∀ id, id ∈ target.assigned t.db ↔
          id ∈ (foundRows target s.db identifiers).map NamedRow.id)
    (hnone : (foundRows target s.db identifiers).length = (uniqueIdentifiers identifiers).length →
      ∃ a φ t, service.faulty Statement.apply Faults.none s = (.ok a, φ, t)) :
    ReplacesSet target identifiers s (fun faults => atomically service faults s) ↔
      ((∀ text ∈ nonBlank identifiers, ∃ row ∈ target.rows s.db, Resolves text row) →
        ¬NamedTwice (target.rows s.db) identifiers) := by
  have hok : (atomically service Faults.none s).1.isOk ↔
      (foundRows target s.db identifiers).length = (uniqueIdentifiers identifiers).length := by
    rw [atomically, Proc.transaction_callback]
    constructor
    · intro h
      split at h
      · rename_i hservice
        exact (hreturns hservice).1
      · exact nomatch h
    · intro hlength
      obtain ⟨a, φ, t, hservice⟩ := hnone hlength
      rw [hservice]
      rfl
  rw [length_foundRows_iff s.valid] at hok
  -- the check of the two numbers rejects just the lists that name a row twice
  constructor
  · intro h hresolve
    exact (hok.mp (h.succeeds_iff.mpr hresolve)).2
  · intro h
    refine ⟨hok.trans ⟨fun hboth => hboth.1, fun hresolve => ⟨hresolve, h hresolve⟩⟩, ?_, ?_⟩
    · intro faults hreturned id
      rw [atomically, Proc.transaction_callback] at hreturned ⊢
      split at hreturned
      · rename_i hservice
        rw [(hreturns hservice).2 id, List.mem_map]
        constructor
        · rintro ⟨row, hrow, hid⟩
          exact ⟨row, (mem_foundRows.mp hrow).1, hid, (mem_foundRows.mp hrow).2⟩
        · rintro ⟨row, hrow, hid, hnamed⟩
          exact ⟨row, mem_foundRows.mpr ⟨hrow, hnamed⟩, hid⟩
      · exact nomatch hreturned
    · -- a transaction that throws is rolled back
      intro faults hfailed
      rw [atomically] at hfailed ⊢
      cases hresult : (transaction (service.callback Statement.apply faults) s).1 with
      | error e => exact transaction_of_error hresult
      | ok a =>
        rw [hresult] at hfailed
        exact absurd rfl hfailed

lemma replaceRolePermissions_iff {roleId : RoleId} (hrole : (s.db.findRole roleId).isSome) :
    ReplacesSet (.permissionsOf roleId) identifiers s
        (fun faults => atomically (replaceRolePermissions roleId identifiers actorId) faults s) ↔
      ((∀ text ∈ nonBlank identifiers,
          ∃ row ∈ (Target.permissionsOf roleId).rows s.db, Resolves text row) →
        ¬NamedTwice ((Target.permissionsOf roleId).rows s.db) identifiers) := by
  have hpresent : (Target.permissionsOf roleId).present s.db := hrole
  refine replacesSet_iff (fun h => ?_) fun hlength => ?_
  · have h := (Proc.faulty_read_eq_ok_iff.mp h).2
    rw [if_pos hpresent] at h
    have h := (Proc.faulty_read_eq_ok_iff.mp h).2
    obtain ⟨found, _, s₁, hreplaced, h⟩ := Proc.faulty_bind_eq_ok h
    cases (Proc.faulty_read_eq_ok_iff.mp h).2
    obtain ⟨rfl, hassigned⟩ := replaceAssignments_returns hreplaced
    exact hassigned
  · unfold replaceRolePermissions
    rw [Proc.faulty_read_none, if_pos hpresent, Proc.faulty_read_none, Proc.faulty_bind]
    obtain ⟨found, t, hreplaced⟩ := replaceAssignments_none actorId
      ((s.db.permissionsOf roleId).map PermissionRow.name) hpresent hlength
    rw [hreplaced]
    exact ⟨_, _, _, Proc.faulty_read_none⟩

lemma replaceUserRoles_iff {userId : UserId} (huser : (s.db.findUser userId).isSome) :
    ReplacesSet (.rolesOf userId) identifiers s
        (fun faults => atomically (replaceUserRoles userId identifiers actorId) faults s) ↔
      ((∀ text ∈ nonBlank identifiers,
          ∃ row ∈ (Target.rolesOf userId).rows s.db, Resolves text row) →
        ¬NamedTwice ((Target.rolesOf userId).rows s.db) identifiers) := by
  have hpresent : (Target.rolesOf userId).present s.db := huser
  refine replacesSet_iff (fun h => ?_) fun hlength => ?_
  · have h := (Proc.faulty_read_eq_ok_iff.mp h).2
    rw [if_pos hpresent] at h
    obtain ⟨rfl, hassigned⟩ := replaceAssignments_returns h
    exact hassigned
  · unfold replaceUserRoles
    rw [Proc.faulty_read_none, if_pos hpresent]
    obtain ⟨found, t, hreplaced⟩ := replaceAssignments_none actorId
      ((s.db.rolesOf userId).map RoleRow.name) hpresent hlength
    exact ⟨_, _, _, hreplaced⟩

/-- **The permissions of a role, and the roles of a user, are replaced** by what the identifiers
resolve to, or stay as they are, exactly if no row is named twice where all identifiers
resolve. -/
theorem assignments_replaced_iff (s : Store ownerOf) (identifiers : List String)
    (actorId : UserId) :
    (∀ roleId, (s.db.findRole roleId).isSome →
      (ReplacesSet (.permissionsOf roleId) identifiers s
          (fun faults => atomically (replaceRolePermissions roleId identifiers actorId) faults s) ↔
        ((∀ text ∈ nonBlank identifiers,
            ∃ row ∈ (Target.permissionsOf roleId).rows s.db, Resolves text row) →
          ¬NamedTwice ((Target.permissionsOf roleId).rows s.db) identifiers))) ∧
    ∀ userId, (s.db.findUser userId).isSome →
      (ReplacesSet (.rolesOf userId) identifiers s
          (fun faults => atomically (replaceUserRoles userId identifiers actorId) faults s) ↔
        ((∀ text ∈ nonBlank identifiers,
            ∃ row ∈ (Target.rolesOf userId).rows s.db, Resolves text row) →
          ¬NamedTwice ((Target.rolesOf userId).rows s.db) identifiers)) :=
  ⟨fun _ hrole => replaceRolePermissions_iff hrole, fun _ huser => replaceUserRoles_iff huser⟩

/-- An editor, a user who is one, and two permissions. -/
def editors : Store (fun _ => 7) where
  db := {
    users := [⟨7, .active, false⟩]
    sessions := noSessions _
    roles := [⟨"11111111-1111-4111-8111-111111111111", "EDITOR"⟩]
    permissions := [⟨"22222222-2222-4222-8222-222222222222", "product:read"⟩,
      ⟨"33333333-3333-4333-8333-333333333333", "product:update"⟩]
    userRoles := [⟨7, "11111111-1111-4111-8111-111111111111"⟩]
    rolePermissions := [] }
  valid := by decide
  auditLogs := []

/-- A permission by its name and another one by its identifier, with a blank between them. -/
theorem assignments_replaced_iff_editors :
    (editors.db.findRole "11111111-1111-4111-8111-111111111111").isSome ∧
      ReplacesSet (.permissionsOf "11111111-1111-4111-8111-111111111111")
        ["product:read", " ", "33333333-3333-4333-8333-333333333333"] editors
        (fun faults => atomically (replaceRolePermissions "11111111-1111-4111-8111-111111111111"
          ["product:read", " ", "33333333-3333-4333-8333-333333333333"] 7) faults editors) :=
  ⟨by decide, ((assignments_replaced_iff editors
    ["product:read", " ", "33333333-3333-4333-8333-333333333333"] 7).1
      "11111111-1111-4111-8111-111111111111" (by decide)).mpr fun _ => by decide +kernel⟩

/-- A permission by its name and by its identifier: both resolve, and nothing is assigned. -/
theorem permission_named_twice : ¬∀ (s : Store fun _ => 7) (roleId : RoleId)
    (identifiers : List String) (actorId : UserId), (s.db.findRole roleId).isSome →
    ReplacesSet (.permissionsOf roleId) identifiers s
      (fun faults => atomically (replaceRolePermissions roleId identifiers actorId) faults s) := by
  intro h
  have hreplaces := h editors "11111111-1111-4111-8111-111111111111"
    ["product:read", "22222222-2222-4222-8222-222222222222"] 7 (by decide)
  have hok := hreplaces.succeeds_iff.mpr (by decide +kernel)
  exact absurd hok (by decide +kernel)

end Operations

end MeeoServer.Authorization
