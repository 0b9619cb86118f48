/-
# The role SUPER_ADMIN

Requests that create, update and delete roles and replace their permissions, one after another.
`deleteRole` spares the role whose name is SUPER_ADMIN at that time; `updateRole` gives the
seeded role any other name.
-/
import MeeoServer.Auth.Assignments

namespace MeeoServer.Authorization

variable {ownerOf : SessionId → UserId}

/-! ## Requests -/

inductive Request where
  /-- The database draws the identifier `id`. -/
  | createRole (id : RoleId) (body : List (String × JsonValue))
  | updateRole (roleId : RoleId) (body : List (String × JsonValue))
  | deleteRole (roleId : RoleId)
  | replaceRolePermissions (roleId : RoleId) (body : List (String × JsonValue))

/-- The store after an operation, if its input was accepted. -/
def perform {ι α : Type} (operation : ι → Service ownerOf α) (faults : Faults) (s : Store ownerOf)
    (input : Option ι) : Store ownerOf :=
  input.elim s fun input => (atomically (operation input) faults s).2

/-- The controller: the body is validated, and the service runs. -/
def serve (actorId : UserId) (faults : Faults) (s : Store ownerOf) : Request → Store ownerOf
  | .createRole id body => perform (createRole id · actorId) faults s (roleBody body)
  | .updateRole roleId body =>
    perform (updateRole roleId · actorId) faults s (updateRoleBody body)
  | .deleteRole roleId => perform (fun _ : Unit => deleteRole roleId actorId) faults s (some ())
  | .replaceRolePermissions roleId body =>
    perform (replaceRolePermissions roleId · actorId) faults s (permissionAssignmentBody body)

/-- A request of an administrator, and the statements that fail when it is served. -/
structure Served where
  request : Request
  actorId : UserId
  faults : Faults

def run (requests : List Served) (s : Store ownerOf) : Store ownerOf :=
  requests.foldl (fun s served => serve served.actorId served.faults s served.request) s

/-- The seeded role is there, and has its name. -/
def Protected (root : RoleId) (s : Store ownerOf) : Prop :=
  (s.db.findRole root).map RoleRow.name = some "SUPER_ADMIN"

/-- The request gives the seeded role another name: one that no role has, in three statements
none of which fails. -/
def Renames (root : RoleId) (s : Store ownerOf) (served : Served) : Prop :=
  match served.request with
  | .updateRole roleId body =>
    roleId = root ∧ (∃ input ∈ updateRoleBody body, ∃ name ∈ input.name,
      name ≠ "SUPER_ADMIN" ∧ name ∉ s.db.roles.map RoleRow.name) ∧
        ∀ n < 3, served.faults n = false
  | _ => False

instance (root : RoleId) (s : Store ownerOf) : Decidable (Protected root s) := by
  unfold Protected
  infer_instance

instance (root : RoleId) (s : Store ownerOf) (served : Served) :
    Decidable (Renames root s served) := by
  unfold Renames
  split <;> infer_instance

/-! ## What an operation leaves -/

section Operations

variable {root roleId : RoleId} {actorId : UserId} {faults φ : Faults} {s t : Store ownerOf}

lemma perform_some {ι α : Type} (operation : ι → Service ownerOf α) (faults : Faults)
    (s : Store ownerOf) (input : ι) :
    perform operation faults s (some input) = s ∨
      ∃ a φ, (operation input).faulty Statement.apply faults s =
        (.ok a, φ, perform operation faults s (some input)) := by
  show (atomically (operation input) faults s).2 = s ∨ ∃ a φ, _ = (_, _, _)
  unfold perform
  rw [Option.elim_some, atomically, Proc.transaction_callback]
  split
  · rename_i a φ t h
    exact .inr ⟨a, φ, h⟩
  · exact .inl rfl

/-- An operation that keeps the seeded role when it returns, keeps it. -/
lemma protected_perform {ι α : Type} {operation : ι → Service ownerOf α} {input : Option ι}
    (hs : Protected root s)
    (h : ∀ input a φ t, (operation input).faulty Statement.apply faults s = (.ok a, φ, t) →
      Protected root t) : Protected root (perform operation faults s input) := by
  cases input with
  | none => exact hs
  | some input =>
    rcases perform_some operation faults s input with heq | ⟨a, φ, hreturned⟩
    · rw [heq]
      exact hs
    · exact h input a φ _ hreturned

lemma protected_iff : Protected root s ↔
    ∃ row, s.db.findRole root = some row ∧ row.name = "SUPER_ADMIN" :=
  Option.map_eq_some_iff

lemma createRole_returns {input : RoleBody} {a : RoleRow}
    (h : (createRole roleId input actorId).faulty Statement.apply faults s = (.ok a, φ, t)) :
    t.db.roles = s.db.roles ++ [⟨roleId, input.name⟩] := by
  obtain ⟨-, s₁, hcreated, h⟩ := Proc.faulty_commit_eq_ok_iff.mp h
  obtain ⟨-, s₂, hlogged, h⟩ := Proc.faulty_commit_eq_ok_iff.mp h
  cases h
  rw [← Option.some.inj (Statement.change_of_apply hlogged),
    ← Option.some.inj (Statement.change_of_apply hcreated)]

/-- The roles after an update. -/
def renamed (roleId : RoleId) (name : Option String) (roles : List RoleRow) : List RoleRow :=
  roles.map fun role =>
    if role.id = roleId then { role with name := name.getD role.name } else role

/-- An update returns if its three statements succeed. -/
lemma exists_updateRole_returns (actorId : UserId) {input : UpdateRoleBody}
    (hfaults : ∀ n < 3, faults n = false) (hrole : (s.db.findRole roleId).isSome)
    (hvalid : Valid { s.db with roles := renamed roleId input.name s.db.roles }) :
    ∃ a φ t, (updateRole roleId input actorId).faulty Statement.apply faults s = (.ok a, φ, t) := by
  obtain ⟨current, hfind⟩ := Option.isSome_iff_exists.mp hrole
  have hnone : ¬(s.db.findRole roleId).isNone := by rw [hfind]; exact Bool.false_ne_true
  obtain ⟨s₁, hupdated, -⟩ := Statement.exists_apply
    (.updateRole roleId input.name) (if_neg hnone) hvalid
  obtain ⟨s₂, hlogged, -⟩ := Statement.exists_apply (.createAuditLog
    ⟨actorId, "ROLE_UPDATED", "Role", roleId, [current.name], [input.name.getD current.name]⟩)
    (s := s₁) rfl s₁.valid
  refine ⟨⟨roleId, input.name.getD current.name⟩, faults.next.next.next, s₂, ?_⟩
  refine Proc.faulty_read_eq_ok_iff.mpr ⟨hfaults 0 (by decide), ?_⟩
  rw [hfind]
  refine Proc.faulty_commit_eq_ok_iff.mpr ⟨hfaults 1 (by decide), s₁, hupdated, ?_⟩
  exact Proc.faulty_commit_eq_ok_iff.mpr ⟨hfaults 2 (by decide), s₂, hlogged, rfl⟩

lemma updateRole_returns {input : UpdateRoleBody} {a : RoleRow}
    (h : (updateRole roleId input actorId).faulty Statement.apply faults s = (.ok a, φ, t)) :
    (∀ n < 3, faults n = false) ∧ t.db.roles = renamed roleId input.name s.db.roles := by
  obtain ⟨hzero, h⟩ := Proc.faulty_read_eq_ok_iff.mp h
  split at h
  · cases h
  · obtain ⟨hone, s₁, hupdated, h⟩ := Proc.faulty_commit_eq_ok_iff.mp h
    obtain ⟨htwo, s₂, hlogged, h⟩ := Proc.faulty_commit_eq_ok_iff.mp h
    cases h
    obtain ⟨-, hdb⟩ := Option.ite_none_left_eq_some.mp (Statement.change_of_apply hupdated)
    constructor
    · exact fun
        | 0, _ => hzero
        | 1, _ => hone
        | 2, _ => htwo
        | n + 3, hn => absurd hn (by omega)
    · rw [← Option.some.inj (Statement.change_of_apply hlogged), ← Option.some.inj hdb]
      rfl

lemma deleteRole_returns {u : Unit}
    (h : (deleteRole roleId actorId).faulty Statement.apply faults s = (.ok u, φ, t)) :
    (∃ role, s.db.findRole roleId = some role ∧ role.name ≠ "SUPER_ADMIN") ∧
      t.db.roles = s.db.roles.filter (·.id ≠ roleId) := by
  obtain ⟨-, h⟩ := Proc.faulty_read_eq_ok_iff.mp h
  split at h
  · cases h
  · rename_i role hfind
    split at h
    · cases h
    · rename_i hname
      obtain ⟨-, s₁, hdeleted, h⟩ := Proc.faulty_commit_eq_ok_iff.mp h
      obtain ⟨-, s₂, hlogged, h⟩ := Proc.faulty_commit_eq_ok_iff.mp h
      cases h
      obtain ⟨-, hdb⟩ := Option.ite_none_left_eq_some.mp (Statement.change_of_apply hdeleted)
      refine ⟨⟨role, hfind, hname⟩, ?_⟩
      rw [← Option.some.inj (Statement.change_of_apply hlogged), ← Option.some.inj hdb]

lemma createFound_roles {target : Target} {found : List NamedRow} {u : Unit}
    (h : (createFound target found).faulty Statement.apply faults s = (.ok u, φ, t)) :
    t.db.roles = s.db.roles := by
  unfold createFound at h
  split at h
  · cases h
    rfl
  · obtain ⟨-, s₁, hcreated, h⟩ := Proc.faulty_commit_eq_ok_iff.mp h
    cases h
    have hdb := (Option.ite_none_right_eq_some.mp (Statement.change_of_apply hcreated)).2
    rw [← Option.some.inj hdb]
    cases target <;> rfl

lemma replaceRolePermissions_roles {identifiers : List String} {a : Option RoleRow × List UserId}
    (h : (replaceRolePermissions roleId identifiers actorId).faulty Statement.apply faults s =
      (.ok a, φ, t)) : t.db.roles = s.db.roles := by
  obtain ⟨-, h⟩ := Proc.faulty_read_eq_ok_iff.mp h
  split at h
  · obtain ⟨-, h⟩ := Proc.faulty_read_eq_ok_iff.mp h
    obtain ⟨_, _, s₁, hreplaced, h⟩ := Proc.faulty_bind_eq_ok h
    cases (Proc.faulty_read_eq_ok_iff.mp h).2
    obtain ⟨_, _, _, hfind, h⟩ := Proc.faulty_bind_eq_ok hreplaced
    obtain ⟨rfl, rfl⟩ := findNamed_returns hfind
    split at h
    · cases h
    · obtain ⟨-, s₂, hdeleted, h⟩ := Proc.faulty_commit_eq_ok_iff.mp h
      obtain ⟨_, _, s₃, hcreated, h⟩ := Proc.faulty_bind_eq_ok h
      obtain ⟨-, s₄, hlogged, h⟩ := Proc.faulty_commit_eq_ok_iff.mp h
      cases h
      rw [← Option.some.inj (Statement.change_of_apply hlogged), createFound_roles hcreated,
        ← Option.some.inj (Statement.change_of_apply hdeleted)]
      rfl
  · cases h

end Operations

/-! ## The seeded role -/

section Protection

variable {root roleId : RoleId} {s t : Store ownerOf}

lemma findRole_renamed (name : Option String) :
    ((renamed roleId name s.db.roles).find? (·.id = root)).map RoleRow.name =
      (s.db.findRole root).map fun role =>
        if root = roleId then name.getD role.name else role.name := by
  have hid : (fun role : RoleRow => decide (role.id = root)) ∘ (fun role =>
      if role.id = roleId then { role with name := name.getD role.name } else role) =
      fun role => decide (role.id = root) := by
    funext role
    show decide ((if role.id = roleId then _ else role : RoleRow).id = root) = _
    split <;> rfl
  rw [renamed, List.find?_map, hid, Option.map_map]
  show _ = (s.db.roles.find? (·.id = root)).map _
  cases hfind : s.db.roles.find? (·.id = root) with
  | none => rfl
  | some role =>
    have hrow : role.id = root := by simpa using List.find?_some hfind
    show some (if role.id = roleId then _ else role : RoleRow).name = _
    rw [hrow]
    split <;> rfl

/-- A name that no role has may be given to a role. -/
lemma valid_renamed {name : String} (hname : name ∉ s.db.roles.map RoleRow.name) :
    Valid { s.db with roles := renamed roleId (some name) s.db.roles } := by
  have hids : (renamed roleId (some name) s.db.roles).map RoleRow.id =
      s.db.roles.map RoleRow.id := by
    rw [renamed, List.map_map]
    refine List.map_congr_left fun role _ => ?_
    show (if role.id = roleId then _ else role : RoleRow).id = role.id
    split <;> rfl
  refine ⟨hids ▸ s.valid.roles_ids, ?_, s.valid.permissions_ids, s.valid.permissions_names⟩
  show ((renamed roleId (some name) s.db.roles).map RoleRow.name).Nodup
  rw [renamed, List.map_map, List.nodup_map_iff_inj_on s.valid.roles_ids.of_map]
  intro a ha b hb hab
  have hother : ∀ c ∈ s.db.roles, c.name ≠ name :=
    fun c hc heq => hname (heq ▸ List.mem_map_of_mem hc)
  simp only [Function.comp_apply, Option.getD_some] at hab
  split at hab <;> split at hab
  · rename_i ha' hb'
    exact List.inj_on_of_nodup_map s.valid.roles_ids ha hb (ha'.trans hb'.symm)
  · exact absurd hab.symm (hother b hb)
  · exact absurd hab (hother a ha)
  · exact List.inj_on_of_nodup_map s.valid.roles_names ha hb hab

lemma protected_renamed_iff {name : Option String} (hs : Protected root s)
    (ht : t.db.roles = renamed roleId name s.db.roles) :
    Protected root t ↔ (root = roleId → ∀ n ∈ name, n = "SUPER_ADMIN") := by
  obtain ⟨row, hrow, hname⟩ := protected_iff.mp hs
  rw [Protected, AuthTables.findRole, ht, findRole_renamed, hrow, Option.map_some, Option.some_inj]
  by_cases hroot : root = roleId
  · rw [if_pos hroot]
    cases name with
    | none => simp [hname]
    | some n => simp [hroot]
  · rw [if_neg hroot]
    simp [hname, hroot]

/-- A role is not given a name that another role has. -/
lemma not_mem_of_renamed {name : String} {row : RoleRow} (hrow : s.db.findRole root = some row)
    (hname : row.name ≠ name) (ht : t.db.roles = renamed root (some name) s.db.roles) :
    name ∉ s.db.roles.map RoleRow.name := by
  intro hmem
  obtain ⟨other, hother, hothername⟩ := List.mem_map.mp hmem
  have hrowmem : row ∈ s.db.roles := List.mem_of_find?_eq_some hrow
  have hid : row.id = root := by simpa using List.find?_some hrow
  have hne : other.id ≠ root := by
    intro heq
    rw [List.inj_on_of_nodup_map s.valid.roles_ids hother hrowmem (heq.trans hid.symm)]
      at hothername
    exact hname hothername
  have hother' : other ∈ t.db.roles := by
    rw [ht]
    exact List.mem_map.mpr ⟨other, hother, if_neg hne⟩
  have hrow' : (⟨row.id, name⟩ : RoleRow) ∈ t.db.roles := by
    rw [ht]
    exact List.mem_map.mpr ⟨row, hrowmem, if_pos hid⟩
  have heq := List.inj_on_of_nodup_map t.valid.roles_names hother' hrow' hothername
  exact hne ((congrArg RoleRow.id heq).trans hid)

lemma protected_updateRole_iff {body : List (String × JsonValue)} {actorId : UserId}
    {faults : Faults} (hs : Protected root s) :
    Protected root (perform (updateRole roleId · actorId) faults s (updateRoleBody body)) ↔
      ¬Renames root s ⟨.updateRole roleId body, actorId, faults⟩ := by
  obtain ⟨row, hrow, hname⟩ := protected_iff.mp hs
  constructor
  · -- such a request returns, and the row has another name then
    rintro hprotected ⟨rfl, ⟨input, hinput, name, hnew, hother, hfresh⟩, hfaults⟩
    have hvalid : Valid { s.db with roles := renamed roleId input.name s.db.roles } := by
      rw [Option.mem_def.mp hnew]
      exact valid_renamed hfresh
    obtain ⟨a, φ, t, hreturned⟩ := exists_updateRole_returns actorId hfaults
      (Option.isSome_iff_exists.mpr ⟨row, hrow⟩) hvalid
    have ht : perform (updateRole roleId · actorId) faults s (updateRoleBody body) = t := by
      rw [perform, Option.mem_def.mp hinput, Option.elim_some, atomically,
        Proc.transaction_callback, hreturned]
    rw [ht] at hprotected
    have hroles := (updateRole_returns hreturned).2
    exact hother ((protected_renamed_iff hs hroles).mp hprotected rfl name hnew)
  · -- a request that has failed has changed nothing
    intro hkept
    cases hinput : updateRoleBody body with
    | none => exact hs
    | some input =>
      rcases perform_some (updateRole roleId · actorId) faults s input with
        heq | ⟨a, φ, hreturned⟩
      · rw [heq]
        exact hs
      · obtain ⟨hfaults, hroles⟩ := updateRole_returns hreturned
        refine (protected_renamed_iff hs hroles).mpr ?_
        rintro rfl name hnew
        by_contra hother
        refine hkept ⟨rfl, ⟨input, hinput, name, hnew, hother, ?_⟩, hfaults⟩
        rw [Option.mem_def.mp hnew] at hroles
        exact not_mem_of_renamed hrow (fun heq => hother (heq.symm.trans hname)) hroles

/-- **A request keeps the seeded role** exactly if it does not rename it. -/
lemma protected_serve_iff {served : Served} (hs : Protected root s) :
    Protected root (serve served.actorId served.faults s served.request) ↔
      ¬Renames root s served := by
  obtain ⟨request, actorId, faults⟩ := served
  obtain ⟨row, hrow, hname⟩ := protected_iff.mp hs
  cases request with
  | createRole id body =>
    -- the new row stands behind the others, so the role is still found first
    refine iff_of_true (protected_perform hs fun input a φ t h => ?_) False.elim
    rw [Protected, AuthTables.findRole, createRole_returns h, List.find?_append]
    show ((s.db.findRole root).or _).map RoleRow.name = _
    rw [hrow, Option.some_or, Option.map_some, hname]
  | updateRole roleId body => exact protected_updateRole_iff hs
  | deleteRole roleId =>
    refine iff_of_true (protected_perform hs fun input a φ t h => ?_) False.elim
    obtain ⟨⟨role, hfind, hother⟩, hroles⟩ := deleteRole_returns h
    have hne : root ≠ roleId := by
      rintro rfl
      rw [hfind] at hrow
      exact hother (Option.some.inj hrow ▸ hname)
    rw [Protected, AuthTables.findRole, hroles, Table.find?_filter_of]
    · exact hs
    · intro role _ hrole
      rw [of_decide_eq_true hrole]
      exact decide_eq_true hne
  | replaceRolePermissions roleId body =>
    refine iff_of_true (protected_perform hs fun input a φ t h => ?_) False.elim
    rw [Protected, AuthTables.findRole, replaceRolePermissions_roles h]
    exact hs

end Protection

/-! ## Runs -/

section Runs

variable {root : RoleId} {s₀ : Store ownerOf} {requests : List Served}

lemma run_take_succ {n : ℕ} (hn : n < requests.length) :
    run (requests.take (n + 1)) s₀ =
      serve requests[n].actorId requests[n].faults (run (requests.take n) s₀)
        requests[n].request := by
  rw [← List.take_append_getElem hn, run, List.foldl_append]
  rfl

/-- **The seeded role is there, under its name, after each of some requests** exactly if none of
them renames it. -/
theorem protected_run_iff (requests : List Served) (h₀ : Protected root s₀) :
    (∀ n, Protected root (run (requests.take n) s₀)) ↔
      ∀ n (hn : n < requests.length), ¬Renames root (run (requests.take n) s₀) requests[n] := by
  constructor
  · intro h n hn
    have hnext := h (n + 1)
    rw [run_take_succ hn] at hnext
    exact (protected_serve_iff (h n)).mp hnext
  · intro h n
    induction n with
    | zero => exact h₀
    | succ n ih =>
      rcases Nat.lt_or_ge n requests.length with hn | hn
      · rw [run_take_succ hn]
        exact (protected_serve_iff ih).mpr (h n hn)
      · rw [List.take_of_length_le (Nat.le_succ_of_le hn), ← List.take_of_length_le hn]
        exact ih

/-- The roles that are seeded. -/
def seeded : Store (fun _ => 7) where
  db := {
    users := []
    sessions := noSessions _
    roles := [⟨"r1", "SUPER_ADMIN"⟩, ⟨"r2", "ADMIN"⟩, ⟨"r3", "SELLER"⟩, ⟨"r4", "CUSTOMER"⟩]
    permissions := []
    userRoles := []
    rolePermissions := [] }
  valid := by decide
  auditLogs := []

def rename (roleId : RoleId) (name : String) : Served :=
  ⟨.updateRole roleId [("name", .string name)], 7, Faults.none⟩

def delete (roleId : RoleId) : Served := ⟨.deleteRole roleId, 7, Faults.none⟩

/-- Another role is renamed and deleted, and SUPER_ADMIN is not deleted. -/
theorem protected_run_iff_seeded : Protected "r1" seeded ∧
    ∀ n, Protected "r1" (run ([rename "r2" "ROOT", delete "r2", delete "r1"].take n) seeded) :=
  ⟨by decide, (protected_run_iff [rename "r2" "ROOT", delete "r2", delete "r1"]
    (by decide)).mpr (by decide +kernel)⟩

/-- SUPER_ADMIN is renamed and deleted. -/
theorem superAdmin_deleted : ¬∀ (s₀ : Store fun _ => 7) (root : RoleId) (requests : List Served),
    Protected root s₀ → Protected root (run requests s₀) := by
  intro h
  exact absurd (h seeded "r1" [rename "r1" "ROOT", delete "r1"] (by decide)) (by decide +kernel)

end Runs

end MeeoServer.Authorization
