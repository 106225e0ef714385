/-
  AccessService.ImpactAnalysis.RoleMutations

  The three changes of a role: the checks that let a request through, what the role is
  asked to permit, and that a request that gets through and whose queries do not fail leaves
  a role that permits just that.
-/

import AccessService.ImpactAnalysis.RoleImpact
import AccessService.Roles.PermissionReplacement
import AccessService.Roles.RolePermissionClosure

namespace AccessService.ImpactAnalysis

open AccessService.Lib AccessService.Permissions AccessService.Pg AccessService.Persistence
open AccessService.Roles
open AccessService.Roles.RoleApplicationService AccessService.Roles.RoleRepository
open AccessService.Roles.RolePermissionRepository AccessService.Roles.RoleCacheService
open AccessService.UserGroups.UserGroupMatchingEngine (ColumnTypes)

-- ============================================================================
-- What is asked for
-- ============================================================================

/-- The permissions of a role that a request has changed. -/
def permissionsAfter (request : RoleRequest) (role : StoredRole) : List RolePermission :=
  match newPermissions request (.load role.row) with
  | some permissions => keptPermissions role ++ permissions
  | none => role.permissions.rows

def permittedAfter (request : RoleRequest) (role : StoredRole) : Set (RoleStatus × String) :=
  {x | x.1 = (change ⟨request, none⟩ (.load role.row)).status ∧
    ∃ p ∈ permissionsAfter request role, p.permissionCode = x.2}

variable {ctx : RoleContext} {r r' : RoleStore} {id : Uuid} {role role' : StoredRole}
variable {request : RoleRequest} {w w' : World RoleStore RoleError}

theorem permitted_write {userId : Option Uuid}
    (h : write ⟨request, userId⟩ (.load role.row) role = some role') :
    permitted role' = permittedAfter request role := by
  have hstatus : role'.row.status = (change ⟨request, none⟩ (.load role.row)).status := by
    rw [write_row h]
    cases request <;> rfl
  have hrows : role'.permissions.rows = permissionsAfter request role := by
    unfold permissionsAfter
    rcases write_rows h with ⟨hnew, hsame⟩ | ⟨permissions, hnew, hrows⟩
    · rw [show newPermissions request (.load role.row) = none from hnew, hsame]
    · rw [show newPermissions request (.load role.row) = some permissions from hnew]
      exact hrows
  unfold permitted permittedAfter
  rw [hstatus, hrows]

-- ============================================================================
-- From the transaction on
-- ============================================================================

theorem onlyThrows_overwrite {f : StoredRole → Option StoredRole} :
    Faulty.OnlyThrows .queryFailed (overwrite id f) := by
  refine Faulty.onlyThrows_call fun s e h => ?_
  split at h
  · cases h
  · split at h
    · exact (Except.error.inj h).symm
    · split at h
      · exact (Except.error.inj h).symm
      · cases h

theorem onlyThrows_bulkSave {permissions : List RolePermission} :
    Faulty.OnlyThrows .queryFailed (bulkSave id permissions) := by
  unfold bulkSave
  split
  · exact Faulty.onlyThrows_pure ()
  · exact onlyThrows_overwrite

theorem onlyThrows_replacePermissions {permissions : Option (List RolePermission)} :
    Faulty.OnlyThrows .queryFailed (replacePermissions id permissions) := by
  cases permissions with
  | none => exact Faulty.onlyThrows_pure ()
  | some permissions => exact onlyThrows_overwrite.bind fun _ => onlyThrows_bulkSave

theorem findRequired_calm {missing : RoleError} (hfound : r.role ctx.tenantCode id = some role) :
    findRequired ctx id missing (.calm r) = (.ok role, .calm r) := by
  have hread : findById ctx id (.calm r) = (.ok (some role), .calm r) := by
    rw [findById, Faulty.read_calm, hfound]
  rw [findRequired, Faulty.bind_runs hread]
  rfl

theorem orThrow_calm {α : Type} {x : Except RoleError α} {a : α} (h : x = .ok a) :
    orThrow x (.calm r) = (.ok a, .calm r) := by
  rw [h]
  rfl

/-- Once the checks are made, only a query can keep an edit from committing. -/
theorem editRole_ends (missing : RoleError) (event : RoleEvent)
    (hfound : r.role ctx.tenantCode id = some role)
    (hversion : Roles.RoleApplicationService.checkVersion (.load role.row) request.version =
      .ok ()) :
    (∃ entity r', editRole ctx id request missing event (.calm r) = (.ok entity, .calm r')) ∨
      ∃ w', editRole ctx id request missing event (.calm r) = (.error .queryFailed, w') := by
  have hwrites : Faulty.OnlyThrows RoleError.queryFailed (do
      replacePermissions id (newPermissions request (.load role.row))
      let saved := change ⟨request, ctx.userId⟩ (.load role.row)
      RoleRepository.save saved
      OutboxEventRepository.save event
      pure saved) :=
    onlyThrows_replacePermissions.bind fun _ => onlyThrows_overwrite.bind fun _ =>
      (Faulty.onlyThrows_write _).bind fun _ => Faulty.onlyThrows_pure _
  unfold editRole Roles.runInTransaction Faulty.transaction
  rw [Faulty.bind_runs (findRequired_calm hfound), Faulty.bind_runs (orThrow_calm hversion)]
  rcases hwrites r with ⟨entity, r', hrun⟩ | ⟨r', hrun⟩
  · rw [hrun]
    exact .inl ⟨entity, r', rfl⟩
  · rw [hrun]
    exact .inr ⟨_, rfl⟩

/-- The rest of the request: the transaction, the cache entry, and the answer. -/
def commit (ctx : RoleContext) (id : Uuid) (request : RoleRequest) (missing : RoleError)
    (event : RoleEvent) (answer : RoleEntity → RoleService RoleOutcome) :
    RoleService RoleOutcome := do
  let updatedRole ← editRole ctx id request missing event
  syncRole updatedRole
  answer updatedRole

/-- The answer is the role, and nothing is written any more. -/
def AnswersRole (answer : RoleEntity → RoleService RoleOutcome) : Prop :=
  ∀ entity r, ∃ counts, answer entity (.calm r) = (.ok (.role entity counts), .calm r)

/-- The request gets through to a transaction that makes the role permit what is asked for. -/
structure MakesRole (r : RoleStore) (role : StoredRole) (asked : Set (RoleStatus × String))
    (run : RoleService RoleOutcome) : Prop where
  stored : role ∈ r.roles.rows
  ends : (∃ entity counts w' role', run (.calm r) = (.ok (.role entity counts), w') ∧
      TableChange r.roles w'.state.roles role' ∧ role'.id = role.id ∧
      role'.row.tenantCode = role.row.tenantCode ∧ permitted role' = asked) ∨
    ∃ w', run (.calm r) = (.error .queryFailed, w')

theorem makesRole_of_commit {missing : RoleError} {event : RoleEvent}
    {answer : RoleEntity → RoleService RoleOutcome} {run : RoleService RoleOutcome}
    (hfound : r.role ctx.tenantCode id = some role)
    (hversion : Roles.RoleApplicationService.checkVersion (.load role.row) request.version =
      .ok ())
    (hanswers : AnswersRole answer)
    (hrun : run (.calm r) = commit ctx id request missing event answer (.calm r)) :
    MakesRole r role (permittedAfter request role) run := by
  obtain ⟨hmem, htenant, hid⟩ := RoleStore.role_eq_some.mp hfound
  refine ⟨hmem, ?_⟩
  rw [hrun, commit]
  rcases editRole_ends missing event hfound hversion with
    ⟨entity, r', hedit⟩ | ⟨w', hedit⟩
  · obtain ⟨locked, role', hlocked, -, hid', -, hwrite, hchange⟩ := editRole_ok hedit
    obtain rfl : locked = role := r.roles.row_unique hlocked hmem (hid'.trans hid.symm)
    obtain ⟨counts, hanswer⟩ := hanswers entity (setRole r' entity)
    refine .inl ⟨entity, counts, .calm (setRole r' entity), role', ?_, ?_, ?_, ?_, ?_⟩
    · rw [Faulty.bind_runs hedit]
      exact hanswer
    · exact ⟨hchange.stored, hchange.others⟩
    · rw [StoredRole.id, write_row hwrite]
      rfl
    · rw [write_row hwrite]
      cases request <;> rfl
    · exact permitted_write hwrite
  · exact .inr ⟨w', Faulty.bind_throws hedit⟩

-- ============================================================================
-- Requests
-- ============================================================================

/-- Where the request returns, it has got through, or it asks for a confirmation and has
    changed nothing. -/
def Returns (r : RoleStore) (passes : StoredRole → Prop) (run : RoleService RoleOutcome) : Prop :=
  ∀ outcome w', run (.calm r) = (.ok outcome, w') → (∃ role, passes role) ∨
    ∃ response, outcome = .confirmationRequired response ∧ w' = .calm r

theorem findRequired_returns {missing : RoleError}
    (h : findRequired ctx id missing (.calm r) = (.ok role, w')) :
    r.role ctx.tenantCode id = some role ∧ w' = .calm r := by
  rcases hfound : r.role ctx.tenantCode id with _ | found
  · have hread : findById ctx id (.calm r) = (.ok none, .calm r) := by
      rw [findById, Faulty.read_calm, hfound]
    rw [findRequired, Faulty.bind_runs hread] at h
    cases h
  · rw [findRequired_calm hfound] at h
    obtain ⟨hrole, hworld⟩ := Prod.mk.inj h
    exact ⟨congrArg some (Except.ok.inj hrole), hworld.symm⟩

theorem confirmation_eq {response : HighImpactConfirmationRequired} {outcome : RoleOutcome}
    (h : (pure (.confirmationRequired response) : RoleService RoleOutcome) (.calm r) =
      (.ok outcome, w')) :
    ∃ response, outcome = .confirmationRequired response ∧ w' = .calm r := by
  obtain ⟨houtcome, hworld⟩ := Faulty.pure_ok.mp h
  exact ⟨response, houtcome.symm, hworld.symm⟩

theorem answers_pure {counts : Option RoleCounts} :
    AnswersRole fun entity => pure (.role entity counts) :=
  fun _ _ => ⟨counts, rfl⟩

-- ============================================================================
-- updateCustom
-- ============================================================================

/-- The id of the role that has a new name; a name that stays is not looked up. -/
def ownerOf (ctx : RoleContext) (r : RoleStore) (role : StoredRole) (name : String) :
    Option Uuid :=
  if role.row.name ≠ name then (r.roleNamed ctx.tenantCode name).map StoredRole.id else none

theorem newNameOwner_calm {name : String} :
    newNameOwner ctx role name (.calm r) = (.ok (ownerOf ctx r role name), .calm r) := by
  unfold newNameOwner ownerOf
  split
  · rfl
  · rfl

/-- The checks of `updateCustom`. -/
structure PassesCustom (ctx : RoleContext) (r : RoleStore) (id : Uuid) (dto : UpdateCustomRoleDto)
    (role : StoredRole) : Prop where
  found : r.role ctx.tenantCode id = some role
  checked : checkRole (.updateCustom dto) (.load role.row) = .ok ()
  name : checkNewName (.load role.row) dto.name (ownerOf ctx r role dto.name) = .ok ()
  valid : checkPermissionSet ctx.graph dto.permissionCodes = .ok ()
  confirmed : ¬(r.countActiveUserReach ctx.tenantCode id ≥ HIGH_IMPACT_THRESHOLD ∧
    dto.confirmed ≠ some true)

theorem counts_calm : countAssignedUserGroupAndUser ctx id (.calm r) =
    (.ok ⟨r.countAssignedUserGroups ctx.tenantCode id, r.countActiveUserReach ctx.tenantCode id⟩,
      .calm r) := rfl

theorem updateCustom_makes {dto : UpdateCustomRoleDto} (h : PassesCustom ctx r id dto role) :
    MakesRole r role (permittedAfter (.updateCustom dto) role) (updateCustom ctx id dto) := by
  obtain ⟨u, -, hversion⟩ := Sql.bind_eq_ok.mp h.checked
  have hrun : updateCustom ctx id dto (.calm r) =
      commit ctx id (.updateCustom dto) .entityNotFound
        (.permissionsUpdated id dto.permissionCodes)
        (fun entity => pure (.role entity (some ⟨r.countAssignedUserGroups ctx.tenantCode id,
          r.countActiveUserReach ctx.tenantCode id⟩))) (.calm r) := by
    rw [updateCustom, Faulty.bind_runs (findRequired_calm h.found),
      Faulty.bind_runs (orThrow_calm h.checked), Faulty.bind_runs newNameOwner_calm,
      Faulty.bind_runs (orThrow_calm h.name), Faulty.bind_runs (orThrow_calm h.valid),
      Faulty.bind_runs counts_calm, if_neg h.confirmed]
    rfl
  exact makesRole_of_commit h.found hversion answers_pure hrun

theorem updateCustom_returns {dto : UpdateCustomRoleDto} :
    Returns r (PassesCustom ctx r id dto) (updateCustom ctx id dto) := by
  intro outcome w' h
  obtain ⟨role, w₁, hfind, h⟩ := Faulty.bind_ok.mp h
  obtain ⟨hfound, rfl⟩ := findRequired_returns hfind
  obtain ⟨u, w₂, hcheck, h⟩ := Faulty.bind_ok.mp h
  obtain ⟨hchecked, rfl⟩ := orThrow_ok hcheck
  rw [Faulty.bind_runs newNameOwner_calm] at h
  obtain ⟨v, w₃, hnew, h⟩ := Faulty.bind_ok.mp h
  obtain ⟨hname, rfl⟩ := orThrow_ok hnew
  obtain ⟨x, w₄, hset, h⟩ := Faulty.bind_ok.mp h
  obtain ⟨hvalid, rfl⟩ := orThrow_ok hset
  rw [Faulty.bind_runs counts_calm] at h
  split at h
  · exact .inr (confirmation_eq h)
  next hconfirmed => exact .inl ⟨role, hfound, hchecked, hname, hvalid, hconfirmed⟩

-- ============================================================================
-- updatePermissions
-- ============================================================================

theorem updatePermissions_makes {dto : UpdateRolePermissionsDto} (h : Accepted ctx r id dto role) :
    MakesRole r role (permittedAfter (.updatePermissions dto) role)
      (updatePermissions ctx id dto) := by
  obtain ⟨u, hversion, -⟩ := Sql.bind_eq_ok.mp h.checked
  refine makesRole_of_commit h.found hversion ?_ (updatePermissions_calm h)
  exact fun entity r' => ⟨some ⟨r'.countAssignedUserGroups ctx.tenantCode id, _⟩, rfl⟩

theorem updatePermissions_returns {dto : UpdateRolePermissionsDto} :
    Returns r (Accepted ctx r id dto) (updatePermissions ctx id dto) := by
  intro outcome w' h
  obtain ⟨role, w₁, hfind, h⟩ := Faulty.bind_ok.mp h
  obtain ⟨hfound, rfl⟩ := findRequired_returns hfind
  obtain ⟨u, w₂, hcheck, h⟩ := Faulty.bind_ok.mp h
  obtain ⟨hchecked, rfl⟩ := orThrow_ok hcheck
  obtain ⟨v, w₃, hset, h⟩ := Faulty.bind_ok.mp h
  obtain ⟨hvalid, rfl⟩ := orThrow_ok hset
  have hcount : countActiveUserReach ctx id (.calm r) =
      (.ok (r.countActiveUserReach ctx.tenantCode id), .calm r) := rfl
  rw [Faulty.bind_runs hcount] at h
  split at h
  · exact .inr (confirmation_eq h)
  next hconfirmed => exact .inl ⟨role, hfound, hchecked, hvalid, hconfirmed⟩

-- ============================================================================
-- deactivate
-- ============================================================================

/-- The checks of `deactivate`. -/
structure PassesRoleDeactivation (ctx : RoleContext) (r : RoleStore) (id : Uuid)
    (dto : DeactivateRoleDto) (role : StoredRole) : Prop where
  found : r.role ctx.tenantCode id = some role
  checked : checkRole (.deactivate dto) (.load role.row) = .ok ()
  confirmed : ¬(r.countAssignedUserGroups ctx.tenantCode id > 0 ∧ dto.confirmed ≠ some true)

theorem deactivateRole_makes {dto : DeactivateRoleDto}
    (h : PassesRoleDeactivation ctx r id dto role) :
    MakesRole r role (permittedAfter (.deactivate dto) role)
      (RoleApplicationService.deactivate ctx id dto) := by
  obtain ⟨u, -, hversion⟩ := Sql.bind_eq_ok.mp h.checked
  let counts : RoleCounts :=
    ⟨r.countAssignedUserGroups ctx.tenantCode id, r.countActiveUserReach ctx.tenantCode id⟩
  have hrun : RoleApplicationService.deactivate ctx id dto (.calm r) =
      commit ctx id (.deactivate dto) (.roleNotFound id)
        (.deactivated id counts.assignedUserGroups counts.activeUserReach)
        (fun entity => pure (.role entity (some counts))) (.calm r) := by
    rw [RoleApplicationService.deactivate, Faulty.bind_runs (findRequired_calm h.found),
      Faulty.bind_runs (orThrow_calm h.checked), Faulty.bind_runs counts_calm, if_neg h.confirmed]
    rfl
  exact makesRole_of_commit h.found hversion answers_pure hrun

theorem deactivateRole_returns {dto : DeactivateRoleDto} :
    Returns r (PassesRoleDeactivation ctx r id dto)
      (RoleApplicationService.deactivate ctx id dto) := by
  intro outcome w' h
  obtain ⟨role, w₁, hfind, h⟩ := Faulty.bind_ok.mp h
  obtain ⟨hfound, rfl⟩ := findRequired_returns hfind
  obtain ⟨u, w₂, hcheck, h⟩ := Faulty.bind_ok.mp h
  obtain ⟨hchecked, rfl⟩ := orThrow_ok hcheck
  rw [Faulty.bind_runs counts_calm] at h
  split at h
  · exact .inr (confirmation_eq h)
  next hconfirmed => exact .inl ⟨role, hfound, hchecked, hconfirmed⟩

-- ============================================================================
-- In the whole store
-- ============================================================================

variable {s : AccessStore} {run : RoleService RoleOutcome}

/-- Such a request is persisted unless a query fails, and whom it affects can be told from
    the role that is stored and what it is asked to permit. -/
theorem MakesRole.persisted {types : ColumnTypes} {asked : Set (RoleStatus × String)}
    (h : MakesRole s.roleStore role asked run) (hquery : (s.runRole run).1 ≠ .queryFailed) :
    (s.runRole run).1 = .persisted ∧ AccessStore.affected types s (s.runRole run).2 =
      {u | u ∈ holders types s role ∧ permitted role ≠ asked} := by
  rcases h.ends with ⟨entity, counts, w', role', hrun, hchange, hid, htenant, hpermitted⟩ |
    ⟨w', hrun⟩
  · unfold AccessStore.runRole at hquery ⊢
    rw [hrun] at hquery ⊢
    simp only at hquery ⊢
    rcases hwrite : s.withRoles w'.state with e | s'
    · rw [hwrite] at hquery
      exact absurd rfl hquery
    · obtain ⟨htables, hbase⟩ := AccessStore.withRoles_ok hwrite
      have hroles : s'.administration.tables.roles = w'.state.roles := by rw [htables]
      have hedit : RoleEdit s s' role role' := by
        refine ⟨h.stored, ?_, hid, htenant, fun other hother => ?_, ?_, hbase⟩
        · rw [hroles]
          exact hchange.stored
        · rw [hroles]
          exact hchange.others other (hid.symm ▸ hother)
        · rw [hroles]
          exact htables
      refine ⟨rfl, ?_⟩
      rw [← hpermitted]
      exact hedit.affected
  · -- the answer of a query that fails
    refine absurd ?_ hquery
    unfold AccessStore.runRole
    rw [hrun]
    simp only
    split
    · rfl
    · rfl

theorem Returns.persisted {passes : StoredRole → Prop} (h : Returns s.roleStore passes run)
    (hpersisted : (s.runRole run).1 = .persisted) : ∃ role, passes role := by
  unfold AccessStore.runRole at hpersisted
  rcases hrun : run (.calm s.roleStore) with ⟨e | outcome, w'⟩
  · rw [hrun] at hpersisted
    simp only at hpersisted
    split at hpersisted
    · cases e <;> cases hpersisted
    · cases hpersisted
  · rcases h outcome w' hrun with hpasses | ⟨response, rfl, rfl⟩
    · exact hpasses
    · rw [hrun] at hpersisted
      simp only [Faulty.calm_state, AccessStore.withRoles_same] at hpersisted
      cases hpersisted

/-- A request for a confirmation leaves the store as it is. -/
theorem Returns.unchanged {passes : StoredRole → Prop} (h : Returns s.roleStore passes run)
    (hmakes : ∀ role, passes role → ∃ asked, MakesRole s.roleStore role asked run)
    (hverdict : (s.runRole run).1 = .confirmationRequired) : (s.runRole run).2 = s := by
  unfold AccessStore.runRole at hverdict ⊢
  rcases hrun : run (.calm s.roleStore) with ⟨e | outcome, w'⟩
  · rw [hrun] at hverdict
    simp only at hverdict
    split at hverdict
    · cases e <;> cases hverdict
    · cases hverdict
  · rcases h outcome w' hrun with ⟨role, hpasses⟩ | ⟨response, rfl, rfl⟩
    · obtain ⟨asked, hmakes⟩ := hmakes role hpasses
      rw [hrun] at hverdict
      simp only at hverdict
      rcases hmakes.ends with ⟨entity, counts, w₁, -, hrun', -⟩ | ⟨w₁, hrun'⟩
      · obtain ⟨houtcome, -⟩ := Prod.mk.inj (hrun.symm.trans hrun')
        rw [Except.ok.inj houtcome] at hverdict
        split at hverdict
        · cases hverdict
        · cases hverdict
      · cases hrun.symm.trans hrun'
    · simp only [Faulty.calm_state, AccessStore.withRoles_same]

end AccessService.ImpactAnalysis
