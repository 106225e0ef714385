/-
  AccessService.Roles.RoleCacheCoherence

  After a role operation the cache has the role's name, status and version, and no
  permissions: each operation hands `syncRole` an object whose permissions have not
  been loaded.  So the entries stay in line with the tables exactly as long as every
  operation leaves a role without permissions (`role_cache_coherent_iff`).
-/

import AccessService.Lib.Transition
import AccessService.Roles.RoleEffects

namespace AccessService.Roles

open AccessService.Lib AccessService.Lib.Transition AccessService.Permissions AccessService.Pg
open AccessService.Persistence
open RoleApplicationService RoleCacheService RoleRepository

-- ============================================================================
-- Executions
-- ============================================================================

inductive RoleOperation where
  | createCustom (newId : Uuid) (dto : CreateCustomRoleDto)
  | copy (newId sourceRoleId : Uuid) (dto : CopyRoleDto)
  | updateCustom (id : Uuid) (dto : UpdateCustomRoleDto)
  | updatePermissions (id : Uuid) (dto : UpdateRolePermissionsDto)
  | deactivate (id : Uuid) (dto : DeactivateRoleDto)
  | reactivate (id : Uuid)
  | rename (id : Uuid) (dto : RenameRoleDto)
  deriving DecidableEq

def RoleOperation.run (ctx : RoleContext) : RoleOperation → RoleService RoleOutcome
  | .createCustom newId dto => RoleApplicationService.createCustom ctx newId dto
  | .copy newId sourceRoleId dto => RoleApplicationService.copy ctx newId sourceRoleId dto
  | .updateCustom id dto => RoleApplicationService.updateCustom ctx id dto
  | .updatePermissions id dto => RoleApplicationService.updatePermissions ctx id dto
  | .deactivate id dto => RoleApplicationService.deactivate ctx id dto
  | .reactivate id => RoleApplicationService.reactivate ctx id
  | .rename id dto => RoleApplicationService.rename ctx id dto

/-- An operation, the tenant and the user it runs for, and what its calls run into. -/
structure RoleExecution where
  tenantCode : String
  userId : Option Uuid := none
  operation : RoleOperation
  faults : List (Option RoleError) := []

def RoleExecution.context (graph : PermissionDependencyGraph) (x : RoleExecution) : RoleContext :=
  ⟨x.tenantCode, x.userId, graph⟩

/-- The entry and the role agree. -/
structure Agrees (entry : CachedRoleData) (role : StoredRole) : Prop where
  name : entry.name = role.row.name
  status : entry.status = role.row.status
  version : entry.version = role.row.version
  permissions : ∀ code, (∃ p ∈ entry.permissions, p.permissionCode = code) ↔
    ∃ p ∈ role.permissions.rows, p.permissionCode = code

/-- Every role that has a cache entry agrees with it. -/
def RolesCoherent (s : RoleStore) : Prop :=
  ∀ role ∈ s.roles.rows, ∀ entry,
    s.cachedRoles (role.row.tenantCode, role.id) = some entry → Agrees entry role

/-- Operations that return a role, one after another. -/
def roleOperations (graph : PermissionDependencyGraph) : System RoleStore RoleExecution where
  init := RolesCoherent
  step s x :=
    match x.operation.run (x.context graph) ⟨s, x.faults⟩ with
    | (.ok (.role _ _), w') => some w'.state
    | _ => none

/-- The permissions of the role `id`. -/
def permissionsOf (s : RoleStore) (tenantCode : String) (id : Uuid) : List RolePermission :=
  match s.role tenantCode id with
  | some role => role.permissions.rows
  | none => []

/-- The role that the operation is about has no permissions afterwards: it is asked
    for none, or it has none and they stay. -/
def Unpermitted (s : RoleStore) (x : RoleExecution) (_ : RoleStore) : Prop :=
  match x.operation with
  | .createCustom _ dto => dto.permissionCodes = []
  | .copy _ sourceRoleId _ => permissionsOf s x.tenantCode sourceRoleId = []
  | .updateCustom id dto => dto.permissionCodes = [] ∧
      ∀ p ∈ permissionsOf s x.tenantCode id, p.isProtected = false
  | .updatePermissions id dto => dto.permissionCodes = [] ∧
      ∀ p ∈ permissionsOf s x.tenantCode id, p.isProtected = false
  | .deactivate id _ | .reactivate id | .rename id _ => permissionsOf s x.tenantCode id = []

def CoherentAfter (_ : RoleStore) (_ : RoleExecution) (t : RoleStore) : Prop := RolesCoherent t

-- ============================================================================
-- One role and its cache entry
-- ============================================================================

/-- The entity has the role's columns, and no permissions. -/
structure Mirrors (entity : RoleEntity) (role : StoredRole) : Prop where
  id : entity.id = role.id
  tenantCode : entity.tenantCode = role.row.tenantCode
  name : entity.name = role.row.name
  status : entity.status = role.row.status
  version : entity.version = role.row.version
  permissions : entity.permissions = none

theorem mirrors_load (role : StoredRole) : Mirrors (.load role.row) role :=
  ⟨rfl, rfl, rfl, rfl, rfl, rfl⟩

/-- The role is stored and cached now; nothing else has changed. -/
structure Commits (s s' : RoleStore) (role : StoredRole) : Prop where
  stored : role ∈ s'.roles.rows
  others : ∀ other, other.id ≠ role.id → (other ∈ s'.roles.rows ↔ other ∈ s.roles.rows)
  cached : ∃ entity, Mirrors entity role ∧ s'.cachedRoles = (setRole s entity).cachedRoles

variable {ctx : RoleContext} {w w' : World RoleStore RoleError}

theorem commits_of_sync {s : RoleStore} {role : StoredRole} {entity : RoleEntity} {u : Unit}
    (hchange : RoleChange s w.state role) (hmirrors : Mirrors entity role)
    (h : syncRole entity w = (.ok u, w')) : Commits s w'.state role := by
  obtain ⟨-, rfl⟩ := Faulty.modify_ok h
  refine ⟨hchange.stored, hchange.others, entity, hmirrors, ?_⟩
  show (setRole w.state entity).cachedRoles = _
  simp only [setRole, hchange.cached]

/-- What is in the cache stays in line exactly when the role has no permissions. -/
theorem coherent_iff_of_commits {s s' : RoleStore} {role : StoredRole} (hs : RolesCoherent s)
    (h : Commits s s' role) : RolesCoherent s' ↔ role.permissions.rows = [] := by
  obtain ⟨entity, hmirrors, hcached⟩ := h.cached
  have hentry : s'.cachedRoles (role.row.tenantCode, role.id) = some (cachedData entity) := by
    rw [hcached, setRole, hmirrors.tenantCode, hmirrors.id]
    exact if_pos rfl
  have hnone : (cachedData entity).permissions = [] := by
    rw [cachedData, hmirrors.permissions]
    rfl
  constructor
  · intro hcoherent
    have hagrees := (hcoherent role h.stored _ hentry).permissions
    rw [List.eq_nil_iff_forall_not_mem]
    intro p hp
    obtain ⟨q, hq, -⟩ := (hagrees p.permissionCode).mpr ⟨p, hp, rfl⟩
    rw [hnone] at hq
    exact List.not_mem_nil hq
  · intro hempty other hother entry hsome
    by_cases hid : other.id = role.id
    · obtain rfl := s'.roles.row_unique hother h.stored hid
      obtain rfl := Option.some.inj (hentry.symm.trans hsome)
      refine ⟨hmirrors.name, hmirrors.status, hmirrors.version, fun code => ?_⟩
      rw [hnone, hempty]
    · rw [hcached, setRole] at hsome
      simp only at hsome
      rw [hmirrors.id, if_neg fun hkey => hid (Prod.mk.inj hkey).2] at hsome
      exact hs other ((h.others other hid).mp hother) entry hsome

-- ============================================================================
-- What each operation commits
-- ============================================================================

theorem permissionsOf_eq {s : RoleStore} {tenantCode : String} {role : StoredRole}
    (hrole : role ∈ s.roles.rows) (htenant : role.row.tenantCode = tenantCode) :
    permissionsOf s tenantCode role.id = role.permissions.rows := by
  rw [permissionsOf, RoleStore.role_eq_some.mpr ⟨hrole, htenant, rfl⟩]

/-- What the transaction of an edit leaves, for the operations that share it. -/
theorem editRole_mirrors {id : Uuid} {request : RoleRequest} {missing : RoleError}
    {event : RoleEvent} {entity : RoleEntity}
    (h : editRole ctx id request missing event w = (.ok entity, w')) :
    ∃ role role', permissionsOf w.state ctx.tenantCode id = role.permissions.rows ∧
      write ⟨request, ctx.userId⟩ (.load role.row) role = some role' ∧
      Mirrors entity role' ∧ RoleChange w.state w'.state role' := by
  obtain ⟨role, role', hrole, htenant, rfl, rfl, hwrite, hchange⟩ := editRole_ok h
  refine ⟨role, role', permissionsOf_eq hrole htenant, hwrite, ?_, hchange⟩
  have hrow := write_row hwrite
  refine ⟨?_, ?_, ?_, ?_, ?_, ?_⟩
  · rw [StoredRole.id, hrow]
    cases request <;> rfl
  · rw [hrow]
    rfl
  · rw [hrow]
    rfl
  · rw [hrow]
    rfl
  · rw [hrow]
    rfl
  · cases request <;> rfl

/-- New permissions leave none exactly when there are none and no protected one
    stays. -/
theorem write_permissions {call : RoleCall} {lockedRole : RoleEntity} {role role' : StoredRole}
    {permissions : List RolePermission}
    (hnew : newPermissions call.request lockedRole = some permissions)
    (h : write call lockedRole role = some role') :
    role'.permissions.rows = [] ↔
      permissions = [] ∧ ∀ p ∈ role.permissions.rows, p.isProtected = false := by
  simp only [write, hnew] at h
  obtain ⟨replaced, hreplaced, rfl⟩ := Option.map_eq_some_iff.mp h
  obtain ⟨table, htable, rfl⟩ := Option.map_eq_some_iff.mp hreplaced
  show table.rows = [] ↔ _
  rw [Keyed.insertAll_rows htable, List.append_eq_nil_iff, and_comm]
  refine and_congr_right fun _ => ?_
  simp only [StoredRole.deletePermissions, Keyed.deleteWhere, List.filter_eq_nil_iff,
    Bool.not_not, Bool.not_eq_true]

section Operations

variable {entity : RoleEntity} {counts : Option RoleCounts} {id newId sourceRoleId : Uuid}

theorem createCustom_commits {dto : CreateCustomRoleDto}
    (h : createCustom ctx newId dto w = (.ok (.role entity counts), w')) :
    ∃ role, Commits w.state w'.state role ∧
      (role.permissions.rows = [] ↔ dto.permissionCodes = []) := by
  simp only [createCustom, Faulty.bind_ok, Faulty.pure_ok] at h
  obtain ⟨u, w₁, hcheck, v, w₂, hname, created, w₃, hinsert, x, w₄, hsync, -, rfl⟩ := h
  obtain ⟨-, rfl⟩ := orThrow_ok hcheck
  obtain ⟨rfl, role, hrow, hpermissions, hchange⟩ := insertRole_ok hinsert
  rw [validateRoleName_ok hname] at hchange
  refine ⟨role, commits_of_sync hchange (hrow ▸ mirrors_load role) hsync, ?_⟩
  rw [hpermissions, unprotected, List.map_eq_nil_iff]

theorem copy_commits {dto : CopyRoleDto}
    (h : copy ctx newId sourceRoleId dto w = (.ok (.role entity counts), w')) :
    ∃ role, Commits w.state w'.state role ∧
      (role.permissions.rows = [] ↔ permissionsOf w.state ctx.tenantCode sourceRoleId = []) := by
  simp only [copy, Faulty.bind_ok, Faulty.pure_ok] at h
  obtain ⟨source, w₁, hfind, v, w₂, hname, cloned, w₃, hinsert, x, w₄, hsync, -, rfl⟩ := h
  obtain ⟨hstate, hsource, htenant, rfl⟩ := findRequired_ok hfind
  obtain ⟨rfl, role, hrow, hpermissions, hchange⟩ := insertRole_ok hinsert
  rw [validateRoleName_ok hname, hstate] at hchange
  refine ⟨role, commits_of_sync hchange (hrow ▸ mirrors_load role) hsync, ?_⟩
  rw [hpermissions, unprotected, List.map_eq_nil_iff, List.map_eq_nil_iff,
    permissionsOf_eq hsource htenant]

/-- The part of an edit from its transaction on. -/
theorem edit_commits {request : RoleRequest} {missing : RoleError} {event : RoleEvent}
    {updated : RoleEntity} {w₁ w₂ : World RoleStore RoleError} {u : Unit}
    (hstate : w₁.state = w.state)
    (hedit : editRole ctx id request missing event w₁ = (.ok updated, w₂))
    (hsync : syncRole updated w₂ = (.ok u, w')) :
    ∃ role role', permissionsOf w.state ctx.tenantCode id = role.permissions.rows ∧
      write ⟨request, ctx.userId⟩ (.load role.row) role = some role' ∧
      Commits w.state w'.state role' := by
  obtain ⟨role, role', hpermissions, hwrite, hmirrors, hchange⟩ := editRole_mirrors hedit
  rw [hstate] at hpermissions hchange
  exact ⟨role, role', hpermissions, hwrite, commits_of_sync hchange hmirrors hsync⟩

theorem updateCustom_commits {dto : UpdateCustomRoleDto}
    (h : updateCustom ctx id dto w = (.ok (.role entity counts), w')) :
    ∃ role, Commits w.state w'.state role ∧ (role.permissions.rows = [] ↔
      dto.permissionCodes = [] ∧
        ∀ p ∈ permissionsOf w.state ctx.tenantCode id, p.isProtected = false) := by
  simp only [updateCustom, Faulty.bind_ok] at h
  obtain ⟨found, w₁, hfind, u, w₂, hrole, owner, w₃, howner, v, w₄, hname, x, w₅, hset, counted,
    w₆, hcount, hrest⟩ := h
  have howned : w₃.state = w₂.state := by
    unfold newNameOwner at howner
    split at howner
    · exact findByName_ok howner
    · rw [(Faulty.pure_ok.mp howner).2]
  have hstate : w₆.state = w.state := by
    rw [countAssignedUserGroupAndUser_ok hcount, (orThrow_ok hset).2, (orThrow_ok hname).2,
      howned, (orThrow_ok hrole).2, (findRequired_ok hfind).1]
  split at hrest
  · cases (Faulty.pure_ok.mp hrest).1
  · simp only [Faulty.bind_ok, Faulty.pure_ok] at hrest
    obtain ⟨updated, w₇, hedit, y, w₈, hsync, -, rfl⟩ := hrest
    obtain ⟨role, role', hpermissions, hwrite, hcommits⟩ := edit_commits hstate hedit hsync
    refine ⟨role', hcommits, ?_⟩
    rw [hpermissions, write_permissions rfl hwrite, List.map_eq_nil_iff]

theorem updatePermissions_commits {dto : UpdateRolePermissionsDto}
    (h : updatePermissions ctx id dto w = (.ok (.role entity counts), w')) :
    ∃ role, Commits w.state w'.state role ∧ (role.permissions.rows = [] ↔
      dto.permissionCodes = [] ∧
        ∀ p ∈ permissionsOf w.state ctx.tenantCode id, p.isProtected = false) := by
  simp only [updatePermissions, Faulty.bind_ok] at h
  obtain ⟨found, w₁, hfind, u, w₂, hrole, x, w₃, hset, counted, w₄, hcount, hrest⟩ := h
  obtain ⟨-, rfl⟩ := orThrow_ok hrole
  obtain ⟨-, rfl⟩ := orThrow_ok hset
  have hstate : w₄.state = w.state := by
    rw [count_ok hcount, (findRequired_ok hfind).1]
  split at hrest
  · cases (Faulty.pure_ok.mp hrest).1
  · simp only [Faulty.bind_ok, Faulty.pure_ok] at hrest
    obtain ⟨updated, w₅, hedit, y, w₆, hsync, groups, w₇, hgroups, -, rfl⟩ := hrest
    obtain ⟨role, role', hpermissions, hwrite, hcommits⟩ := edit_commits hstate hedit hsync
    refine ⟨role', ?_, ?_⟩
    · rw [count_ok hgroups]
      exact hcommits
    · rw [hpermissions, write_permissions rfl hwrite, List.map_eq_nil_iff]

theorem deactivate_commits {dto : DeactivateRoleDto}
    (h : deactivate ctx id dto w = (.ok (.role entity counts), w')) :
    ∃ role, Commits w.state w'.state role ∧
      (role.permissions.rows = [] ↔ permissionsOf w.state ctx.tenantCode id = []) := by
  obtain ⟨w₁, w₂, event, u, hstate, hedit, hsync⟩ := deactivate_ok h
  obtain ⟨role, role', hpermissions, hwrite, hcommits⟩ := edit_commits hstate hedit hsync
  obtain rfl := Option.some.inj hwrite
  exact ⟨_, hcommits, by rw [hpermissions]⟩

/-- A save of the role as read under the lock. -/
theorem saveLocked_commits {role : StoredRole} {saved : RoleEntity} {event : RoleEvent}
    {w₁ w₂ w₃ : World RoleStore RoleError} {u v x : Unit} (hrole : role ∈ w.state.roles.rows)
    (hid : saved.id = role.id) (hnone : saved.permissions = none)
    (hsave : save saved w = (.ok u, w₁))
    (houtbox : OutboxEventRepository.save event w₁ = (.ok v, w₂))
    (hsync : syncRole saved w₂ = (.ok x, w₃)) :
    Commits w.state w₃.state ⟨saved.save role.row, role.permissions⟩ := by
  have hsaved := outbox_ok (save_ok hrole hid hsave) houtbox
  exact commits_of_sync hsaved ⟨hid, rfl, rfl, rfl, rfl, hnone⟩ hsync

theorem reactivate_commits (h : reactivate ctx id w = (.ok (.role entity counts), w')) :
    ∃ role, Commits w.state w'.state role ∧
      (role.permissions.rows = [] ↔ permissionsOf w.state ctx.tenantCode id = []) := by
  simp only [reactivate, runInTransaction_ok, Faulty.bind_ok, Faulty.pure_ok] at h
  obtain ⟨found, w₁, hfind, saved, w₂, ⟨locked, w₃, hlock, u, w₄, hsave, v, w₅, houtbox, rfl, rfl⟩,
    x, w₆, hsync, counted, w₇, hcount, -, rfl⟩ := h
  obtain ⟨hstate, hlocked, htenant, rfl⟩ := findRequired_ok hlock
  rw [(findRequired_ok hfind).1] at hstate hlocked
  rw [← hstate] at hlocked
  have hcommits := saveLocked_commits hlocked rfl rfl hsave houtbox hsync
  rw [hstate] at hcommits hlocked
  refine ⟨⟨(reactivated ctx (.load locked.row)).save locked.row, locked.permissions⟩, ?_, ?_⟩
  · rw [countAssignedUserGroupAndUser_ok hcount]
    exact hcommits
  · rw [permissionsOf_eq hlocked htenant]

theorem rename_commits {dto : RenameRoleDto}
    (h : rename ctx id dto w = (.ok (.role entity counts), w')) :
    ∃ role, Commits w.state w'.state role ∧
      (role.permissions.rows = [] ↔ permissionsOf w.state ctx.tenantCode id = []) := by
  simp only [rename, runInTransaction_ok, Faulty.bind_ok, Faulty.pure_ok] at h
  obtain ⟨saved, w₁, ⟨locked, w₂, hlock, hbody⟩, x, w₃, hsync, -, rfl⟩ := h
  obtain ⟨hstate, hlocked, htenant, rfl⟩ := findRequired_ok hlock
  split at hbody
  · -- the name stays: the role is cached again as it was read
    obtain ⟨rfl, rfl⟩ := Faulty.pure_ok.mp hbody
    refine ⟨locked, ?_, by rw [permissionsOf_eq hlocked htenant]⟩
    rw [← hstate] at hlocked ⊢
    exact commits_of_sync (.same hlocked) (mirrors_load locked) hsync
  · simp only [Faulty.bind_ok, Faulty.pure_ok] at hbody
    obtain ⟨u, w₄, hname, v, w₅, hsave, y, w₆, houtbox, rfl, rfl⟩ := hbody
    have hstate' : w₄.state = w.state := (validateRoleName_ok hname).trans hstate
    have hcommits := saveLocked_commits (hstate' ▸ hlocked) rfl rfl hsave houtbox hsync
    rw [hstate'] at hcommits
    exact ⟨_, hcommits, by rw [permissionsOf_eq hlocked htenant]⟩

end Operations

-- ============================================================================
-- Runs
-- ============================================================================

variable {graph : PermissionDependencyGraph}

theorem coherent_iff_unpermitted {s t : RoleStore} {x : RoleExecution} (hs : RolesCoherent s)
    (h : (roleOperations graph).step s x = some t) : CoherentAfter s x t ↔ Unpermitted s x t := by
  obtain ⟨tenantCode, userId, operation, faults⟩ := x
  simp only [roleOperations] at h
  split at h
  next entity counts w' hrun =>
    obtain rfl := Option.some.inj h
    suffices hcommits : ∃ role, Commits s w'.state role ∧ (role.permissions.rows = [] ↔
        Unpermitted s ⟨tenantCode, userId, operation, faults⟩ w'.state) by
      obtain ⟨role, hrole, hiff⟩ := hcommits
      exact (coherent_iff_of_commits hs hrole).trans hiff
    cases operation with
    | createCustom newId dto => exact createCustom_commits hrun
    | copy newId sourceRoleId dto => exact copy_commits hrun
    | updateCustom id dto => exact updateCustom_commits hrun
    | updatePermissions id dto => exact updatePermissions_commits hrun
    | deactivate id dto => exact deactivate_commits hrun
    | reactivate id => exact reactivate_commits hrun
    | rename id dto => exact rename_commits hrun
  · cases h

/-- In any run of role operations, the cache is in line with the tables after each of
    them exactly when each leaves its role without permissions. -/
theorem role_cache_coherent_iff {s t : RoleStore} {steps : List RoleExecution}
    (hs : RolesCoherent s) (h : (roleOperations graph).execute s steps = some t) :
    (roleOperations graph).Along CoherentAfter s steps ↔
      (roleOperations graph).Along Unpermitted s steps :=
  System.along_iff (I := RolesCoherent) (fun _ _ _ hs h => coherent_iff_unpermitted hs h)
    (fun _ _ _ hs h hunpermitted => (coherent_iff_unpermitted hs h).mpr hunpermitted) hs h

-- ============================================================================
-- A run
-- ============================================================================

/-- One role with the permissions, and an empty cache. -/
def storeWith (permissions : Keyed RolePermission RolePermission.permissionCode) : RoleStore where
  base := { db := sampleDatabase false .empty }
  roles := ⟨[⟨{ id := sampleRoleId, tenantCode := "acme", name := "Reviewer" }, permissions⟩],
    List.nodup_singleton _⟩

theorem storeWith_coherent (permissions : Keyed RolePermission RolePermission.permissionCode) :
    RolesCoherent (storeWith permissions) :=
  fun _ _ _ h => nomatch h

def noDependencies : PermissionDependencyGraph := ⟨.empty⟩

def deactivateAndReactivate : List RoleExecution :=
  [⟨"acme", none, .deactivate sampleRoleId { confirmed := some true, version := some 1 }, []⟩,
    ⟨"acme", none, .reactivate sampleRoleId, []⟩]

theorem role_cache_coherent_iff_sample :
    ∃ t, (roleOperations noDependencies).execute (storeWith .empty) deactivateAndReactivate =
        some t ∧
      ((roleOperations noDependencies).Along CoherentAfter (storeWith .empty)
          deactivateAndReactivate ↔
        (roleOperations noDependencies).Along Unpermitted (storeWith .empty)
          deactivateAndReactivate) := by
  have hruns : ((roleOperations noDependencies).execute (storeWith .empty)
      deactivateAndReactivate).isSome = true := by
    decide +kernel
  obtain ⟨t, ht⟩ := Option.isSome_iff_exists.mp hruns
  exact ⟨t, ht, role_cache_coherent_iff (storeWith_coherent .empty) ht⟩

def oneLeavePermission : Keyed RolePermission RolePermission.permissionCode :=
  ⟨[⟨"leave.view", false⟩], List.nodup_singleton _⟩

def renameReviewer : List RoleExecution :=
  [⟨"acme", none, .rename sampleRoleId { name := "Auditor" }, []⟩]

/-- A new name caches the role without its permission. -/
theorem not_role_cache_coherent :
    ¬∀ (graph : PermissionDependencyGraph) (s t : RoleStore) (steps : List RoleExecution),
      RolesCoherent s → (roleOperations graph).execute s steps = some t →
        (roleOperations graph).Along CoherentAfter s steps := by
  intro hclaim
  have hruns : ((roleOperations noDependencies).execute (storeWith oneLeavePermission)
      renameReviewer).isSome = true := by
    decide +kernel
  obtain ⟨t, ht⟩ := Option.isSome_iff_exists.mp hruns
  have hcoherent := storeWith_coherent oneLeavePermission
  obtain ⟨u, hu, -⟩ := System.execute_cons.mp ht
  have hafter := (hclaim noDependencies _ t _ hcoherent ht u hu).1
  have hnone : permissionsOf (storeWith oneLeavePermission) "acme" sampleRoleId = [] :=
    (coherent_iff_unpermitted hcoherent hu).mp hafter
  exact absurd hnone (by decide)

end AccessService.Roles
