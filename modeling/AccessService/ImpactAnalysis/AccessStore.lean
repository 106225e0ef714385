/-
  AccessService.ImpactAnalysis.AccessStore

  The store that the changes of groups and of roles share, and the seven changes that an
  administrator may have to confirm: four of a user group (`user-group-lifecycle.service.ts`,
  `user-group-role-assignment.service.ts`, `user-group-scope.service.ts`) and three of a role
  (`role.application.service.ts`), each run alone and with no call that fails.
-/

import AccessService.Roles.RoleApplicationService
import AccessService.UserGroups.GroupAdministration

namespace AccessService.ImpactAnalysis

open AccessService.Js AccessService.Lib AccessService.Permissions AccessService.Pg
open AccessService.Persistence
open AccessService.Roles (CachedRoleData DeactivateRoleDto RoleContext RoleError RoleEvent
  RoleOutcome RoleService RoleStore StoredRole UpdateCustomRoleDto UpdateRolePermissionsDto)
open AccessService.UserGroups
open AccessService.UserGroups.Administration
open AccessService.UserGroups.UserGroupMatchingEngine (ColumnTypes)

-- ============================================================================
-- Store
-- ============================================================================

/-- `base` has groups, roles, assignments and memberships of its own, which nothing reads. -/
structure AccessStore where
  administration : GroupStore
  base : Store
  cachedRoles : UserKey → Option CachedRoleData := fun _ => none
  roleEvents : List RoleEvent := []
  /-- The UserGroupDeactivated events. -/
  deactivatedGroups : List EventAudit := []

/-- What a request runs with, and the column types of the matching queries. -/
structure AccessContext extends RoleContext where
  columns : ColumnTypes

def AccessContext.groupContext (ctx : AccessContext) : GroupContext where
  tenantCode := ctx.tenantCode
  userId := ctx.userId

namespace AccessStore

def assignments (s : AccessStore) : Keyed UserGroupRole id where
  rows := s.administration.tables.groupRoles.rows.map Prod.snd
  nodup := by
    rw [List.map_id]
    exact s.administration.constraints.uq_user_group_roles_tenant_group_role

/-- What the authorization services see. -/
def database (s : AccessStore) : Database :=
  { s.base.db with
    groups := s.administration.tables.groups.mapRows UserGroupRow.toUserGroup fun _ => rfl
    roles := s.administration.tables.roles.mapRows (fun role => role.row.toRole) fun _ => rfl
    groupRoles := s.assignments
    memberships := s.administration.tables.memberships }

/-- What the role service sees. -/
def roleStore (s : AccessStore) : RoleStore where
  base := { s.base with db := s.database }
  roles := s.administration.tables.roles
  cachedRoles := s.cachedRoles
  events := s.roleEvents

/-- What the role service has written, within the constraints. -/
def withRoles (s : AccessStore) (r : RoleStore) : Except UserGroupError AccessStore :=
  (s.administration.write { s.administration.tables with roles := r.roles }).map fun written =>
    { s with
      administration := written
      cachedRoles := r.cachedRoles
      roleEvents := r.events }

end AccessStore

-- ============================================================================
-- Deactivation of a group
-- ============================================================================

namespace UserGroupLifecycleService

def deactivate (ctx : GroupContext) (s : AccessStore) (id : Uuid) (expectedVersion : Int)
    (confirmed : Bool) : Except UserGroupError (UserGroupEntity × AccessStore) := do
  let existing ← s.administration.findRequired ctx.tenantCode id
  checkVersion existing expectedVersion
  checkImpact { memberCount := s.administration.countByGroup ctx.tenantCode id } confirmed
  let change ← UserGroups.UserGroupLifecycleService.deactivate ctx.userId existing
  let administration ← s.administration.writeChange ctx.tenantCode change
  .ok (change.entity, { s with
    administration := administration.publish [ctx.syncEvent change.entity false]
    deactivatedGroups := s.deactivatedGroups ++ [ctx.audit change.entity] })

end UserGroupLifecycleService

-- ============================================================================
-- Mutations
-- ============================================================================

inductive Mutation where
  | updateById (id : Uuid) (dto : UpdateUserGroupDto) (expectedVersion : Int)
  | deactivate (id : Uuid) (expectedVersion : Int) (confirmed : Bool)
  | updateRoleAssignments (userGroupId : Uuid) (dto : UpdateUserGroupRolesDto)
  | updateScope (id : Uuid) (dto : UpdateUserGroupScopeDto)
  | updateCustom (id : Uuid) (dto : UpdateCustomRoleDto)
  | updatePermissions (id : Uuid) (dto : UpdateRolePermissionsDto)
  | deactivateRole (id : Uuid) (dto : DeactivateRoleDto)
  deriving DecidableEq

/-- How a mutation ends.  A required row that is missing counts as a query that fails. -/
inductive Verdict where
  | persisted
  | confirmationRequired
  | rejected
  | queryFailed
  deriving DecidableEq

def groupVerdict : UserGroupError → Verdict
  | .highImpactConfirmationRequired _ _ _ => .confirmationRequired
  | .queryFailed => .queryFailed
  | _ => .rejected

def roleVerdict : Except RoleError RoleOutcome → Verdict
  | .ok (.role _ _) => .persisted
  | .ok (.confirmationRequired _) => .confirmationRequired
  | .error .entityNotFound => .queryFailed
  | .error .queryFailed => .queryFailed
  | .error _ => .rejected

namespace AccessStore

def ended {α : Type} (s : AccessStore) : Except UserGroupError (α × AccessStore) →
    Verdict × AccessStore
  | .ok (_, s') => (.persisted, s')
  | .error e => (groupVerdict e, s)

/-- What the administration of groups runs, in the whole store. -/
def inStore {α : Type} (s : AccessStore) (run : Except UserGroupError (α × GroupStore)) :
    Except UserGroupError (α × AccessStore) :=
  run.map fun r => (r.1, { s with administration := r.2 })

def runRole (s : AccessStore) (run : RoleService RoleOutcome) : Verdict × AccessStore :=
  let (result, w) := run (.calm s.roleStore)
  match s.withRoles w.state with
  | .ok s' => (roleVerdict result, s')
  | .error _ => (.queryFailed, s)

end AccessStore

namespace Mutation

def confirmed : Mutation → Bool
  | updateById _ dto _ => dto.confirmed = some true
  | deactivate _ _ confirmed => confirmed
  | updateRoleAssignments _ dto => dto.confirmed = some true
  | updateScope _ dto => dto.confirmed = some true
  | updateCustom _ dto => dto.confirmed = some true
  | updatePermissions _ dto => dto.confirmed = some true
  | deactivateRole _ dto => dto.confirmed = some true

def run (ctx : AccessContext) (s : AccessStore) : Mutation → Verdict × AccessStore
  | updateById id dto expectedVersion =>
    s.ended (s.inStore (Administration.UserGroupLifecycleService.updateById ctx.groupContext
      s.administration id dto expectedVersion))
  | deactivate id expectedVersion confirmed =>
    s.ended (UserGroupLifecycleService.deactivate ctx.groupContext s id expectedVersion confirmed)
  | updateRoleAssignments userGroupId dto =>
    s.ended (s.inStore (Administration.UserGroupRoleAssignmentService.updateRoleAssignments
      ctx.groupContext s.administration userGroupId dto))
  | updateScope id dto =>
    s.ended (s.inStore (Administration.UserGroupScopeService.updateScope ctx.groupContext
      s.administration id dto))
  | updateCustom id dto =>
    s.runRole (Roles.RoleApplicationService.updateCustom ctx.toRoleContext id dto)
  | updatePermissions id dto =>
    s.runRole (Roles.RoleApplicationService.updatePermissions ctx.toRoleContext id dto)
  | deactivateRole id dto =>
    s.runRole (Roles.RoleApplicationService.deactivate ctx.toRoleContext id dto)

end Mutation

-- ============================================================================
-- Writing back
-- ============================================================================

namespace AccessStore

variable {s s' : AccessStore} {r : RoleStore}

theorem withRoles_ok (h : s.withRoles r = .ok s') :
    s'.administration.tables = { s.administration.tables with roles := r.roles } ∧
      s'.base = s.base := by
  obtain ⟨written, hwrite, rfl⟩ := Sql.map_eq_ok.mp h
  unfold GroupStore.write at hwrite
  split at hwrite
  · cases hwrite
    exact ⟨rfl, rfl⟩
  · cases hwrite

/-- What was seen is written back as it is. -/
theorem withRoles_same : s.withRoles s.roleStore = .ok s := by
  have hwrite : s.administration.write { s.administration.tables with
      roles := s.roleStore.roles } = .ok s.administration := dif_pos s.administration.constraints
  rw [withRoles, hwrite]
  rfl

end AccessStore

end AccessService.ImpactAnalysis
