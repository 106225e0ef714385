/-
  AccessService.ImpactAnalysis.GroupMutations

  The four changes of a group: the checks that let a request through, the group it asks for,
  and that a request that gets through and whose queries do not fail leaves just that group.
-/

import AccessService.ImpactAnalysis.GroupImpact
import AccessService.UserGroups.RequestedRoles
import AccessService.UserGroups.RoleReplacement

namespace AccessService.ImpactAnalysis

open AccessService.Js AccessService.Lib AccessService.Pg AccessService.Persistence
open AccessService.UserGroups AccessService.UserGroups.Administration
open AccessService.UserGroups.Administration.GroupStore
open AccessService.UserGroups.UserGroupMatchingEngine

variable {ctx : GroupContext} {s : AccessStore} {id : Uuid} {row : UserGroupRow}

-- ============================================================================
-- From the transaction on
-- ============================================================================

/-- The request has come to the transaction of the change, and then publishes its events. -/
structure Writes {α : Type} (ctx : GroupContext) (s : AccessStore) (change : Change)
    (run : Except UserGroupError (α × AccessStore)) : Prop where
  written : ∀ s₁, s.administration.writeChange ctx.tenantCode change = .ok s₁ →
    ∃ a s', run = .ok (a, s') ∧ s'.administration.tables = s₁.tables ∧ s'.base = s.base
  failed : ∀ e, s.administration.writeChange ctx.tenantCode change = .error e → run = .error e

theorem Writes.inStore {α : Type} {change : Change} {run : Except UserGroupError (α × GroupStore)}
    (hwritten : ∀ s₁, s.administration.writeChange ctx.tenantCode change = .ok s₁ →
      ∃ a s₂, run = .ok (a, s₂) ∧ s₂.tables = s₁.tables)
    (hfailed : ∀ e, s.administration.writeChange ctx.tenantCode change = .error e →
      run = .error e) : Writes ctx s change (s.inStore run) := by
  refine ⟨fun s₁ hok => ?_, fun e herror => ?_⟩
  · obtain ⟨a, s₂, hrun, htables⟩ := hwritten s₁ hok
    exact ⟨a, { s with administration := s₂ }, by rw [hrun]; rfl, htables, rfl⟩
  · rw [hfailed e herror]
    rfl

/-- What a written change leaves is an edit of the group. -/
theorem groupEdit_of_writeChange {change : Change} {s' : AccessStore} {s₁ : GroupStore}
    (hrow : s.administration.group ctx.tenantCode id = some row) (hid : change.entity.id = id)
    (htenant : change.entity.tenantCode = ctx.tenantCode)
    (h : s.administration.writeChange ctx.tenantCode change = .ok s₁)
    (htables : s'.administration.tables = s₁.tables) (hbase : s'.base = s.base) :
    GroupEdit s s' row ⟨(change.entity.save row).toUserGroup,
      {roleId | (roleId ∈ s.rolesOf row.tenantCode row.id ∧ roleId ∉ change.removedRoleIds) ∨
        roleId ∈ change.addedRoleIds}⟩ := by
  obtain ⟨hmem, hrowTenant, hrowId⟩ := group_eq_some.mp hrow
  obtain ⟨hedit, hgroup, -⟩ := writeChange_ok hrow hid htenant h
  refine ⟨hmem, ⟨change.entity.save row, ?_, rfl⟩, rfl, htenant.trans hrowTenant.symm, ?_, ?_, ?_,
    ?_, hbase⟩
  · rw [htables]
    exact (group_eq_some.mp hgroup).1
  · intro g hg
    rw [htables]
    exact hedit.groups g (hrowId ▸ hg)
  · intro tenantCode groupId
    ext roleId
    show (⟨tenantCode, groupId, roleId⟩ : UserGroupRole) ∈
      s'.administration.tables.groupRoles.rows.map Prod.snd ↔ _
    rw [htables, writeChange_assignments h, hrowTenant, hrowId, hid]
    by_cases hkey : tenantCode = ctx.tenantCode ∧ groupId = id
    · obtain ⟨rfl, rfl⟩ := hkey
      rw [if_pos ⟨rfl, rfl⟩, if_pos ⟨rfl, rfl⟩]
      exact Iff.rfl
    · rw [if_neg hkey, if_neg hkey]
      exact Iff.rfl
  · rw [htables]
    exact hedit.roles
  · rw [htables]
    exact hedit.memberships

/-- The request gets through to a transaction that makes the group what is asked for. -/
structure Makes {α : Type} (ctx : GroupContext) (s : AccessStore) (id : Uuid) (row : UserGroupRow)
    (asked : GroupConfiguration) (run : Except UserGroupError (α × AccessStore)) : Prop where
  found : s.administration.group ctx.tenantCode id = some row
  writes : ∃ change : Change, change.entity.id = id ∧
    change.entity.tenantCode = ctx.tenantCode ∧ Writes ctx s change run ∧
    GroupConfiguration.Same ⟨(change.entity.save row).toUserGroup,
      {roleId | (roleId ∈ s.rolesOf row.tenantCode row.id ∧ roleId ∉ change.removedRoleIds) ∨
        roleId ∈ change.addedRoleIds}⟩ asked

/-- Such a request is persisted unless a query fails, and whom it affects can be told from
    the group that is stored and the one asked for. -/
theorem Makes.persisted {α : Type} {asked : GroupConfiguration} {types : ColumnTypes}
    {run : Except UserGroupError (α × AccessStore)} (h : Makes ctx s id row asked run)
    (hquery : (s.ended run).1 ≠ .queryFailed) :
    (s.ended run).1 = .persisted ∧ AccessStore.affected types s (s.ended run).2 =
      (s.configurationOf row.toUserGroup).reach types s.database asked := by
  obtain ⟨change, hid, htenant, hwrites, hsame⟩ := h.writes
  rcases hwrite : s.administration.writeChange ctx.tenantCode change with e | s₁
  · obtain rfl := writeChange_error hwrite
    rw [hwrites.failed _ hwrite] at hquery
    exact absurd rfl hquery
  · obtain ⟨a, s', hrun, htables, hbase⟩ := hwrites.written _ hwrite
    rw [hrun]
    have hedit := groupEdit_of_writeChange h.found hid htenant hwrite htables hbase
    exact ⟨rfl, hedit.affected.trans hsame.reach⟩

/-- An unpersisted request leaves the store as it is. -/
theorem ended_store {α : Type} {run : Except UserGroupError (α × AccessStore)}
    (h : (s.ended run).1 ≠ .persisted) : (s.ended run).2 = s := by
  rcases run with e | ⟨a, s'⟩
  · rfl
  · exact absurd rfl h

theorem ended_persisted {α : Type} {run : Except UserGroupError (α × AccessStore)}
    (h : (s.ended run).1 = .persisted) : ∃ a s', run = .ok (a, s') := by
  rcases run with e | ⟨a, s'⟩
  · cases e <;> cases h
  · exact ⟨a, s', rfl⟩

-- ============================================================================
-- updateById
-- ============================================================================

namespace GroupConfiguration

/-- A reference that is not given is not written. -/
def afterUpdate (row : UserGroupRow) (dto : UpdateUserGroupDto) : GroupConfiguration where
  group := { row.toUserGroup with
    scopeType := dto.scopeType
    scopeRefId := (dto.scopeRefId.map trim).or row.scopeRefId
    matchingRule := some dto.matchingRule }
  roles := {roleId | roleId ∈ dto.roleIds.getD []}

end GroupConfiguration

theorem write_ofOptional {α : Type} (a old : Option α) :
    (Column.ofOptional a).write old = a.or old := by
  cases a <;> rfl

theorem mem_assigned (hrow : s.administration.group ctx.tenantCode id = some row)
    (roleId : Uuid) :
    roleId ∈ s.administration.assignedRoleIds ctx.tenantCode id ↔
      roleId ∈ s.rolesOf row.tenantCode row.id := by
  obtain ⟨-, htenant, hid⟩ := group_eq_some.mp hrow
  rw [mem_assignedRoleIds, htenant, hid]
  exact AccessStore.mem_assignments.symm

theorem updateById_makes {dto : UpdateUserGroupDto} {expectedVersion : Int}
    (h : PassesUpdate ctx s.administration id dto expectedVersion row) :
    Makes ctx s id row (.afterUpdate row dto)
      (s.inStore (Administration.UserGroupLifecycleService.updateById ctx s.administration id dto
        expectedVersion)) := by
  obtain ⟨-, htenant, hid⟩ := group_eq_some.mp h.found
  obtain ⟨keys, hrun⟩ := h.run_eq
  refine ⟨h.found, editChange ctx s.administration id dto row keys, hid, htenant, ?_, ?_⟩
  · refine .inStore (fun s₁ hok => ?_) fun e herror => ?_
    · rw [hrun, hok]
      exact ⟨_, _, rfl, rfl⟩
    · rw [hrun, herror]
      rfl
  · refine ⟨rfl, rfl, rfl, rfl, write_ofOptional _ _, rfl, ?_⟩
    ext roleId
    have hassigned := mem_assigned h.found roleId
    simp only [editChange, GroupConfiguration.afterUpdate, Set.mem_ofPred_eq, List.mem_filter,
      decide_eq_true_eq, hassigned]
    tauto

-- ============================================================================
-- deactivate
-- ============================================================================

/-- The checks of `deactivate`. -/
structure PassesDeactivation (ctx : GroupContext) (s : GroupStore) (id : Uuid)
    (expectedVersion : Int) (confirmed : Bool) (row : UserGroupRow) : Prop where
  found : s.group ctx.tenantCode id = some row
  version : checkVersion (.load row) expectedVersion = .ok ()
  confirmed : checkImpact { memberCount := s.countByGroup ctx.tenantCode id } confirmed = .ok ()
  active : row.status = .ACTIVE

def GroupConfiguration.afterDeactivation (s : AccessStore) (row : UserGroupRow) :
    GroupConfiguration where
  group := { row.toUserGroup with status := .INACTIVE }
  roles := s.rolesOf row.tenantCode row.id

theorem same_roles {row' : UserGroup} (hrow' : row' = row.toUserGroup) :
    {roleId | (roleId ∈ s.rolesOf row.tenantCode row.id ∧ roleId ∉ ([] : List Uuid)) ∨
      roleId ∈ ([] : List Uuid)} = s.rolesOf row'.tenantCode row'.id := by
  rw [hrow']
  ext roleId
  simp

theorem deactivate_makes {expectedVersion : Int} {confirmed : Bool}
    (h : PassesDeactivation ctx s.administration id expectedVersion confirmed row) :
    Makes ctx s id row (.afterDeactivation s row)
      (UserGroupLifecycleService.deactivate ctx s id expectedVersion confirmed) := by
  obtain ⟨-, htenant, hid⟩ := group_eq_some.mp h.found
  have hfind : s.administration.findRequired ctx.tenantCode id = .ok (.load row) :=
    findRequired_eq_ok.mpr ⟨row, h.found, rfl⟩
  have hstatus : (UserGroupAggregate.reconstruct (.load row) []).status ≠ .INACTIVE := by
    show row.status ≠ .INACTIVE
    rw [h.active]
    decide
  obtain ⟨change, hchange, hentity, hremoved, hadded⟩ : ∃ change,
      UserGroups.UserGroupLifecycleService.deactivate ctx.userId (.load row) = .ok change ∧
        change.entity = { UserGroupEntity.load row with
          status := .INACTIVE
          version := row.version + 1
          updatedBy := .ofOptional ctx.userId } ∧
        change.removedRoleIds = [] ∧ change.addedRoleIds = [] := by
    rw [UserGroups.UserGroupLifecycleService.deactivate, UserGroupAggregate.deactivate,
      if_neg hstatus]
    exact ⟨_, rfl, rfl, rfl, rfl⟩
  refine ⟨h.found, change, by rw [hentity]; exact hid, by rw [hentity]; exact htenant, ?_, ?_⟩
  · have hrun : UserGroupLifecycleService.deactivate ctx s id expectedVersion confirmed =
        (s.administration.writeChange ctx.tenantCode change >>= fun administration =>
          .ok (change.entity, { s with
            administration := administration.publish [ctx.syncEvent change.entity false]
            deactivatedGroups := s.deactivatedGroups ++ [ctx.audit change.entity] })) := by
      rw [UserGroupLifecycleService.deactivate, hfind]
      simp only [h.version, h.confirmed, hchange, bind, Except.bind]
    refine ⟨fun s₁ hok => ?_, fun e herror => ?_⟩
    · rw [hrun, hok]
      exact ⟨_, _, rfl, rfl, rfl⟩
    · rw [hrun, herror]
      rfl
  · rw [hentity, hremoved, hadded]
    refine ⟨rfl, rfl, rfl, rfl, Column.write_ofRow _ _, rfl, same_roles rfl⟩

theorem deactivate_passes {expectedVersion : Int} {confirmed : Bool}
    {r : UserGroupEntity × AccessStore}
    (h : UserGroupLifecycleService.deactivate ctx s id expectedVersion confirmed = .ok r) :
    ∃ row, PassesDeactivation ctx s.administration id expectedVersion confirmed row := by
  obtain ⟨existing, hfind, h⟩ := Sql.bind_eq_ok.mp h
  obtain ⟨u, hversion, h⟩ := Sql.bind_eq_ok.mp h
  obtain ⟨v, hconfirmed, h⟩ := Sql.bind_eq_ok.mp h
  obtain ⟨change, hchange, -⟩ := Sql.bind_eq_ok.mp h
  obtain ⟨row, hrow, rfl⟩ := findRequired_eq_ok.mp hfind
  refine ⟨row, hrow, hversion, hconfirmed, ?_⟩
  obtain ⟨aggregate, haggregate, -⟩ := Sql.bind_eq_ok.mp hchange
  unfold UserGroupAggregate.deactivate at haggregate
  split at haggregate
  · cases haggregate
  next hactive =>
    have hnot : row.status ≠ .INACTIVE := hactive
    cases hstatus : row.status with
    | ACTIVE => rfl
    | INACTIVE => exact absurd hstatus hnot

-- ============================================================================
-- updateRoleAssignments
-- ============================================================================

/-- The primary keys of the assignments are taken for the ids of the assigned roles. -/
def GroupConfiguration.afterAssignments (s : AccessStore) (row : UserGroupRow)
    (dto : UpdateUserGroupRolesDto) : GroupConfiguration where
  group := row.toUserGroup
  roles :=
    let rowKeys := s.administration.findRoleIdsByGroupId row.tenantCode row.id
    {roleId | (roleId ∈ s.rolesOf row.tenantCode row.id ∧
        ¬(roleId ∈ rowKeys ∧ roleId ∉ dto.roleIds)) ∨
      (roleId ∈ dto.roleIds ∧ roleId ∉ rowKeys)}

theorem updateRoleAssignments_makes {dto : UpdateUserGroupRolesDto}
    (h : AcceptedRoles ctx s.administration id dto row) :
    Makes ctx s id row (.afterAssignments s row dto)
      (s.inStore (Administration.UserGroupRoleAssignmentService.updateRoleAssignments ctx
        s.administration id dto)) := by
  obtain ⟨-, htenant, hid⟩ := group_eq_some.mp h.found
  refine ⟨h.found, roleChange ctx s.administration id dto row, hid, htenant, ?_, ?_⟩
  · refine .inStore (fun s₁ hok => ?_) fun e herror => ?_
    · obtain ⟨roles, hrun⟩ := updateRoleAssignments_eq_ok.mpr ⟨row, s₁, h, hok, rfl⟩
      exact ⟨roles, _, hrun, rfl⟩
    · have hfind : s.administration.findRequired ctx.tenantCode id = .ok (.load row) :=
        findRequired_eq_ok.mpr ⟨row, h.found, rfl⟩
      rw [Administration.UserGroupRoleAssignmentService.updateRoleAssignments, hfind]
      simp only [h.version, h.active, h.confirmed, bind, Except.bind]
      rw [show s.administration.writeChange ctx.tenantCode
        (UserGroups.UserGroupRoleAssignmentService.updateRoleAssignments dto ctx.userId (.load row)
          (s.administration.findRoleIdsByGroupId ctx.tenantCode id)) = .error e from herror]
  · refine ⟨rfl, rfl, rfl, rfl, Column.write_ofRow _ _, rfl, ?_⟩
    ext roleId
    simp only [GroupConfiguration.afterAssignments, Set.mem_ofPred_eq, mem_added, mem_removed,
      htenant, hid]

-- ============================================================================
-- updateScope
-- ============================================================================

/-- The checks of `updateScope`. -/
structure PassesScope (ctx : GroupContext) (s : GroupStore) (id : Uuid)
    (dto : UpdateUserGroupScopeDto) (row : UserGroupRow) (validated : ValidatedScopeResult) :
    Prop where
  found : s.group ctx.tenantCode id = some row
  version : checkVersion (.load row) dto.expectedVersion = .ok ()
  valid : UserGroupScopeValidator.validate dto.scopeType dto.scopeRefId = .ok validated
  confirmed : checkImpact { memberCount := s.countByGroup ctx.tenantCode id }
    (dto.confirmed = some true) = .ok ()

/-- A reference that the scope does not have is not written. -/
def GroupConfiguration.afterScope (s : AccessStore) (row : UserGroupRow)
    (validated : ValidatedScopeResult) : GroupConfiguration where
  group := { row.toUserGroup with
    scopeType := validated.scopeType
    scopeRefId := validated.scopeRefId.or row.scopeRefId }
  roles := s.rolesOf row.tenantCode row.id

theorem updateScope_makes {dto : UpdateUserGroupScopeDto} {validated : ValidatedScopeResult}
    (h : PassesScope ctx s.administration id dto row validated) :
    Makes ctx s id row (.afterScope s row validated)
      (s.inStore (Administration.UserGroupScopeService.updateScope ctx s.administration id
        dto)) := by
  obtain ⟨-, htenant, hid⟩ := group_eq_some.mp h.found
  have hfind : s.administration.findRequired ctx.tenantCode id = .ok (.load row) :=
    findRequired_eq_ok.mpr ⟨row, h.found, rfl⟩
  have hcheck : UserGroupScopeService.checkScopeImpact ctx s.administration id dto = .ok () := by
    rw [UserGroupScopeService.checkScopeImpact, hfind, h.valid]
    exact h.confirmed
  obtain ⟨change, hchange, hentity, hremoved, hadded⟩ : ∃ change,
      UserGroups.UserGroupScopeService.updateScope dto ctx.userId (.load row) = .ok change ∧
        change.entity = { UserGroupEntity.load row with
          scopeType := validated.scopeType
          scopeRefId := .ofOptional validated.scopeRefId
          version := row.version + 1
          updatedBy := .ofOptional ctx.userId } ∧
        change.removedRoleIds = [] ∧ change.addedRoleIds = [] := by
    rw [UserGroups.UserGroupScopeService.updateScope, UserGroupAggregate.updateScope, h.valid]
    exact ⟨_, rfl, rfl, rfl, rfl⟩
  refine ⟨h.found, change, by rw [hentity]; exact hid, by rw [hentity]; exact htenant, ?_, ?_⟩
  · refine .inStore (fun s₁ hok => ?_) fun e herror => ?_
    · rw [Administration.UserGroupScopeService.updateScope, hfind]
      simp only [h.version, hcheck, hchange, hok, bind, Except.bind]
      exact ⟨_, _, rfl, rfl⟩
    · rw [Administration.UserGroupScopeService.updateScope, hfind]
      simp only [h.version, hcheck, hchange, herror, bind, Except.bind]
  · rw [hentity, hremoved, hadded]
    refine ⟨rfl, rfl, rfl, rfl, write_ofOptional _ _, rfl, same_roles rfl⟩

theorem updateScope_passes {dto : UpdateUserGroupScopeDto} {r : UserGroupEntity × GroupStore}
    (h : Administration.UserGroupScopeService.updateScope ctx s.administration id dto = .ok r) :
    ∃ row validated, PassesScope ctx s.administration id dto row validated := by
  obtain ⟨existing, hfind, h⟩ := Sql.bind_eq_ok.mp h
  obtain ⟨u, hversion, h⟩ := Sql.bind_eq_ok.mp h
  obtain ⟨v, hcheck, -⟩ := Sql.bind_eq_ok.mp h
  obtain ⟨row, hrow, rfl⟩ := findRequired_eq_ok.mp hfind
  obtain ⟨-, -, hcheck⟩ := Sql.bind_eq_ok.mp hcheck
  obtain ⟨validated, hvalid, hconfirmed⟩ := Sql.bind_eq_ok.mp hcheck
  exact ⟨row, validated, hrow, hversion, hvalid, hconfirmed⟩

end AccessService.ImpactAnalysis
