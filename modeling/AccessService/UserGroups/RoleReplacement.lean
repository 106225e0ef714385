/-
  AccessService.UserGroups.RoleReplacement

  What `updateRoleAssignments` makes of the roles of a group.

  It takes the primary keys of the group's assignments for the ids of the assigned roles.
  The roles to add and to remove are worked out against those keys, so that what is asked
  for is stored and reported only where the two are the same.
-/

import AccessService.UserGroups.GroupAdministrationEffects

namespace AccessService.UserGroups.Administration

open AccessService.Js AccessService.Lib AccessService.Pg AccessService.Persistence
open AccessService.UserGroups.Administration.UserGroupRoleAssignmentService GroupStore

variable {ctx : GroupContext} {s s' : GroupStore} {id : Uuid} {dto : UpdateUserGroupRolesDto}
  {row : UserGroupRow} {roles : List AssignedRoleItemDto}

-- ============================================================================
-- A request that returns
-- ============================================================================

/-- The checks let the request through to its transaction. -/
structure AcceptedRoles (ctx : GroupContext) (s : GroupStore) (id : Uuid)
    (dto : UpdateUserGroupRolesDto) (row : UserGroupRow) : Prop where
  found : s.group ctx.tenantCode id = some row
  version : checkVersion (.load row) dto.expectedVersion = .ok ()
  active : checkRoles (setOf dto.roleIds)
    { activeRoleIds := s.findActiveRoles ctx.tenantCode (setOf dto.roleIds) } = .ok ()
  confirmed : checkConfirmed
    (UserGroupImpactService.estimateRoleAssignmentImpact ctx s id (setOf dto.roleIds))
      dto.confirmed = .ok ()

def roleChange (ctx : GroupContext) (s : GroupStore) (id : Uuid) (dto : UpdateUserGroupRolesDto)
    (row : UserGroupRow) : Change :=
  UserGroups.UserGroupRoleAssignmentService.updateRoleAssignments dto ctx.userId (.load row)
    (s.findRoleIdsByGroupId ctx.tenantCode id)

theorem addedRoleIds_eq : (roleChange ctx s id dto row).addedRoleIds =
    (setOf dto.roleIds).filter fun roleId =>
      roleId ∉ s.findRoleIdsByGroupId ctx.tenantCode id := by
  show (setOf (setOf dto.roleIds)).filter
    (fun roleId => roleId ∉ s.findRoleIdsByGroupId ctx.tenantCode id) = _
  rw [setOf_of_nodup (nodup_setOf _)]

theorem removedRoleIds_eq : (roleChange ctx s id dto row).removedRoleIds =
    (s.findRoleIdsByGroupId ctx.tenantCode id).filter fun key => key ∉ setOf dto.roleIds := by
  show (s.findRoleIdsByGroupId ctx.tenantCode id).filter
    (fun key => key ∉ setOf (setOf dto.roleIds)) = _
  rw [setOf_of_nodup (nodup_setOf _)]

theorem mem_added {roleId : Uuid} :
    roleId ∈ (roleChange ctx s id dto row).addedRoleIds ↔
      roleId ∈ dto.roleIds ∧ roleId ∉ s.findRoleIdsByGroupId ctx.tenantCode id := by
  rw [addedRoleIds_eq, List.mem_filter, mem_setOf, decide_eq_true_eq]

theorem mem_removed {roleId : Uuid} :
    roleId ∈ (roleChange ctx s id dto row).removedRoleIds ↔
      roleId ∈ s.findRoleIdsByGroupId ctx.tenantCode id ∧ roleId ∉ dto.roleIds := by
  rw [removedRoleIds_eq, List.mem_filter, decide_eq_true_eq, mem_setOf]

theorem getAssignedRoles_runs (hrow : s.group ctx.tenantCode id = some row) :
    ∃ roles, getAssignedRoles ctx s id = .ok roles := by
  have hfind : s.findRequired ctx.tenantCode id = .ok (.load row) :=
    findRequired_eq_ok.mpr ⟨row, hrow, rfl⟩
  rw [getAssignedRoles, hfind]
  exact ⟨_, rfl⟩

/-- A request that returns has passed the checks and written its change. -/
theorem updateRoleAssignments_eq_ok :
    (∃ roles, updateRoleAssignments ctx s id dto = .ok (roles, s')) ↔
      ∃ row s₁, AcceptedRoles ctx s id dto row ∧
        s.writeChange ctx.tenantCode (roleChange ctx s id dto row) = .ok s₁ ∧
        s' = s₁.publish (events ctx (setOf dto.roleIds) (s.findRoleIdsByGroupId ctx.tenantCode id)
          (roleChange ctx s id dto row)) := by
  constructor
  · rintro ⟨roles, h⟩
    obtain ⟨existing, hfind, h⟩ := Sql.bind_eq_ok.mp h
    obtain ⟨u, hversion, h⟩ := Sql.bind_eq_ok.mp h
    obtain ⟨v, hactive, h⟩ := Sql.bind_eq_ok.mp h
    obtain ⟨x, hconfirmed, h⟩ := Sql.bind_eq_ok.mp h
    obtain ⟨s₁, hwrite, h⟩ := Sql.bind_eq_ok.mp h
    obtain ⟨roles', -, hreturn⟩ := Sql.bind_eq_ok.mp h
    obtain ⟨row, hrow, rfl⟩ := findRequired_eq_ok.mp hfind
    exact ⟨row, s₁, ⟨hrow, hversion, hactive, hconfirmed⟩, hwrite,
      (Prod.mk.inj (Except.ok.inj hreturn)).2.symm⟩
  · rintro ⟨row, s₁, haccepted, hwrite, rfl⟩
    obtain ⟨-, hgroup, -⟩ := writeChange_ok haccepted.found
      (group_eq_some.mp haccepted.found).2.2 (group_eq_some.mp haccepted.found).2.1 hwrite
    obtain ⟨roles, hroles⟩ := getAssignedRoles_runs (s := s₁.publish (events ctx (setOf dto.roleIds)
      (s.findRoleIdsByGroupId ctx.tenantCode id) (roleChange ctx s id dto row))) hgroup
    refine ⟨roles, ?_⟩
    rw [updateRoleAssignments, findRequired_eq_ok.mpr ⟨row, haccepted.found, rfl⟩]
    refine Sql.bind_eq_ok.mpr ⟨_, rfl, Sql.bind_eq_ok.mpr ⟨_, haccepted.version, ?_⟩⟩
    refine Sql.bind_eq_ok.mpr ⟨_, haccepted.active, Sql.bind_eq_ok.mpr ⟨_, haccepted.confirmed, ?_⟩⟩
    refine Sql.bind_eq_ok.mpr ⟨s₁, hwrite, Sql.bind_eq_ok.mpr ⟨roles, hroles, rfl⟩⟩

-- ============================================================================
-- Events
-- ============================================================================

/-- What a request has published. -/
def published (s s' : GroupStore) : List UserGroupEvent := s'.outbox.drop s.outbox.length

/-- The roles that `RolesAssigned` events report as new. -/
def addedBy (events : List UserGroupEvent) : List Uuid :=
  events.flatMap fun
    | .rolesAssigned _ _ addedRoleIds _ => addedRoleIds
    | _ => []

/-- The roles that `RoleUnassigned` events report as removed. -/
def removedBy (events : List UserGroupEvent) : List Uuid :=
  events.flatMap fun
    | .roleUnassigned _ _ removedRoleIds _ => removedRoleIds
    | _ => []

/-- The urgency of the sync events. -/
def urgencies (events : List UserGroupEvent) : List Bool :=
  events.flatMap fun
    | .authorizationUpdated _ _ _ isUrgent => [isUrgent]
    | _ => []

theorem events_report (ctx : GroupContext) (targetRoleIds currentRoleIds : List Uuid)
    (change : Change) :
    addedBy (events ctx targetRoleIds currentRoleIds change) = change.addedRoleIds ∧
      removedBy (events ctx targetRoleIds currentRoleIds change) = change.removedRoleIds ∧
      urgencies (events ctx targetRoleIds currentRoleIds change) =
        [decide (change.removedRoleIds.length > 0)] := by
  have hnil : ∀ list : List Uuid, ¬list.length > 0 → list = [] := fun list h =>
    List.length_eq_zero_iff.mp (Nat.eq_zero_of_not_pos h)
  unfold events addedBy removedBy urgencies
  by_cases hadded : change.addedRoleIds.length > 0
  · by_cases hremoved : change.removedRoleIds.length > 0
    · simp [hadded, hremoved, GroupContext.syncEvent]
    · simp [hadded, hnil _ hremoved, GroupContext.syncEvent]
  · by_cases hremoved : change.removedRoleIds.length > 0
    · simp [hnil _ hadded, hremoved, GroupContext.syncEvent]
    · simp [hnil _ hadded, hnil _ hremoved, GroupContext.syncEvent]

-- ============================================================================
-- What a request has done
-- ============================================================================

/-- The state and the events after a request that returned. -/
structure Written (ctx : GroupContext) (s s' : GroupStore) (id : Uuid)
    (dto : UpdateUserGroupRolesDto) (row : UserGroupRow) : Prop where
  roles : s'.tables.roles = s.tables.roles
  rowKey : s'.tables.rowKey = s.tables.rowKey
  group : s'.group ctx.tenantCode id = some ((roleChange ctx s id dto row).entity.save row)
  rows : s'.findByGroup ctx.tenantCode id =
    ((s.findByGroup ctx.tenantCode id).filter fun r =>
      r.2.roleId ∉ (roleChange ctx s id dto row).removedRoleIds) ++
        s.newRows ctx.tenantCode id (roleChange ctx s id dto row).addedRoleIds
  publishes : published s s' = events ctx (setOf dto.roleIds)
    (s.findRoleIdsByGroupId ctx.tenantCode id) (roleChange ctx s id dto row)

theorem written (h : updateRoleAssignments ctx s id dto = .ok (roles, s')) :
    ∃ row, AcceptedRoles ctx s id dto row ∧ Written ctx s s' id dto row := by
  obtain ⟨row, s₁, haccepted, hwrite, rfl⟩ := updateRoleAssignments_eq_ok.mp ⟨roles, h⟩
  obtain ⟨-, htenant, hid⟩ := group_eq_some.mp haccepted.found
  obtain ⟨hedit, hgroup, hrows⟩ := writeChange_ok haccepted.found hid htenant hwrite
  refine ⟨row, haccepted, hedit.roles, hedit.rowKey, hgroup, hrows, ?_⟩
  rw [published, publish, hedit.outbox, List.drop_left]

theorem Written.assigned (h : Written ctx s s' id dto row) :
    s'.assignedRoleIds ctx.tenantCode id =
      ((s.assignedRoleIds ctx.tenantCode id).filter fun roleId =>
        roleId ∉ (roleChange ctx s id dto row).removedRoleIds) ++
          (roleChange ctx s id dto row).addedRoleIds :=
  assignedRoleIds_of_rows h.rows

-- ============================================================================
-- Replacement
-- ============================================================================

/-- The request once more, as its caller sends it. -/
def nextDto (dto : UpdateUserGroupRolesDto) : UpdateUserGroupRolesDto :=
  { dto with expectedVersion := dto.expectedVersion + 1 }

/-- The group has the roles asked for, each once, the events say what has changed, and the
    same request again, with the new version, changes nothing. -/
structure ReplacesRoles (ctx : GroupContext) (s s' : GroupStore) (id : Uuid)
    (dto : UpdateUserGroupRolesDto) : Prop where
  once : (s'.assignedRoleIds ctx.tenantCode id).Nodup
  stored : ∀ roleId, roleId ∈ s'.assignedRoleIds ctx.tenantCode id ↔ roleId ∈ dto.roleIds
  assigned : ∀ roleId, roleId ∈ addedBy (published s s') ↔
    roleId ∈ dto.roleIds ∧ roleId ∉ s.assignedRoleIds ctx.tenantCode id
  unassigned : ∀ roleId, roleId ∈ removedBy (published s s') ↔
    roleId ∈ s.assignedRoleIds ctx.tenantCode id ∧ roleId ∉ dto.roleIds
  urgent : urgencies (published s s') =
    [decide (∃ roleId ∈ s.assignedRoleIds ctx.tenantCode id, roleId ∉ dto.roleIds)]
  again : ∃ roles s'', updateRoleAssignments ctx s' id (nextDto dto) = .ok (roles, s'') ∧
    s''.findByGroup ctx.tenantCode id = s'.findByGroup ctx.tenantCode id ∧
    addedBy (published s' s'') = [] ∧ removedBy (published s' s'') = []

/-- The assignments of the roles asked for: those there are, and those to be inserted. -/
def targetRows (ctx : GroupContext) (s : GroupStore) (id : Uuid) (dto : UpdateUserGroupRolesDto) :
    List (RowId × UserGroupRole) :=
  ((s.findByGroup ctx.tenantCode id).filter fun r => r.2.roleId ∈ dto.roleIds) ++
    s.newRows ctx.tenantCode id
      ((setOf dto.roleIds).filter fun roleId => roleId ∉ s.assignedRoleIds ctx.tenantCode id)

/-- Primary keys are role ids, among the group's assignments and among those of the roles
    asked for. -/
structure KeyedByRole (ctx : GroupContext) (s : GroupStore) (id : Uuid)
    (dto : UpdateUserGroupRolesDto) : Prop where
  current : ∀ key, key ∈ s.findRoleIdsByGroupId ctx.tenantCode id ↔
    key ∈ s.assignedRoleIds ctx.tenantCode id
  target : ∀ key, key ∈ (targetRows ctx s id dto).map (fun r => s.tables.rowKey r.1) ↔
    key ∈ dto.roleIds

/-- Where the keys are role ids, the assignments after the request are those asked for. -/
theorem Written.rows_eq_target (h : Written ctx s s' id dto row)
    (hcurrent : ∀ key, key ∈ s.findRoleIdsByGroupId ctx.tenantCode id ↔
      key ∈ s.assignedRoleIds ctx.tenantCode id) :
    s'.findByGroup ctx.tenantCode id = targetRows ctx s id dto := by
  rw [h.rows, targetRows]
  refine congrArg₂ (· ++ ·) (List.filter_congr fun r hr => ?_)
    (congrArg (s.newRows ctx.tenantCode id) ?_)
  · have hassigned : r.2.roleId ∈ s.assignedRoleIds ctx.tenantCode id :=
      List.mem_map_of_mem (f := fun r : RowId × UserGroupRole => r.2.roleId) hr
    simp only [mem_removed, hcurrent, hassigned, true_and, not_not]
  · rw [addedRoleIds_eq]
    exact List.filter_congr fun roleId _ => by simp only [hcurrent]

/-- An assigned role whose id is no primary key would be left or inserted again. -/
theorem Written.current (h : Written ctx s s' id dto row)
    (hstored : ∀ roleId, roleId ∈ s'.assignedRoleIds ctx.tenantCode id ↔ roleId ∈ dto.roleIds)
    (key : Uuid) :
    key ∈ s.findRoleIdsByGroupId ctx.tenantCode id ↔
      key ∈ s.assignedRoleIds ctx.tenantCode id := by
  have hnodup : (s'.assignedRoleIds ctx.tenantCode id).Nodup := nodup_assignedRoleIds
  rw [h.assigned, List.nodup_append'] at hnodup
  have hsubset : s.assignedRoleIds ctx.tenantCode id ⊆
      s.findRoleIdsByGroupId ctx.tenantCode id := by
    intro roleId hassigned
    by_contra hkey
    have hkept : roleId ∈ (s.assignedRoleIds ctx.tenantCode id).filter fun roleId =>
        roleId ∉ (roleChange ctx s id dto row).removedRoleIds :=
      List.mem_filter.mpr ⟨hassigned, decide_eq_true fun hremoved => hkey (mem_removed.mp hremoved).1⟩
    have hasked : roleId ∈ dto.roleIds := by
      rw [← hstored, h.assigned]
      exact List.mem_append_left _ hkept
    exact hnodup.2.2 hkept (mem_added.mpr ⟨hasked, hkey⟩)
  have hlength : (s.findRoleIdsByGroupId ctx.tenantCode id).length ≤
      (s.assignedRoleIds ctx.tenantCode id).length := by
    rw [findRoleIdsByGroupId, assignedRoleIds, List.length_map, List.length_map]
  have hperm := (List.subperm_of_subset nodup_assignedRoleIds hsubset).perm_of_length_le hlength
  exact hperm.mem_iff.symm

/-- The primary keys after the request. -/
theorem Written.keys_eq_target (h : Written ctx s s' id dto row)
    (hcurrent : ∀ key, key ∈ s.findRoleIdsByGroupId ctx.tenantCode id ↔
      key ∈ s.assignedRoleIds ctx.tenantCode id) :
    s'.findRoleIdsByGroupId ctx.tenantCode id =
      (targetRows ctx s id dto).map fun r => s.tables.rowKey r.1 := by
  rw [findRoleIdsByGroupId, h.rows_eq_target hcurrent, h.rowKey]

theorem ReplacesRoles.keyedByRole (h : Written ctx s s' id dto row)
    (hreplaces : ReplacesRoles ctx s s' id dto) : KeyedByRole ctx s id dto := by
  have hcurrent := h.current hreplaces.stored
  refine ⟨hcurrent, fun key => ?_⟩
  rw [← h.keys_eq_target hcurrent]
  obtain ⟨roles', s'', hagain, -, hadded, hremoved⟩ := hreplaces.again
  obtain ⟨row', -, h'⟩ := written hagain
  rw [h'.publishes, (events_report _ _ _ _).1] at hadded
  rw [h'.publishes, (events_report _ _ _ _).2.1] at hremoved
  constructor
  · intro hkey
    by_contra hasked
    exact List.not_mem_nil (hremoved ▸ mem_removed.mpr ⟨hkey, hasked⟩)
  · intro hasked
    by_contra hkey
    exact List.not_mem_nil (hadded ▸ mem_added.mpr ⟨hasked, hkey⟩)

-- ============================================================================
-- The same request again
-- ============================================================================

theorem checkVersion_eq_ok {existing : UserGroupEntity} {expectedVersion : Int} :
    checkVersion existing expectedVersion = .ok () ↔ (existing.version : Int) = expectedVersion := by
  unfold checkVersion
  split
  next hne => exact ⟨nofun, fun heq => absurd heq hne⟩
  next heq => exact ⟨fun _ => not_not.mp heq, fun _ => rfl⟩

/-- Where the keys are those of the roles asked for, there is nothing to add or to remove. -/
theorem roleChange_idle
    (hkeys : ∀ key, key ∈ s.findRoleIdsByGroupId ctx.tenantCode id ↔ key ∈ dto.roleIds) :
    (roleChange ctx s id dto row).addedRoleIds = [] ∧
      (roleChange ctx s id dto row).removedRoleIds = [] := by
  constructor
  · rw [List.eq_nil_iff_forall_not_mem]
    intro roleId hadded
    exact (mem_added.mp hadded).2 ((hkeys roleId).mpr (mem_added.mp hadded).1)
  · rw [List.eq_nil_iff_forall_not_mem]
    intro roleId hremoved
    exact (mem_removed.mp hremoved).2 ((hkeys roleId).mp (mem_removed.mp hremoved).1)

/-- Nor is there anything to confirm. -/
theorem checkConfirmed_idle
    (hkeys : ∀ key, key ∈ s.findRoleIdsByGroupId ctx.tenantCode id ↔ key ∈ dto.roleIds)
    (confirmed : Option Bool) :
    checkConfirmed
      (UserGroupImpactService.estimateRoleAssignmentImpact ctx s id (setOf dto.roleIds))
        confirmed = .ok () := by
  have hadded : (setOf dto.roleIds).filter
      (fun roleId => roleId ∉ s.findRoleIdsByGroupId ctx.tenantCode id) = [] :=
    List.filter_eq_nil_iff.mpr fun roleId hrole => by simpa [hkeys] using mem_setOf.mp hrole
  have hremoved : (s.findRoleIdsByGroupId ctx.tenantCode id).filter
      (fun key => key ∉ setOf dto.roleIds) = [] :=
    List.filter_eq_nil_iff.mpr fun key hkey => by simpa [mem_setOf] using (hkeys key).mp hkey
  have hestimate : UserGroupImpactService.estimateRoleAssignmentImpact ctx s id
      (setOf dto.roleIds) = ⟨0, 0, false⟩ := by
    unfold UserGroupImpactService.estimateRoleAssignmentImpact
    split
    · rfl
    · simp only [UserGroups.UserGroupImpactService.estimateRoleAssignmentImpact, hadded, hremoved]
      rfl
  rw [hestimate]
  exact if_neg fun h => Bool.false_ne_true h.1

/-- Where the keys are those of the roles asked for, the request that comes next returns and
    changes no assignment. -/
theorem Written.again (h : Written ctx s s' id dto row) (haccepted : AcceptedRoles ctx s id dto row)
    (hkeys : ∀ key, key ∈ s'.findRoleIdsByGroupId ctx.tenantCode id ↔ key ∈ dto.roleIds) :
    ∃ roles s'', updateRoleAssignments ctx s' id (nextDto dto) = .ok (roles, s'') ∧
      s''.findByGroup ctx.tenantCode id = s'.findByGroup ctx.tenantCode id ∧
      addedBy (published s' s'') = [] ∧ removedBy (published s' s'') = [] := by
  let row' := (roleChange ctx s id dto row).entity.save row
  have hversion := checkVersion_eq_ok.mp haccepted.version
  have haccepted' : AcceptedRoles ctx s' id (nextDto dto) row' := by
    refine ⟨h.group, checkVersion_eq_ok.mpr ?_, ?_, checkConfirmed_idle hkeys dto.confirmed⟩
    · show ((row.version + 1 : Nat) : Int) = dto.expectedVersion + 1
      rw [← hversion]
      rfl
    · have hroles : s'.findActiveRoles ctx.tenantCode (setOf dto.roleIds) =
          s.findActiveRoles ctx.tenantCode (setOf dto.roleIds) := by
        rw [findActiveRoles, findActiveRoles, h.roles]
      show checkRoles (setOf dto.roleIds)
        { activeRoleIds := s'.findActiveRoles ctx.tenantCode (setOf dto.roleIds) } = _
      rw [hroles]
      exact haccepted.active
  let change := roleChange ctx s' id (nextDto dto) row'
  obtain ⟨hadded, hremoved⟩ : change.addedRoleIds = [] ∧ change.removedRoleIds = [] :=
    roleChange_idle hkeys
  obtain ⟨-, htenant, hid⟩ := group_eq_some.mp h.group
  have hsave : ∃ s₁, s'.save change.entity = .ok s₁ :=
    save_runs_of_same h.group hid htenant rfl (Column.write_ofRow _ _)
  have hfresh : s'.FreshKeys change.addedRoleIds.length := by
    rw [hadded]
    exact s'.freshKeys_zero
  have hwrites : ∃ s₁, s'.writeChange ctx.tenantCode change = .ok s₁ := by
    rw [writeChange_runs_iff h.group hfresh hid htenant hsave, hadded]
    exact ⟨List.nodup_nil, nofun, nofun⟩
  obtain ⟨s₁, hwrite⟩ := hwrites
  obtain ⟨roles, hagain⟩ := updateRoleAssignments_eq_ok.mpr ⟨row', s₁, haccepted', hwrite, rfl⟩
  obtain ⟨row'', hrow'', h'⟩ := written hagain
  obtain rfl : row' = row'' := Option.some.inj (h.group.symm.trans hrow''.found)
  refine ⟨roles, _, hagain, ?_, ?_, ?_⟩
  · rw [h'.rows, hadded, hremoved]
    simp [newRows]
  · rw [h'.publishes, (events_report _ _ _ _).1, hadded]
  · rw [h'.publishes, (events_report _ _ _ _).2.1, hremoved]

-- ============================================================================
-- When the roles are replaced
-- ============================================================================

theorem KeyedByRole.replacesRoles (hkeyed : KeyedByRole ctx s id dto)
    (haccepted : AcceptedRoles ctx s id dto row) (h : Written ctx s s' id dto row) :
    ReplacesRoles ctx s s' id dto := by
  have hadded : ∀ roleId, roleId ∈ (roleChange ctx s id dto row).addedRoleIds ↔
      roleId ∈ dto.roleIds ∧ roleId ∉ s.assignedRoleIds ctx.tenantCode id :=
    fun roleId => by rw [mem_added, hkeyed.current]
  have hremoved : ∀ roleId, roleId ∈ (roleChange ctx s id dto row).removedRoleIds ↔
      roleId ∈ s.assignedRoleIds ctx.tenantCode id ∧ roleId ∉ dto.roleIds :=
    fun roleId => by rw [mem_removed, hkeyed.current]
  obtain ⟨hreportAdded, hreportRemoved, hreportUrgent⟩ := events_report ctx
    (setOf dto.roleIds) (s.findRoleIdsByGroupId ctx.tenantCode id) (roleChange ctx s id dto row)
  refine ⟨nodup_assignedRoleIds, fun roleId => ?_, fun roleId => ?_, fun roleId => ?_, ?_, ?_⟩
  · rw [h.assigned, List.mem_append, List.mem_filter, decide_eq_true_eq, hadded, hremoved]
    by_cases hasked : roleId ∈ dto.roleIds
    · simp [hasked, Classical.em]
    · simp [hasked]
  · rw [h.publishes, hreportAdded, hadded]
  · rw [h.publishes, hreportRemoved, hremoved]
  · rw [h.publishes, hreportUrgent]
    refine congrArg (fun b => [b]) (decide_eq_decide.mpr ?_)
    rw [gt_iff_lt, List.length_pos_iff_exists_mem]
    exact exists_congr hremoved
  · refine h.again haccepted fun key => ?_
    rw [h.keys_eq_target hkeyed.current, hkeyed.target]

/-- A request that returns replaces the group's roles if and only if primary keys are role
    ids. -/
theorem updateRoleAssignments_replaces_iff
    (h : updateRoleAssignments ctx s id dto = .ok (roles, s')) :
    ReplacesRoles ctx s s' id dto ↔ KeyedByRole ctx s id dto := by
  obtain ⟨row, haccepted, hwritten⟩ := written h
  exact ⟨fun hreplaces => hreplaces.keyedByRole hwritten,
    fun hkeyed => hkeyed.replacesRoles haccepted hwritten⟩

/-- A request for the auditor's role, in place of the one the group has. -/
def auditorOnly : UpdateUserGroupRolesDto where
  roleIds := [auditorRoleId]
  expectedVersion := 1

theorem staffStore_runs : ∃ roles s',
    updateRoleAssignments acmeAdmin staffStore sampleGroupId auditorOnly = .ok (roles, s') ∧
      s'.assignedRoleIds "acme" sampleGroupId = [sampleRoleId, auditorRoleId] := by
  have hrun : (updateRoleAssignments acmeAdmin staffStore sampleGroupId auditorOnly).map
      (fun r => r.2.assignedRoleIds "acme" sampleGroupId) =
        .ok [sampleRoleId, auditorRoleId] := by decide +kernel
  obtain ⟨⟨roles, s'⟩, hok, hassigned⟩ := Sql.map_eq_ok.mp hrun
  exact ⟨roles, s', hok, hassigned⟩

theorem updateRoleAssignments_replaces_iff_auditor : ∃ roles s',
    updateRoleAssignments acmeAdmin staffStore sampleGroupId auditorOnly = .ok (roles, s') ∧
      (ReplacesRoles acmeAdmin staffStore s' sampleGroupId auditorOnly ↔
        KeyedByRole acmeAdmin staffStore sampleGroupId auditorOnly) := by
  obtain ⟨roles, s', hrun, -⟩ := staffStore_runs
  exact ⟨roles, s', hrun, updateRoleAssignments_replaces_iff hrun⟩

/-- The role that was to be replaced is still there. -/
theorem not_updateRoleAssignments_replaces :
    ¬∀ (ctx : GroupContext) (s s' : GroupStore) (id : Uuid) (dto : UpdateUserGroupRolesDto)
        (roles : List AssignedRoleItemDto),
      updateRoleAssignments ctx s id dto = .ok (roles, s') → ReplacesRoles ctx s s' id dto := by
  intro h
  obtain ⟨roles, s', hrun, hassigned⟩ := staffStore_runs
  have hstored := ((h _ _ _ _ _ _ hrun).stored sampleRoleId).mp (by
    show sampleRoleId ∈ s'.assignedRoleIds "acme" sampleGroupId
    rw [hassigned]
    exact List.mem_cons_self)
  exact absurd hstored (by decide)

-- ============================================================================
-- Keys that are no role ids
-- ============================================================================

theorem checkRoles_ok {targetRoleIds : List Uuid} {answers : Answers}
    (h : checkRoles targetRoleIds answers = .ok ()) {roleId : Uuid} (hrole : roleId ∈ targetRoleIds) :
    roleId ∈ answers.activeRoleIds := by
  unfold checkRoles at h
  simp only at h
  split at h
  · cases h
  next hlength =>
    have hall := List.filter_eq_self.mp (List.filter_sublist.eq_of_length (not_not.mp hlength))
    exact of_decide_eq_true (hall roleId hrole)

/-- With keys that are no role ids, a request replaces the roles only where there are none and
    none are asked for. -/
theorem keyedByRole_iff_of_foreign (haccepted : AcceptedRoles ctx s id dto row)
    (hforeign : ∀ n, s.tables.rowKey n ∉ s.tables.roles.rows.map Roles.StoredRole.id) :
    KeyedByRole ctx s id dto ↔
      s.assignedRoleIds ctx.tenantCode id = [] ∧ dto.roleIds = [] := by
  constructor
  · intro h
    constructor
    · rw [List.eq_nil_iff_forall_not_mem]
      intro roleId hassigned
      obtain ⟨r, -, rfl⟩ := List.mem_map.mp ((h.current roleId).mpr hassigned)
      exact hforeign r.1 (mem_roles_of_assigned hassigned)
    · rw [List.eq_nil_iff_forall_not_mem]
      intro roleId hasked
      obtain ⟨r, -, rfl⟩ := List.mem_map.mp ((h.target roleId).mpr hasked)
      obtain ⟨role, hrole, hid⟩ := List.mem_map.mp
        (checkRoles_ok haccepted.active (mem_setOf.mpr hasked))
      exact hforeign r.1 (hid ▸ List.mem_map_of_mem (List.mem_of_mem_filter hrole))
  · rintro ⟨hassigned, hasked⟩
    have hrows : s.findByGroup ctx.tenantCode id = [] := List.map_eq_nil_iff.mp hassigned
    refine ⟨fun key => ?_, fun key => ?_⟩
    · rw [findRoleIdsByGroupId, assignedRoleIds, hrows]
      exact Iff.rfl
    · rw [targetRows, hrows, hasked]
      exact Iff.rfl

end AccessService.UserGroups.Administration
