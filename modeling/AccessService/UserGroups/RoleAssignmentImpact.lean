/-
  AccessService.UserGroups.RoleAssignmentImpact

  Who is left without a role when a group's roles are replaced, against what
  `estimateRoleAssignmentImpact` of `user-group-impact.service.ts` tells. The query it counts
  with looks for roles through other ACTIVE groups, and takes it that the group itself is one.
-/

import AccessService.Lib.Joins
import AccessService.UserGroups.GroupAdministrationEffects
import Mathlib.Logic.Function.Basic

namespace AccessService.UserGroups.Administration

open AccessService.Js AccessService.Lib AccessService.Pg AccessService.Persistence

variable {ctx : GroupContext} {s : GroupStore} {tenantCode : String} {groupId userId : Uuid}
  {targetRoleIds : List Uuid}

namespace GroupStore

-- ============================================================================
-- The query
-- ============================================================================

/-- The joins of `other_group_roles`: a membership, its group if it is ACTIVE, and a role of
    the group. -/
def activeMembershipRoles (s : GroupStore) :
    List (UserGroupMembership × UserGroupRow × UserGroupRole) :=
  s.tables.memberships.rows.flatMap fun ugm =>
    (s.tables.groups.rows.filter fun ug =>
      ug.id = ugm.groupId && ug.tenantCode = ugm.tenantCode && ug.status = .ACTIVE).flatMap fun ug =>
        ((s.tables.groupRoles.rows.map Prod.snd).filter fun ugr =>
          ugr.userGroupId = ug.id && ugr.tenantCode = ug.tenantCode).map fun ugr => (ugm, ug, ugr)

/-- The WHERE clause of `other_group_roles`. -/
def ofOtherGroup (s : GroupStore) (tenantCode : String) (groupId : Uuid)
    (ugm : UserGroupMembership) : Bool :=
  ugm.tenantCode = tenantCode && ugm.groupId ≠ groupId &&
    ugm.userId ∈ s.membersOf tenantCode groupId

/-- The `employee_id` of the rows that `other_group_roles` groups. -/
def otherEmployeeIds (s : GroupStore) (tenantCode : String) (groupId : Uuid) : List Uuid :=
  (s.activeMembershipRoles.filter fun row => s.ofOtherGroup tenantCode groupId row.1).map
    fun row => row.1.userId

/-- `SELECT ugm.employee_id, COUNT(ugr.role_id) .. GROUP BY ugm.employee_id` -/
def other_group_roles (s : GroupStore) (tenantCode : String) (groupId : Uuid) :
    List (Uuid × Nat) :=
  Joins.groupCount (s.otherEmployeeIds tenantCode groupId)

/-- The rows of the outer SELECT. -/
def zeroRoleRows (s : GroupStore) (tenantCode : String) (groupId : Uuid) (targetRoleCount : Nat) :
    List (Uuid × Option Nat) :=
  (Joins.leftJoin (s.membersOf tenantCode groupId) (s.other_group_roles tenantCode groupId)).filter
    fun row => row.2.getD 0 = 0 && targetRoleCount = 0

-- ============================================================================
-- Other groups
-- ============================================================================

theorem mem_membersOf :
    userId ∈ s.membersOf tenantCode groupId ↔
      ⟨tenantCode, groupId, userId⟩ ∈ s.tables.memberships.rows := by
  simp only [membersOf, List.mem_map, List.mem_filter, Bool.and_eq_true, decide_eq_true_eq]
  constructor
  · rintro ⟨⟨tenant, group, user⟩, ⟨hmem, rfl, rfl⟩, rfl⟩
    exact hmem
  · intro hmem
    exact ⟨_, ⟨hmem, rfl, rfl⟩, rfl⟩

theorem mem_activeMembershipRoles {ugm : UserGroupMembership} {ug : UserGroupRow}
    {ugr : UserGroupRole} :
    (ugm, ug, ugr) ∈ s.activeMembershipRoles ↔
      ugm ∈ s.tables.memberships.rows ∧ ug ∈ s.tables.groups.rows ∧
        (ug.id = ugm.groupId ∧ ug.tenantCode = ugm.tenantCode ∧ ug.status = .ACTIVE) ∧
        ugr ∈ s.tables.groupRoles.rows.map Prod.snd ∧
        ugr.userGroupId = ug.id ∧ ugr.tenantCode = ug.tenantCode := by
  simp only [activeMembershipRoles, List.mem_flatMap, List.mem_filter, List.mem_map,
    Bool.and_eq_true, decide_eq_true_eq, Prod.mk.injEq]
  constructor
  · rintro ⟨ugm', hugm, ug', ⟨hug, ⟨hid, htenant⟩, hactive⟩, ugr', ⟨hugr, hgroup, hrole⟩,
      rfl, rfl, rfl⟩
    exact ⟨hugm, hug, ⟨hid, htenant, hactive⟩, hugr, hgroup, hrole⟩
  · rintro ⟨hugm, hug, ⟨hid, htenant, hactive⟩, hugr, hgroup, hrole⟩
    exact ⟨ugm, hugm, ug, ⟨hug, ⟨hid, htenant⟩, hactive⟩, ugr, ⟨hugr, hgroup, hrole⟩, rfl, rfl,
      rfl⟩

theorem findByGroup_ne_nil :
    s.findByGroup tenantCode groupId ≠ [] ↔
      ∃ ugr ∈ s.tables.groupRoles.rows.map Prod.snd,
        ugr.userGroupId = groupId ∧ ugr.tenantCode = tenantCode := by
  constructor
  · intro hsome
    obtain ⟨r, hr⟩ := List.exists_mem_of_ne_nil _ hsome
    obtain ⟨hmem, htenant, hgroup⟩ := mem_findByGroup.mp hr
    exact ⟨r.2, List.mem_map_of_mem hmem, hgroup, htenant⟩
  · rintro ⟨_, hugr, hgroup, htenant⟩
    obtain ⟨r, hr, rfl⟩ := List.mem_map.mp hugr
    exact List.ne_nil_of_mem (mem_findByGroup.mpr ⟨hr, htenant, hgroup⟩)

theorem hasOtherRole_iff :
    s.hasOtherRole tenantCode groupId userId = true ↔
      ∃ ug ∈ s.tables.groups.rows, ug.tenantCode = tenantCode ∧ ug.status = .ACTIVE ∧
        ug.id ≠ groupId ∧ userId ∈ s.membersOf tenantCode ug.id ∧
        s.findByGroup tenantCode ug.id ≠ [] := by
  simp only [hasOtherRole, List.any_eq_true, Bool.and_eq_true, decide_eq_true_eq, and_assoc]

/-- A member of the group is grouped by the query if the member has a role through another
    ACTIVE group. -/
theorem mem_otherEmployeeIds (hmember : userId ∈ s.membersOf tenantCode groupId) :
    userId ∈ s.otherEmployeeIds tenantCode groupId ↔
      s.hasOtherRole tenantCode groupId userId = true := by
  simp only [otherEmployeeIds, ofOtherGroup, List.mem_map, List.mem_filter, Bool.and_eq_true,
    decide_eq_true_eq, hasOtherRole_iff]
  constructor
  · rintro ⟨⟨⟨tenant, group, user⟩, ug, ugr⟩, ⟨hrow, ⟨htenant, hother⟩, -⟩, hsame⟩
    obtain ⟨hugm, hug, ⟨hid, hugTenant, hactive⟩, hugr, hgroup, hrole⟩ :=
      mem_activeMembershipRoles.mp hrow
    obtain rfl : tenant = tenantCode := htenant
    obtain rfl : ug.id = group := hid
    obtain rfl : user = userId := hsame
    exact ⟨ug, hug, hugTenant, hactive, hother, mem_membersOf.mpr hugm,
      findByGroup_ne_nil.mpr ⟨ugr, hugr, hgroup, hrole.trans hugTenant⟩⟩
  · rintro ⟨ug, hug, htenant, hactive, hother, hugm, hroles⟩
    obtain ⟨ugr, hugr, hgroup, hrole⟩ := findByGroup_ne_nil.mp hroles
    have hrow : (⟨tenantCode, ug.id, userId⟩, ug, ugr) ∈ s.activeMembershipRoles :=
      mem_activeMembershipRoles.mpr ⟨mem_membersOf.mp hugm, hug, ⟨rfl, htenant, hactive⟩, hugr,
        hgroup, hrole.trans htenant.symm⟩
    exact ⟨_, ⟨hrow, ⟨rfl, hother⟩, hmember⟩, rfl⟩

/-- The members with no role through another ACTIVE group. -/
def uncoveredMembers (s : GroupStore) (tenantCode : String) (groupId : Uuid) : List Uuid :=
  (s.membersOf tenantCode groupId).filter fun userId => !s.hasOtherRole tenantCode groupId userId

/-- What the query gives: nothing, unless no role is left. -/
theorem zeroRoleRows_eq (targetRoleCount : Nat) :
    (s.zeroRoleRows tenantCode groupId targetRoleCount).map Prod.fst =
      if targetRoleCount = 0 then s.uncoveredMembers tenantCode groupId else [] := by
  unfold zeroRoleRows
  split
  next hzero =>
    simp only [hzero, decide_true, Bool.and_true, other_group_roles]
    rw [Joins.map_filter_uncounted, uncoveredMembers]
    refine List.filter_congr fun userId hmember => ?_
    rw [decide_not, Bool.decide_congr (mem_otherEmployeeIds hmember), Bool.decide_eq_true]
  next hzero =>
    simp [hzero]

theorem countZeroRoleMembersAfterUnassign_eq (targetRoleCount : Nat) :
    (s.zeroRoleRows tenantCode groupId targetRoleCount).length =
      s.countZeroRoleMembersAfterUnassign tenantCode groupId targetRoleCount := by
  rw [← List.length_map Prod.fst, zeroRoleRows_eq, countZeroRoleMembersAfterUnassign]
  split
  next hzero => simp only [hzero, decide_true, Bool.true_and, uncoveredMembers]
  next hzero => simp [hzero]

-- ============================================================================
-- Who is left without a role
-- ============================================================================

/-- The user has a role through an ACTIVE group, where the groups have the given roles. -/
def hasRole (s : GroupStore) (tenantCode : String) (rolesOf : Uuid → List Uuid)
    (userId : Uuid) : Bool :=
  s.tables.groups.rows.any fun g =>
    g.tenantCode = tenantCode && g.status = .ACTIVE && userId ∈ s.membersOf tenantCode g.id &&
      rolesOf g.id ≠ []

/-- The user has a role now, and none once the group has the target list in place of its
    roles. -/
def losesLastRole (s : GroupStore) (tenantCode : String) (groupId : Uuid)
    (targetRoleIds : List Uuid) (userId : Uuid) : Bool :=
  s.hasRole tenantCode (s.assignedRoleIds tenantCode) userId &&
    !s.hasRole tenantCode
      (Function.update (s.assignedRoleIds tenantCode) groupId targetRoleIds) userId

/-- The members who lose their last role. -/
def losers (s : GroupStore) (tenantCode : String) (groupId : Uuid) (targetRoleIds : List Uuid) :
    List Uuid :=
  (s.membersOf tenantCode groupId).filter (s.losesLastRole tenantCode groupId targetRoleIds)

/-- The group has roles, and the target list leaves it none. -/
def Clears (s : GroupStore) (tenantCode : String) (groupId : Uuid) (targetRoleIds : List Uuid) :
    Prop :=
  s.assignedRoleIds tenantCode groupId ≠ [] ∧ targetRoleIds = []

/-- The group is an ACTIVE one of the tenant. -/
def IsActive (s : GroupStore) (tenantCode : String) (groupId : Uuid) : Prop :=
  ∃ row, s.group tenantCode groupId = some row ∧ row.status = .ACTIVE

theorem assignedRoleIds_ne_nil :
    s.assignedRoleIds tenantCode groupId ≠ [] ↔ s.findByGroup tenantCode groupId ≠ [] :=
  not_congr List.map_eq_nil_iff

/-- A member has a role through the group itself or through another one. -/
theorem hasRole_iff (rolesOf : Uuid → List Uuid)
    (hmember : userId ∈ s.membersOf tenantCode groupId)
    (hothers : ∀ id, id ≠ groupId → rolesOf id = s.assignedRoleIds tenantCode id) :
    s.hasRole tenantCode rolesOf userId = true ↔
      (s.IsActive tenantCode groupId ∧ rolesOf groupId ≠ []) ∨
        s.hasOtherRole tenantCode groupId userId = true := by
  simp only [hasRole, List.any_eq_true, Bool.and_eq_true, decide_eq_true_eq, and_assoc,
    hasOtherRole_iff]
  constructor
  · rintro ⟨g, hg, htenant, hactive, hin, hroles⟩
    by_cases hid : g.id = groupId
    · subst hid
      exact .inl ⟨⟨g, group_eq_some.mpr ⟨hg, htenant, rfl⟩, hactive⟩, hroles⟩
    · rw [hothers _ hid, assignedRoleIds_ne_nil] at hroles
      exact .inr ⟨g, hg, htenant, hactive, hid, hin, hroles⟩
  · rintro (⟨⟨g, hgroup, hactive⟩, hroles⟩ | ⟨g, hg, htenant, hactive, hid, hin, hroles⟩)
    · obtain ⟨hg, htenant, rfl⟩ := group_eq_some.mp hgroup
      exact ⟨g, hg, htenant, hactive, hmember, hroles⟩
    · rw [← assignedRoleIds_ne_nil, ← hothers _ hid] at hroles
      exact ⟨g, hg, htenant, hactive, hin, hroles⟩

/-- A member loses the last role when an ACTIVE group is left with none of its roles and no
    other group gives the member one. -/
theorem losesLastRole_iff (targetRoleIds : List Uuid)
    (hmember : userId ∈ s.membersOf tenantCode groupId) :
    s.losesLastRole tenantCode groupId targetRoleIds userId = true ↔
      (s.IsActive tenantCode groupId ∧ s.Clears tenantCode groupId targetRoleIds) ∧
        s.hasOtherRole tenantCode groupId userId = false := by
  have hnow := hasRole_iff (s.assignedRoleIds tenantCode) hmember fun _ _ => rfl
  have hafter := hasRole_iff
    (Function.update (s.assignedRoleIds tenantCode) groupId targetRoleIds) hmember
    fun id hid => Function.update_of_ne hid _ _
  rw [Function.update_self] at hafter
  rw [losesLastRole, Bool.and_eq_true, Bool.not_eq_true', ← Bool.not_eq_true, hnow, hafter,
    ← Bool.not_eq_true, Clears]
  tauto

theorem losers_of_clears (hactive : s.IsActive tenantCode groupId)
    (hclears : s.Clears tenantCode groupId targetRoleIds) :
    s.losers tenantCode groupId targetRoleIds = s.uncoveredMembers tenantCode groupId := by
  refine List.filter_congr fun userId hmember => ?_
  have hiff := losesLastRole_iff targetRoleIds hmember
  rw [and_iff_right ⟨hactive, hclears⟩] at hiff
  rw [Bool.eq_iff_iff, hiff, Bool.not_eq_true']

theorem losers_eq_nil
    (h : ¬(s.IsActive tenantCode groupId ∧ s.Clears tenantCode groupId targetRoleIds)) :
    s.losers tenantCode groupId targetRoleIds = [] :=
  List.filter_eq_nil_iff.mpr fun _ hmember hloses =>
    h ((losesLastRole_iff targetRoleIds hmember).mp hloses).1

end GroupStore

-- ============================================================================
-- The estimate
-- ============================================================================

namespace UserGroupImpactService

open GroupStore

theorem estimate_of_missing (hgroup : s.group ctx.tenantCode groupId = none) :
    (estimateRoleAssignmentImpact ctx s groupId targetRoleIds).zeroRoleUserCount = 0 := by
  rw [estimateRoleAssignmentImpact, hgroup]

section Found

variable {row : UserGroupRow} (hgroup : s.group ctx.tenantCode groupId = some row)
  (hids : ∀ id, id ∈ s.findRoleIdsByGroupId ctx.tenantCode groupId ↔
    id ∈ s.assignedRoleIds ctx.tenantCode groupId)

include hgroup hids

/-- Once the group's roles are all removed, the members whom the query finds are told. -/
theorem estimate_of_clears (hclears : s.Clears ctx.tenantCode groupId targetRoleIds) :
    (estimateRoleAssignmentImpact ctx s groupId targetRoleIds).zeroRoleUserCount =
      (s.uncoveredMembers ctx.tenantCode groupId).length := by
  obtain ⟨hsome, rfl⟩ := hclears
  obtain ⟨roleId, hrole⟩ := List.exists_mem_of_ne_nil _ hsome
  have hremoved : 0 < ((s.findRoleIdsByGroupId ctx.tenantCode groupId).filter
      fun id => id ∉ ([] : List Uuid)).length :=
    List.length_pos_of_mem (List.mem_filter.mpr ⟨(hids roleId).mpr hrole, by simp⟩)
  have hcount : s.countZeroRoleMembersAfterUnassign ctx.tenantCode groupId 0 =
      (s.uncoveredMembers ctx.tenantCode groupId).length := by
    rw [← countZeroRoleMembersAfterUnassign_eq, ← List.length_map Prod.fst, zeroRoleRows_eq,
      if_pos rfl]
  simp only [estimateRoleAssignmentImpact, hgroup,
    UserGroups.UserGroupImpactService.estimateRoleAssignmentImpact, if_neg fun h =>
      hremoved.ne' (And.right h), hremoved, gt_iff_lt, true_and, List.length_nil, hcount]
  split
  · rfl
  next hnobody =>
    -- with no members there is nobody to be found
    have hnil : s.membersOf ctx.tenantCode groupId = [] :=
      List.length_eq_zero_iff.mp (Nat.eq_zero_of_not_pos hnobody)
    rw [uncoveredMembers, hnil]
    rfl

theorem estimate_of_not_clears (hkept : ¬s.Clears ctx.tenantCode groupId targetRoleIds) :
    (estimateRoleAssignmentImpact ctx s groupId targetRoleIds).zeroRoleUserCount = 0 := by
  simp only [estimateRoleAssignmentImpact, hgroup,
    UserGroups.UserGroupImpactService.estimateRoleAssignmentImpact]
  split
  · rfl
  · dsimp only
    split
    next hremoved =>
      -- a role is removed, so the target list is not empty
      have htarget : targetRoleIds.length ≠ 0 := by
        intro hzero
        obtain ⟨roleId, hrole⟩ := List.exists_mem_of_ne_nil _ (List.ne_nil_of_length_pos hremoved.1)
        have hassigned := (hids roleId).mp (List.mem_of_mem_filter hrole)
        exact hkept ⟨List.ne_nil_of_mem hassigned, List.length_eq_zero_iff.mp hzero⟩
      rw [← countZeroRoleMembersAfterUnassign_eq, ← List.length_map Prod.fst, zeroRoleRows_eq,
        if_neg htarget]
      rfl
    · rfl

end Found

/-- The count is exact unless the group is not ACTIVE, its roles are all removed, and some
    member has no role through another group: such a member has nothing to lose. -/
theorem zeroRoleUserCount_iff (ctx : GroupContext) (s : GroupStore) (groupId : Uuid)
    (targetRoleIds : List Uuid)
    (hids : ∀ id, id ∈ s.findRoleIdsByGroupId ctx.tenantCode groupId ↔
      id ∈ s.assignedRoleIds ctx.tenantCode groupId) :
    (estimateRoleAssignmentImpact ctx s groupId targetRoleIds).zeroRoleUserCount =
        (s.losers ctx.tenantCode groupId targetRoleIds).length ↔
      ¬((∃ row, s.group ctx.tenantCode groupId = some row ∧ row.status ≠ .ACTIVE) ∧
        s.Clears ctx.tenantCode groupId targetRoleIds ∧
        ∃ userId ∈ s.membersOf ctx.tenantCode groupId,
          s.hasOtherRole ctx.tenantCode groupId userId = false) := by
  rcases hgroup : s.group ctx.tenantCode groupId with _ | row
  · have hinactive : ¬s.IsActive ctx.tenantCode groupId := fun ⟨row, hrow, _⟩ => by
      rw [hgroup] at hrow
      cases hrow
    rw [estimate_of_missing hgroup, losers_eq_nil fun h => hinactive h.1]
    exact iff_of_true rfl fun ⟨⟨_, hrow, _⟩, _⟩ => by cases hrow
  · by_cases hclears : s.Clears ctx.tenantCode groupId targetRoleIds
    · by_cases hactive : row.status = .ACTIVE
      · rw [estimate_of_clears hgroup hids hclears, losers_of_clears ⟨row, hgroup, hactive⟩ hclears]
        refine iff_of_true rfl fun ⟨⟨row', hrow, hnot⟩, _⟩ => hnot ?_
        rw [← Option.some.inj hrow, hactive]
      · have hinactive : ¬s.IsActive ctx.tenantCode groupId := by
          rintro ⟨row', hrow, hactive'⟩
          rw [Option.some.inj (hgroup.symm.trans hrow)] at hactive
          exact hactive hactive'
        rw [estimate_of_clears hgroup hids hclears, losers_eq_nil fun h => hinactive h.1,
          List.length_nil, List.length_eq_zero_iff, uncoveredMembers, List.filter_eq_nil_iff]
        have hbroken : ∃ row', some row = some row' ∧ row'.status ≠ .ACTIVE :=
          ⟨row, rfl, hactive⟩
        simp only [hbroken, hclears, true_and, not_exists, not_and, Bool.not_eq_true',
          Bool.not_eq_false]
    · rw [estimate_of_not_clears hgroup hids hclears, losers_eq_nil fun h => hclears h.2]
      exact iff_of_true rfl fun h => hclears h.2.1

/-- One INACTIVE group with a role and a member; the assignment's key is the role's id. -/
def inactiveTables : GroupTables :=
  { staffTables with
    groups := ⟨[{ sampleUserGroup with name := "Staff", status := .INACTIVE }],
      List.nodup_singleton _⟩
    rowKey := fun n => if n = 0 then sampleRoleId else auditorRoleId
    memberships := .single ⟨"acme", sampleGroupId, sampleUserId⟩ }

def inactiveStore : GroupStore where
  tables := inactiveTables
  constraints := by decide +kernel

theorem zeroRoleUserCount_inactive :
    (estimateRoleAssignmentImpact acmeAdmin inactiveStore sampleGroupId []).zeroRoleUserCount =
        (inactiveStore.losers "acme" sampleGroupId []).length ↔
      ¬((∃ row, inactiveStore.group "acme" sampleGroupId = some row ∧ row.status ≠ .ACTIVE) ∧
        inactiveStore.Clears "acme" sampleGroupId [] ∧
        ∃ userId ∈ inactiveStore.membersOf "acme" sampleGroupId,
          inactiveStore.hasOtherRole "acme" sampleGroupId userId = false) := by
  have hkeys : inactiveStore.findRoleIdsByGroupId "acme" sampleGroupId =
      inactiveStore.assignedRoleIds "acme" sampleGroupId := by decide +kernel
  exact zeroRoleUserCount_iff acmeAdmin inactiveStore sampleGroupId [] fun id => by
    show id ∈ inactiveStore.findRoleIdsByGroupId "acme" sampleGroupId ↔ _
    rw [hkeys]
    rfl

/-- The member holds nothing through an INACTIVE group, and is counted among those who lose
    what they hold. -/
theorem inactive_group_overcounts :
    inactiveStore.findRoleIdsByGroupId "acme" sampleGroupId =
        inactiveStore.assignedRoleIds "acme" sampleGroupId ∧
      (estimateRoleAssignmentImpact acmeAdmin inactiveStore sampleGroupId []).zeroRoleUserCount =
        1 ∧
      (inactiveStore.losers "acme" sampleGroupId []).length = 0 := by
  refine ⟨by decide +kernel, by decide +kernel, by decide +kernel⟩

end UserGroupImpactService

end AccessService.UserGroups.Administration
