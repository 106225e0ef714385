/-
  AccessService.ImpactAnalysis.SynchronizedImpact

  Where the stored memberships and effective roles cover what a full reconciliation would
  give, the estimates of six of the seven changes are no smaller than what these affect.  The
  exception is `updateById`, whose estimate does not look at the new rule.
-/

import AccessService.ImpactAnalysis.HighImpactGate

namespace AccessService.ImpactAnalysis

open AccessService.Js AccessService.Lib AccessService.Pg AccessService.Persistence
open AccessService.Roles (StoredRole RoleRequest RoleStore Accepted)
open AccessService.UserGroups AccessService.UserGroups.Administration
open AccessService.UserGroups.UserGroupMatchingEngine

variable {ctx : AccessContext} {s : AccessStore} {m : Mutation}

/-- A full reconciliation would add no membership and no effective role. -/
structure AccessStore.Synchronized (types : ColumnTypes) (s : AccessStore) : Prop where
  memberships : ∀ g ∈ s.database.groups.rows, ∀ u ∈ population types s.database g,
    ⟨g.tenantCode, g.id, u⟩ ∈ s.administration.tables.memberships.rows
  effectiveRoles : ∀ g ∈ s.database.groups.rows, g.status = .ACTIVE →
    ∀ u ∈ population types s.database g, ∀ roleId ∈ s.rolesOf g.tenantCode g.id,
      ∃ r ∈ s.base.db.effectiveRoles.rows,
        r.2.tenantCode = g.tenantCode ∧ r.2.roleId = roleId ∧ r.2.userId = u

theorem encard_lt_of_list {α : Type} {A : Set α} {l : List α} {n : Nat}
    (h : ∀ a ∈ A, a ∈ l) (hlength : l.length < n) : A.encard < n := by
  classical
  have hsub : A ⊆ (l.toFinset : Set α) := by
    intro a ha
    rw [List.coe_toFinset]
    exact h a ha
  have hle := Set.encard_le_encard hsub
  rw [Set.encard_coe_eq_coe_finsetCard] at hle
  exact lt_of_le_of_lt hle (by exact_mod_cast lt_of_le_of_lt l.toFinset_card_le hlength)

-- ============================================================================
-- Groups
-- ============================================================================

/-- A change of a group that keeps its rule affects at most the members it has. -/
theorem reach_subset_members {row : UserGroupRow} {asked : GroupConfiguration}
    (hsync : s.Synchronized ctx.columns) (hrow : row ∈ s.administration.tables.groups.rows)
    (hpopulation : population ctx.columns s.database asked.group =
      population ctx.columns s.database row.toUserGroup) :
    ∀ u ∈ (s.configurationOf row.toUserGroup).reach ctx.columns s.database asked,
      u ∈ s.administration.membersOf row.tenantCode row.id := by
  rintro u (hchanged | ⟨hmember, -, -⟩)
  · rw [hpopulation] at hchanged
    exact absurd Iff.rfl hchanged
  · have hstored := hsync.memberships row.toUserGroup (List.mem_map_of_mem hrow) u hmember
    exact List.mem_map.mpr ⟨_, List.mem_filter.mpr ⟨hstored, by simp⟩, rfl⟩

theorem memberCount_lt {answers : UserGroups.Answers} (h : checkImpact answers false = .ok ()) :
    answers.memberCount < HIGH_IMPACT_THRESHOLD := by
  unfold checkImpact at h
  split at h
  · cases h
  next hconfirmed => exact Nat.lt_of_not_le fun hle => hconfirmed ⟨hle, rfl⟩

theorem groupStaysBelow {row : UserGroupRow} {asked : GroupConfiguration}
    (hsync : s.Synchronized ctx.columns) (hrow : row ∈ s.administration.tables.groups.rows)
    (hpopulation : population ctx.columns s.database asked.group =
      population ctx.columns s.database row.toUserGroup)
    (hcount : s.administration.countByGroup row.tenantCode row.id < HIGH_IMPACT_THRESHOLD) :
    s.GroupStaysBelow ctx row asked :=
  encard_lt_of_list (reach_subset_members hsync hrow hpopulation) hcount

/-- Where the keys that are taken for role ids stay, nobody is affected. -/
theorem reach_of_same_roles {row : UserGroupRow} {dto : UpdateUserGroupRolesDto}
    (hadded : (setOf dto.roleIds).filter (fun id =>
      id ∉ s.administration.findRoleIdsByGroupId row.tenantCode row.id) = [])
    (hremoved : (s.administration.findRoleIdsByGroupId row.tenantCode row.id).filter (fun id =>
      id ∉ setOf dto.roleIds) = []) :
    (s.configurationOf row.toUserGroup).reach ctx.columns s.database
      (.afterAssignments s row dto) = ∅ := by
  have hroles : (GroupConfiguration.afterAssignments s row dto).roles =
      s.rolesOf row.tenantCode row.id := by
    ext roleId
    have hnotAdded := List.filter_eq_nil_iff.mp hadded roleId
    have hnotRemoved := List.filter_eq_nil_iff.mp hremoved roleId
    simp only [GroupConfiguration.afterAssignments, Set.mem_ofPred_eq]
    simp only [mem_setOf, decide_eq_true_eq] at hnotAdded hnotRemoved
    tauto
  refine Set.eq_empty_of_forall_notMem ?_
  rintro u (hchanged | ⟨-, -, hgrants⟩)
  · exact hchanged Iff.rfl
  · refine hgrants ?_
    unfold GroupConfiguration.grants
    rw [hroles]
    rfl

theorem countByGroup_eq {row : UserGroupRow} {id : Uuid}
    (hrow : s.administration.group ctx.tenantCode id = some row) :
    row ∈ s.administration.tables.groups.rows ∧
      s.administration.countByGroup ctx.tenantCode id =
        s.administration.countByGroup row.tenantCode row.id := by
  obtain ⟨hmem, htenant, hid⟩ := GroupStore.group_eq_some.mp hrow
  rw [htenant, hid]
  exact ⟨hmem, rfl⟩

theorem updateRoleAssignments_staysBelow {id : Uuid} {dto : UpdateUserGroupRolesDto}
    {row : UserGroupRow} (hsync : s.Synchronized ctx.columns)
    (hunconfirmed : (Mutation.updateRoleAssignments id dto).confirmed = false)
    (h : AcceptedRoles ctx.groupContext s.administration id dto row) :
    s.GroupStaysBelow ctx row (.afterAssignments s row dto) := by
  obtain ⟨hmem, htenant, hid⟩ := GroupStore.group_eq_some.mp h.found
  have hconfirmed := h.confirmed
  unfold checkConfirmed at hconfirmed
  split at hconfirmed
  · cases hconfirmed
  next hnot =>
    have hunneeded : (Administration.UserGroupImpactService.estimateRoleAssignmentImpact
        ctx.groupContext s.administration id (setOf dto.roleIds)).requiresConfirmation ≠ true :=
      fun hneeded => hnot ⟨hneeded, of_decide_eq_false hunconfirmed⟩
    rw [Administration.UserGroupImpactService.estimateRoleAssignmentImpact, h.found] at hunneeded
    unfold UserGroups.UserGroupImpactService.estimateRoleAssignmentImpact at hunneeded
    simp only [List.length_eq_zero_iff] at hunneeded
    split at hunneeded
    next hsame =>
      rw [← htenant, ← hid] at hsame
      unfold AccessStore.GroupStaysBelow
      rw [reach_of_same_roles hsame.1 hsame.2, Set.encard_empty]
      exact ENat.natCast_lt_natCast.mpr (by decide)
    next =>
      refine groupStaysBelow hsync hmem rfl ?_
      rw [htenant, hid]
      exact Nat.lt_of_not_le fun hle => hunneeded (decide_eq_true hle)

-- ============================================================================
-- Roles
-- ============================================================================

/-- Everybody who has the role has a row that says so. -/
theorem roleStaysBelow {request : RoleRequest} {role : StoredRole} {id : Uuid}
    (hsync : s.Synchronized ctx.columns)
    (hfound : s.roleStore.role ctx.tenantCode id = some role)
    (hcount : s.roleStore.countActiveUserReach ctx.tenantCode id < HIGH_IMPACT_THRESHOLD) :
    s.RoleStaysBelow ctx request role := by
  obtain ⟨-, htenant, hid⟩ := Roles.RoleStore.role_eq_some.mp hfound
  refine encard_lt_of_list (fun u hu => ?_) hcount
  obtain ⟨⟨g, hg, hgTenant, hactive, hrole, hmember⟩, -⟩ := hu
  obtain ⟨r, hr, hrTenant, hrRole, rfl⟩ :=
    hsync.effectiveRoles g hg hactive u hmember role.id hrole
  refine List.mem_eraseDups.mpr (List.mem_map.mpr ⟨r, List.mem_filter.mpr ⟨hr, ?_⟩, rfl⟩)
  rw [Bool.and_eq_true, decide_eq_true_eq, decide_eq_true_eq]
  exact ⟨(hrTenant.trans hgTenant).trans htenant, hrRole.trans hid⟩

-- ============================================================================
-- All but one
-- ============================================================================

theorem reach_lt_of_confirmed {n : Nat} {confirmed : Option Bool}
    (hunconfirmed : decide (confirmed = some true) = false)
    (h : ¬(n ≥ HIGH_IMPACT_THRESHOLD ∧ confirmed ≠ some true)) : n < HIGH_IMPACT_THRESHOLD :=
  Nat.lt_of_not_le fun hle => h ⟨hle, of_decide_eq_false hunconfirmed⟩

/-- In a synchronized state an unconfirmed request that gets through affects fewer users than
    the threshold, unless it may change the rule of a group. -/
theorem staysBelow_of_synchronized (hsync : s.Synchronized ctx.columns)
    (hunconfirmed : m.confirmed = false)
    (hrule : ∀ id dto expectedVersion, m ≠ .updateById id dto expectedVersion) :
    m.StaysBelow ctx s := by
  cases m with
  | updateById id dto expectedVersion => exact absurd rfl (hrule id dto expectedVersion)
  | deactivate id expectedVersion confirmed =>
    intro row h
    obtain rfl : confirmed = false := hunconfirmed
    obtain ⟨hmem, hcount⟩ := countByGroup_eq h.found
    exact groupStaysBelow hsync hmem rfl (hcount ▸ memberCount_lt h.confirmed)
  | updateRoleAssignments id dto =>
    exact fun row h => updateRoleAssignments_staysBelow hsync hunconfirmed h
  | updateScope id dto =>
    intro row validated h
    obtain ⟨hmem, hcount⟩ := countByGroup_eq h.found
    have hconfirmed := h.confirmed
    rw [show decide (dto.confirmed = some true) = false from hunconfirmed] at hconfirmed
    exact groupStaysBelow hsync hmem rfl (hcount ▸ memberCount_lt hconfirmed)
  | updateCustom id dto =>
    exact fun role h => roleStaysBelow hsync h.found
      (reach_lt_of_confirmed hunconfirmed h.confirmed)
  | updatePermissions id dto =>
    exact fun role h => roleStaysBelow hsync h.found
      (reach_lt_of_confirmed hunconfirmed h.confirmed)
  | deactivateRole id dto => trivial

end AccessService.ImpactAnalysis
