/-
  AccessService.ImpactAnalysis.GroupImpact

  Whom a change of one group affects: those who match just one of its rules, the old and the
  new, and, where the group grants something else than before, those who match both.
-/

import AccessService.ImpactAnalysis.AccessSources
import AccessService.UserGroups.GroupAdministrationEffects

namespace AccessService.ImpactAnalysis

open AccessService.Js AccessService.Lib AccessService.Pg AccessService.Persistence
open AccessService.UserGroups AccessService.UserGroups.Administration
open AccessService.UserGroups.UserGroupMatchingEngine

variable {types : ColumnTypes} {s s' : AccessStore} {tenantCode : String} {id : Uuid}

-- ============================================================================
-- The group with its roles
-- ============================================================================

/-- A group and the ids of its roles. -/
structure GroupConfiguration where
  group : UserGroup
  roles : Set Uuid

namespace GroupConfiguration

/-- The entries that the members have from the group. -/
def grants (c : GroupConfiguration) : Set UserEffectiveRoleEntry :=
  {e | c.group.status = .ACTIVE ∧ ∃ roleId ∈ c.roles,
    e = grant c.group ⟨c.group.tenantCode, c.group.id, roleId⟩}

/-- Whom the change from one configuration to another affects. -/
def reach (types : ColumnTypes) (db : Database) (c c' : GroupConfiguration) : Set Uuid :=
  {u | ¬(u ∈ population types db c.group ↔ u ∈ population types db c'.group) ∨
    (u ∈ population types db c.group ∧ u ∈ population types db c'.group ∧ c.grants ≠ c'.grants)}

/-- They differ at most in what neither the members nor the grants depend on. -/
structure Same (c c' : GroupConfiguration) : Prop where
  id : c.group.id = c'.group.id
  tenantCode : c.group.tenantCode = c'.group.tenantCode
  status : c.group.status = c'.group.status
  scopeType : c.group.scopeType = c'.group.scopeType
  scopeRefId : c.group.scopeRefId = c'.group.scopeRefId
  matchingRule : c.group.matchingRule = c'.group.matchingRule
  roles : c.roles = c'.roles

variable {c c' d : GroupConfiguration} {db : Database}

theorem Same.population (h : Same c c') :
    population types db c.group = population types db c'.group := by
  unfold ImpactAnalysis.population
  rw [h.id, h.tenantCode, h.matchingRule]

theorem Same.grants (h : Same c c') : c.grants = c'.grants := by
  unfold GroupConfiguration.grants grant
  rw [h.id, h.status, h.scopeType, h.scopeRefId, h.roles]

theorem Same.reach (h : Same c c') : reach types db d c = reach types db d c' := by
  unfold GroupConfiguration.reach
  rw [h.population, h.grants]

/-- The roles of an ACTIVE group can be read off what it grants. -/
theorem mem_roles_of_grants {roleId : Uuid} :
    (c.group.status = .ACTIVE ∧ roleId ∈ c.roles) ↔ ∃ e ∈ c.grants, e.roleId = roleId := by
  constructor
  · rintro ⟨hactive, hrole⟩
    exact ⟨_, ⟨hactive, roleId, hrole, rfl⟩, rfl⟩
  · rintro ⟨e, ⟨hactive, roleId', hrole, rfl⟩, rfl⟩
    exact ⟨hactive, hrole⟩

end GroupConfiguration

/-- The configuration of a stored group. -/
def AccessStore.configurationOf (s : AccessStore) (g : UserGroup) : GroupConfiguration where
  group := g
  roles := s.rolesOf g.tenantCode g.id

-- ============================================================================
-- An edit of one group
-- ============================================================================

/-- The row and the roles of one group have been written, and nothing else that access
    depends on. -/
structure GroupEdit (s s' : AccessStore) (row : UserGroupRow) (c : GroupConfiguration) : Prop where
  before : row ∈ s.administration.tables.groups.rows
  after : ∃ row' ∈ s'.administration.tables.groups.rows, row'.toUserGroup = c.group
  id : c.group.id = row.id
  tenantCode : c.group.tenantCode = row.tenantCode
  others : ∀ g, g.id ≠ row.id → (g ∈ s'.administration.tables.groups.rows ↔
    g ∈ s.administration.tables.groups.rows)
  assignments : ∀ tenantCode groupId, s'.rolesOf tenantCode groupId =
    if tenantCode = row.tenantCode ∧ groupId = row.id then c.roles
    else s.rolesOf tenantCode groupId
  roles : s'.administration.tables.roles = s.administration.tables.roles
  memberships : s'.administration.tables.memberships = s.administration.tables.memberships
  base : s'.base = s.base

namespace GroupEdit

variable {row : UserGroupRow} {c : GroupConfiguration}

theorem permits (h : GroupEdit s s' row c) : s'.permits = s.permits := by
  funext tenantCode roleId
  unfold AccessStore.permits
  rw [h.roles]

theorem population (h : GroupEdit s s' row c) (g : UserGroup) :
    population types s'.database g = population types s.database g :=
  AccessStore.population_congr h.memberships h.base

/-- The other groups are the sources they were. -/
theorem sources_others (h : GroupEdit s s' row c) {groupId : Uuid} (hother : groupId ≠ row.id) :
    (s'.sources types).members groupId = (s.sources types).members groupId ∧
      (s'.sources types).gives groupId = (s.sources types).gives groupId := by
  have hgroups : ∀ g : UserGroup, g.id = groupId →
      (g ∈ s'.database.groups.rows ↔ g ∈ s.database.groups.rows) := by
    intro g hid
    show g ∈ s'.administration.tables.groups.rows.map _ ↔
      g ∈ s.administration.tables.groups.rows.map _
    simp only [List.mem_map]
    refine exists_congr fun r => and_congr_left fun hr => h.others r ?_
    rw [show r.id = g.id from congrArg UserGroup.id hr, hid]
    exact hother
  constructor
  · ext u
    refine exists_congr fun g => ?_
    rw [h.population]
    constructor
    · rintro ⟨hg, hid, hu⟩
      exact ⟨(hgroups g hid).mp hg, hid, hu⟩
    · rintro ⟨hg, hid, hu⟩
      exact ⟨(hgroups g hid).mpr hg, hid, hu⟩
  · ext x
    refine exists_congr fun g => ?_
    have hgiven : g.id = groupId → s'.given g = s.given g := by
      intro hid
      unfold AccessStore.given
      rw [h.permits, h.assignments, if_neg fun hkey => hother (hid.symm.trans hkey.2)]
    constructor
    · rintro ⟨hg, hid, hx⟩
      exact ⟨(hgroups g hid).mp hg, hid, hgiven hid ▸ hx⟩
    · rintro ⟨hg, hid, hx⟩
      exact ⟨(hgroups g hid).mpr hg, hid, (hgiven hid).symm ▸ hx⟩

/-- The group gives the same things exactly if it grants the same entries: what a role
    permits stays. -/
theorem given_eq_iff (h : GroupEdit s s' row c) :
    s.given row.toUserGroup = s'.given c.group ↔
      (s.configurationOf row.toUserGroup).grants = c.grants := by
  have hroles : s'.rolesOf c.group.tenantCode c.group.id = c.roles := by
    rw [h.assignments, if_pos ⟨h.tenantCode, h.id⟩]
  have hentry : ∀ e, AccessItem.role e ∈ s'.given c.group ↔ e ∈ c.grants := by
    intro e
    rw [AccessStore.role_mem_given, hroles]
    rfl
  have hentry₀ : ∀ e, AccessItem.role e ∈ s.given row.toUserGroup ↔
      e ∈ (s.configurationOf row.toUserGroup).grants := fun e => AccessStore.role_mem_given
  constructor
  · intro hgiven
    ext e
    rw [← hentry, ← hentry₀, hgiven]
  · intro hgrants
    ext x
    cases x with
    | role e => rw [hentry, hentry₀, hgrants]
    | permission roleId status code =>
      rw [AccessStore.permission_mem_given, AccessStore.permission_mem_given, hroles, h.permits,
        h.tenantCode, ← and_assoc, ← and_assoc]
      refine and_congr_left fun _ => ?_
      rw [GroupConfiguration.mem_roles_of_grants, ← hgrants]
      exact GroupConfiguration.mem_roles_of_grants (c := s.configurationOf row.toUserGroup)

/-- Whom an edit affects can be told from the group before and the group after. -/
theorem affected (h : GroupEdit s s' row c) :
    AccessStore.affected types s s' =
      (s.configurationOf row.toUserGroup).reach types s.database c := by
  obtain ⟨row', hrow', hgroup⟩ := h.after
  have hbefore : row.toUserGroup ∈ s.database.groups.rows := List.mem_map_of_mem h.before
  have hafter : c.group ∈ s'.database.groups.rows :=
    hgroup ▸ List.mem_map_of_mem (f := UserGroupRow.toUserGroup) hrow'
  have hid : row.toUserGroup.id = c.group.id := h.id.symm
  rw [AccessStore.affected, Sources.affected_of_others (k := row.toUserGroup.id) fun j hj =>
    h.sources_others hj]
  ext u
  show Sources.Touches _ _ _ _ ↔ _
  have hmembers' : (s'.sources types).members row.toUserGroup.id =
      ImpactAnalysis.population types s.database c.group := by
    rw [hid, AccessStore.members_eq hafter, h.population]
  have hgives : ((s.sources types).gives row.toUserGroup.id ≠
      (s'.sources types).gives row.toUserGroup.id) ↔
        (s.configurationOf row.toUserGroup).grants ≠ c.grants := by
    rw [AccessStore.gives_eq hbefore, hid, AccessStore.gives_eq hafter]
    exact not_congr h.given_eq_iff
  rw [Sources.Touches, hmembers', AccessStore.members_eq hbefore, hgives]
  rfl

end GroupEdit

end AccessService.ImpactAnalysis
