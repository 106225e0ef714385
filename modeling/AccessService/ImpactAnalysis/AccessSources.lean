/-
  AccessService.ImpactAnalysis.AccessSources

  What a full reconciliation gives whom.  The groups are the sources: the members of a group
  are the ids that its matching query selects, and an ACTIVE group gives each of them its
  roles, in its scope, with what these roles permit.
-/

import AccessService.ImpactAnalysis.AccessStore
import AccessService.Lib.Sources
import AccessService.UserGroups.EmployeeAttributePropagation

namespace AccessService.ImpactAnalysis

open AccessService.Lib AccessService.Pg AccessService.Persistence
open AccessService.Roles (RoleStatus)
open AccessService.UserGroups
open AccessService.UserGroups.UserGroupMatchingEngine

-- ============================================================================
-- Groups as sources
-- ============================================================================

/-- What somebody has from a group. -/
inductive AccessItem where
  | role (entry : UserEffectiveRoleEntry)
  /-- A code of the role's permissions, and the status of the role. -/
  | permission (roleId : Uuid) (status : RoleStatus) (code : String)
  deriving DecidableEq

/-- The members that a reconciliation leaves a group.  Without a rule it keeps those it has. -/
def population (types : ColumnTypes) (db : Database) (g : UserGroup) : Set Uuid :=
  match g.matchingRule with
  | some rule => {u | u ∈ db.matchedEmployeeIds types (buildMatchingQuery g.tenantCode rule)}
  | none => {u | ⟨g.tenantCode, g.id, u⟩ ∈ db.memberships.rows}

namespace AccessStore

/-- What a role of the tenant permits. -/
def permits (s : AccessStore) (tenantCode : String) (roleId : Uuid) : Set (RoleStatus × String) :=
  {x | ∃ role ∈ s.administration.tables.roles.rows, role.row.tenantCode = tenantCode ∧
    role.id = roleId ∧ x.1 = role.row.status ∧
      ∃ p ∈ role.permissions.rows, p.permissionCode = x.2}

/-- The ids of the roles assigned to a group. -/
def rolesOf (s : AccessStore) (tenantCode : String) (groupId : Uuid) : Set Uuid :=
  {roleId | ⟨tenantCode, groupId, roleId⟩ ∈ s.assignments.rows}

/-- What a group gives its members. -/
def given (s : AccessStore) (g : UserGroup) : Set AccessItem :=
  {x | g.status = .ACTIVE ∧ ∃ roleId ∈ s.rolesOf g.tenantCode g.id,
    x = .role (grant g ⟨g.tenantCode, g.id, roleId⟩) ∨
      ∃ y ∈ s.permits g.tenantCode roleId, x = .permission roleId y.1 y.2}

def sources (s : AccessStore) (types : ColumnTypes) : Sources Uuid Uuid AccessItem where
  members groupId := {u | ∃ g ∈ s.database.groups.rows, g.id = groupId ∧
    u ∈ population types s.database g}
  gives groupId := {x | ∃ g ∈ s.database.groups.rows, g.id = groupId ∧ x ∈ s.given g}

/-- Those who gain or lose a membership or access, once everything is reconciled. -/
def affected (types : ColumnTypes) (s s' : AccessStore) : Set Uuid :=
  (s.sources types).affected (s'.sources types)

end AccessStore

-- ============================================================================
-- One group
-- ============================================================================

section Group

variable {types : ColumnTypes} {s s' : AccessStore} {g : UserGroup}

namespace AccessStore

theorem mem_assignments {r : UserGroupRole} :
    r ∈ s.assignments.rows ↔ ∃ n, (n, r) ∈ s.administration.tables.groupRoles.rows := by
  show r ∈ s.administration.tables.groupRoles.rows.map Prod.snd ↔ _
  rw [List.mem_map]
  constructor
  · rintro ⟨⟨n, r⟩, hmem, rfl⟩
    exact ⟨n, hmem⟩
  · rintro ⟨n, hmem⟩
    exact ⟨_, hmem, rfl⟩

theorem members_eq (hg : g ∈ s.database.groups.rows) :
    (s.sources types).members g.id = population types s.database g := by
  ext u
  constructor
  · rintro ⟨g', hg', hid, hu⟩
    rw [← s.database.groups.row_unique hg' hg hid]
    exact hu
  · exact fun hu => ⟨g, hg, rfl, hu⟩

theorem gives_eq (hg : g ∈ s.database.groups.rows) :
    (s.sources types).gives g.id = s.given g := by
  ext x
  constructor
  · rintro ⟨g', hg', hid, hx⟩
    rw [← s.database.groups.row_unique hg' hg hid]
    exact hx
  · exact fun hx => ⟨g, hg, rfl, hx⟩

/-- A role is given with the group as its source. -/
theorem role_mem_given {e : UserEffectiveRoleEntry} :
    AccessItem.role e ∈ s.given g ↔ g.status = .ACTIVE ∧
      ∃ roleId ∈ s.rolesOf g.tenantCode g.id, e = grant g ⟨g.tenantCode, g.id, roleId⟩ := by
  constructor
  · rintro ⟨hactive, roleId, hrole, he | ⟨y, -, he⟩⟩
    · exact ⟨hactive, roleId, hrole, AccessItem.role.inj he⟩
    · cases he
  · rintro ⟨hactive, roleId, hrole, rfl⟩
    exact ⟨hactive, roleId, hrole, .inl rfl⟩

theorem permission_mem_given {roleId : Uuid} {status : RoleStatus} {code : String} :
    AccessItem.permission roleId status code ∈ s.given g ↔ g.status = .ACTIVE ∧
      roleId ∈ s.rolesOf g.tenantCode g.id ∧ (status, code) ∈ s.permits g.tenantCode roleId := by
  constructor
  · rintro ⟨hactive, roleId', hrole, he | ⟨y, hy, he⟩⟩
    · cases he
    · obtain ⟨rfl, rfl, rfl⟩ := AccessItem.permission.inj he
      exact ⟨hactive, hrole, hy⟩
  · rintro ⟨hactive, hrole, hy⟩
    exact ⟨hactive, roleId, hrole, .inr ⟨_, hy, rfl⟩⟩

/-- The members depend on the row of the group, the employees and the stored memberships. -/
theorem population_congr
    (hmemberships : s'.administration.tables.memberships = s.administration.tables.memberships)
    (hbase : s'.base = s.base) :
    population types s'.database g = population types s.database g := by
  unfold population
  split
  · unfold Database.matchedEmployeeIds
    show {u | u ∈ (s'.base.db.employees.rows.filter _).map _} = _
    rw [hbase]
    rfl
  · show {u | _ ∈ s'.administration.tables.memberships.rows} = _
    rw [hmemberships]
    rfl

end AccessStore

end Group

end AccessService.ImpactAnalysis
