/-
  AccessService.ImpactAnalysis.RoleImpact

  Whom a change of one role affects: everybody who has the role from an ACTIVE group, where
  the role permits something else than before.
-/

import AccessService.ImpactAnalysis.AccessSources

namespace AccessService.ImpactAnalysis

open AccessService.Lib AccessService.Pg AccessService.Persistence
open AccessService.Roles (RoleStatus StoredRole)
open AccessService.UserGroups AccessService.UserGroups.UserGroupMatchingEngine

variable {types : ColumnTypes} {s s' : AccessStore} {role role' : StoredRole}

/-- What a role permits. -/
def permitted (role : StoredRole) : Set (RoleStatus × String) :=
  {x | x.1 = role.row.status ∧ ∃ p ∈ role.permissions.rows, p.permissionCode = x.2}

/-- Everybody who has the role, once everything is reconciled. -/
def holders (types : ColumnTypes) (s : AccessStore) (role : StoredRole) : Set Uuid :=
  {u | ∃ g ∈ s.database.groups.rows, g.tenantCode = role.row.tenantCode ∧ g.status = .ACTIVE ∧
    role.id ∈ s.rolesOf g.tenantCode g.id ∧ u ∈ population types s.database g}

/-- One role has been written, and nothing else that access depends on. -/
structure RoleEdit (s s' : AccessStore) (role role' : StoredRole) : Prop where
  before : role ∈ s.administration.tables.roles.rows
  after : role' ∈ s'.administration.tables.roles.rows
  id : role'.id = role.id
  tenantCode : role'.row.tenantCode = role.row.tenantCode
  others : ∀ other, other.id ≠ role.id → (other ∈ s'.administration.tables.roles.rows ↔
    other ∈ s.administration.tables.roles.rows)
  tables : s'.administration.tables =
    { s.administration.tables with roles := s'.administration.tables.roles }
  base : s'.base = s.base

theorem permits_stored (hrole : role ∈ s.administration.tables.roles.rows) :
    s.permits role.row.tenantCode role.id = permitted role := by
  ext x
  constructor
  · rintro ⟨other, hother, -, hid, hx⟩
    rw [s.administration.tables.roles.row_unique hother hrole hid] at hx
    exact hx
  · exact fun hx => ⟨role, hrole, rfl, rfl, hx⟩

namespace RoleEdit

theorem permits_others (h : RoleEdit s s' role role') {tenantCode : String} {roleId : Uuid}
    (hother : ¬(tenantCode = role.row.tenantCode ∧ roleId = role.id)) :
    s'.permits tenantCode roleId = s.permits tenantCode roleId := by
  ext x
  refine exists_congr fun other => ?_
  by_cases hid : other.id = role.id
  · -- the role itself, under another tenant or id
    constructor
    · rintro ⟨hmem, htenant, hrole, -⟩
      have hsame := s'.administration.tables.roles.row_unique hmem h.after (hid.trans h.id.symm)
      refine absurd ⟨?_, hrole.symm.trans hid⟩ hother
      rw [← htenant, hsame, h.tenantCode]
    · rintro ⟨hmem, htenant, hrole, -⟩
      have hsame := s.administration.tables.roles.row_unique hmem h.before hid
      refine absurd ⟨?_, hrole.symm.trans hid⟩ hother
      rw [← htenant, hsame]
  · exact and_congr_left fun _ => h.others other hid

theorem rolesOf (h : RoleEdit s s' role role') : s'.rolesOf = s.rolesOf := by
  funext tenantCode groupId
  show {roleId | _ ∈ s'.administration.tables.groupRoles.rows.map Prod.snd} = _
  rw [h.tables]
  rfl

theorem groups (h : RoleEdit s s' role role') :
    s'.database.groups.rows = s.database.groups.rows := by
  show s'.administration.tables.groups.rows.map _ = _
  rw [h.tables]
  rfl

theorem members (h : RoleEdit s s' role role') :
    (s'.sources types).members = (s.sources types).members := by
  have hmemberships : s'.administration.tables.memberships =
      s.administration.tables.memberships := by rw [h.tables]
  funext groupId
  ext u
  refine exists_congr fun g => ?_
  rw [h.groups, AccessStore.population_congr hmemberships h.base]

/-- A group gives something else exactly if it is ACTIVE, has the role, and the role permits
    something else. -/
theorem given_ne_iff (h : RoleEdit s s' role role') {g : UserGroup} :
    s.given g ≠ s'.given g ↔ (g.tenantCode = role.row.tenantCode ∧ g.status = .ACTIVE ∧
      role.id ∈ s.rolesOf g.tenantCode g.id) ∧ permitted role ≠ permitted role' := by
  have hbefore : s.permits role.row.tenantCode role.id = permitted role := permits_stored h.before
  have hafter : s'.permits role.row.tenantCode role.id = permitted role' := by
    rw [← h.tenantCode, ← h.id]
    exact permits_stored h.after
  have hgiven : s.given g = s'.given g ↔ (g.tenantCode = role.row.tenantCode ∧
      g.status = .ACTIVE ∧ role.id ∈ s.rolesOf g.tenantCode g.id →
        permitted role = permitted role') := by
    constructor
    · rintro hgiven ⟨htenant, hactive, hrole⟩
      ext ⟨status, code⟩
      have hitem := Set.ext_iff.mp hgiven (.permission role.id status code)
      rw [AccessStore.permission_mem_given, AccessStore.permission_mem_given, h.rolesOf] at hitem
      simp only [hactive, hrole, true_and] at hitem
      rwa [htenant, hbefore, hafter] at hitem
    · intro hsame
      ext x
      cases x with
      | role e => rw [AccessStore.role_mem_given, AccessStore.role_mem_given, h.rolesOf]
      | permission roleId status code =>
        rw [AccessStore.permission_mem_given, AccessStore.permission_mem_given, h.rolesOf]
        refine and_congr_right fun hactive => and_congr_right fun hrole => ?_
        by_cases hkey : g.tenantCode = role.row.tenantCode ∧ roleId = role.id
        · obtain ⟨htenant, rfl⟩ := hkey
          rw [htenant, hbefore, hafter, hsame ⟨htenant, hactive, hrole⟩]
        · rw [h.permits_others hkey]
  rw [ne_eq, hgiven, Classical.not_imp]

/-- Whom an edit of a role affects. -/
theorem affected (h : RoleEdit s s' role role') :
    AccessStore.affected types s s' =
      {u | u ∈ holders types s role ∧ permitted role ≠ permitted role'} := by
  rw [AccessStore.affected, Sources.affected_of_members h.members]
  ext u
  constructor
  · rintro ⟨groupId, ⟨g, hg, rfl, hu⟩, hgives⟩
    have hg' : g ∈ s'.database.groups.rows := by
      rw [h.groups]
      exact hg
    rw [AccessStore.gives_eq hg, AccessStore.gives_eq hg', h.given_ne_iff] at hgives
    obtain ⟨⟨htenant, hactive, hrole⟩, hne⟩ := hgives
    exact ⟨⟨g, hg, htenant, hactive, hrole, hu⟩, hne⟩
  · rintro ⟨⟨g, hg, htenant, hactive, hrole, hu⟩, hne⟩
    have hg' : g ∈ s'.database.groups.rows := by
      rw [h.groups]
      exact hg
    refine ⟨g.id, ⟨g, hg, rfl, hu⟩, ?_⟩
    rw [AccessStore.gives_eq hg, AccessStore.gives_eq hg', h.given_ne_iff]
    exact ⟨⟨htenant, hactive, hrole⟩, hne⟩

end RoleEdit

end AccessService.ImpactAnalysis
