/-
  AccessService.Roles.RolePermissionClosure

  The permissions of every role stay closed under what they require.  An edit stores a
  set that has been validated; what it leaves of the old set is what its role's
  template protects, and a request has to list that again.
-/

import AccessService.Permissions.PermissionGraph
import AccessService.Roles.RoleTransitions

namespace AccessService.Roles

open AccessService.Lib AccessService.Lib.Transition AccessService.Permissions AccessService.Pg
open AccessService.Persistence
open PermissionGraphBuilder RoleApplicationService

def templateCodes (key : SystemRoleKey) : List String :=
  (SYSTEM_ROLE_TEMPLATES key).map (·.permissionCode)

/-- Every role is a system role with the permissions of its template. -/
def SystemRolesOnly (s : RoleStore) : Prop :=
  ∀ role ∈ s.roles.rows, ∃ key, role.row.type = .SYSTEM ∧ role.row.systemRoleKey = some key ∧
    role.permissions.rows = SYSTEM_ROLE_TEMPLATES key

/-- The codes are closed, and of them only those are protected that the template of the
    role protects. -/
structure ClosedRole (catalog : List PermissionDefinition) (role : StoredRole) : Prop where
  closed : PrerequisiteClosed catalog role.permissionCodes
  guarded : ∀ p ∈ role.permissions.rows, p.isProtected = true →
    p.permissionCode ∈ protectedCodes role.row.type role.row.systemRoleKey

variable {catalog : List PermissionDefinition} {tenantCode : String}

-- ============================================================================
-- New sets of permissions
-- ============================================================================

theorem unprotected_codes (codes : List String) :
    (unprotected codes).map (·.permissionCode) = codes := by
  rw [unprotected, List.map_map]
  exact List.map_id codes

theorem mem_unprotected {codes : List String} {p : RolePermission} (h : p ∈ unprotected codes) :
    p.isProtected = false := by
  obtain ⟨code, -, rfl⟩ := List.mem_map.mp h
  rfl

/-- A request that passes its checks lists what the template of the role protects. -/
theorem protected_requested {request : RoleRequest} {role : RoleEntity}
    {permissions : List RolePermission} (hchecked : checkRole request role = .ok ())
    (hnew : newPermissions request role = some permissions) {code : String}
    (hcode : code ∈ protectedCodes role.type role.systemRoleKey) :
    code ∈ permissions.map (·.permissionCode) := by
  cases request with
  | updateCustom dto =>
    obtain ⟨u, hsystem, -⟩ := Sql.bind_eq_ok.mp hchecked
    unfold checkNotSystem at hsystem
    split at hsystem
    · cases hsystem
    next hcustom =>
      have htype : role.type = .CUSTOM := by
        cases h : role.type with
        | SYSTEM => exact absurd h hcustom
        | CUSTOM => rfl
      rw [htype] at hcode
      exact absurd hcode List.not_mem_nil
  | updatePermissions dto =>
    obtain ⟨u, -, hprotected⟩ := Sql.bind_eq_ok.mp hchecked
    unfold checkProtected at hprotected
    simp only at hprotected
    split at hprotected
    · cases hprotected
    next hnone =>
      have hnil := List.length_eq_zero_iff.mp (Nat.eq_zero_of_not_pos hnone)
      have hlisted := List.filter_eq_nil_iff.mp hnil code hcode
      rw [decide_eq_true_eq, not_not] at hlisted
      rw [← Option.some.inj hnew, List.map_map]
      exact List.mem_map.mpr ⟨code, hlisted, rfl⟩
  | deactivate dto => cases hnew

/-- Only what the template of the role protects is stored as protected. -/
theorem newPermissions_guarded {request : RoleRequest} {role : RoleEntity}
    {permissions : List RolePermission} (hnew : newPermissions request role = some permissions)
    {p : RolePermission} (hp : p ∈ permissions) (hprotected : p.isProtected = true) :
    p.permissionCode ∈ protectedCodes role.type role.systemRoleKey := by
  cases request with
  | updateCustom dto =>
    rw [← Option.some.inj hnew] at hp
    obtain ⟨code, -, rfl⟩ := List.mem_map.mp hp
    cases hprotected
  | updatePermissions dto =>
    rw [← Option.some.inj hnew] at hp
    obtain ⟨code, -, rfl⟩ := List.mem_map.mp hp
    exact of_decide_eq_true hprotected
  | deactivate dto => cases hnew

/-- What an edit does to the permissions: the protected ones stay before the new ones,
    or all stay. -/
theorem write_rows {call : RoleCall} {lockedRole : RoleEntity} {role role' : StoredRole}
    (h : write call lockedRole role = some role') :
    (newPermissions call.request lockedRole = none ∧ role'.permissions = role.permissions) ∨
      ∃ permissions, newPermissions call.request lockedRole = some permissions ∧
        role'.permissions.rows =
          (role.permissions.deleteWhere fun p => !p.isProtected).rows ++ permissions := by
  unfold write at h
  simp only at h
  split at h
  next permissions hnew =>
    obtain ⟨replaced, hreplaced, rfl⟩ := Option.map_eq_some_iff.mp h
    obtain ⟨table, htable, rfl⟩ := Option.map_eq_some_iff.mp hreplaced
    exact .inr ⟨permissions, hnew, Keyed.insertAll_rows htable⟩
  next hnew =>
    obtain rfl := Option.some.inj h
    exact .inl ⟨hnew, rfl⟩

/-- An edit that stores new permissions leaves none of the old: a protected one would be
    there twice. -/
theorem write_replaces {call : RoleCall} {role role' : StoredRole}
    {permissions : List RolePermission} (hrole : ClosedRole catalog role)
    (hchecked : checkRole call.request (.load role.row) = .ok ())
    (hnew : newPermissions call.request (.load role.row) = some permissions)
    (hrows : role'.permissions.rows =
      (role.permissions.deleteWhere fun p => !p.isProtected).rows ++ permissions) :
    role'.permissions.rows = permissions := by
  rw [hrows, List.append_left_eq_self, List.eq_nil_iff_forall_not_mem]
  intro p hp
  obtain ⟨hmem, hprotected⟩ := Keyed.mem_deleteWhere.mp hp
  rw [Bool.not_eq_false'] at hprotected
  have hlisted := protected_requested hchecked hnew (hrole.guarded p hmem hprotected)
  have hnodup := role'.permissions.nodup
  rw [hrows, List.map_append, List.nodup_append'] at hnodup
  exact hnodup.2.2 (List.mem_map_of_mem hp) hlisted

-- ============================================================================
-- Transitions
-- ============================================================================

theorem closedRole_of_template {role : StoredRole} {key : SystemRoleKey}
    (htemplate : PrerequisiteClosed catalog (templateCodes key))
    (htype : role.row.type = .SYSTEM) (hkey : role.row.systemRoleKey = some key)
    (hpermissions : role.permissions.rows = SYSTEM_ROLE_TEMPLATES key) :
    ClosedRole catalog role := by
  refine ⟨?_, fun p hp hprotected => ?_⟩
  · rw [StoredRole.permissionCodes, hpermissions]
    exact htemplate
  · rw [hpermissions] at hp
    rw [htype, hkey]
    exact List.mem_map_of_mem (List.mem_filter.mpr ⟨hp, hprotected⟩)

theorem ClosedRole.edit {call : RoleCall} {role role' : StoredRole}
    (hrole : ClosedRole catalog role)
    (hchecked : checkRole call.request (.load role.row) = .ok ())
    (hvalid : RequestValid (buildGraph catalog) call.request)
    (hwrite : write call (.load role.row) role = some role') : ClosedRole catalog role' := by
  obtain ⟨htype, hkey⟩ := write_kind hwrite
  have hcodes : protectedCodes role'.row.type role'.row.systemRoleKey =
      protectedCodes role.row.type role.row.systemRoleKey :=
    congrArg₂ protectedCodes htype.symm hkey.symm
  rcases write_rows hwrite with ⟨-, hsame⟩ | ⟨permissions, hnew, hrows⟩
  · refine ⟨?_, fun p hp hprotected => ?_⟩
    · rw [StoredRole.permissionCodes, hsame]
      exact hrole.closed
    · rw [hsame] at hp
      rw [hcodes]
      exact hrole.guarded p hp hprotected
  · have hall := write_replaces hrole hchecked hnew hrows
    refine ⟨?_, fun p hp hprotected => ?_⟩
    · rw [StoredRole.permissionCodes, hall]
      exact prerequisiteClosed_of_valid (hvalid _ _ hnew)
    · rw [hall] at hp
      rw [hcodes]
      exact newPermissions_guarded hnew hp hprotected

/-- Where one role changes, the others stay closed. -/
theorem closed_of_change {before after : RoleTable} {role : StoredRole}
    (hbefore : ∀ role ∈ before.rows, ClosedRole catalog role) (hrole : ClosedRole catalog role)
    (hchange : TableChange before after role) : ∀ role ∈ after.rows, ClosedRole catalog role := by
  intro other hother
  rcases hchange.mem hother with rfl | ⟨hmem, -⟩
  · exact hrole
  · exact hbefore other hmem

theorem closed_of_seeds {before after : RoleTable}
    (htemplates : ∀ key, PrerequisiteClosed catalog (templateCodes key))
    (hbefore : ∀ role ∈ before.rows, ClosedRole catalog role)
    (h : Relation.ReflTransGen (SeedsSome tenantCode) before after) :
    ∀ role ∈ after.rows, ClosedRole catalog role := by
  induction h with
  | refl => exact hbefore
  | tail _ hstep ih =>
    obtain ⟨key, -, role, hrow, hpermissions, -, hchange⟩ := hstep
    refine closed_of_change ih (closedRole_of_template (htemplates key) ?_ ?_ hpermissions) hchange
    · rw [hrow]
      rfl
    · rw [hrow]
      rfl

theorem closed_transition {before after : RoleTable}
    (htemplates : ∀ key, PrerequisiteClosed catalog (templateCodes key))
    (hbefore : ∀ role ∈ before.rows, ClosedRole catalog role)
    (h : RoleTransition (buildGraph catalog) tenantCode before after) :
    ∀ role ∈ after.rows, ClosedRole catalog role := by
  cases h with
  | same => exact hbefore
  | @created _ role codes custom noKey permissions allowed fresh change =>
    have hcodes : role.permissionCodes = codes := by
      rw [StoredRole.permissionCodes, permissions, unprotected_codes]
    refine closed_of_change hbefore ⟨?_, fun p hp hprotected => ?_⟩ change
    · rw [hcodes]
      rcases allowed with hvalid | ⟨source, hsource, rfl⟩
      · exact prerequisiteClosed_of_valid hvalid
      · exact (hbefore source hsource).closed
    · rw [permissions] at hp
      rw [mem_unprotected hp] at hprotected
      cases hprotected
  | edited mem checked valid written change =>
    exact closed_of_change hbefore ((hbefore _ mem).edit checked valid written) change
  | @saved _ role role' mem id tenant kind permissions status change =>
    obtain ⟨htype, hkey⟩ := kind
    have hrole := hbefore role mem
    refine closed_of_change hbefore ⟨?_, fun p hp hprotected => ?_⟩ change
    · rw [StoredRole.permissionCodes, permissions]
      exact hrole.closed
    · rw [permissions] at hp
      have hguarded := hrole.guarded p hp hprotected
      rwa [show role.row.type = role'.row.type from htype,
        show role.row.systemRoleKey = role'.row.systemRoleKey from hkey] at hguarded
  | deleted mem custom rest => exact fun role hrole => hbefore role ((rest role).mp hrole).1
  | seeded steps => exact closed_of_seeds htemplates hbefore steps

-- ============================================================================
-- Runs
-- ============================================================================

/-- In every state reached by seedings and role operations, the codes of every role are
    known to the catalog, and with each code everything it requires through a chain. -/
theorem role_permissions_closed {t : RoleStore}
    (htemplates : ∀ key, PrerequisiteClosed catalog (templateCodes key))
    (h : (roleActivities (buildGraph catalog) SystemRolesOnly).Reachable Always t) :
    ∀ role ∈ t.roles.rows,
      (∀ code ∈ role.permissionCodes, Known catalog code) ∧
        ∀ code ∈ role.permissionCodes, ∀ required,
          Relation.TransGen (Requires catalog) code required → required ∈ role.permissionCodes := by
  have hclosed : ∀ role ∈ t.roles.rows, ClosedRole catalog role := by
    refine h.invariant (fun s => ∀ role ∈ s.roles.rows, ClosedRole catalog role) ?_ ?_
    · intro s hs role hrole
      obtain ⟨key, htype, hkey, hpermissions⟩ := hs role hrole
      exact closedRole_of_template (htemplates key) htype hkey hpermissions
    · exact fun s x u _ hs _ hstep => closed_transition htemplates hs (roleActivities_step hstep)
  intro role hrole
  have hrole := (hclosed role hrole).closed
  exact ⟨hrole.known, fun code hcode required hchain => hrole.chain hcode hchain⟩

-- ============================================================================
-- A run
-- ============================================================================

theorem platform_templates_closed (key : SystemRoleKey) :
    PrerequisiteClosed platformCatalog (templateCodes key) := by
  cases key
  case EMPLOYEE => exact prerequisiteClosed_of_valid (by decide +kernel)
  case MANAGER => exact prerequisiteClosed_of_valid (by decide +kernel)
  case ADMINISTRATOR => exact prerequisiteClosed_of_valid (by decide +kernel)

theorem systemRolesOnly_empty : SystemRolesOnly emptyRoleStore :=
  fun _ h => absurd h List.not_mem_nil

def copiedRoleId : Uuid := ⟨"5b1d0b60-0000-4000-8000-000000000004", by decide⟩

/-- A copy of a seeded role, a role of its own, and a request for a code without its
    prerequisite. -/
def seedCopyAndCreate : List RoleActivity :=
  [⟨"acme", none, .seedBaselineSystemRoles seededIds, []⟩,
    ⟨"acme", none, .perform (.copy copiedRoleId (seededIds .MANAGER) { name := "Team lead" }), []⟩,
    ⟨"acme", none, .perform (.createCustom sampleRoleId
      { name := "Reviewer", permissionCodes := ["leave.view", "leave.approve"] }), []⟩,
    ⟨"acme", none, .perform (.updateCustom sampleRoleId
      { name := "Reviewer", permissionCodes := ["leave.approve"] }), []⟩]

theorem role_permissions_closed_sample :
    ∃ t, (roleActivities (buildGraph platformCatalog) SystemRolesOnly).run Always emptyRoleStore
        seedCopyAndCreate = some t ∧
      ∀ role ∈ t.roles.rows,
        (∀ code ∈ role.permissionCodes, Known platformCatalog code) ∧
          ∀ code ∈ role.permissionCodes, ∀ required,
            Relation.TransGen (Requires platformCatalog) code required →
              required ∈ role.permissionCodes := by
  have hruns : ((roleActivities (buildGraph platformCatalog) SystemRolesOnly).run Always
      emptyRoleStore seedCopyAndCreate).isSome = true := rfl
  obtain ⟨t, ht⟩ := Option.isSome_iff_exists.mp hruns
  exact ⟨t, ht, role_permissions_closed platform_templates_closed
    (.of_run systemRolesOnly_empty ht)⟩

/-- The last request is refused. -/
example : ((roleActivities (buildGraph platformCatalog) SystemRolesOnly).run Always emptyRoleStore
    seedCopyAndCreate).any (fun t => t.roles.rows.map StoredRole.permissionCodes =
      [templateCodes .EMPLOYEE, templateCodes .MANAGER, templateCodes .ADMINISTRATOR,
        templateCodes .MANAGER, ["leave.view", "leave.approve"]]) = true := by
  decide +kernel

end AccessService.Roles
