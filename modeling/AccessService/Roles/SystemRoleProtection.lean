/-
  AccessService.Roles.SystemRoleProtection

  The system roles of a tenant after its first seeding: one for each key, whatever
  operations and further seedings follow.
-/

import AccessService.Roles.RoleTransitions

namespace AccessService.Roles

open AccessService.Lib AccessService.Lib.Transition AccessService.Permissions AccessService.Pg
open AccessService.Persistence
open RoleApplicationService SystemRoleSeederService

/-- The tenant has no system role yet. -/
def NoSystemRoles (tenantCode : String) (s : RoleStore) : Prop :=
  ∀ role ∈ s.roles.rows, ∀ key, ¬HasKey tenantCode key role

/-- The activity is on the tenant. -/
def OnTenant (tenantCode : String) (_ : RoleStore) (x : RoleActivity) : Prop :=
  x.tenantCode = tenantCode

instance (tenantCode : String) (s : RoleStore) (x : RoleActivity) :
    Decidable (OnTenant tenantCode s x) :=
  inferInstanceAs (Decidable (x.tenantCode = tenantCode))

/-- The role still does what the template of the key wants of it. -/
structure Guarded (key : SystemRoleKey) (role : StoredRole) : Prop where
  system : role.row.type = .SYSTEM
  active : key = .ADMINISTRATOR → role.row.status = .ACTIVE
  capabilities : ∀ p ∈ SYSTEM_ROLE_TEMPLATES key, p.isProtected = true → p ∈ role.permissions.rows

/-- A role that has a key is guarded, and has the key alone. -/
structure KeysGuarded (tenantCode : String) (table : RoleTable) : Prop where
  guarded : ∀ role ∈ table.rows, ∀ key, HasKey tenantCode key role → Guarded key role
  unique : ∀ role ∈ table.rows, ∀ other ∈ table.rows, ∀ key, HasKey tenantCode key role →
    HasKey tenantCode key other → other = role

def AllKeys (tenantCode : String) (table : RoleTable) : Prop :=
  ∀ key, ∃ role ∈ table.rows, HasKey tenantCode key role

/-- Exactly one role for each key, with what its template protects, and the
    administrator's is ACTIVE. -/
structure SystemRolesKept (tenantCode : String) (table : RoleTable) : Prop where
  one : ∀ key, ∃! role, role ∈ table.rows ∧ HasKey tenantCode key role
  active : ∀ role ∈ table.rows, HasKey tenantCode .ADMINISTRATOR role → role.row.status = .ACTIVE
  capabilities : ∀ role ∈ table.rows, ∀ key, HasKey tenantCode key role →
    ∀ p ∈ SYSTEM_ROLE_TEMPLATES key, p.isProtected = true → p ∈ role.permissions.rows

variable {tenantCode : String} {before after : RoleTable}

theorem KeysGuarded.kept (h : KeysGuarded tenantCode after) (hall : AllKeys tenantCode after) :
    SystemRolesKept tenantCode after := by
  refine ⟨fun key => ?_, fun role hrole hkey => ?_, fun role hrole key hkey => ?_⟩
  · obtain ⟨role, hrole, hkey⟩ := hall key
    exact ⟨role, ⟨hrole, hkey⟩, fun other ⟨hother, hkey'⟩ =>
      h.unique role hrole other hother key hkey hkey'⟩
  · exact (h.guarded role hrole _ hkey).active rfl
  · exact (h.guarded role hrole key hkey).capabilities

-- ============================================================================
-- Changes of one role
-- ============================================================================

/-- A new role has no key, or a key that no role has had. -/
theorem KeysGuarded.add {role : StoredRole} (h : KeysGuarded tenantCode before)
    (hnew : ∀ key, HasKey tenantCode key role →
      Guarded key role ∧ ∀ other ∈ before.rows, ¬HasKey tenantCode key other)
    (hchange : TableChange before after role) : KeysGuarded tenantCode after := by
  refine ⟨fun other hother key hkey => ?_, fun one hone other hother key hkey hkey' => ?_⟩
  · rcases hchange.mem hother with rfl | ⟨hmem, -⟩
    · exact (hnew key hkey).1
    · exact h.guarded other hmem key hkey
  · rcases hchange.mem hone with rfl | ⟨hmem, -⟩ <;>
      rcases hchange.mem hother with rfl | ⟨hmem', -⟩
    · rfl
    · exact absurd hkey' ((hnew key hkey).2 other hmem')
    · exact absurd hkey ((hnew key hkey').2 one hmem)
    · exact h.unique one hmem other hmem' key hkey hkey'

/-- A role is written over and has the keys it had. -/
theorem KeysGuarded.replace {role role' : StoredRole} (h : KeysGuarded tenantCode before)
    (hrole : role ∈ before.rows) (hid : role'.id = role.id)
    (hkeys : ∀ key, HasKey tenantCode key role' ↔ HasKey tenantCode key role)
    (hguarded : ∀ key, HasKey tenantCode key role → Guarded key role → Guarded key role')
    (hchange : TableChange before after role') : KeysGuarded tenantCode after := by
  refine ⟨fun other hother key hkey => ?_, fun one hone other hother key hkey hkey' => ?_⟩
  · rcases hchange.mem hother with rfl | ⟨hmem, -⟩
    · have hold := (hkeys key).mp hkey
      exact hguarded key hold (h.guarded role hrole key hold)
    · exact h.guarded other hmem key hkey
  · rcases hchange.mem hone with rfl | ⟨hmem, hne⟩ <;>
      rcases hchange.mem hother with rfl | ⟨hmem', hne'⟩
    · rfl
    · have hsame := h.unique role hrole other hmem' key ((hkeys key).mp hkey) hkey'
      exact absurd (hsame ▸ hid.symm) hne'
    · have hsame := h.unique role hrole one hmem key ((hkeys key).mp hkey') hkey
      exact absurd (hsame ▸ hid.symm) hne
    · exact h.unique one hmem other hmem' key hkey hkey'

theorem AllKeys.replace {role role' : StoredRole} (h : AllKeys tenantCode before)
    (hrole : role ∈ before.rows) (hid : role'.id = role.id)
    (hkeys : ∀ key, HasKey tenantCode key role' ↔ HasKey tenantCode key role)
    (hchange : TableChange before after role') : AllKeys tenantCode after := by
  intro key
  obtain ⟨other, hother, hkey⟩ := h key
  by_cases hsame : other.id = role.id
  · obtain rfl := before.row_unique hother hrole hsame
    exact ⟨role', hchange.stored, (hkeys key).mpr hkey⟩
  · exact ⟨other, (hchange.others other (hid ▸ hsame)).mpr hother, hkey⟩

-- ============================================================================
-- The edits
-- ============================================================================

section Edits

variable {call : RoleCall} {role role' : StoredRole} {key : SystemRoleKey}

/-- What an edit leaves of the columns that it does not set. -/
theorem write_columns (h : write call (.load role.row) role = some role') :
    role'.id = role.id ∧ role'.row.tenantCode = role.row.tenantCode ∧
      role'.row.type = role.row.type ∧ role'.row.systemRoleKey = role.row.systemRoleKey ∧
      role'.row.status = (change call (.load role.row)).status := by
  have hrow := write_row h
  obtain ⟨request, userId⟩ := call
  rw [StoredRole.id, hrow]
  cases request <;> exact ⟨rfl, rfl, rfl, rfl, rfl⟩

theorem hasKey_of_columns (htenant : role'.row.tenantCode = role.row.tenantCode)
    (hkey : role'.row.systemRoleKey = role.row.systemRoleKey) (key : SystemRoleKey) :
    HasKey tenantCode key role' ↔ HasKey tenantCode key role := by
  rw [HasKey, HasKey, htenant, hkey]

/-- An edit that the checks let through leaves the administrator's role ACTIVE. -/
theorem write_active (hchecked : checkRole call.request (.load role.row) = .ok ())
    (htype : role.row.type = .SYSTEM) (hkey : role.row.systemRoleKey = some .ADMINISTRATOR)
    (hactive : role.row.status = .ACTIVE) :
    (change call (.load role.row)).status = .ACTIVE := by
  obtain ⟨request, userId⟩ := call
  cases request with
  | updateCustom dto => exact hactive
  | updatePermissions dto => exact hactive
  | deactivate dto =>
    obtain ⟨u, hcritical, -⟩ := Sql.bind_eq_ok.mp hchecked
    unfold checkNotCritical at hcritical
    rw [if_pos ⟨htype, hkey⟩] at hcritical
    cases hcritical

/-- A protected permission outlasts an edit. -/
theorem write_keeps_protected (h : write call (.load role.row) role = some role')
    {p : RolePermission} (hp : p ∈ role.permissions.rows) (hprotected : p.isProtected = true) :
    p ∈ role'.permissions.rows := by
  unfold write at h
  simp only at h
  split at h
  · obtain ⟨replaced, hreplaced, rfl⟩ := Option.map_eq_some_iff.mp h
    obtain ⟨table, htable, rfl⟩ := Option.map_eq_some_iff.mp hreplaced
    show p ∈ table.rows
    rw [Keyed.insertAll_rows htable]
    refine List.mem_append_left _ (Keyed.mem_deleteWhere.mpr ⟨hp, ?_⟩)
    rw [hprotected]
    rfl
  · obtain rfl := Option.some.inj h
    exact hp

end Edits

-- ============================================================================
-- Transitions
-- ============================================================================

variable {graph : PermissionDependencyGraph}

theorem KeysGuarded.seed (h : KeysGuarded tenantCode before)
    (hseed : SeedsSome tenantCode before after) : KeysGuarded tenantCode after := by
  obtain ⟨key, habsent, role, hrow, hpermissions, -, hchange⟩ := hseed
  refine h.add (fun key' hkey' => ?_) hchange
  obtain rfl : key' = key := by
    have hcolumn := hkey'.2
    rw [hrow] at hcolumn
    exact (Option.some.inj hcolumn).symm
  refine ⟨⟨?_, fun _ => ?_, fun p hp _ => ?_⟩, habsent⟩
  · rw [hrow]
    rfl
  · rw [hrow]
    rfl
  · rw [hpermissions]
    exact hp

theorem keysGuarded_transition (h : KeysGuarded tenantCode before)
    (hstep : RoleTransition graph tenantCode before after) : KeysGuarded tenantCode after := by
  cases hstep with
  | same => exact h
  | created custom noKey permissions allowed fresh change =>
    refine h.add (fun key hkey => ?_) change
    have hnone := hkey.2
    rw [noKey] at hnone
    cases hnone
  | @edited _ role role' call mem checked valid written change =>
    obtain ⟨hid, htenant, htype, hkey, hstatus⟩ := write_columns written
    refine h.replace mem hid (hasKey_of_columns htenant hkey) (fun key hold hguarded => ?_) change
    obtain ⟨hsystem, hactive, hcapabilities⟩ := hguarded
    refine ⟨htype.trans hsystem, fun hadmin => ?_, fun p hp hprotected => ?_⟩
    · rw [hstatus]
      exact write_active checked hsystem (hadmin ▸ hold.2) (hactive hadmin)
    · exact write_keeps_protected written (hcapabilities p hp hprotected) hprotected
  | @saved _ role role' mem id tenant kind permissions status change =>
    obtain ⟨htype, hkey⟩ := kind
    refine h.replace mem id (hasKey_of_columns tenant hkey.symm) (fun key _ hguarded => ?_) change
    obtain ⟨hsystem, hactive, hcapabilities⟩ := hguarded
    refine ⟨htype.symm.trans hsystem, fun hadmin => ?_, fun p hp hprotected => ?_⟩
    · rcases status with hnew | hold
      · exact hnew
      · exact hold.trans (hactive hadmin)
    · rw [permissions]
      exact hcapabilities p hp hprotected
  | deleted mem custom rest =>
    refine ⟨fun role hrole => h.guarded role ((rest role).mp hrole).1, ?_⟩
    exact fun role hrole other hother =>
      h.unique role ((rest role).mp hrole).1 other ((rest other).mp hother).1
  | seeded steps =>
    induction steps with
    | refl => exact h
    | tail _ hseed ih => exact ih.seed hseed

theorem allKeys_transition (h : AllKeys tenantCode before)
    (hguarded : KeysGuarded tenantCode before)
    (hstep : RoleTransition graph tenantCode before after) : AllKeys tenantCode after := by
  cases hstep with
  | same => exact h
  | created custom noKey permissions allowed fresh change =>
    intro key
    obtain ⟨role, hrole, hkey⟩ := h key
    exact ⟨role, change.keeps fresh hrole, hkey⟩
  | edited mem checked valid written change =>
    obtain ⟨hid, htenant, -, hkey, -⟩ := write_columns written
    exact h.replace mem hid (hasKey_of_columns htenant hkey) change
  | saved mem id tenant kind permissions status change =>
    exact h.replace mem id (hasKey_of_columns tenant kind.2.symm) change
  | @deleted _ role mem custom rest =>
    -- what is deleted is no system role
    intro key
    obtain ⟨other, hother, hkey⟩ := h key
    refine ⟨other, (rest other).mpr ⟨hother, fun hid => ?_⟩, hkey⟩
    obtain rfl := before.row_unique hother mem hid
    exact custom (hguarded.guarded other hother key hkey).system
  | seeded steps =>
    intro key
    obtain ⟨role, hrole, hkey⟩ := h key
    exact ⟨role, mem_of_seeds steps hrole, hkey⟩

-- ============================================================================
-- Runs
-- ============================================================================

variable {s t : RoleStore} {w : World RoleStore RoleError}

theorem keysGuarded_reachable
    (h : (roleActivities graph (NoSystemRoles tenantCode)).Reachable (OnTenant tenantCode) t) :
    KeysGuarded tenantCode t.roles := by
  refine h.invariant (fun s => KeysGuarded tenantCode s.roles) ?_ ?_
  · intro s hs
    exact ⟨fun role hrole key hkey => absurd hkey (hs role hrole key),
      fun role hrole _ _ key hkey => absurd hkey (hs role hrole key)⟩
  · rintro s x u - hs rfl hstep
    exact keysGuarded_transition hs (roleActivities_step hstep)

/-- A tenant without system roles, any activities on it, a seeding that returns, and any
    activities again: there is one role for each key, guarded as its template wants, and
    another seeding changes no role, however it ends. -/
theorem system_roles_kept {userId : Option Uuid} {newIds : SystemRoleKey → Uuid}
    {faults : List (Option RoleError)} {created : List RoleEntity}
    (hs : (roleActivities graph (NoSystemRoles tenantCode)).Reachable (OnTenant tenantCode) s)
    (hseed : seedBaselineSystemRoles ⟨tenantCode, userId, graph⟩ newIds tenantCode ⟨s, faults⟩ =
      (.ok created, w))
    (ht : (roleActivities graph (NoSystemRoles tenantCode)).Steps (OnTenant tenantCode) w.state
      t) :
    SystemRolesKept tenantCode t.roles ∧ ∀ userId newIds faults,
      (seedBaselineSystemRoles ⟨tenantCode, userId, graph⟩ newIds tenantCode
        ⟨t, faults⟩).2.state.roles = t.roles := by
  have hseeded : (roleActivities graph (NoSystemRoles tenantCode)).Reachable (OnTenant tenantCode)
      w.state := by
    refine hs.steps (.single ⟨⟨tenantCode, userId, .seedBaselineSystemRoles newIds, faults⟩, rfl,
      ?_⟩)
    exact congrArg (fun r => some (Prod.snd r).state) hseed
  have hall : AllKeys tenantCode t.roles := by
    refine ht.preserves (fun s : RoleStore => AllKeys tenantCode s.roles) ?_ hseeded
      (seedBaselineSystemRoles_ok hseed)
    rintro s x u hreach hkeys rfl hstep
    exact allKeys_transition hkeys (keysGuarded_reachable hreach) (roleActivities_step hstep)
  refine ⟨(keysGuarded_reachable (hseeded.steps ht)).kept hall, fun userId newIds faults => ?_⟩
  exact seedBaselineSystemRoles_same hall

-- ============================================================================
-- A run
-- ============================================================================

def seeding : Except RoleError (List RoleEntity) × World RoleStore RoleError :=
  seedBaselineSystemRoles ⟨"acme", none, ⟨.empty⟩⟩ seededIds "acme" ⟨emptyRoleStore, []⟩

/-- The administrator's role is renamed, deactivated and deleted, the manager's is
    deactivated, and the roles are seeded again. -/
def attacksOnSystemRoles : List RoleActivity :=
  [⟨"acme", none, .perform (.rename (seededIds .ADMINISTRATOR) { name := "Root" }), []⟩,
    ⟨"acme", none, .perform (.deactivate (seededIds .ADMINISTRATOR) { confirmed := some true }), []⟩,
    ⟨"acme", none, .delete (seededIds .ADMINISTRATOR), []⟩,
    ⟨"acme", none, .perform (.deactivate (seededIds .MANAGER) { confirmed := some true }), []⟩,
    ⟨"acme", none, .seedBaselineSystemRoles seededIds, []⟩]

theorem seeding_returns : ∃ created, seeding = (.ok created, seeding.2) := by
  have hreturns : seeding.1.isOk = true := by decide +kernel
  generalize seeding = r at hreturns
  obtain ⟨e | created, w⟩ := r
  · cases hreturns
  · exact ⟨created, rfl⟩

theorem system_roles_kept_sample :
    ∃ t, (roleActivities ⟨.empty⟩ (NoSystemRoles "acme")).run (OnTenant "acme") seeding.2.state
        attacksOnSystemRoles = some t ∧
      SystemRolesKept "acme" t.roles ∧ ∀ userId newIds faults,
        (seedBaselineSystemRoles ⟨"acme", userId, ⟨.empty⟩⟩ newIds "acme"
          ⟨t, faults⟩).2.state.roles = t.roles := by
  have hkept : ∀ {created : List RoleEntity} {w : World RoleStore RoleError} {t : RoleStore},
      seeding = (.ok created, w) →
      (roleActivities ⟨.empty⟩ (NoSystemRoles "acme")).run (OnTenant "acme") w.state
        attacksOnSystemRoles = some t →
      SystemRolesKept "acme" t.roles ∧ ∀ userId newIds faults,
        (seedBaselineSystemRoles ⟨"acme", userId, ⟨.empty⟩⟩ newIds "acme"
          ⟨t, faults⟩).2.state.roles = t.roles := by
    intro created w t hseed ht
    have hstart : (roleActivities ⟨.empty⟩ (NoSystemRoles "acme")).Reachable (OnTenant "acme")
        emptyRoleStore :=
      .start fun role hrole => absurd hrole List.not_mem_nil
    exact system_roles_kept hstart hseed (System.steps_of_run ht)
  have hruns : ((roleActivities ⟨.empty⟩ (NoSystemRoles "acme")).run (OnTenant "acme")
      seeding.2.state attacksOnSystemRoles).isSome = true := by
    decide +kernel
  obtain ⟨created, hseed⟩ := seeding_returns
  obtain ⟨t, ht⟩ := Option.isSome_iff_exists.mp hruns
  exact ⟨t, ht, hkept hseed ht⟩

/-- What of it goes through: the name, and the manager's status. -/
example : ((roleActivities ⟨.empty⟩ (NoSystemRoles "acme")).run (OnTenant "acme") seeding.2.state
    attacksOnSystemRoles).any (fun t => t.roles.rows.map (fun role => (role.row.name, role.row.status))
      = [("Employee", .ACTIVE), ("Manager", .INACTIVE), ("Root", .ACTIVE)]) = true := by
  decide +kernel

end AccessService.Roles
