/-
  AccessService.Roles.PermissionReplacement

  Whether `updatePermissions` stores what it is asked for, when it runs undisturbed and its
  checks let it through.

  It deletes the unprotected permissions of the role and inserts one for each code of the
  request.  A protected one stays, and the request has to list its code, so it would be
  inserted a second time; the constraint refuses that, as it does a code listed twice.
-/

import AccessService.Permissions.PermissionGraph
import AccessService.Roles.RoleTransitions

namespace AccessService.Roles

open AccessService.Lib AccessService.Permissions AccessService.Pg AccessService.Persistence
open RoleApplicationService RoleRepository RolePermissionRepository RoleCacheService

-- ============================================================================
-- Names
-- ============================================================================

variable {ctx : RoleContext} {id : Uuid} {s s' : RoleStore} {role role' : StoredRole}

theorem nameClash_congr (hid : role'.id = role.id)
    (htenant : role'.row.tenantCode = role.row.tenantCode)
    (hname : role'.row.name = role.row.name) : s.nameClash role' = s.nameClash role := by
  unfold RoleStore.nameClash
  rw [hid, htenant, hname]

/-- The role itself is no clash. -/
theorem nameClash_replace (hid : role'.id = role.id) :
    RoleStore.nameClash { s with roles := s.roles.replace role' } role = s.nameClash role := by
  unfold RoleStore.nameClash Keyed.replace Keyed.update
  simp only [List.any_map]
  refine congrArg s.roles.rows.any (funext fun row => ?_)
  simp only [Function.comp_apply]
  by_cases hrow : row.id = role.id
  · rw [if_pos (hrow.trans hid.symm)]
    simp [hrow, hid]
  · rw [if_neg fun h => hrow (h.trans hid)]

-- ============================================================================
-- Undisturbed writes
-- ============================================================================

theorem find_of_mem (hrole : role ∈ s.roles.rows) :
    s.roles.rows.find? (fun r => r.id = role.id) = some role :=
  Keyed.find?_unique hrole (decide_eq_true rfl) fun _ h => of_decide_eq_true h

theorem overwrite_calm {f : StoredRole → Option StoredRole} (hrole : role ∈ s.roles.rows)
    (hf : f role = some role') (hclash : s.nameClash role' = false) :
    overwrite role.id f (.calm s) =
      (.ok (), .calm { s with roles := s.roles.replace role' }) := by
  rw [overwrite, Faulty.call_calm, find_of_mem hrole]
  simp only [hf, hclash]
  rfl

/-- What a transaction has written so far: the role, with its row as it was. -/
structure Rewritten (s s' : RoleStore) (role role' : StoredRole) : Prop where
  row : role'.row = role.row
  stored : role' ∈ s'.roles.rows
  clash : s'.nameClash role' = s.nameClash role

theorem Rewritten.replace (hrole : role ∈ s.roles.rows) (hrow : role'.row = role.row) :
    Rewritten s { s with roles := s.roles.replace role' } role role' := by
  have hid : role'.id = role.id := congrArg Role.id (congrArg RoleRow.toRole hrow)
  refine ⟨hrow, ?_, ?_⟩
  · exact (Keyed.mem_replace (hid ▸ List.mem_map_of_mem hrole)).mpr (.inl rfl)
  · exact (nameClash_congr hid (by rw [hrow]) (by rw [hrow])).trans (nameClash_replace hid)

theorem bulkSave_calm {permissions : List RolePermission} (hrole : role ∈ s.roles.rows)
    (hclash : s.nameClash role = false) (hsave : role.savePermissions permissions = some role') :
    ∃ s', bulkSave role.id permissions (.calm s) = (.ok (), .calm s') ∧
      Rewritten s s' role role' := by
  obtain ⟨table, htable, hrole'⟩ := Option.map_eq_some_iff.mp hsave
  have hrow : role'.row = role.row := by rw [← hrole']
  unfold bulkSave
  split
  next hnil =>
    rw [List.length_eq_zero_iff.mp hnil] at htable
    obtain rfl : role.permissions = table := Option.some.inj htable
    obtain rfl : role = role' := hrole'
    exact ⟨s, rfl, rfl, hrole, rfl⟩
  · have hclash' : s.nameClash role' = false := by
      rw [← hclash, ← hrole']
      rfl
    exact ⟨_, overwrite_calm hrole hsave hclash', .replace hrole hrow⟩

theorem replacePermissions_calm {permissions : List RolePermission} (hrole : role ∈ s.roles.rows)
    (hclash : s.nameClash role = false)
    (hsave : role.deletePermissions.savePermissions permissions = some role') :
    ∃ s', replacePermissions role.id (some permissions) (.calm s) = (.ok (), .calm s') ∧
      Rewritten s s' role role' := by
  have hdelete : deleteByRoleId role.id (.calm s) =
      (.ok (), .calm { s with roles := s.roles.replace role.deletePermissions }) :=
    overwrite_calm hrole rfl hclash
  have hdeleted : Rewritten s { s with roles := s.roles.replace role.deletePermissions } role
      role.deletePermissions := .replace hrole rfl
  obtain ⟨s', hbulk, hsaved⟩ :=
    bulkSave_calm hdeleted.stored (hdeleted.clash.trans hclash) hsave
  refine ⟨s', ?_, hsaved.row, hsaved.stored, hsaved.clash.trans hdeleted.clash⟩
  rw [replacePermissions, Faulty.bind_runs hdelete]
  exact hbulk

theorem findRequired_calm {missing : RoleError} (h : s.role ctx.tenantCode id = some role) :
    findRequired ctx id missing (.calm s) = (.ok role, .calm s) := by
  have hread : findById ctx id (.calm s) = (.ok (some role), .calm s) := by
    rw [findById, Faulty.read_calm, h]
  rw [findRequired, Faulty.bind_runs hread]
  rfl

theorem orThrow_calm {α : Type} {check : Except RoleError α} {a : α} (h : check = .ok a) :
    orThrow check (.calm s) = (.ok a, .calm s) := by
  rw [h]
  rfl

/-- Undisturbed, an edit that keeps the name commits what `write` says, if it says
    anything. -/
theorem editRole_calm (request : RoleRequest) (missing : RoleError) (event : RoleEvent)
    (hfound : s.role ctx.tenantCode id = some role) (hclash : s.nameClash role = false)
    (hversion : checkVersion (.load role.row) request.version = .ok ())
    (hname : (change ⟨request, ctx.userId⟩ (.load role.row)).name = role.row.name)
    (hwrite : ∃ role', write ⟨request, ctx.userId⟩ (.load role.row) role = some role') :
    ∃ s', editRole ctx id request missing event (.calm s) =
      (.ok (change ⟨request, ctx.userId⟩ (.load role.row)), .calm s') := by
  obtain ⟨hrole, htenant, rfl⟩ := RoleStore.role_eq_some.mp hfound
  obtain ⟨s₁, mid, hreplace, hmid⟩ : ∃ s₁ mid,
      replacePermissions role.id (newPermissions request (.load role.row)) (.calm s) =
        (.ok (), .calm s₁) ∧ Rewritten s s₁ role mid := by
    obtain ⟨role', hwrite⟩ := hwrite
    unfold write at hwrite
    rcases hnew : newPermissions request (.load role.row) with _ | permissions
    · exact ⟨s, role, rfl, rfl, hrole, rfl⟩
    · simp only [hnew] at hwrite
      obtain ⟨mid, hmid, -⟩ := Option.map_eq_some_iff.mp hwrite
      obtain ⟨s₁, hreplace, hrewritten⟩ := replacePermissions_calm hrole hclash hmid
      exact ⟨s₁, mid, hreplace, hrewritten⟩
  have hmidId : mid.id = role.id := congrArg Role.id (congrArg RoleRow.toRole hmid.row)
  have hkept : (change ⟨request, ctx.userId⟩ (.load role.row)).id = role.id ∧
      (change ⟨request, ctx.userId⟩ (.load role.row)).tenantCode = role.row.tenantCode := by
    cases request <;> exact ⟨rfl, rfl⟩
  let saved : StoredRole :=
    ⟨(change ⟨request, ctx.userId⟩ (.load role.row)).save mid.row, mid.permissions⟩
  have hsave : save (change ⟨request, ctx.userId⟩ (.load role.row)) (.calm s₁) =
      (.ok (), .calm { s₁ with roles := s₁.roles.replace saved }) := by
    rw [save, hkept.1, ← hmidId]
    refine overwrite_calm hmid.stored rfl ?_
    have hsaved : s₁.nameClash saved = s₁.nameClash mid :=
      nameClash_congr rfl (hkept.2.trans (by rw [hmid.row])) (hname.trans (by rw [hmid.row]))
    rw [hsaved, hmid.clash, hclash]
  refine ⟨{ s₁ with roles := s₁.roles.replace saved, events := s₁.events ++ [event] }, ?_⟩
  unfold editRole runInTransaction Faulty.transaction
  rw [Faulty.bind_runs (findRequired_calm hfound),
    Faulty.bind_runs (orThrow_calm hversion), Faulty.bind_runs hreplace,
    Faulty.bind_runs hsave]
  rfl

-- ============================================================================
-- The whole request
-- ============================================================================

/-- The checks of `updatePermissions` let the request through to its transaction. -/
structure Accepted (ctx : RoleContext) (s : RoleStore) (id : Uuid) (dto : UpdateRolePermissionsDto)
    (role : StoredRole) : Prop where
  found : s.role ctx.tenantCode id = some role
  checked : checkRole (.updatePermissions dto) (.load role.row) = .ok ()
  valid : checkPermissionSet ctx.graph dto.permissionCodes = .ok ()
  confirmed : ¬(s.countActiveUserReach ctx.tenantCode id ≥ HIGH_IMPACT_THRESHOLD ∧
    dto.confirmed ≠ some true)

/-- The request returns, and then the role has one permission for each code listed and no
    other, protected if and only if the role's template protects it. -/
def StoresAsked (ctx : RoleContext) (s : RoleStore) (id : Uuid) (dto : UpdateRolePermissionsDto)
    (role : StoredRole) : Prop :=
  ∃ outcome s' role', updatePermissions ctx id dto (.calm s) = (.ok outcome, .calm s') ∧
    s'.role ctx.tenantCode id = some role' ∧
    (role'.permissions.rows.map (·.permissionCode)).Nodup ∧
    ∀ p, p ∈ role'.permissions.rows ↔ p.permissionCode ∈ dto.permissionCodes ∧
      p.isProtected =
        decide (p.permissionCode ∈ protectedCodes role.row.type role.row.systemRoleKey)

variable {dto : UpdateRolePermissionsDto}

/-- An accepted request goes on with its transaction. -/
theorem updatePermissions_calm (h : Accepted ctx s id dto role) :
    updatePermissions ctx id dto (.calm s) =
      (do
        let updatedRole ← editRole ctx id (.updatePermissions dto) .entityNotFound
          (.permissionsUpdated id dto.permissionCodes)
        syncRole updatedRole
        let assignedUserGroupCount ← countAssignedUserGroups ctx id
        pure (RoleOutcome.role updatedRole (some ⟨assignedUserGroupCount,
          s.countActiveUserReach ctx.tenantCode id⟩))) (.calm s) := by
  have hcount : countActiveUserReach ctx id (.calm s) =
      (.ok (s.countActiveUserReach ctx.tenantCode id), .calm s) := rfl
  rw [updatePermissions, Faulty.bind_runs (findRequired_calm h.found),
    Faulty.bind_runs (orThrow_calm h.checked), Faulty.bind_runs (orThrow_calm h.valid),
    Faulty.bind_runs hcount, if_neg h.confirmed]

/-- What is left of the permissions, and what is to be inserted. -/
def keptPermissions (role : StoredRole) : List RolePermission :=
  (role.permissions.deleteWhere fun p => !p.isProtected).rows

def askedPermissions (role : StoredRole) (dto : UpdateRolePermissionsDto) : List RolePermission :=
  dto.permissionCodes.map fun code =>
    ⟨code, code ∈ protectedCodes role.row.type role.row.systemRoleKey⟩

theorem mem_keptPermissions {p : RolePermission} :
    p ∈ keptPermissions role ↔ p ∈ role.permissions.rows ∧ p.isProtected = true := by
  rw [keptPermissions, Keyed.mem_deleteWhere, Bool.not_eq_false']

theorem askedPermissions_codes :
    (askedPermissions role dto).map (·.permissionCode) = dto.permissionCodes := by
  rw [askedPermissions, List.map_map]
  exact List.map_id _

theorem mem_askedPermissions {p : RolePermission} :
    p ∈ askedPermissions role dto ↔ p.permissionCode ∈ dto.permissionCodes ∧
      p.isProtected =
        decide (p.permissionCode ∈ protectedCodes role.row.type role.row.systemRoleKey) := by
  obtain ⟨code, isProtected⟩ := p
  simp only [askedPermissions, List.mem_map, RolePermission.mk.injEq]
  constructor
  · rintro ⟨code', hcode, rfl, rfl⟩
    exact ⟨hcode, rfl⟩
  · rintro ⟨hcode, hprotected⟩
    exact ⟨code, hcode, rfl, hprotected.symm⟩

/-- A request that is written leaves the protected permissions and adds what is asked for. -/
theorem write_updatePermissions {userId : Option Uuid}
    (h : write ⟨.updatePermissions dto, userId⟩ (.load role.row) role = some role') :
    role'.permissions.rows = keptPermissions role ++ askedPermissions role dto ∧
      role'.id = role.id ∧ role'.row.tenantCode = role.row.tenantCode := by
  obtain ⟨replaced, hreplaced, rfl⟩ := Option.map_eq_some_iff.mp h
  obtain ⟨table, htable, rfl⟩ := Option.map_eq_some_iff.mp hreplaced
  exact ⟨Keyed.insertAll_rows htable, rfl, rfl⟩

theorem write_updatePermissions_some (userId : Option Uuid) (hnodup : dto.permissionCodes.Nodup)
    (hkept : keptPermissions role = []) :
    ∃ role', write ⟨.updatePermissions dto, userId⟩ (.load role.row) role = some role' := by
  have hfresh : ∀ p ∈ askedPermissions role dto,
      p.permissionCode ∉ role.deletePermissions.permissions.rows.map (·.permissionCode) := by
    intro p _
    show p.permissionCode ∉ (keptPermissions role).map _
    rw [hkept]
    exact List.not_mem_nil
  obtain ⟨table, htable⟩ := Keyed.insertAll_fresh
    (by rw [askedPermissions_codes]; exact hnodup) hfresh
  have hsave : role.deletePermissions.savePermissions (askedPermissions role dto) =
      some ⟨role.row, table⟩ := by
    rw [StoredRole.savePermissions, htable]
    rfl
  exact ⟨_, Option.map_eq_some_iff.mpr ⟨_, hsave, rfl⟩⟩

/-- An accepted request that returns has written the role. -/
theorem updatePermissions_writes (h : Accepted ctx s id dto role) {outcome : RoleOutcome}
    (hrun : updatePermissions ctx id dto (.calm s) = (.ok outcome, .calm s')) :
    ∃ role', write ⟨.updatePermissions dto, ctx.userId⟩ (.load role.row) role = some role' ∧
      s'.role ctx.tenantCode id = some role' := by
  obtain ⟨hmem, htenant, hid⟩ := RoleStore.role_eq_some.mp h.found
  rw [updatePermissions_calm h] at hrun
  obtain ⟨entity, w₁, hedit, hrest⟩ := Faulty.bind_ok.mp hrun
  obtain ⟨u, w₂, hsync, hrest⟩ := Faulty.bind_ok.mp hrest
  obtain ⟨n, w₃, hcount, hreturn⟩ := Faulty.bind_ok.mp hrest
  obtain ⟨-, rfl⟩ := Faulty.pure_ok.mp hreturn
  obtain ⟨locked, role', hlocked, htenant', hid', -, hwrite, hchange⟩ := editRole_ok hedit
  obtain rfl : locked = role := s.roles.row_unique hlocked hmem (hid'.trans hid.symm)
  obtain ⟨-, hsame, hsameTenant⟩ := write_updatePermissions hwrite
  have hstate : s' = w₂.state := count_ok hcount
  have hroles : s'.roles = w₁.state.roles := by
    rw [hstate, (Faulty.modify_ok hsync).2]
    rfl
  refine ⟨role', hwrite, RoleStore.role_eq_some.mpr ⟨?_, ?_, ?_⟩⟩
  · rw [hroles]
    exact hchange.stored
  · rw [hsameTenant, htenant]
  · rw [hsame, hid]

/-- A protected permission would be there twice. -/
theorem StoresAsked.plain (h : Accepted ctx s id dto role)
    (hstores : StoresAsked ctx s id dto role) :
    dto.permissionCodes.Nodup ∧ ∀ p ∈ role.permissions.rows, p.isProtected = false := by
  obtain ⟨outcome, s', role', hrun, hfound, hnodup, hasked⟩ := hstores
  obtain ⟨written, hwrite, hstored⟩ := updatePermissions_writes h hrun
  obtain rfl : role' = written := Option.some.inj (hfound.symm.trans hstored)
  obtain ⟨hrows, -⟩ := write_updatePermissions hwrite
  rw [hrows, List.map_append, askedPermissions_codes, List.nodup_append'] at hnodup
  refine ⟨hnodup.2.1, fun p hp => Bool.eq_false_iff.mpr fun hprotected => ?_⟩
  have hkept : p ∈ keptPermissions role := mem_keptPermissions.mpr ⟨hp, hprotected⟩
  have hcode := ((hasked p).mp (hrows ▸ List.mem_append_left _ hkept)).1
  exact hnodup.2.2 (List.mem_map_of_mem hkept) hcode

theorem storesAsked_of_plain (h : Accepted ctx s id dto role) (hclash : s.nameClash role = false)
    (hnodup : dto.permissionCodes.Nodup)
    (hplain : ∀ p ∈ role.permissions.rows, p.isProtected = false) :
    StoresAsked ctx s id dto role := by
  have hkept : keptPermissions role = [] := by
    rw [List.eq_nil_iff_forall_not_mem]
    intro p hp
    obtain ⟨hmem, hprotected⟩ := mem_keptPermissions.mp hp
    rw [hplain p hmem] at hprotected
    cases hprotected
  obtain ⟨u, hversion, -⟩ := Sql.bind_eq_ok.mp h.checked
  obtain ⟨s₁, hedit⟩ := editRole_calm (.updatePermissions dto) .entityNotFound
    (.permissionsUpdated id dto.permissionCodes) h.found hclash hversion rfl
    (write_updatePermissions_some ctx.userId hnodup hkept)
  have hrun : ∃ outcome s', updatePermissions ctx id dto (.calm s) = (.ok outcome, .calm s') := by
    rw [updatePermissions_calm h, Faulty.bind_runs hedit]
    exact ⟨_, _, rfl⟩
  obtain ⟨outcome, s', hrun⟩ := hrun
  obtain ⟨role', hwrite, hstored⟩ := updatePermissions_writes h hrun
  obtain ⟨hrows, -⟩ := write_updatePermissions hwrite
  rw [hkept, List.nil_append] at hrows
  refine ⟨outcome, s', role', hrun, hstored, ?_, fun p => ?_⟩
  · rw [hrows, askedPermissions_codes]
    exact hnodup
  · rw [hrows]
    exact mem_askedPermissions

/-- An accepted request stores what it asks for if and only if it lists no code twice and
    the role has no protected permission. -/
theorem updatePermissions_stores_asked_iff (h : Accepted ctx s id dto role)
    (hclash : s.nameClash role = false) :
    StoresAsked ctx s id dto role ↔
      dto.permissionCodes.Nodup ∧ ∀ p ∈ role.permissions.rows, p.isProtected = false :=
  ⟨StoresAsked.plain h, fun hplain => storesAsked_of_plain h hclash hplain.1 hplain.2⟩

-- ============================================================================
-- A custom role, and a baseline role
-- ============================================================================

def reviewerRole : StoredRole where
  row := { id := sampleRoleId, tenantCode := "acme", name := "Reviewer" }
  permissions := .single ⟨"leave.view", false⟩

/-- As it is seeded. -/
def employeeRole : StoredRole where
  row := SystemRoleSeederService.systemRole "acme" (seededIds .EMPLOYEE) .EMPLOYEE
  permissions := ⟨employeeTemplate, by decide⟩

def storeOf (role : StoredRole) : RoleStore where
  base := { db := sampleDatabase false .empty }
  roles := ⟨[role], List.nodup_singleton _⟩

def acmeRoles : RoleContext where
  tenantCode := "acme"
  graph := PermissionGraphBuilder.buildGraph platformCatalog

theorem storeOf_role {role : StoredRole} (h : role.row.tenantCode = "acme") :
    (storeOf role).role "acme" role.id = some role :=
  RoleStore.role_eq_some.mpr ⟨List.mem_singleton_self _, h, rfl⟩

theorem updatePermissions_stores_asked_iff_reviewer :
    StoresAsked acmeRoles (storeOf reviewerRole) sampleRoleId
        { permissionCodes := ["leave.view", "leave.approve"] } reviewerRole ↔
      ["leave.view", "leave.approve"].Nodup ∧
        ∀ p ∈ reviewerRole.permissions.rows, p.isProtected = false :=
  updatePermissions_stores_asked_iff
    ⟨storeOf_role rfl, by decide +kernel, by decide +kernel, by decide +kernel⟩
    (by decide +kernel)

/-- The codes of the role's own template. -/
def sameAgain : UpdateRolePermissionsDto where
  permissionCodes := ["employee.view", "location.view", "leave.view", "leave.request"]

/-- The role has to keep its protected codes, and cannot be given them again. -/
theorem not_updatePermissions_stores_asked :
    ¬∀ (ctx : RoleContext) (s : RoleStore) (id : Uuid) (dto : UpdateRolePermissionsDto)
        (role : StoredRole), Accepted ctx s id dto role → s.nameClash role = false →
      StoresAsked ctx s id dto role := by
  intro h
  have haccepted : Accepted acmeRoles (storeOf employeeRole) (seededIds .EMPLOYEE) sameAgain
      employeeRole :=
    ⟨storeOf_role rfl, by decide +kernel, by decide +kernel, by decide +kernel⟩
  have hplain := (h _ _ _ _ _ haccepted (by decide +kernel)).plain haccepted
  exact absurd (hplain.2 ⟨"employee.view", true⟩ List.mem_cons_self) (by decide)

end AccessService.Roles
