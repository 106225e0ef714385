/-
  AccessService.Roles.RoleTransitions

  What the role operations and the seeder may do to the table of roles, told case by
  case.  An operation that throws, or asks for a confirmation, leaves the table as it
  was; any other writes one role, or the baseline roles.
-/

import AccessService.Lib.Transition
import AccessService.Roles.RoleCacheCoherence
import AccessService.Roles.SystemRoleSeeder

namespace AccessService.Roles

open AccessService.Lib AccessService.Lib.Transition AccessService.Permissions AccessService.Pg
open AccessService.Persistence
open RoleApplicationService RoleCacheService RoleRepository RolePermissionRepository
open SystemRoleSeederService

abbrev RoleTable : Type := Keyed StoredRole StoredRole.id

/-- One role is new or changed. -/
structure TableChange (before after : RoleTable) (role : StoredRole) : Prop where
  stored : role ∈ after.rows
  others : ∀ other, other.id ≠ role.id → (other ∈ after.rows ↔ other ∈ before.rows)

/-- No role has the id. -/
def IsFresh (table : RoleTable) (id : Uuid) : Prop := ∀ role ∈ table.rows, role.id ≠ id

/-- The role stands for the key in the tenant. -/
def HasKey (tenantCode : String) (key : SystemRoleKey) (role : StoredRole) : Prop :=
  role.row.tenantCode = tenantCode ∧ role.row.systemRoleKey = some key

def StoredRole.permissionCodes (role : StoredRole) : List String :=
  role.permissions.rows.map (·.permissionCode)

def IsValid (graph : PermissionDependencyGraph) (permissionCodes : List String) : Prop :=
  (PermissionDependencyService.validatePermissionSet graph permissionCodes).isValid = true

/-- The permissions that the request stores, if it does, are a valid set. -/
def RequestValid (graph : PermissionDependencyGraph) (request : RoleRequest) : Prop :=
  ∀ lockedRole permissions, newPermissions request lockedRole = some permissions →
    IsValid graph (permissions.map (·.permissionCode))

/-- A key that no role of the tenant has gets a role as its template has it. -/
structure SeedsRole (tenantCode : String) (key : SystemRoleKey) (before after : RoleTable) :
    Prop where
  absent : ∀ role ∈ before.rows, ¬HasKey tenantCode key role
  seeded : ∃ role, role.row = systemRole tenantCode role.id key ∧
    role.permissions.rows = SYSTEM_ROLE_TEMPLATES key ∧ IsFresh before role.id ∧
    TableChange before after role

def SeedsSome (tenantCode : String) (before after : RoleTable) : Prop :=
  ∃ key, SeedsRole tenantCode key before after

inductive RoleTransition (graph : PermissionDependencyGraph) (tenantCode : String)
    (before : RoleTable) : RoleTable → Prop where
  | same : RoleTransition graph tenantCode before before
  | created {after : RoleTable} {role : StoredRole} {codes : List String}
      (custom : role.row.type = .CUSTOM) (noKey : role.row.systemRoleKey = none)
      (permissions : role.permissions.rows = unprotected codes)
      (allowed : IsValid graph codes ∨ ∃ source ∈ before.rows, codes = source.permissionCodes)
      (fresh : IsFresh before role.id) (change : TableChange before after role) :
      RoleTransition graph tenantCode before after
  | edited {after : RoleTable} {role role' : StoredRole} {call : RoleCall}
      (mem : role ∈ before.rows) (checked : checkRole call.request (.load role.row) = .ok ())
      (valid : RequestValid graph call.request)
      (written : write call (.load role.row) role = some role')
      (change : TableChange before after role') : RoleTransition graph tenantCode before after
  | saved {after : RoleTable} {role role' : StoredRole} (mem : role ∈ before.rows)
      (id : role'.id = role.id) (tenant : role'.row.tenantCode = role.row.tenantCode)
      (kind : SameKind (.load role.row) (.load role'.row))
      (permissions : role'.permissions = role.permissions)
      (status : role'.row.status = .ACTIVE ∨ role'.row.status = role.row.status)
      (change : TableChange before after role') : RoleTransition graph tenantCode before after
  | deleted {after : RoleTable} {role : StoredRole} (mem : role ∈ before.rows)
      (custom : role.row.type ≠ .SYSTEM)
      (rest : ∀ other, other ∈ after.rows ↔ other ∈ before.rows ∧ other.id ≠ role.id) :
      RoleTransition graph tenantCode before after
  | seeded {after : RoleTable}
      (steps : Relation.ReflTransGen (SeedsSome tenantCode) before after) :
      RoleTransition graph tenantCode before after

theorem RoleTransition.of_same {graph : PermissionDependencyGraph} {tenantCode : String}
    {before after : RoleTable} (h : after = before) :
    RoleTransition graph tenantCode before after :=
  h ▸ .same

namespace TableChange

variable {before after : RoleTable} {role other : StoredRole}

theorem mem (h : TableChange before after role) (hother : other ∈ after.rows) :
    other = role ∨ (other ∈ before.rows ∧ other.id ≠ role.id) := by
  by_cases hid : other.id = role.id
  · exact .inl (after.row_unique hother h.stored hid)
  · exact .inr ⟨(h.others other hid).mp hother, hid⟩

/-- A new role leaves the others. -/
theorem keeps (h : TableChange before after role) (hfresh : IsFresh before role.id)
    (hother : other ∈ before.rows) : other ∈ after.rows :=
  (h.others other (hfresh other hother)).mpr hother

end TableChange

theorem RoleChange.table {s s' : RoleStore} {role : StoredRole} (h : RoleChange s s' role) :
    TableChange s.roles s'.roles role :=
  ⟨h.stored, h.others⟩

-- ============================================================================
-- What leaves the table alone
-- ============================================================================

section Leaves

variable {ctx : RoleContext} {id : Uuid} {name : String}

open Faulty

theorem leaves_orThrow {α : Type} {x : Except RoleError α} :
    Leaves RoleStore.roles (orThrow x) := by
  cases x with
  | error e => exact leaves_throw e
  | ok a => exact leaves_pure a

theorem leaves_findRequired {missing : RoleError} :
    Leaves RoleStore.roles (findRequired ctx id missing) := by
  refine (leaves_read _).bind fun found => ?_
  cases found with
  | some role => exact leaves_pure role
  | none => exact leaves_throw missing

theorem leaves_validateRoleName : Leaves RoleStore.roles (validateRoleName ctx name) := by
  refine (leaves_read _).bind fun found => ?_
  cases found with
  | some owner => exact leaves_throw _
  | none => exact leaves_pure ()

theorem leaves_newNameOwner {role : StoredRole} :
    Leaves RoleStore.roles (newNameOwner ctx role name) := by
  unfold newNameOwner
  split
  · exact leaves_read _
  · exact leaves_pure none

theorem leaves_count {f : RoleStore → Nat} : Leaves RoleStore.roles (count f) :=
  leaves_tryCatch (leaves_read f) fun _ => leaves_pure 0

theorem leaves_countAssignedUserGroupAndUser :
    Leaves RoleStore.roles (countAssignedUserGroupAndUser ctx id) :=
  leaves_count.bind fun _ => leaves_count.bind fun _ => leaves_pure _

theorem leaves_syncRole {role : RoleEntity} : Leaves RoleStore.roles (syncRole role) :=
  leaves_modify fun _ => rfl

theorem leaves_invalidateRole {tenantCode : String} :
    Leaves RoleStore.roles (invalidateRole tenantCode id) :=
  leaves_modify fun _ => rfl

end Leaves

-- ============================================================================
-- From the parts of an operation to the operation
-- ============================================================================

def Transits (ctx : RoleContext) (s s' : RoleStore) : Prop :=
  RoleTransition ctx.graph ctx.tenantCode s.roles s'.roles

section Transits

variable {α β : Type} {ctx : RoleContext} {w w' : World RoleStore RoleError}

theorem transits_of_leaves {x : RoleService α} (hx : Faulty.Leaves RoleStore.roles x) :
    Transits ctx w.state (x w).2.state :=
  .of_same (hx w)

/-- What comes before the transaction. -/
theorem transits_before {x : RoleService α} {f : α → RoleService β}
    (hx : Faulty.Leaves RoleStore.roles x)
    (hf : ∀ a w', x w = (.ok a, w') → Transits ctx w'.state (f a w').2.state) :
    Transits ctx w.state ((x >>= f) w).2.state := by
  refine Faulty.bind_state (P := Transits ctx w.state) (fun e w' h => ?_) fun a w' h => ?_
  · exact .of_same (hx.ok h)
  · have hrest := hf a w' h
    rwa [Transits, hx.ok h] at hrest

/-- What comes after the transaction. -/
theorem transits_after {x : RoleService α} {f : α → RoleService β}
    (hx : Transits ctx w.state (x w).2.state)
    (hf : ∀ a, Faulty.Leaves RoleStore.roles (f a)) :
    Transits ctx w.state ((x >>= f) w).2.state := by
  refine Faulty.bind_state (P := Transits ctx w.state) (fun e w' h => ?_) fun a w' h => ?_
  · rwa [h] at hx
  · rw [h] at hx
    rwa [Transits, hf a w']

theorem runInTransaction_error {body : RoleService α} {e : RoleError}
    (h : runInTransaction body w = (.error e, w')) : w'.state.roles = w.state.roles := by
  obtain ⟨w₁, -, rfl⟩ := Faulty.transaction_error h
  rfl

theorem transits_transaction {body : RoleService α}
    (hbody : ∀ a w', body w = (.ok a, w') → Transits ctx w.state w'.state) :
    Transits ctx w.state (runInTransaction body w).2.state := by
  rcases h : runInTransaction body w with ⟨e | a, w'⟩
  · exact .of_same (runInTransaction_error h)
  · exact hbody a w' (runInTransaction_ok.mp h)

end Transits

-- ============================================================================
-- The operations
-- ============================================================================

section Operations

variable {ctx : RoleContext} {w w' : World RoleStore RoleError}
  {id newId sourceRoleId : Uuid}

theorem insert_fresh {row : RoleRow} {u : Unit} (h : insert row w = (.ok u, w')) :
    IsFresh w.state.roles row.id := by
  have hcall := Faulty.call_ok h
  simp only at hcall
  split at hcall
  · cases hcall
  · split at hcall
    · cases hcall
    next roles hroles => exact fun role hrole => Keyed.insert_fresh hroles hrole

theorem checkPermissionSet_ok {graph : PermissionDependencyGraph} {permissionCodes : List String}
    (h : checkPermissionSet graph permissionCodes = .ok ()) : IsValid graph permissionCodes := by
  simp only [checkPermissionSet] at h
  split at h
  next hvalid => exact hvalid
  · cases h

/-- The transaction of `createCustom` and `copy`. -/
theorem transits_insertRole {row : RoleRow} {codes : List String} {event : RoleEvent}
    (hcustom : row.type = .CUSTOM) (hkey : row.systemRoleKey = none)
    (hallowed : IsValid ctx.graph codes ∨
      ∃ source ∈ w.state.roles.rows, codes = source.permissionCodes) :
    Transits ctx w.state (insertRole row codes event w).2.state := by
  rcases h : insertRole row codes event w with ⟨e | entity, w'⟩
  · exact .of_same (runInTransaction_error h)
  · obtain ⟨-, role, rfl, hpermissions, hchange⟩ := insertRole_ok h
    refine .created hcustom hkey hpermissions hallowed ?_ hchange.table
    obtain ⟨u, w₁, hinsert, -⟩ := Faulty.bind_ok.mp (runInTransaction_ok.mp h)
    exact insert_fresh hinsert

theorem createCustom_transits (dto : CreateCustomRoleDto) :
    Transits ctx w.state (createCustom ctx newId dto w).2.state := by
  refine transits_before leaves_orThrow fun _ w₁ hset => ?_
  refine transits_before leaves_validateRoleName fun _ w₂ hname => ?_
  have hvalid := checkPermissionSet_ok (orThrow_ok hset).1
  refine transits_after (transits_insertRole rfl rfl (.inl hvalid)) fun entity => ?_
  exact leaves_syncRole.bind fun _ => Faulty.leaves_pure _

theorem copy_transits (dto : CopyRoleDto) :
    Transits ctx w.state (copy ctx newId sourceRoleId dto w).2.state := by
  refine transits_before leaves_findRequired fun source w₁ hfind => ?_
  refine transits_before leaves_validateRoleName fun _ w₂ hname => ?_
  obtain ⟨hstate, hsource, -⟩ := findRequired_ok hfind
  rw [← hstate, ← validateRoleName_ok hname] at hsource
  refine transits_after (transits_insertRole rfl rfl (.inr ⟨source, hsource, rfl⟩)) fun entity => ?_
  exact leaves_syncRole.bind fun _ => Faulty.leaves_pure _

/-- The transaction of an edit whose checks the role has passed. -/
theorem transits_editRole {request : RoleRequest} {missing : RoleError} {event : RoleEvent}
    {role : StoredRole} (hrole : role ∈ w.state.roles.rows) (hid : role.id = id)
    (hchecked : checkRole request (.load role.row) = .ok ())
    (hvalid : RequestValid ctx.graph request) :
    Transits ctx w.state (editRole ctx id request missing event w).2.state := by
  rcases h : editRole ctx id request missing event w with ⟨e | entity, w'⟩
  · exact .of_same (runInTransaction_error h)
  · obtain ⟨locked, role', hlocked, -, hid', -, hwrite, hchange⟩ := editRole_ok h
    obtain rfl := w.state.roles.row_unique hlocked hrole (hid'.trans hid.symm)
    exact .edited hlocked hchecked hvalid hwrite hchange.table

theorem requestValid_updateCustom {graph : PermissionDependencyGraph} {dto : UpdateCustomRoleDto}
    (h : IsValid graph dto.permissionCodes) : RequestValid graph (.updateCustom dto) := by
  intro lockedRole permissions hnew
  rw [← Option.some.inj hnew, List.map_map]
  exact (List.map_id dto.permissionCodes).symm ▸ h

theorem requestValid_updatePermissions {graph : PermissionDependencyGraph}
    {dto : UpdateRolePermissionsDto} (h : IsValid graph dto.permissionCodes) :
    RequestValid graph (.updatePermissions dto) := by
  intro lockedRole permissions hnew
  rw [← Option.some.inj hnew, List.map_map]
  exact (List.map_id dto.permissionCodes).symm ▸ h

theorem updateCustom_transits (dto : UpdateCustomRoleDto) :
    Transits ctx w.state (updateCustom ctx id dto w).2.state := by
  refine transits_before leaves_findRequired fun role w₁ hfind => ?_
  refine transits_before leaves_orThrow fun _ w₂ hrole => ?_
  refine transits_before leaves_newNameOwner fun owner w₃ howner => ?_
  refine transits_before leaves_orThrow fun _ w₄ hname => ?_
  refine transits_before leaves_orThrow fun _ w₅ hset => ?_
  refine transits_before leaves_countAssignedUserGroupAndUser fun counts w₆ hcount => ?_
  split
  · exact transits_of_leaves (Faulty.leaves_pure _)
  · have hroles : w₆.state.roles = w.state.roles := by
      rw [leaves_countAssignedUserGroupAndUser.ok hcount, leaves_orThrow.ok hset,
        leaves_orThrow.ok hname, leaves_newNameOwner.ok howner, leaves_orThrow.ok hrole,
        leaves_findRequired.ok hfind]
    obtain ⟨-, hmem, -, hid⟩ := findRequired_ok hfind
    rw [← hroles] at hmem
    have hvalid := requestValid_updateCustom (checkPermissionSet_ok (orThrow_ok hset).1)
    refine transits_after (transits_editRole hmem hid (orThrow_ok hrole).1 hvalid) fun entity => ?_
    exact leaves_syncRole.bind fun _ => Faulty.leaves_pure _

theorem updatePermissions_transits (dto : UpdateRolePermissionsDto) :
    Transits ctx w.state (updatePermissions ctx id dto w).2.state := by
  refine transits_before leaves_findRequired fun role w₁ hfind => ?_
  refine transits_before leaves_orThrow fun _ w₂ hrole => ?_
  refine transits_before leaves_orThrow fun _ w₃ hset => ?_
  refine transits_before leaves_count fun affectedUserCount w₄ hcount => ?_
  split
  · exact transits_of_leaves (Faulty.leaves_pure _)
  · have hroles : w₄.state.roles = w.state.roles := by
      rw [leaves_count.ok hcount, leaves_orThrow.ok hset, leaves_orThrow.ok hrole,
        leaves_findRequired.ok hfind]
    obtain ⟨-, hmem, -, hid⟩ := findRequired_ok hfind
    rw [← hroles] at hmem
    have hvalid := requestValid_updatePermissions (checkPermissionSet_ok (orThrow_ok hset).1)
    refine transits_after (transits_editRole hmem hid (orThrow_ok hrole).1 hvalid) fun entity => ?_
    exact leaves_syncRole.bind fun _ => leaves_count.bind fun _ => Faulty.leaves_pure _

theorem deactivate_transits (dto : DeactivateRoleDto) :
    Transits ctx w.state (deactivate ctx id dto w).2.state := by
  refine transits_before leaves_findRequired fun role w₁ hfind => ?_
  refine transits_before leaves_orThrow fun _ w₂ hrole => ?_
  refine transits_before leaves_countAssignedUserGroupAndUser fun counts w₃ hcount => ?_
  split
  · exact transits_of_leaves (Faulty.leaves_pure _)
  · have hroles : w₃.state.roles = w.state.roles := by
      rw [leaves_countAssignedUserGroupAndUser.ok hcount, leaves_orThrow.ok hrole,
        leaves_findRequired.ok hfind]
    obtain ⟨-, hmem, -, hid⟩ := findRequired_ok hfind
    rw [← hroles] at hmem
    have hnone : RequestValid ctx.graph (.deactivate dto) := fun _ _ hnew => nomatch hnew
    refine transits_after (transits_editRole hmem hid (orThrow_ok hrole).1 hnone) fun entity => ?_
    exact leaves_syncRole.bind fun _ => Faulty.leaves_pure _

/-- A save of the role as read under the lock. -/
theorem transits_save {role : StoredRole} {entity : RoleEntity} {event : RoleEvent}
    {w₁ w₂ : World RoleStore RoleError} {u v : Unit} (hrole : role ∈ w.state.roles.rows)
    (hid : entity.id = role.id) (htenant : entity.tenantCode = role.row.tenantCode)
    (htype : entity.type = role.row.type) (hkey : entity.systemRoleKey = role.row.systemRoleKey)
    (hstatus : entity.status = .ACTIVE ∨ entity.status = role.row.status)
    (hsave : save entity w = (.ok u, w₁))
    (houtbox : OutboxEventRepository.save event w₁ = (.ok v, w₂)) :
    Transits ctx w.state w₂.state := by
  have hchange := outbox_ok (save_ok hrole hid hsave) houtbox
  have hsaved : StoredRole.id ⟨entity.save role.row, role.permissions⟩ = role.id := rfl
  exact .saved hrole hsaved htenant ⟨htype.symm, hkey.symm⟩ rfl hstatus hchange.table

theorem reactivate_transits : Transits ctx w.state (reactivate ctx id w).2.state := by
  refine transits_before leaves_findRequired fun _ w₁ hfind => ?_
  refine transits_after (transits_transaction fun saved w₂ h => ?_) fun entity => ?_
  · simp only [Faulty.bind_ok, Faulty.pure_ok] at h
    obtain ⟨locked, w₃, hlock, u, w₄, hsave, v, w₅, houtbox, rfl, rfl⟩ := h
    obtain ⟨hstate, hlocked, -, -⟩ := findRequired_ok hlock
    rw [← hstate] at hlocked ⊢
    exact transits_save hlocked rfl rfl rfl rfl (.inl rfl) hsave houtbox
  · exact leaves_syncRole.bind fun _ =>
      leaves_countAssignedUserGroupAndUser.bind fun _ => Faulty.leaves_pure _

theorem rename_transits (dto : RenameRoleDto) :
    Transits ctx w.state (rename ctx id dto w).2.state := by
  refine transits_after (transits_transaction fun saved w₁ h => ?_) fun entity => ?_
  · obtain ⟨locked, w₂, hlock, hbody⟩ := Faulty.bind_ok.mp h
    obtain ⟨hstate, hlocked, -, -⟩ := findRequired_ok hlock
    split at hbody
    · obtain ⟨-, rfl⟩ := Faulty.pure_ok.mp hbody
      exact .of_same (congrArg RoleStore.roles hstate)
    · simp only [Faulty.bind_ok, Faulty.pure_ok] at hbody
      obtain ⟨u, w₃, hname, v, w₄, hsave, y, w₅, houtbox, rfl, rfl⟩ := hbody
      rw [← hstate, ← validateRoleName_ok hname] at hlocked ⊢
      exact transits_save hlocked rfl rfl rfl rfl (.inr rfl) hsave houtbox
  · exact leaves_syncRole.bind fun _ => Faulty.leaves_pure _

theorem delete_transits (roleId : Uuid) :
    Transits ctx w.state (RoleApplicationService.delete ctx roleId w).2.state := by
  refine transits_after (transits_transaction fun u w₁ h => ?_) fun _ => leaves_invalidateRole
  obtain ⟨role, w₂, hfind, hbody⟩ := Faulty.bind_ok.mp h
  obtain ⟨hstate, hrole, -, -⟩ := findRequired_ok hfind
  split at hbody
  · exact absurd hbody Faulty.throw_ok
  next hcustom =>
    obtain ⟨v, w₃, hpermissions, hdelete⟩ := Faulty.bind_ok.mp hbody
    have hchange := deleteByRoleId_ok (hstate ▸ hrole) hpermissions
    rw [hstate] at hchange
    have hrows : w₁.state.roles = w₃.state.roles.deleteWhere fun other => other.id = role.id := by
      have hcall := Faulty.call_ok hdelete
      split at hcall
      · cases hcall
      · exact congrArg RoleStore.roles (Prod.mk.inj (Except.ok.inj hcall)).2.symm
    refine .deleted hrole hcustom fun other => ?_
    rw [hrows, Keyed.mem_deleteWhere, decide_eq_false_iff_not]
    exact and_congr_left fun hid => hchange.others other hid

end Operations

-- ============================================================================
-- The seeder
-- ============================================================================

section Seeder

variable {ctx : RoleContext} {w w' : World RoleStore RoleError} {tenantCode : String}
  {key : SystemRoleKey}

theorem roleWithKey_some {s : RoleStore} {role : StoredRole}
    (h : s.roleWithKey tenantCode key = some role) :
    role ∈ s.roles.rows ∧ HasKey tenantCode key role := by
  have hkeys := List.find?_some h
  rw [Bool.and_eq_true, decide_eq_true_eq, decide_eq_true_eq] at hkeys
  exact ⟨List.mem_of_find?_eq_some h, hkeys⟩

theorem roleWithKey_none {s : RoleStore} (h : s.roleWithKey tenantCode key = none) :
    ∀ role ∈ s.roles.rows, ¬HasKey tenantCode key role := by
  intro role hrole hkey
  have hnot := List.find?_eq_none.mp h role hrole
  rw [Bool.and_eq_true, decide_eq_true_eq, decide_eq_true_eq] at hnot
  exact hnot hkey

/-- `create` inserts, under one constraint more. -/
theorem insert_of_create {row : RoleRow} {u : Unit} (h : create row w = (.ok u, w')) :
    insert row w = (.ok u, w') := by
  unfold create Faulty.call at h
  unfold RoleRepository.insert Faulty.call
  split at h
  · cases h
  next hfaults =>
    simp only at h ⊢
    split at h
    next hclash =>
      split at hclash
      · cases hclash
      · rw [hclash]
        exact h
    · cases h

theorem seedRole_ok {newId : Uuid} {entity : RoleEntity}
    (h : seedRole ctx newId ctx.tenantCode key w = (.ok entity, w')) :
    Relation.ReflTransGen (SeedsSome ctx.tenantCode) w.state.roles w'.state.roles ∧
      ∃ role ∈ w'.state.roles.rows, HasKey ctx.tenantCode key role := by
  obtain ⟨found, w₁, hfind, hrest⟩ := Faulty.bind_ok.mp h
  obtain ⟨rfl, hstate⟩ := Faulty.read_ok hfind
  rcases hsome : w.state.roleWithKey ctx.tenantCode key with _ | existing
  · rw [hsome] at hrest
    simp only [Faulty.bind_ok, Faulty.pure_ok] at hrest
    obtain ⟨u, w₂, hcreate, v, w₃, hbulk, -, rfl⟩ := hrest
    have hinsert := insert_of_create hcreate
    have hnew := insert_ok hinsert
    obtain ⟨role, hrole, hchange⟩ := bulkSave_ok hnew.stored hbulk
    obtain ⟨table, htable, rfl⟩ := Option.map_eq_some_iff.mp hrole
    have hfresh := insert_fresh hinsert
    have hall := (hnew.trans hchange rfl).table
    rw [hstate] at hfresh hall
    refine ⟨.single ⟨key, roleWithKey_none hsome, ?_⟩, _, hall.stored, rfl, rfl⟩
    refine ⟨⟨systemRole ctx.tenantCode newId key, table⟩, rfl, ?_, hfresh, hall⟩
    rw [Keyed.insertAll_rows htable]
    rfl
  · rw [hsome] at hrest
    obtain ⟨-, rfl⟩ := Faulty.pure_ok.mp hrest
    obtain ⟨hmem, hkey⟩ := roleWithKey_some hsome
    rw [hstate]
    exact ⟨.refl, existing, hmem, hkey⟩

/-- Roles stay while others are seeded. -/
theorem mem_of_seeds {before after : RoleTable} {role : StoredRole}
    (h : Relation.ReflTransGen (SeedsSome tenantCode) before after) (hrole : role ∈ before.rows) :
    role ∈ after.rows := by
  induction h with
  | refl => exact hrole
  | tail _ hstep ih =>
    obtain ⟨key, -, new, -, -, hfresh, hchange⟩ := hstep
    exact hchange.keeps hfresh ih

theorem seedRoles_ok {newIds : SystemRoleKey → Uuid} {keys : List SystemRoleKey}
    {entities : List RoleEntity}
    (h : Faulty.collect (fun key => do
        let role ← seedRole ctx (newIds key) ctx.tenantCode key
        pure [role]) keys w = (.ok entities, w')) :
    Relation.ReflTransGen (SeedsSome ctx.tenantCode) w.state.roles w'.state.roles ∧
      ∀ key ∈ keys, ∃ role ∈ w'.state.roles.rows, HasKey ctx.tenantCode key role := by
  induction keys generalizing w entities with
  | nil =>
    obtain ⟨-, rfl⟩ := Faulty.pure_ok.mp h
    exact ⟨.refl, nofun⟩
  | cons key keys ih =>
    simp only [Faulty.collect, Faulty.bind_ok, Faulty.pure_ok] at h
    obtain ⟨-, w₁, ⟨entity, w₂, hseed, -, rfl⟩, rest, w₃, hrest, -, rfl⟩ := h
    obtain ⟨hfirst, role, hrole, hkey⟩ := seedRole_ok hseed
    obtain ⟨hsteps, hkeys⟩ := ih hrest
    refine ⟨hfirst.trans hsteps, fun key' hkey' => ?_⟩
    rcases List.mem_cons.mp hkey' with rfl | hmem
    · exact ⟨role, mem_of_seeds hsteps hrole, hkey⟩
    · exact hkeys key' hmem

theorem leaves_syncRoles {roles : List RoleEntity} :
    Faulty.Leaves RoleStore.roles (Faulty.forEach syncRole roles) :=
  Faulty.leaves_forEach (fun _ => leaves_syncRole) roles

theorem leaves_syncCreated (created : List RoleEntity) :
    Faulty.Leaves RoleStore.roles (do
      Faulty.forEach syncRole created
      pure created : RoleService (List RoleEntity)) :=
  leaves_syncRoles.bind fun _ => Faulty.leaves_pure _

theorem seedBaselineSystemRoles_transits (newIds : SystemRoleKey → Uuid) :
    Transits ctx w.state (seedBaselineSystemRoles ctx newIds ctx.tenantCode w).2.state := by
  refine transits_after (transits_transaction fun created w₁ h => ?_) fun created => ?_
  · exact .seeded (seedRoles_ok h).1
  · exact leaves_syncCreated created

/-- A seeding that returns leaves a role for every key. -/
theorem seedBaselineSystemRoles_ok {newIds : SystemRoleKey → Uuid} {roles : List RoleEntity}
    (h : seedBaselineSystemRoles ctx newIds ctx.tenantCode w = (.ok roles, w')) :
    ∀ key, ∃ role ∈ w'.state.roles.rows, HasKey ctx.tenantCode key role := by
  obtain ⟨created, w₁, hseed, hrest⟩ := Faulty.bind_ok.mp h
  rw [(leaves_syncCreated created).ok hrest]
  exact fun key => (seedRoles_ok (runInTransaction_ok.mp hseed)).2 key key.mem_values

/-- Where every key has its role, a seeding leaves the roles alone, however it ends. -/
theorem seedBaselineSystemRoles_same {newIds : SystemRoleKey → Uuid}
    (h : ∀ key, ∃ role ∈ w.state.roles.rows, HasKey ctx.tenantCode key role) :
    (seedBaselineSystemRoles ctx newIds ctx.tenantCode w).2.state.roles = w.state.roles := by
  refine Faulty.bind_state (P := fun s : RoleStore => s.roles = w.state.roles) (fun e w' hseed => ?_)
    fun created w' hseed => ?_
  · exact runInTransaction_error hseed
  · rw [leaves_syncCreated created w']
    have hsteps := (seedRoles_ok (runInTransaction_ok.mp hseed)).1
    rcases hsteps.cases_head with hsame | ⟨mid, ⟨key, habsent, -⟩, -⟩
    · exact hsame.symm
    · obtain ⟨role, hrole, hkey⟩ := h key
      exact absurd hkey (habsent role hrole)

end Seeder

-- ============================================================================
-- Runs
-- ============================================================================

inductive RoleAction where
  | perform (operation : RoleOperation)
  | delete (roleId : Uuid)
  | seedBaselineSystemRoles (newIds : SystemRoleKey → Uuid)

namespace RoleAction

/-- What is left of the store when the action has returned or thrown. -/
def run (ctx : RoleContext) (w : World RoleStore RoleError) : RoleAction → RoleStore
  | .perform operation => (operation.run ctx w).2.state
  | .delete roleId => (RoleApplicationService.delete ctx roleId w).2.state
  | .seedBaselineSystemRoles newIds =>
    (SystemRoleSeederService.seedBaselineSystemRoles ctx newIds ctx.tenantCode w).2.state

theorem transits (ctx : RoleContext) (w : World RoleStore RoleError) (action : RoleAction) :
    Transits ctx w.state (action.run ctx w) := by
  cases action with
  | perform operation =>
    cases operation with
    | createCustom newId dto => exact createCustom_transits dto
    | copy newId sourceRoleId dto => exact copy_transits dto
    | updateCustom id dto => exact updateCustom_transits dto
    | updatePermissions id dto => exact updatePermissions_transits dto
    | deactivate id dto => exact deactivate_transits dto
    | reactivate id => exact reactivate_transits
    | rename id dto => exact rename_transits dto
  | delete roleId => exact delete_transits roleId
  | seedBaselineSystemRoles newIds => exact seedBaselineSystemRoles_transits newIds

end RoleAction

/-- An action, the tenant and the user it runs for, and what its calls run into. -/
structure RoleActivity where
  tenantCode : String
  userId : Option Uuid := none
  action : RoleAction
  faults : List (Option RoleError) := []

def RoleActivity.context (graph : PermissionDependencyGraph) (x : RoleActivity) : RoleContext :=
  ⟨x.tenantCode, x.userId, graph⟩

/-- Actions one after another, whether they return or throw. -/
def roleActivities (graph : PermissionDependencyGraph) (start : RoleStore → Prop) :
    System RoleStore RoleActivity where
  init := start
  step s x := some (x.action.run (x.context graph) ⟨s, x.faults⟩)

theorem roleActivities_step {graph : PermissionDependencyGraph} {start : RoleStore → Prop}
    {s t : RoleStore} {x : RoleActivity} (h : (roleActivities graph start).step s x = some t) :
    RoleTransition graph x.tenantCode s.roles t.roles := by
  obtain rfl := Option.some.inj h
  exact RoleAction.transits (x.context graph) ⟨s, x.faults⟩ x.action

/-- No role yet. -/
def emptyRoleStore : RoleStore where
  base := { db := sampleDatabase false .empty }
  roles := .empty

/-- The ids the database gives to the baseline roles. -/
def seededIds : SystemRoleKey → Uuid
  | .EMPLOYEE => ⟨"5b1d0b60-0000-4000-8000-000000000001", by decide⟩
  | .MANAGER => ⟨"5b1d0b60-0000-4000-8000-000000000002", by decide⟩
  | .ADMINISTRATOR => ⟨"5b1d0b60-0000-4000-8000-000000000003", by decide⟩

end AccessService.Roles
