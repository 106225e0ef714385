/-
  AccessService.Roles.RoleApplicationService

  The operations of `role.application.service.ts` that create, edit, switch and delete
  roles, run one at a time, with `role.repository.ts`, `role-permission.repository.ts` and
  the cache entries of `role-cache.service.ts`.

  A repository call may throw; the cache writes are taken to succeed.
-/

import AccessService.Roles.RoleUpdates

namespace AccessService.Roles

open AccessService.Lib AccessService.Permissions AccessService.Pg AccessService.Persistence

-- ============================================================================
-- Store
-- ============================================================================

/-- `authz:role:{tenant}:{roleId}` -/
structure CachedRoleData where
  roleId : Uuid
  tenantCode : String
  name : String
  type : RoleType
  systemRoleKey : Option SystemRoleKey
  status : RoleStatus
  version : Nat
  permissions : List RolePermission
  deriving DecidableEq

inductive RoleEvent where
  | created (roleId : Uuid) (permissionCodes : List String)
  | copied (roleId sourceRoleId : Uuid) (permissionCodes : List String)
  | permissionsUpdated (roleId : Uuid) (permissionCodes : List String)
  | deactivated (roleId : Uuid) (affectedUserGroupCount affectedUserCount : Nat)
  | reactivated (roleId : Uuid)
  | renamed (roleId : Uuid) (oldName newName : String)
  deriving DecidableEq

/-- The roles with what the role service writes, beside the tables and cache entries
    of the authorization services. -/
structure RoleStore where
  base : Store
  roles : Keyed StoredRole StoredRole.id
  cachedRoles : UserKey → Option CachedRoleData := fun _ => none
  events : List RoleEvent := []

abbrev RoleService (α : Type) : Type := Faulty RoleStore RoleError α

/-- What a request runs with, as far as the role service looks at it. -/
structure RoleContext where
  tenantCode : String
  userId : Option Uuid := none
  graph : PermissionDependencyGraph

/-- Redis is no part of a transaction. -/
def runInTransaction {α : Type} (body : RoleService α) : RoleService α :=
  .transaction (fun before after => { before with cachedRoles := after.cachedRoles }) body

def orThrow {α : Type} : Except RoleError α → RoleService α
  | .ok a => pure a
  | .error e => .throw e

namespace RoleStore

def role (s : RoleStore) (tenantCode : String) (id : Uuid) : Option StoredRole :=
  s.roles.rows.find? fun role => role.row.tenantCode = tenantCode && role.id = id

def roleNamed (s : RoleStore) (tenantCode name : String) : Option StoredRole :=
  s.roles.rows.find? fun role => role.row.tenantCode = tenantCode && role.row.name = name

def roleWithKey (s : RoleStore) (tenantCode : String) (key : SystemRoleKey) : Option StoredRole :=
  s.roles.rows.find? fun role =>
    role.row.tenantCode = tenantCode && role.row.systemRoleKey = some key

/-- `COUNT(DISTINCT user_group_id)` of the role's assignments. -/
def countAssignedUserGroups (s : RoleStore) (tenantCode : String) (id : Uuid) : Nat :=
  ((s.base.db.groupRoles.rows.filter fun r =>
    r.tenantCode = tenantCode && r.roleId = id).map (·.userGroupId)).eraseDups.length

/-- `COUNT(DISTINCT user_id)` of the role's effective rows. -/
def countActiveUserReach (s : RoleStore) (tenantCode : String) (id : Uuid) : Nat :=
  ((s.base.db.effectiveRoles.rows.filter fun r =>
    r.2.tenantCode = tenantCode && r.2.roleId = id).map (·.2.userId)).eraseDups.length

/-- `uq_roles_tenant_name` -/
def nameClash (s : RoleStore) (role : StoredRole) : Bool :=
  s.roles.rows.any fun other =>
    other.row.tenantCode = role.row.tenantCode && other.row.name = role.row.name &&
      other.id ≠ role.id

/-- `uq_roles_tenant_system_role_key` -/
def keyClash (s : RoleStore) (role : StoredRole) : Bool :=
  role.row.systemRoleKey.isSome && s.roles.rows.any fun other =>
    other.row.tenantCode = role.row.tenantCode &&
      other.row.systemRoleKey = role.row.systemRoleKey && other.id ≠ role.id

/-- `fk_user_group_roles_role` and `fk_user_effective_roles_role` -/
def isReferenced (s : RoleStore) (id : Uuid) : Bool :=
  (s.base.db.groupRoles.rows.any fun r => r.roleId = id) ||
    s.base.db.effectiveRoles.rows.any fun r => r.2.roleId = id

end RoleStore

/-- `assignedUserGroupCount` and `activeUserReachCount` -/
structure RoleCounts where
  assignedUserGroups : Nat
  activeUserReach : Nat
  deriving DecidableEq

-- ============================================================================
-- Repositories
-- ============================================================================

namespace RoleRepository

def findById (ctx : RoleContext) (id : Uuid) : RoleService (Option StoredRole) :=
  .read fun s => s.role ctx.tenantCode id

/-- `findById` with `required: true`, or with a check that throws `missing`. -/
def findRequired (ctx : RoleContext) (id : Uuid) (missing : RoleError) :
    RoleService StoredRole := do
  match ← findById ctx id with
  | some role => pure role
  | none => .throw missing

def findByName (ctx : RoleContext) (name : String) : RoleService (Option Uuid) :=
  .read fun s => (s.roleNamed ctx.tenantCode name).map StoredRole.id

def findBySystemKey (ctx : RoleContext) (key : SystemRoleKey) : RoleService (Option StoredRole) :=
  .read fun s => s.roleWithKey ctx.tenantCode key

/-- A count that fails counts 0. -/
def count (f : RoleStore → Nat) : RoleService Nat := .tryCatch (.read f) fun _ => pure 0

def countAssignedUserGroups (ctx : RoleContext) (id : Uuid) : RoleService Nat :=
  count fun s => s.countAssignedUserGroups ctx.tenantCode id

def countActiveUserReach (ctx : RoleContext) (id : Uuid) : RoleService Nat :=
  count fun s => s.countActiveUserReach ctx.tenantCode id

def countAssignedUserGroupAndUser (ctx : RoleContext) (id : Uuid) : RoleService RoleCounts := do
  let assignedUserGroupCount ← countAssignedUserGroups ctx id
  let activeUserReachCount ← countActiveUserReach ctx id
  pure ⟨assignedUserGroupCount, activeUserReachCount⟩

/-- A write to the role `id`, within the constraints. -/
def overwrite (id : Uuid) (f : StoredRole → Option StoredRole) : RoleService Unit :=
  .call fun s =>
    match s.roles.rows.find? fun role => role.id = id with
    | none => .ok ((), s)
    | some role =>
      match f role with
      | none => .error .queryFailed
      | some role' =>
        if s.nameClash role' then .error .queryFailed
        else .ok ((), { s with roles := s.roles.replace role' })

def save (entity : RoleEntity) : RoleService Unit :=
  overwrite entity.id fun role => some ⟨entity.save role.row, role.permissions⟩

/-- `save` of a new role, which gets the id. -/
def insert (row : RoleRow) : RoleService Unit :=
  .call fun s =>
    let role : StoredRole := ⟨row, .empty⟩
    if s.nameClash role then .error .queryFailed
    else
      match s.roles.insert role with
      | none => .error .queryFailed
      | some roles => .ok ((), { s with roles := roles })

/-- `create` of a role that may have a system key. -/
def create (row : RoleRow) : RoleService Unit :=
  .call fun s =>
    let role : StoredRole := ⟨row, .empty⟩
    if s.keyClash role then .error .queryFailed
    else if s.nameClash role then .error .queryFailed
    else
      match s.roles.insert role with
      | none => .error .queryFailed
      | some roles => .ok ((), { s with roles := roles })

/-- The permissions go with the role; assignments keep it from going. -/
def delete (id : Uuid) : RoleService Unit :=
  .call fun s =>
    if s.isReferenced id then .error .queryFailed
    else .ok ((), { s with roles := s.roles.deleteWhere fun role => role.id = id })

end RoleRepository

namespace RolePermissionRepository

def deleteByRoleId (id : Uuid) : RoleService Unit :=
  RoleRepository.overwrite id fun role => some role.deletePermissions

def bulkSave (id : Uuid) (permissions : List RolePermission) : RoleService Unit :=
  if permissions.length = 0 then pure ()
  else RoleRepository.overwrite id fun role => role.savePermissions permissions

end RolePermissionRepository

def OutboxEventRepository.save (event : RoleEvent) : RoleService Unit :=
  .write fun s => { s with events := s.events ++ [event] }

-- ============================================================================
-- The cache
-- ============================================================================

namespace RoleCacheService

/-- The permissions are those of the object at hand. -/
def cachedData (role : RoleEntity) : CachedRoleData where
  roleId := role.id
  tenantCode := role.tenantCode
  name := role.name
  type := role.type
  systemRoleKey := role.systemRoleKey
  status := role.status
  version := role.version
  permissions := role.permissions.getD []

def setRole (s : RoleStore) (role : RoleEntity) : RoleStore :=
  { s with
    cachedRoles := fun key =>
      if key = (role.tenantCode, role.id) then some (cachedData role) else s.cachedRoles key }

def syncRole (role : RoleEntity) : RoleService Unit := .modify fun s => ((), setRole s role)

def invalidateRole (tenantCode : String) (roleId : Uuid) : RoleService Unit :=
  .modify fun s =>
    ((), { s with
      cachedRoles := fun key => if key = (tenantCode, roleId) then none else s.cachedRoles key })

/-- Readers of the cache throw errors of their own. -/
def getRole {ε : Type} (tenantCode : String) (roleId : Uuid) :
    Faulty RoleStore ε (Option CachedRoleData) :=
  .read fun s => s.cachedRoles (tenantCode, roleId)

end RoleCacheService

-- ============================================================================
-- The service
-- ============================================================================

structure CreateCustomRoleDto where
  name : String
  description : Option String := none
  permissionCodes : List String
  deriving DecidableEq

structure CopyRoleDto where
  name : String
  description : Option String := none
  deriving DecidableEq

structure RenameRoleDto where
  name : String
  description : Option String := none
  deriving DecidableEq

inductive RoleOutcome where
  | role (role : RoleEntity) (counts : Option RoleCounts)
  | confirmationRequired (response : HighImpactConfirmationRequired)
  deriving DecidableEq

namespace RoleApplicationService

open RoleRepository RolePermissionRepository RoleCacheService

def validateRoleName (ctx : RoleContext) (name : String) : RoleService Unit := do
  match ← findByName ctx name with
  | some _ => .throw (.duplicateRoleName name)
  | none => pure ()

/-- `Role.fromRequest`, with the id the database gives. -/
def fromRequest (ctx : RoleContext) (newId : Uuid) (name : String) (description : Option String) :
    RoleRow where
  id := newId
  tenantCode := ctx.tenantCode
  name := name
  description := description
  createdBy := ctx.userId
  updatedBy := ctx.userId

/-- The new role's permissions, none of them protected. -/
def unprotected (permissionCodes : List String) : List RolePermission :=
  permissionCodes.map fun code => ⟨code, false⟩

/-- The transaction of `createCustom` and `copy`. -/
def insertRole (row : RoleRow) (permissionCodes : List String) (event : RoleEvent) :
    RoleService RoleEntity :=
  runInTransaction do
    insert row
    bulkSave row.id (unprotected permissionCodes)
    OutboxEventRepository.save event
    pure (.load row)

def createCustom (ctx : RoleContext) (newId : Uuid) (dto : CreateCustomRoleDto) :
    RoleService RoleOutcome := do
  orThrow (checkPermissionSet ctx.graph dto.permissionCodes)
  validateRoleName ctx dto.name
  let createdRole ← insertRole (fromRequest ctx newId dto.name dto.description)
    dto.permissionCodes (.created newId dto.permissionCodes)
  syncRole createdRole
  pure (.role createdRole none)

def copy (ctx : RoleContext) (newId sourceRoleId : Uuid) (dto : CopyRoleDto) :
    RoleService RoleOutcome := do
  let sourceRole ← findRequired ctx sourceRoleId .entityNotFound
  validateRoleName ctx dto.name
  let permissionCodes := sourceRole.permissions.rows.map (·.permissionCode)
  let clonedRole ← insertRole
    (fromRequest ctx newId dto.name (dto.description <|> sourceRole.row.description))
    permissionCodes (.copied newId sourceRoleId permissionCodes)
  syncRole clonedRole
  pure (.role clonedRole none)

/-- `deactivate` leaves the permissions alone. -/
def replacePermissions (id : Uuid) : Option (List RolePermission) → RoleService Unit
  | some permissions => do
    deleteByRoleId id
    bulkSave id permissions
  | none => pure ()

/-- The transaction of `updateCustom`, `updatePermissions` and `deactivate`. -/
def editRole (ctx : RoleContext) (id : Uuid) (request : RoleRequest) (missing : RoleError)
    (event : RoleEvent) : RoleService RoleEntity :=
  runInTransaction do
    let locked ← findRequired ctx id missing
    let lockedRole := RoleEntity.load locked.row
    orThrow (checkVersion lockedRole request.version)
    replacePermissions id (newPermissions request lockedRole)
    let saved := change ⟨request, ctx.userId⟩ lockedRole
    save saved
    OutboxEventRepository.save event
    pure saved

/-- The owner of a new name; a name that stays is not looked up. -/
def newNameOwner (ctx : RoleContext) (role : StoredRole) (name : String) :
    RoleService (Option Uuid) :=
  if role.row.name ≠ name then findByName ctx name else pure none

def updateCustom (ctx : RoleContext) (id : Uuid) (dto : UpdateCustomRoleDto) :
    RoleService RoleOutcome := do
  let role ← findRequired ctx id .entityNotFound
  orThrow (checkRole (.updateCustom dto) (.load role.row))
  let owner ← newNameOwner ctx role dto.name
  orThrow (checkNewName (.load role.row) dto.name owner)
  orThrow (checkPermissionSet ctx.graph dto.permissionCodes)
  let counts ← countAssignedUserGroupAndUser ctx id
  if counts.activeUserReach ≥ HIGH_IMPACT_THRESHOLD ∧ dto.confirmed ≠ some true then
    pure (.confirmationRequired (responseForHighImpactUsersConfirmation counts.activeUserReach))
  else do
    let updatedRole ← editRole ctx id (.updateCustom dto) .entityNotFound
      (.permissionsUpdated id dto.permissionCodes)
    syncRole updatedRole
    pure (.role updatedRole counts)

def updatePermissions (ctx : RoleContext) (id : Uuid) (dto : UpdateRolePermissionsDto) :
    RoleService RoleOutcome := do
  let role ← findRequired ctx id .entityNotFound
  orThrow (checkRole (.updatePermissions dto) (.load role.row))
  orThrow (checkPermissionSet ctx.graph dto.permissionCodes)
  let affectedUserCount ← countActiveUserReach ctx id
  if affectedUserCount ≥ HIGH_IMPACT_THRESHOLD ∧ dto.confirmed ≠ some true then
    pure (.confirmationRequired (responseForHighImpactUsersConfirmation affectedUserCount))
  else do
    let updatedRole ← editRole ctx id (.updatePermissions dto) .entityNotFound
      (.permissionsUpdated id dto.permissionCodes)
    syncRole updatedRole
    let assignedUserGroupCount ← countAssignedUserGroups ctx id
    pure (.role updatedRole (some ⟨assignedUserGroupCount, affectedUserCount⟩))

def deactivate (ctx : RoleContext) (id : Uuid) (dto : DeactivateRoleDto) :
    RoleService RoleOutcome := do
  let role ← findRequired ctx id .entityNotFound
  orThrow (checkRole (.deactivate dto) (.load role.row))
  let counts ← countAssignedUserGroupAndUser ctx id
  if counts.assignedUserGroups > 0 ∧ dto.confirmed ≠ some true then
    pure (.confirmationRequired (responseForHighImpactUserGroupsConfirmation
      counts.assignedUserGroups counts.activeUserReach))
  else do
    let deactivatedRole ← editRole ctx id (.deactivate dto) (.roleNotFound id)
      (.deactivated id counts.assignedUserGroups counts.activeUserReach)
    syncRole deactivatedRole
    pure (.role deactivatedRole counts)

def reactivated (ctx : RoleContext) (lockedRole : RoleEntity) : RoleEntity :=
  { lockedRole with
    status := .ACTIVE
    version := lockedRole.version + 1
    updatedBy := ctx.userId }

def reactivate (ctx : RoleContext) (id : Uuid) : RoleService RoleOutcome := do
  let _ ← findRequired ctx id .entityNotFound
  let reactivatedRole ← runInTransaction do
    let locked ← findRequired ctx id (.roleNotFound id)
    let saved := reactivated ctx (.load locked.row)
    save saved
    OutboxEventRepository.save (.reactivated id)
    pure saved
  syncRole reactivatedRole
  let counts ← countAssignedUserGroupAndUser ctx id
  pure (.role reactivatedRole counts)

def renamed (ctx : RoleContext) (dto : RenameRoleDto) (role : RoleEntity) : RoleEntity :=
  { role with
    name := dto.name
    description := match dto.description with
      | some description => .value description
      | none => role.description
    version := role.version + 1
    updatedBy := ctx.userId }

/-- A role that has the name already is returned as it was read. -/
def rename (ctx : RoleContext) (id : Uuid) (dto : RenameRoleDto) : RoleService RoleOutcome := do
  let updatedRole ← runInTransaction do
    let locked ← findRequired ctx id .entityNotFound
    if locked.row.name = dto.name then pure (RoleEntity.load locked.row)
    else do
      validateRoleName ctx dto.name
      let saved := renamed ctx dto (.load locked.row)
      save saved
      OutboxEventRepository.save (.renamed id locked.row.name dto.name)
      pure saved
  syncRole updatedRole
  pure (.role updatedRole none)

def delete (ctx : RoleContext) (roleId : Uuid) : RoleService Unit := do
  runInTransaction do
    let role ← findRequired ctx roleId (.roleNotFound roleId)
    if role.row.type = .SYSTEM then
      .throw (.cannotDeleteSystemRole role.id role.row.name)
    else do
      deleteByRoleId role.id
      RoleRepository.delete role.id
  invalidateRole ctx.tenantCode roleId

end RoleApplicationService

end AccessService.Roles
