/-
  AccessService.Roles.Role

  The row of a role with the columns that the role service writes, its permissions,
  and the entity they are loaded into and saved from (`role.entity.ts`,
  `role-permission.entity.ts`, `system-role-templates.constant.ts`,
  `role.exceptions.ts`).
-/

import AccessService.Persistence.Database

namespace AccessService.Roles

open AccessService.Lib AccessService.Pg AccessService.Persistence

-- ============================================================================
-- Rows
-- ============================================================================

inductive RoleType where
  | SYSTEM
  | CUSTOM
  deriving DecidableEq

inductive SystemRoleKey where
  | EMPLOYEE
  | MANAGER
  | ADMINISTRATOR
  deriving DecidableEq

inductive RoleStatus where
  | ACTIVE
  | INACTIVE
  deriving DecidableEq

structure RoleRow extends Role where
  name : String
  description : Option String := none
  type : RoleType := .CUSTOM
  status : RoleStatus := .ACTIVE
  systemRoleKey : Option SystemRoleKey := none
  createdBy : Option Uuid := none
  updatedBy : Option Uuid := none
  deriving DecidableEq

/-- A permission of a role. -/
structure RolePermission where
  permissionCode : String
  isProtected : Bool
  deriving DecidableEq

/-- A role and its permissions (`uq_role_permissions_role_perm`). -/
structure StoredRole where
  row : RoleRow
  permissions : Keyed RolePermission RolePermission.permissionCode

def StoredRole.id (role : StoredRole) : Uuid := role.row.id

/-- `deleteByRoleId`: the protected permissions stay. -/
def StoredRole.deletePermissions (role : StoredRole) : StoredRole where
  row := role.row
  permissions := role.permissions.deleteWhere fun p => !p.isProtected

/-- `bulkSave` of new permissions. -/
def StoredRole.savePermissions (role : StoredRole) (permissions : List RolePermission) :
    Option StoredRole :=
  (role.permissions.insertAll permissions).map fun table => ⟨role.row, table⟩

-- ============================================================================
-- Entities
-- ============================================================================

structure RoleEntity where
  id : Uuid
  tenantCode : String
  name : String
  description : Column String
  type : RoleType
  status : RoleStatus
  systemRoleKey : Option SystemRoleKey
  version : Nat
  projectionVersion : Nat
  createdBy : Option Uuid
  updatedBy : Option Uuid
  /-- `undefined` unless the query has asked for the relation. -/
  permissions : Option (List RolePermission)
  deriving DecidableEq

namespace RoleEntity

/-- A query without relations. -/
def load (row : RoleRow) : RoleEntity where
  id := row.id
  tenantCode := row.tenantCode
  name := row.name
  description := .ofRow row.description
  type := row.type
  status := row.status
  systemRoleKey := row.systemRoleKey
  version := row.version
  projectionVersion := row.projectionVersion
  createdBy := row.createdBy
  updatedBy := row.updatedBy
  permissions := none

/-- A query with `relations: ['permissions']`. -/
def loadWithPermissions (role : StoredRole) : RoleEntity :=
  { load role.row with permissions := some role.permissions.rows }

/-- `save`: an UPDATE of the row by its primary key. -/
def save (e : RoleEntity) (row : RoleRow) : RoleRow where
  id := row.id
  tenantCode := e.tenantCode
  version := e.version
  projectionVersion := e.projectionVersion
  name := e.name
  description := e.description.write row.description
  type := e.type
  status := e.status
  systemRoleKey := e.systemRoleKey
  createdBy := e.createdBy
  updatedBy := e.updatedBy

/-- An entity that nobody has touched writes the row it was loaded from. -/
theorem save_load (row : RoleRow) : (load row).save row = row := by
  simp only [save, load, Column.write_ofRow]

end RoleEntity

-- ============================================================================
-- Templates
-- ============================================================================

def employeeTemplate : List RolePermission :=
  [⟨"employee.view", true⟩, ⟨"location.view", true⟩, ⟨"leave.view", true⟩,
    ⟨"leave.request", false⟩]

def managerTemplate : List RolePermission :=
  [⟨"employee.view", true⟩, ⟨"location.view", true⟩, ⟨"leave.view", true⟩,
    ⟨"leave.approve", true⟩, ⟨"leave.request", false⟩]

def administratorTemplate : List RolePermission :=
  [⟨"employee.view", true⟩, ⟨"employee.create", false⟩, ⟨"employee.update", false⟩,
    ⟨"employee.archive", false⟩, ⟨"location.view", true⟩, ⟨"location.create", false⟩,
    ⟨"location.update", false⟩, ⟨"location.deactivate", false⟩, ⟨"location.delete", false⟩,
    ⟨"role.view", true⟩, ⟨"role.create", true⟩, ⟨"role.update", true⟩, ⟨"role.delete", true⟩,
    ⟨"leave.view", true⟩, ⟨"leave.approve", false⟩, ⟨"leave.request", false⟩,
    ⟨"payroll.view", true⟩, ⟨"payroll.run", false⟩]

/-- The permissions of `SYSTEM_ROLE_TEMPLATES`. -/
def SYSTEM_ROLE_TEMPLATES : SystemRoleKey → List RolePermission
  | .EMPLOYEE => employeeTemplate
  | .MANAGER => managerTemplate
  | .ADMINISTRATOR => administratorTemplate

/-- The protected codes of the role's template; a custom role has none. -/
def protectedCodes (type : RoleType) (systemRoleKey : Option SystemRoleKey) : List String :=
  match type, systemRoleKey with
  | .SYSTEM, some key =>
    ((SYSTEM_ROLE_TEMPLATES key).filter (·.isProtected)).map (·.permissionCode)
  | _, _ => []

-- ============================================================================
-- Errors
-- ============================================================================

inductive RoleError where
  | cannotDeleteSystemRole (roleId : Uuid) (roleName : String)
  | cannotMutateSystemRole (roleName : String)
  | criticalRoleDeactivation (roleName : String)
  | duplicateRoleName (name : String)
  | protectedCapabilityRemoval (roleName : String) (protectedCapabilities : List String)
  | roleNotFound (roleId : Uuid)
  | roleVersionConflict (roleId : Uuid) (expectedVersion actualVersion : Int)
  /-- `validation.errors.join('; ')` writes the errors as objects. -/
  | dependencyValidationFailed (errorCount : Nat)
  /-- The base repository misses a required row. -/
  | entityNotFound
  /-- A constraint of the database, or a call that did not get through. -/
  | queryFailed
  deriving DecidableEq

def RoleError.message : RoleError → String
  | .cannotDeleteSystemRole roleId roleName =>
    "System role '" ++ roleName ++ "' (" ++ roleId.text ++
      ") cannot be deleted because it is managed by the platform."
  | .cannotMutateSystemRole roleName =>
    "System role '" ++ roleName ++ "' cannot be modified via custom role operations."
  | .criticalRoleDeactivation roleName =>
    "Critical system role '" ++ roleName ++ "' cannot be deactivated or disabled."
  | .duplicateRoleName name =>
    "A role with name '" ++ name ++ "' already exists in this tenant."
  | .protectedCapabilityRemoval roleName protectedCapabilities =>
    "Cannot remove protected capabilities [" ++ ", ".intercalate protectedCapabilities ++
      "] from system role '" ++ roleName ++ "'. Protected capabilities are inviolable."
  | .roleNotFound roleId =>
    "Role with id '" ++ roleId.text ++ "' was not found in the current tenant."
  | .roleVersionConflict roleId expectedVersion actualVersion =>
    "Concurrency conflict on role '" ++ roleId.text ++ "'. Expected version " ++
      toString expectedVersion ++ ", but actual version is " ++ toString actualVersion ++ "."
  | .dependencyValidationFailed errorCount =>
    "Capability dependency validation failed: " ++
      "; ".intercalate (List.replicate errorCount "[object Object]")
  | .entityNotFound => "not found"
  | .queryFailed => "query failed"

end AccessService.Roles
