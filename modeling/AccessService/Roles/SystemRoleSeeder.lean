/-
  AccessService.Roles.SystemRoleSeeder

  The baseline roles of a new tenant (`system-role-seeder.service.ts`,
  `system-role-templates.constant.ts`).
-/

import AccessService.Roles.RoleApplicationService

namespace AccessService.Roles

open AccessService.Lib AccessService.Pg AccessService.Persistence

namespace SystemRoleKey

def defaultName : SystemRoleKey → String
  | .EMPLOYEE => "Employee"
  | .MANAGER => "Manager"
  | .ADMINISTRATOR => "Built-in Administrator"

def description : SystemRoleKey → String
  | .EMPLOYEE =>
    "Standard baseline employee access across portal and self-service capabilities."
  | .MANAGER =>
    "Standard manager access for direct reports, approvals, and team visibility."
  | .ADMINISTRATOR =>
    "System administrator with protected platform recovery and authorization management rights."

/-- `Object.values(SystemRoleKey)` -/
def values : List SystemRoleKey := [.EMPLOYEE, .MANAGER, .ADMINISTRATOR]

theorem mem_values (key : SystemRoleKey) : key ∈ values := by
  cases key <;> decide

end SystemRoleKey

namespace SystemRoleSeederService

open RoleRepository RolePermissionRepository RoleCacheService

def systemRole (tenantCode : String) (id : Uuid) (key : SystemRoleKey) : RoleRow where
  id := id
  tenantCode := tenantCode
  version := 1
  projectionVersion := 1
  name := key.defaultName
  description := some key.description
  type := .SYSTEM
  status := .ACTIVE
  systemRoleKey := some key

/-- The body of the loop, with the id the database gives to a new role. -/
def seedRole (ctx : RoleContext) (newId : Uuid) (tenantCode : String) (key : SystemRoleKey) :
    RoleService RoleEntity := do
  match ← findBySystemKey ctx key with
  | some existing => pure (.loadWithPermissions existing)
  | none => do
    let savedRole := systemRole tenantCode newId key
    create savedRole
    bulkSave savedRole.id (SYSTEM_ROLE_TEMPLATES key)
    pure { RoleEntity.load savedRole with permissions := some (SYSTEM_ROLE_TEMPLATES key) }

def seedBaselineSystemRoles (ctx : RoleContext) (newIds : SystemRoleKey → Uuid)
    (tenantCode : String) : RoleService (List RoleEntity) := do
  let createdRoles ← runInTransaction (.collect (fun key => do
    let role ← seedRole ctx (newIds key) tenantCode key
    pure [role]) SystemRoleKey.values)
  .forEach syncRole createdRoles
  pure createdRoles

end SystemRoleSeederService

end AccessService.Roles
