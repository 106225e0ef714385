/-
  AccessService.Authorization.BootstrapAuthorization

  `bootstrap-authorization.service.ts`: the permissions of the user who asks, the
  union over the roles of the user's profile.  Each role is looked up in the cache,
  and in the database where the cache does not have it.  The status of a role is not
  looked at.
-/

import AccessService.Authorization.UserAuthorizationCache
import AccessService.Roles.RoleEffects

namespace AccessService.Authorization

open AccessService.Js AccessService.Lib AccessService.Pg AccessService.Persistence
open AccessService.Roles AccessService.UserGroups

/-- A service that reads the roles beside the tables of the authorization services. -/
abbrev RoleReader (α : Type) : Type := Faulty RoleStore Failure α

def onBase {α : Type} (x : Service α) : RoleReader α :=
  .zoom RoleStore.base (fun s base => { s with base := base }) x

structure BootstrapCapabilitiesResponse where
  authorizationVersion : Nat
  permissions : List String
  modules : List String
  roles : List String
  deriving DecidableEq

/-- What the loop adds for one role. -/
structure RoleContribution where
  names : List String
  permissionCodes : List String
  deriving DecidableEq

namespace BootstrapAuthorizationService

/-- The cached name and codes count unless they are empty. -/
def cachedContribution (cachedRole : CachedRoleData) : RoleContribution where
  names := [cachedRole.name].filter (· ≠ "")
  permissionCodes := (cachedRole.permissions.map (·.permissionCode)).filter (· ≠ "")

def storedContribution (dbRole : StoredRole) : RoleContribution where
  names := [dbRole.row.name]
  permissionCodes := dbRole.permissions.rows.map (·.permissionCode)

/-- `findById` with the permissions. -/
def findRole (ctx : Context) (roleId : Uuid) : RoleReader (Option StoredRole) :=
  .read fun s => s.role ctx.tenantCode roleId

def roleContribution (ctx : Context) (roleAssignment : EffectiveUserRole) :
    RoleReader (List RoleContribution) := do
  match ← Faulty.tryCatch (RoleCacheService.getRole ctx.tenantCode roleAssignment.roleId)
      fun _ => pure none with
  | some cachedRole => pure [cachedContribution cachedRole]
  | none => do
    let dbRole ← findRole ctx roleAssignment.roleId
    pure (dbRole.toList.map storedContribution)

/-- The part before the first dot, if there is any. -/
def moduleOf (permission : String) : Option String :=
  (some (String.ofList (permission.toList.takeWhile (· ≠ '.')))).filter (· ≠ "")

def deriveModulesFromPermissions (permissions : List String) : List String :=
  setOf (permissions.filterMap moduleOf)

def getBootstrapCapabilities (ctx : Context) (userId : Uuid) :
    RoleReader BootstrapCapabilitiesResponse := do
  let userProfile ← onBase
    (UserAuthorizationCacheService.getUserAuthorizationProfile ctx ctx.tenantCode userId)
  if userProfile.roles.length = 0 then
    pure ⟨if userProfile.version = 0 then 1 else userProfile.version, [], [], []⟩
  else do
    let contributions ← .collect (roleContribution ctx) userProfile.roles
    let permissions := setOf (contributions.flatMap (·.permissionCodes))
    pure ⟨userProfile.version, permissions, deriveModulesFromPermissions permissions,
      setOf (contributions.flatMap (·.names))⟩

end BootstrapAuthorizationService

end AccessService.Authorization
