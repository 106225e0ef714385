/-
  AccessService.Roles.RoleUpdates

  `updateCustom`, `updatePermissions` and `deactivate` of
  `role.application.service.ts`.  Each reads the role and makes its checks, then
  reads it again under a row lock, checks the version once more, and changes what it
  has read under the lock.  The parts are functions of what they read, so that other
  calls may come in between them.
-/

import AccessService.Lib.Versioned
import AccessService.Permissions.PermissionDependency
import AccessService.Roles.Role

namespace AccessService.Roles

open AccessService.Lib AccessService.Permissions AccessService.Pg AccessService.Persistence

-- ============================================================================
-- Requests
-- ============================================================================

structure UpdateCustomRoleDto where
  name : String
  description : Option String := none
  permissionCodes : List String
  version : Option Int := none
  confirmed : Option Bool := none
  deriving DecidableEq

structure UpdateRolePermissionsDto where
  permissionCodes : List String
  version : Option Int := none
  confirmed : Option Bool := none
  deriving DecidableEq

structure DeactivateRoleDto where
  version : Option Int := none
  confirmed : Option Bool := none
  deriving DecidableEq

inductive RoleRequest where
  | updateCustom (dto : UpdateCustomRoleDto)
  | updatePermissions (dto : UpdateRolePermissionsDto)
  | deactivate (dto : DeactivateRoleDto)
  deriving DecidableEq

def RoleRequest.version : RoleRequest → Option Int
  | .updateCustom dto => dto.version
  | .updatePermissions dto => dto.version
  | .deactivate dto => dto.version

/-- A request and the user who makes it. -/
structure RoleCall where
  request : RoleRequest
  userId : Option Uuid
  deriving DecidableEq

/-- The answer of a call that would affect many. -/
structure HighImpactConfirmationRequired where
  affectedUserGroupCount : Option Nat
  affectedUserCount : Nat
  message : String
  deriving DecidableEq

/-- What the other tables answer to a call's checks. -/
structure RoleAnswers where
  /-- The id of the role that has the new name. -/
  findByName : Option Uuid := none
  assignedUserGroupCount : Nat := 0
  activeUserReachCount : Nat := 0
  deriving DecidableEq

namespace RoleApplicationService

def HIGH_IMPACT_THRESHOLD : Nat := 100

-- ============================================================================
-- The checks
-- ============================================================================

def checkVersion (role : RoleEntity) (version : Option Int) : Except RoleError Unit :=
  match version with
  | none => .ok ()
  | some expected =>
    if (role.version : Int) ≠ expected then
      .error (.roleVersionConflict role.id expected role.version)
    else .ok ()

def checkNotSystem (role : RoleEntity) : Except RoleError Unit :=
  if role.type = .SYSTEM then .error (.cannotMutateSystemRole role.name) else .ok ()

def checkNotCritical (role : RoleEntity) : Except RoleError Unit :=
  if role.type = .SYSTEM ∧ role.systemRoleKey = some .ADMINISTRATOR then
    .error (.criticalRoleDeactivation role.name)
  else .ok ()

def checkProtected (role : RoleEntity) (permissionCodes : List String) :
    Except RoleError Unit :=
  let omittedProtected := (protectedCodes role.type role.systemRoleKey).filter fun code =>
    code ∉ permissionCodes
  if omittedProtected.length > 0 then
    .error (.protectedCapabilityRemoval role.name omittedProtected)
  else .ok ()

/-- Only a name that changes is looked up. -/
def checkNewName (role : RoleEntity) (name : String) (owner : Option Uuid) :
    Except RoleError Unit :=
  if role.name ≠ name then
    match owner with
    | some id => if id ≠ role.id then .error (.duplicateRoleName name) else .ok ()
    | none => .ok ()
  else .ok ()

def checkPermissionSet (graph : PermissionDependencyGraph) (permissionCodes : List String) :
    Except RoleError Unit :=
  let validation := PermissionDependencyService.validatePermissionSet graph permissionCodes
  if validation.isValid then .ok ()
  else .error (.dependencyValidationFailed validation.errors.length)

def responseForHighImpactUsersConfirmation (affectedUserCount : Nat) :
    HighImpactConfirmationRequired where
  affectedUserGroupCount := none
  affectedUserCount := affectedUserCount
  message := "This role change affects " ++ toString affectedUserCount ++
    " users. Explicit confirmation is required."

def responseForHighImpactUserGroupsConfirmation (affectedUserGroupCount affectedUserCount : Nat) :
    HighImpactConfirmationRequired where
  affectedUserGroupCount := some affectedUserGroupCount
  affectedUserCount := affectedUserCount
  message := "This role change affects " ++ toString affectedUserGroupCount ++
    " User Group(s) and " ++ toString affectedUserCount ++
    " user(s). Explicit confirmation is required."

/-- The checks on the role as first read. -/
def checkRole (request : RoleRequest) (role : RoleEntity) : Except RoleError Unit :=
  match request with
  | .updateCustom dto => do
    checkNotSystem role
    checkVersion role dto.version
  | .updatePermissions dto => do
    checkVersion role dto.version
    checkProtected role dto.permissionCodes
  | .deactivate dto => do
    checkNotCritical role
    checkVersion role dto.version

/-- The checks that look further; the answer, where the caller has to confirm. -/
def checkRequest (graph : PermissionDependencyGraph) (request : RoleRequest) (role : RoleEntity)
    (answers : RoleAnswers) : Except RoleError (Option HighImpactConfirmationRequired) :=
  match request with
  | .updateCustom dto => do
    checkNewName role dto.name answers.findByName
    checkPermissionSet graph dto.permissionCodes
    if answers.activeUserReachCount ≥ HIGH_IMPACT_THRESHOLD ∧ dto.confirmed ≠ some true then
      .ok (some (responseForHighImpactUsersConfirmation answers.activeUserReachCount))
    else .ok none
  | .updatePermissions dto => do
    checkPermissionSet graph dto.permissionCodes
    if answers.activeUserReachCount ≥ HIGH_IMPACT_THRESHOLD ∧ dto.confirmed ≠ some true then
      .ok (some (responseForHighImpactUsersConfirmation answers.activeUserReachCount))
    else .ok none
  | .deactivate dto =>
    if answers.assignedUserGroupCount > 0 ∧ dto.confirmed ≠ some true then
      .ok (some (responseForHighImpactUserGroupsConfirmation answers.assignedUserGroupCount
        answers.activeUserReachCount))
    else .ok none

-- ============================================================================
-- The transaction
-- ============================================================================

/-- What the transaction makes of the role it has read under the lock. -/
def change (call : RoleCall) (lockedRole : RoleEntity) : RoleEntity :=
  match call.request with
  | .updateCustom dto =>
    { lockedRole with
      name := dto.name
      description := .ofOptional dto.description
      version := lockedRole.version + 1
      updatedBy := call.userId }
  | .updatePermissions _ =>
    { lockedRole with
      version := lockedRole.version + 1
      updatedBy := call.userId }
  | .deactivate _ =>
    { lockedRole with
      status := .INACTIVE
      version := lockedRole.version + 1
      updatedBy := call.userId }

/-- The permissions the transaction stores instead of the unprotected ones. -/
def newPermissions (request : RoleRequest) (lockedRole : RoleEntity) :
    Option (List RolePermission) :=
  match request with
  | .updateCustom dto => some (dto.permissionCodes.map fun code => ⟨code, false⟩)
  | .updatePermissions dto =>
    let protectedSet := protectedCodes lockedRole.type lockedRole.systemRoleKey
    some (dto.permissionCodes.map fun code => ⟨code, code ∈ protectedSet⟩)
  | .deactivate _ => none

/-- The writes of the transaction. -/
def write (call : RoleCall) (lockedRole : RoleEntity) (role : StoredRole) : Option StoredRole :=
  let saved := (change call lockedRole).save role.row
  match newPermissions call.request lockedRole with
  | some permissions =>
    (role.deletePermissions.savePermissions permissions).map fun replaced =>
      ⟨saved, replaced.permissions⟩
  | none => some ⟨saved, role.permissions⟩

theorem change_version (call : RoleCall) (lockedRole : RoleEntity) :
    (change call lockedRole).version = lockedRole.version + 1 := by
  obtain ⟨request, userId⟩ := call
  cases request <;> rfl

/-- The transaction writes the row that `change` makes. -/
theorem write_row {call : RoleCall} {lockedRole : RoleEntity} {role role' : StoredRole}
    (h : write call lockedRole role = some role') :
    role'.row = (change call lockedRole).save role.row := by
  unfold write at h
  simp only at h
  split at h
  · obtain ⟨replaced, -, rfl⟩ := Option.map_eq_some_iff.mp h
    rfl
  · obtain rfl := Option.some.inj h
    rfl

/-- The transaction writes the version after the one it has read. -/
theorem write_version {call : RoleCall} {lockedRole : RoleEntity} {role role' : StoredRole}
    (h : write call lockedRole role = some role') :
    role'.row.version = lockedRole.version + 1 := by
  rw [← change_version call lockedRole, write_row h]
  rfl

theorem checkVersion_ok {role : RoleEntity} {version : Option Int} :
    checkVersion role version = .ok () ↔ ∀ v, version = some v → v = role.version := by
  cases version with
  | none => exact iff_of_true rfl nofun
  | some expected =>
    simp only [checkVersion]
    split
    next hne =>
      exact iff_of_false nofun fun h => hne (h expected rfl).symm
    next heq =>
      refine iff_of_true rfl fun v hv => ?_
      rw [← Option.some.inj hv]
      exact (not_not.mp heq).symm

-- ============================================================================
-- A call on its own
-- ============================================================================

/-- What a call that passes its further checks makes of the role when it runs
    alone. -/
def applyCall (call : RoleCall) (role : StoredRole) : Option StoredRole :=
  match checkRole call.request (.load role.row) with
  | .ok () => write call (.load role.row) role
  | .error _ => none

/-- Roles as versioned records. -/
def roleRecord : Versioned RoleCall StoredRole where
  version role := role.row.version
  expected call := call.request.version
  apply := applyCall

/-- What the checks on the role look at, apart from the version. -/
def SameKind (a b : RoleEntity) : Prop := a.type = b.type ∧ a.systemRoleKey = b.systemRoleKey

/-- The checks pass again on a role of the same kind that has the expected version. -/
theorem checkRole_again {request : RoleRequest} {role lockedRole : RoleEntity}
    (hkind : SameKind role lockedRole) (hfirst : checkRole request role = .ok ())
    (hversion : checkVersion lockedRole request.version = .ok ()) :
    checkRole request lockedRole = .ok () := by
  obtain ⟨htype, hkey⟩ := hkind
  cases request with
  | updateCustom dto =>
    obtain ⟨u, hsystem, -⟩ := Sql.bind_eq_ok.mp hfirst
    refine Sql.bind_eq_ok.mpr ⟨u, ?_, hversion⟩
    unfold checkNotSystem at hsystem ⊢
    rw [← htype]
    split at hsystem
    · cases hsystem
    next hcustom => exact if_neg hcustom
  | updatePermissions dto =>
    obtain ⟨u, -, hprotected⟩ := Sql.bind_eq_ok.mp hfirst
    refine Sql.bind_eq_ok.mpr ⟨u, hversion, ?_⟩
    unfold checkProtected at hprotected ⊢
    rw [← htype, ← hkey]
    simp only at hprotected ⊢
    split at hprotected
    · cases hprotected
    next hnone => exact if_neg hnone
  | deactivate dto =>
    obtain ⟨u, hcritical, -⟩ := Sql.bind_eq_ok.mp hfirst
    refine Sql.bind_eq_ok.mpr ⟨u, ?_, hversion⟩
    unfold checkNotCritical at hcritical ⊢
    rw [← htype, ← hkey]
    split at hcritical
    · cases hcritical
    next hfree => exact if_neg hfree

/-- The transaction leaves the kind of the role alone. -/
theorem write_kind {call : RoleCall} {lockedRole : RoleEntity} {role role' : StoredRole}
    (h : write call lockedRole role = some role') :
    SameKind lockedRole (.load role'.row) := by
  obtain ⟨request, userId⟩ := call
  rw [write_row h]
  cases request <;> exact ⟨rfl, rfl⟩

end RoleApplicationService

end AccessService.Roles
