/-
  AccessService.Accounts.Provisioning

  `provisioning.application.service.ts`: what an event about an employee's status does to
  the account of the employee's user.
-/

import AccessService.Accounts.Sessions

namespace AccessService.Accounts

open AccessService.Js AccessService.Lib AccessService.Pg AccessService.Persistence

inductive EmployeeEvent where
  | EMPLOYEE_SUSPENDED
  | EMPLOYEE_TERMINATED
  | EMPLOYEE_REACTIVATED
  | other
  deriving DecidableEq

/-- `EmployeeStatus`; undefined for another event. -/
def EmployeeEvent.employeeStatus : EmployeeEvent → Option String
  | .EMPLOYEE_SUSPENDED => some "suspended"
  | .EMPLOYEE_TERMINATED => some "terminated"
  | .EMPLOYEE_REACTIVATED => some "reactivated"
  | .other => none

structure EmployeeStatusPayload where
  id : Uuid
  sourceVersion : SafeInteger
  deriving DecidableEq

/-- What a new invitation is given at random. -/
structure FreshInvitation where
  id : Uuid
  tokenHash : String
  deriving DecidableEq

def EmployeeRow.currentStoredVersion (employee : EmployeeRow) : JsNumber :=
  match employee.sourceVersion with
  | none => .fin 0
  | some text => if text = "" then .fin 0 else parseInt text

def EmployeeRow.isStale (employee : EmployeeRow) (sourceVersion : SafeInteger) : Bool :=
  JsNumber.le (.fin sourceVersion.val) employee.currentStoredVersion

/-- 24 hours. -/
def invitationLifetime : Nat := 24 * 60 * 60 * 1000

namespace ProvisioningApplicationService

/-- PENDING invitations become REVOKED. -/
def revokePendingInvitations (ctx : AccountContext) (userId : Uuid) : AccountService Unit := do
  let invitations ← InvitationRepository.findPending ctx userId
  Faulty.when (invitations ≠ []) (InvitationRepository.revokeAll invitations)

def suspendUserAndEmployee (ctx : AccountContext) (user : UserRow) (employee : EmployeeRow)
    (sourceVersion : String) : AccountService Bool := do
  -- `user.securityVersion++` is the value before the increment
  UserRepository.update user.id
    { securityVersion := user.securityVersion.val, status := some .DISABLED }
  EmployeeReferenceRepository.update employee.id (some "suspended") sourceVersion
  SecurityEventService.log user.tenantCode (some user.id) "authentication.sessions-revoked"
  SessionApplicationService.revokeAllSessions ctx user.tenantCode user.id
  pure true

def terminateUserAndEmployee (ctx : AccountContext) (user : UserRow) (employee : EmployeeRow)
    (sourceVersion : String) : AccountService Bool := do
  UserRepository.update user.id
    { securityVersion := user.securityVersion.val, status := some .ARCHIVED }
  EmployeeReferenceRepository.update employee.id (some "terminated") sourceVersion
  revokePendingInvitations ctx user.id
  SecurityEventService.log user.tenantCode (some user.id) "authentication.sessions-revoked"
  SessionApplicationService.revokeAllSessions ctx user.tenantCode user.id
  pure true

def reactivateUserAndEmployee (ctx : AccountContext) (fresh : FreshInvitation) (user : UserRow)
    (employee : EmployeeRow) (sourceVersion : String) : AccountService Bool := do
  UserRepository.update user.id
    { status := some .INACTIVE, securityVersion := user.securityVersion.val }
  EmployeeReferenceRepository.update employee.id (some "reactivated") sourceVersion
  revokePendingInvitations ctx user.id
  let now ← clock
  InvitationRepository.create
    { id := fresh.id, tenantCode := ctx.tenantCode, userId := user.id, status := .PENDING,
      tokenHash := fresh.tokenHash, expiresAt := now + invitationLifetime }
  SecurityEventService.log user.tenantCode (some user.id) "authentication.user-invited"
  pure true

/-- The user and the employee, once both are there and the event is new. -/
def synchronizeUser (ctx : AccountContext) (fresh : FreshInvitation) (event : EmployeeEvent)
    (user : UserRow) (employee : EmployeeRow) (sourceVersion : String) : AccountService Bool :=
  match event with
  | .EMPLOYEE_SUSPENDED => suspendUserAndEmployee ctx user employee sourceVersion
  | .EMPLOYEE_TERMINATED => terminateUserAndEmployee ctx user employee sourceVersion
  | .EMPLOYEE_REACTIVATED => reactivateUserAndEmployee ctx fresh user employee sourceVersion
  | .other => pure false

/-- The event is new to the employee. -/
def synchronizeEmployee (ctx : AccountContext) (fresh : FreshInvitation) (event : EmployeeEvent)
    (employee : EmployeeRow) (sourceVersion : String) : AccountService Bool := do
  match ← UserRepository.findByEmployeeRef ctx employee.id with
  | none => do
    EmployeeReferenceRepository.update employee.id event.employeeStatus sourceVersion
    pure true
  | some user => synchronizeUser ctx fresh event user employee sourceVersion

def synchronizeEmployeeStatus (ctx : AccountContext) (fresh : FreshInvitation)
    (event : EmployeeEvent) (payload : EmployeeStatusPayload) : AccountService Bool :=
  runInTransaction do
    match ← EmployeeReferenceRepository.findById ctx payload.id with
    | none => pure true
    | some employee =>
      if employee.isStale payload.sourceVersion then pure true
      else synchronizeEmployee ctx fresh event employee (toString payload.sourceVersion.val)

end ProvisioningApplicationService

end AccessService.Accounts
