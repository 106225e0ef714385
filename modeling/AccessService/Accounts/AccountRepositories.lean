/-
  AccessService.Accounts.AccountRepositories

  The repositories of users, employee references, invitations, credentials, MFA
  methods, settings and security events.  A find works within the tenant of the request
  context unless its query says otherwise; an update by id writes the row with that id.
-/

import AccessService.Accounts.AccountStore

namespace AccessService.Accounts

open AccessService.Lib AccessService.Pg AccessService.Persistence
open AccessService.Authorization (Timestamp)

-- ============================================================================
-- Users
-- ============================================================================

/-- The columns that an update of a user names. -/
structure UserUpdate where
  status : Option UserStatus := none
  credentialStatus : Option CredentialStatus := none
  securityVersion : ℤ
  deriving DecidableEq

def UserUpdate.apply (change : UserUpdate) (user : UserRow) : Option UserRow :=
  (SecurityVersion.ofInt? change.securityVersion).map fun securityVersion =>
    { user with
      status := change.status.getD user.status
      credentialStatus := change.credentialStatus.getD user.credentialStatus
      securityVersion := securityVersion }

namespace UserRepository

def userWithId (db : AccountDatabase) (id : Uuid) : Option UserRow :=
  db.users.rows.find? fun user => user.id = id

def userInTenant (ctx : AccountContext) (db : AccountDatabase) (id : Uuid) : Option UserRow :=
  db.users.rows.find? fun user => user.tenantCode = ctx.tenantCode && user.id = id

def findById (ctx : AccountContext) (id : Uuid) : AccountService (Option UserRow) :=
  readDb fun db => userInTenant ctx db id

def findByIdForUpdateUnscoped (id : Uuid) : AccountService UserRow :=
  required (readDb fun db => userWithId db id)

def findByIdWithLock (id : Uuid) : AccountService (Option UserRow) :=
  readDb fun db => userWithId db id

def userOfEmployee (ctx : AccountContext) (db : AccountDatabase) (employeeRefId : Uuid) :
    Option UserRow :=
  db.users.rows.find? fun user =>
    user.tenantCode = ctx.tenantCode && user.employeeRefId = some employeeRefId

/-- `findOne({ employeeRefId })` -/
def findByEmployeeRef (ctx : AccountContext) (employeeRefId : Uuid) :
    AccountService (Option UserRow) :=
  readDb fun db => userOfEmployee ctx db employeeRefId

def findByTenantAndExternalIdentity (externalIdentityId : String) :
    AccountService (Option UserRow) :=
  readDb fun db => db.users.rows.find? fun user => user.externalIdentityId = some externalIdentityId

/-- `email.toLowerCase().trim()` -/
def normalizeEmail (email : String) : String := Js.trim (Js.toLowerCase email)

def findByEmailUnscoped (email : String) : AccountService (Option UserRow) :=
  readDb fun db => db.users.rows.find? fun user => user.normalizedEmail = normalizeEmail email

def findByEmailWithTenant (email tenantCode : String) : AccountService (Option UserRow) :=
  readDb fun db => db.users.rows.find? fun user =>
    user.tenantCode = tenantCode && user.normalizedEmail = normalizeEmail email

/-- `findOne({ tenantCode, normalizedEmail, status: UserStatus.ACTIVE })`, without tenancy. -/
def findActiveByEmail (tenantCode normalizedEmail : String) : AccountService (Option UserRow) :=
  readDb fun db => db.users.rows.find? fun user =>
    user.tenantCode = tenantCode && user.normalizedEmail = normalizedEmail && user.status = .ACTIVE

def findTenantCodeByEmail (email : String) : AccountService (List String) :=
  readDb fun db => (db.users.rows.filter fun user =>
    user.normalizedEmail = normalizeEmail email).map (·.tenantCode)

/-- `uq_users_employee_ref_id` and `uq_users_tenant_normalized_email` are about columns
    that no update names. -/
def overwrite (id : Uuid) (f : UserRow → Option UserRow) : AccountService Unit :=
  writeDb fun db =>
    (updateRow (fun _ _ => false) db.users id f).map fun users => { db with users := users }

def update (id : Uuid) (change : UserUpdate) : AccountService Unit := overwrite id change.apply

/-- `"security_version" + 1` -/
def incremented (user : UserRow) : Option UserRow :=
  UserUpdate.apply { securityVersion := user.securityVersion.val + 1 } user

/-- UPDATE with `incremented` of the row that meets a condition on its id.  The number of
    rows affected. -/
def increment (condition : UserRow → Bool) : AccountService Nat :=
  .call fun s =>
    match s.db.users.rows.find? condition with
    | none => .ok (0, s)
    | some user =>
      match incremented user with
      | none => .error queryFailed
      | some user' => .ok (1, { s with db := { s.db with users := s.db.users.replace user' } })

def incrementSecurityVersionById (ctx : AccountContext) (id : Uuid) : AccountService Nat :=
  increment fun user => user.id = id && user.tenantCode = ctx.tenantCode

end UserRepository

-- ============================================================================
-- Employee references
-- ============================================================================

namespace EmployeeReferenceRepository

def employeeInTenant (ctx : AccountContext) (db : AccountDatabase) (id : Uuid) :
    Option EmployeeRow :=
  db.employees.rows.find? fun employee =>
    employee.tenantCode = ctx.tenantCode && employee.id = id

def findById (ctx : AccountContext) (id : Uuid) : AccountService (Option EmployeeRow) :=
  readDb fun db => employeeInTenant ctx db id

/-- An undefined status is not written. -/
def update (id : Uuid) (status : Option String) (sourceVersion : String) : AccountService Unit :=
  writeDb fun db =>
    (updateRow (fun _ _ => false) db.employees id fun employee =>
      some { employee with
        status := status.getD employee.status, sourceVersion := some sourceVersion }).map
      fun employees => { db with employees := employees }

end EmployeeReferenceRepository

-- ============================================================================
-- Invitations
-- ============================================================================

namespace InvitationRepository

def invitationWithToken (db : AccountDatabase) (tokenHash : String) : Option Invitation :=
  db.invitations.rows.find? fun invitation => invitation.tokenHash = tokenHash

def findByTokenHashForUpdateUnscoped (tokenHash : String) : AccountService Invitation :=
  required (readDb fun db => invitationWithToken db tokenHash)

/-- `find({ userId, status: PENDING })` -/
def findPending (ctx : AccountContext) (userId : Uuid) : AccountService (List Invitation) :=
  readDb fun db => db.invitations.rows.filter fun invitation =>
    invitation.tenantCode = ctx.tenantCode && invitation.userId = userId &&
      invitation.status = .PENDING

/-- `uq_invitations_one_pending_per_user`: there is at most one, so its place in the
    order does not matter. -/
def findPreviousByUser (userId : Uuid) : AccountService (Option Invitation) :=
  readDb fun db => db.invitations.rows.find? fun invitation =>
    invitation.userId = userId && invitation.isOpen

/-- `findOne({ userId, status: In([PENDING, SENT]) })` -/
def findOpen (ctx : AccountContext) (userId : Uuid) : AccountService (Option Invitation) :=
  readDb fun db => db.invitations.rows.find? fun invitation =>
    invitation.tenantCode = ctx.tenantCode && invitation.userId = userId && invitation.isOpen

def update (id : Uuid) (f : Invitation → Invitation) : AccountService Unit :=
  writeDb fun db =>
    (updateRow Invitation.conflicts db.invitations id fun invitation =>
      some (f invitation)).map fun invitations => { db with invitations := invitations }

def create (invitation : Invitation) : AccountService Unit :=
  writeDb fun db =>
    if invitation.checked then
      (insertRow Invitation.conflicts db.invitations invitation).map
        fun invitations => { db with invitations := invitations }
    else none

def revoked (now : Timestamp) (invitation : Invitation) : Invitation :=
  { invitation with status := .REVOKED, revokedAt := some now }

/-- `bulkSave` of the revoked invitations, in one save. -/
def revokeAll (invitations : List Invitation) : AccountService Unit :=
  .write fun s => { s with db := { s.db with
    invitations := invitations.foldl (fun table i => table.replace (revoked s.now i))
      s.db.invitations } }

def cancelled (ctx : AccountContext) (userId : Uuid) (now : Timestamp) (invitation : Invitation) :
    Invitation :=
  if invitation.userId = userId ∧ invitation.tenantCode = ctx.tenantCode ∧ invitation.isOpen then
    { invitation with status := .CANCELLED, revokedAt := some now }
  else invitation

theorem cancelled_id (ctx : AccountContext) (userId : Uuid) (now : Timestamp)
    (invitation : Invitation) : (cancelled ctx userId now invitation).id = invitation.id := by
  unfold cancelled
  split <;> rfl

def cancelPendingInvitations (ctx : AccountContext) (userId : Uuid) : AccountService Unit :=
  .write fun s => { s with db := { s.db with
    invitations := s.db.invitations.update (cancelled ctx userId s.now)
      (cancelled_id ctx userId s.now) } }

end InvitationRepository

-- ============================================================================
-- Credentials
-- ============================================================================

namespace CredentialRepository

def activeCredential (db : AccountDatabase) (userId : Uuid) : Option Credential :=
  db.credentials.rows.find? fun credential =>
    credential.userId = userId && credential.status = .ACTIVE

def findActiveByUserForUpdateUnscope (userId : Uuid) : AccountService (Option Credential) :=
  readDb fun db => activeCredential db userId

def findActiveByUseUnscope (userId : Uuid) : AccountService (Option Credential) :=
  readDb fun db => activeCredential db userId

/-- `findOne({ userId, status: ACTIVE })` -/
def findActive (ctx : AccountContext) (userId : Uuid) : AccountService (Option Credential) :=
  readDb fun db => db.credentials.rows.find? fun credential =>
    credential.tenantCode = ctx.tenantCode && credential.userId = userId &&
      credential.status = .ACTIVE

def update (id : Uuid) (f : Credential → Credential) : AccountService Unit :=
  writeDb fun db =>
    (updateRow Credential.conflicts db.credentials id fun credential =>
      some (f credential)).map fun credentials => { db with credentials := credentials }

def create (credential : Credential) : AccountService Unit :=
  writeDb fun db =>
    (insertRow Credential.conflicts db.credentials credential).map
      fun credentials => { db with credentials := credentials }

end CredentialRepository

-- ============================================================================
-- MFA methods
-- ============================================================================

namespace MfaMethodRepository

def findActiveByUserId (userId : Uuid) : AccountService (List MfaMethod) :=
  readDb fun db => db.mfaMethods.rows.filter fun m => m.userId = userId && m.status = .ACTIVE

def disabled (ctx : AccountContext) (userId : Uuid) (m : MfaMethod) : MfaMethod :=
  if m.userId = userId ∧ m.tenantCode = ctx.tenantCode then
    { m with status := .DISABLED, isPrimary := false }
  else m

theorem disabled_id (ctx : AccountContext) (userId : Uuid) (m : MfaMethod) :
    (disabled ctx userId m).id = m.id := by
  unfold disabled
  split <;> rfl

def disableAllUserFactors (ctx : AccountContext) (userId : Uuid) : AccountService Unit :=
  writeDb fun db => some { db with
    mfaMethods := db.mfaMethods.update (disabled ctx userId) (disabled_id ctx userId) }

end MfaMethodRepository

-- ============================================================================
-- Tenants, settings, security events
-- ============================================================================

def TenantRepository.«exists» (tenantCode : String) : AccountService Bool :=
  readDb fun db => tenantCode ∈ db.tenants

def AuthenticationSettingsRepository.findByTenantCode (tenantCode : String) :
    AccountService (Option AuthenticationSettings) :=
  readDb fun db => db.settings.rows.find? fun settings => settings.tenantCode = tenantCode

/-- `security-event.service.ts`, which writes one row for each event. -/
def SecurityEventService.log (tenantCode : String) (userId : Option Uuid) (eventType : String) :
    AccountService Unit :=
  writeDb fun db => some { db with outbox := db.outbox ++ [⟨tenantCode, userId, eventType⟩] }

theorem log_completes {tenantCode : String} {userId : Option Uuid} {eventType : String} :
    Faulty.Completes (SecurityEventService.log tenantCode userId eventType) :=
  fun _ => ⟨_, _, rfl⟩

end AccessService.Accounts
