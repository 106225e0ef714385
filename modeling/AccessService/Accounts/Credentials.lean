/-
  AccessService.Accounts.Credentials

  The operations that give a user a password: `invitation.application.service.ts` and
  `password.service.ts`, with `password-reset-redis.adapter.ts`.
-/

import AccessService.Accounts.Provisioning
import Mathlib.Data.List.Infix

namespace AccessService.Accounts

open AccessService.Lib AccessService.Pg AccessService.Persistence

-- ============================================================================
-- Errors
-- ============================================================================

def AuthInvitationInvalidError : AccountError where
  name := "AuthInvitationInvalidError"
  message := "Invitation link is invalid, revoked, or has expired"
  code := some "AUTH_INVITATION_INVALID"
  status := 400

def InvitationNotAllowedError : AccountError where
  name := "InvitationNotAllowedError"
  message := "Cannot resend invitation: user already has an active credential"
  code := some "INVITATION_NOT_ALLOWED"
  status := 409

def AuthSessionStoreUnavailableError : AccountError where
  name := "AuthSessionStoreUnavailableError"
  message := "Authentication session store is temporarily unavailable"
  code := some "AUTH_SESSION_STORE_UNAVAILABLE"
  status := 503

def SelfServiceResetDisabledException : AccountError where
  name := "SelfServiceResetDisabledException"
  message := "Self-service password reset is disabled by tenant policy."
  code := some "SELF_SERVICE_RESET_DISABLED"
  status := 403

def InvalidResetChallengeException : AccountError where
  name := "InvalidResetChallengeException"
  message := "Reset challenge not found or expired."
  code := some "RESET_CHALLENGE_EXPIRED"
  status := 400

def InvalidResetCodeException : AccountError where
  name := "InvalidResetCodeException"
  message := "Invalid or expired verification code."
  code := some "INVALID_RESET_CODE"
  status := 400

def MaxAttemptsExceededException : AccountError where
  name := "MaxAttemptsExceededException"
  message := "Maximum code verification attempts exceeded."
  code := some "MAX_ATTEMPTS_EXCEEDED"
  status := 429

def CredentialAlreadyExistsError : AccountError where
  name := "CredentialAlreadyExistsError"
  message := "User already has an active password configured."
  code := some "CREDENTIAL_ALREADY_EXISTS"
  status := 409

-- ============================================================================
-- New credentials
-- ============================================================================

/-- What hashing the new password gives, and the id the credential gets. -/
structure FreshCredential where
  id : Uuid
  passwordHash : String
  algorithm : String
  deriving DecidableEq

/-- `credentialDomainService.hashPassword`, which may throw. -/
def hashPassword (fresh : FreshCredential) : AccountService FreshCredential := .read fun _ => fresh

def createCredential (ctx : AccountContext) (userId : Uuid) (hashed : FreshCredential) :
    AccountService Unit := do
  let now ← clock
  CredentialRepository.create
    { id := hashed.id, tenantCode := ctx.tenantCode, userId := userId,
      passwordHash := hashed.passwordHash, algorithm := hashed.algorithm, status := .ACTIVE,
      passwordChangedAt := some now }

/-- The user once it has a password. -/
def activated (user : UserRow) : UserUpdate where
  status := some .ACTIVE
  credentialStatus := some .ACTIVE
  securityVersion := user.securityVersion.val

-- ============================================================================
-- invitation.application.service.ts
-- ============================================================================

namespace InvitationApplicationService

/-- `val.includes(userId)` -/
def mentions (ctx : AccountContext) (userId : Uuid) (challenge : MfaChallengeData) : Bool :=
  userId.text.toList <:+: (ctx.challengeText challenge).toList

def deleteChallengeOf (ctx : AccountContext) (userId : Uuid) (key : String) :
    AccountService Unit := do
  match ← .read fun s => s.redis.mfaChallenges.get s.now key with
  | none => pure ()
  | some challenge =>
    Faulty.when (mentions ctx userId challenge = true) (deleteMfaChallenge key)

def revokeSessionsAndChallenges (ctx : AccountContext) (tenantCode : String) (userId : Uuid) :
    AccountService Unit :=
  if ctx.redisClient = true then
    .tryCatch (do
        deleteIndexed ctx (ctx.keys.buildUserSessions tenantCode userId false)
        let challengeKeys ← .read fun s => s.redis.mfaChallenges.keys s.now
        Faulty.forEach (deleteChallengeOf ctx userId) challengeKeys)
      fun _ => .throw AuthSessionStoreUnavailableError
  else .throw AuthSessionStoreUnavailableError

/-- The new password goes into the ACTIVE credential, or into a new one. -/
def setPassword (ctx : AccountContext) (userId : Uuid) (hashed : FreshCredential) :
    AccountService Unit := do
  match ← CredentialRepository.findActiveByUserForUpdateUnscope userId with
  | none => createCredential ctx userId hashed
  | some existing => do
    let now ← clock
    CredentialRepository.update existing.id fun credential => { credential with
      passwordHash := hashed.passwordHash
      algorithm := hashed.algorithm
      passwordChangedAt := some now }

/-- The invitation is not expired. -/
def acceptLiveInvitation (ctx : AccountContext) (fresh : FreshCredential)
    (invitation : Invitation) : AccountService Uuid := do
  let user ← UserRepository.findByIdForUpdateUnscoped invitation.userId
  let hashed ← hashPassword fresh
  setPassword ctx user.id hashed
  let acceptedAt ← clock
  InvitationRepository.update invitation.id fun invitation =>
    { invitation with status := .ACCEPTED, acceptedAt := some acceptedAt }
  UserRepository.update user.id (activated user)
  SecurityEventService.log user.tenantCode (some user.id) "authentication.invitation-accepted"
  revokeSessionsAndChallenges ctx user.tenantCode user.id
  pure user.id

def acceptInvitation (ctx : AccountContext) (fresh : FreshCredential) (token : String) :
    AccountService Uuid :=
  runInTransaction do
    let invitation ←
      InvitationRepository.findByTokenHashForUpdateUnscoped (ctx.hashToken token)
    let now ← clock
    if invitation.isExpired now then .throw AuthInvitationInvalidError
    else acceptLiveInvitation ctx fresh invitation

def revokePrevious (userId : Uuid) : AccountService Unit := do
  match ← InvitationRepository.findPreviousByUser userId with
  | none => pure ()
  | some previous => do
    let now ← clock
    InvitationRepository.update previous.id (InvitationRepository.revoked now)

/-- The user has no ACTIVE credential. -/
def reissue (ctx : AccountContext) (fresh : FreshInvitation) (user : UserRow) :
    AccountService Uuid := do
  revokePrevious user.id
  let now ← clock
  InvitationRepository.create
    { id := fresh.id, tenantCode := ctx.tenantCode, userId := user.id, status := .PENDING,
      tokenHash := fresh.tokenHash, expiresAt := now + invitationLifetime, sentAt := some now }
  SecurityEventService.log user.tenantCode (some user.id) "authentication.invitation-resent"
  pure fresh.id

def resendInvitation (ctx : AccountContext) (fresh : FreshInvitation) (targetUserId : Uuid) :
    AccountService Uuid :=
  runInTransaction do
    let user ← UserRepository.findByIdForUpdateUnscoped targetUserId
    match ← CredentialRepository.findActiveByUseUnscope user.id with
    | some _ => .throw InvitationNotAllowedError
    | none => reissue ctx fresh user

end InvitationApplicationService

-- ============================================================================
-- password-reset-redis.adapter.ts
-- ============================================================================

namespace PasswordResetRedisAdapter

def getKey (challengeId tenantCode : String) (userId : Uuid) : String :=
  "auth:password-reset:\x7b" ++ tenantCode ++ ":" ++ userId.text ++ "\x7d:" ++ challengeId

def getChallenge (challengeId tenantCode : String) (userId : Uuid) :
    AccountService (Option PasswordResetChallengeData) :=
  .read fun s => s.redis.resetChallenges.get s.now (getKey challengeId tenantCode userId)

def ttlSeconds : Nat := 900

/-- `redisCacheProvider.set` of a challenge -/
def storeChallenge (key : String) (challenge : PasswordResetChallengeData) : AccountService Unit :=
  writeRedis fun now redis =>
    let expiresAt := now + seconds ttlSeconds
    { redis with resetChallenges := redis.resetChallenges.set key challenge (some expiresAt) }

/-- Whatever the attempts in `data`, there are none yet. -/
def saveChallenge (challengeId : String) (data : PasswordResetChallengeData) : AccountService Unit :=
  storeChallenge (getKey challengeId data.tenantCode data.userId) { data with attempts := 0 }

def incrementAttempts (challengeId tenantCode : String) (userId : Uuid) : AccountService ℤ := do
  match ← getChallenge challengeId tenantCode userId with
  | none => pure 0
  | some challenge => do
    storeChallenge (getKey challengeId tenantCode userId)
      { challenge with attempts := challenge.attempts + 1 }
    pure (challenge.attempts + 1)

def markCodeVerified (challengeId tenantCode : String) (userId : Uuid) (resetToken : String) :
    AccountService Unit := do
  match ← getChallenge challengeId tenantCode userId with
  | none => pure ()
  | some challenge =>
    storeChallenge (getKey challengeId tenantCode userId)
      { challenge with codeVerified := true, resetToken := some resetToken }

def deleteChallenge (challengeId tenantCode : String) (userId : Uuid) : AccountService Unit :=
  writeRedis fun _ redis => { redis with
    resetChallenges := redis.resetChallenges.erase (getKey challengeId tenantCode userId) }

end PasswordResetRedisAdapter

-- ============================================================================
-- password.service.ts
-- ============================================================================

structure RequestPasswordReset where
  tenantCode : String
  email : String
  deriving DecidableEq

/-- The code that is sent, and the id its challenge gets. -/
structure FreshResetCode where
  challengeId : Uuid
  rawCode : String
  deriving DecidableEq

structure ConfirmPasswordReset where
  challengeId : String
  tenantCode : String
  userId : Uuid
  resetToken : String
  deriving DecidableEq

structure VerifyResetCode where
  challengeId : String
  tenantCode : String
  userId : Uuid
  code : String
  deriving DecidableEq

structure ResetCodeVerified where
  valid : Bool
  resetToken : String
  deriving DecidableEq

namespace PasswordService

def saveResetCode (hashOtpCode : String → String) (fresh : FreshResetCode) (tenantCode : String)
    (user : UserRow) : AccountService Unit := do
  PasswordResetRedisAdapter.saveChallenge fresh.challengeId.text
    { tenantCode := tenantCode, userId := user.id, hashedCode := hashOtpCode fresh.rawCode,
      codeVerified := false, resetToken := none, attempts := 0 }
  runInTransaction (SecurityEventService.log tenantCode (some user.id)
    "authentication.password-reset-requested")

def sendResetCode (hashOtpCode : String → String) (fresh : FreshResetCode)
    (dto : RequestPasswordReset) : AccountService Unit := do
  match ← UserRepository.findActiveByEmail dto.tenantCode (Js.toLowerCase (Js.trim dto.email)) with
  | none => pure ()
  | some user => saveResetCode hashOtpCode fresh dto.tenantCode user

/-- The answer is the same whether there is such a user or not. -/
def requestResetCode (hashOtpCode : String → String) (fresh : FreshResetCode)
    (dto : RequestPasswordReset) : AccountService String := do
  let settings ← AuthenticationSettingsRepository.findByTenantCode dto.tenantCode
  if settings.any (fun settings => settings.needAdminResetPassword) = true then
    .throw SelfServiceResetDisabledException
  else do
    sendResetCode hashOtpCode fresh dto
    pure "If an active account exists, recovery instructions have been sent."

def denyResetCode (dto : VerifyResetCode) : AccountService ResetCodeVerified := do
  let attempts ←
    PasswordResetRedisAdapter.incrementAttempts dto.challengeId dto.tenantCode dto.userId
  if attempts ≥ 3 then .throw MaxAttemptsExceededException else .throw InvalidResetCodeException

def acceptResetCode (dto : VerifyResetCode) (resetToken : String) :
    AccountService ResetCodeVerified := do
  PasswordResetRedisAdapter.markCodeVerified dto.challengeId dto.tenantCode dto.userId resetToken
  pure { valid := true, resetToken := resetToken }

/-- `hashOtpCode` is the HMAC of the code, and `resetToken` a new uuid. -/
def verifyResetCode (hashOtpCode : String → String) (resetToken : Uuid) (dto : VerifyResetCode) :
    AccountService ResetCodeVerified := do
  match ← PasswordResetRedisAdapter.getChallenge dto.challengeId dto.tenantCode dto.userId with
  | none => .throw InvalidResetChallengeException
  | some challenge =>
    if challenge.attempts ≥ 3 then .throw MaxAttemptsExceededException
    else if hashOtpCode dto.code ≠ challenge.hashedCode then denyResetCode dto
    else acceptResetCode dto resetToken.text

def supersedeActive (userId : Uuid) : AccountService Unit := do
  match ← CredentialRepository.findActiveByUserForUpdateUnscope userId with
  | none => pure ()
  | some active =>
    CredentialRepository.update active.id fun credential =>
      { credential with status := .SUPERSEDED }

def replacePassword (ctx : AccountContext) (fresh : FreshCredential)
    (dto : ConfirmPasswordReset) : AccountService Unit :=
  runInTransaction do
    let user ← UserRepository.findByIdForUpdateUnscoped dto.userId
    supersedeActive dto.userId
    let hashed ← hashPassword fresh
    createCredential ctx user.id hashed
    -- `user.securityVersion++` is the value before the increment
    UserRepository.update user.id { securityVersion := user.securityVersion.val }
    SecurityEventService.log dto.tenantCode (some user.id)
      "authentication.password-reset-completed"

/-- The code was verified, and this is the token that verifying it gave. -/
def mayReset (dto : ConfirmPasswordReset) (challenge : Option PasswordResetChallengeData) : Bool :=
  match challenge with
  | none => false
  | some challenge => challenge.codeVerified && challenge.resetToken = some dto.resetToken

def confirmPasswordReset (ctx : AccountContext) (fresh : FreshCredential)
    (dto : ConfirmPasswordReset) : AccountService Unit := do
  let challenge ← PasswordResetRedisAdapter.getChallenge dto.challengeId dto.tenantCode dto.userId
  if mayReset dto challenge then
    replacePassword ctx fresh dto
    .tryCatch (SessionApplicationService.revokeAllSessions ctx dto.tenantCode dto.userId)
      fun _ => pure ()
    PasswordResetRedisAdapter.deleteChallenge dto.challengeId dto.tenantCode dto.userId
  else .throw InvalidResetChallengeException

def logOpenInvitation (ctx : AccountContext) (userId : Uuid) : AccountService Unit := do
  match ← InvitationRepository.findOpen ctx userId with
  | none => pure ()
  | some _ =>
    SecurityEventService.log ctx.tenantCode (some userId) "authentication.invitation-accepted"

/-- The user has no ACTIVE credential in the tenant. -/
def setFirstPassword (ctx : AccountContext) (fresh : FreshCredential) (user : UserRow) :
    AccountService Unit := do
  let hashed ← hashPassword fresh
  createCredential ctx user.id hashed
  UserRepository.update user.id (activated user)
  logOpenInvitation ctx user.id
  InvitationRepository.cancelPendingInvitations ctx user.id
  SecurityEventService.log ctx.tenantCode (some user.id) "authentication.password-changed"

def setUpPassword (ctx : AccountContext) (fresh : FreshCredential) (userId : Uuid) :
    AccountService Unit :=
  runInTransaction do
    let user ← required (UserRepository.findById ctx userId)
    match ← CredentialRepository.findActive ctx user.id with
    | some _ => .throw CredentialAlreadyExistsError
    | none => setFirstPassword ctx fresh user

/-- The key of the setup flow is left out: what deleting it runs into is ignored. -/
def setupPasswordViaSsoFallback (ctx : AccountContext) (fresh : FreshCredential) (userId : Uuid) :
    AccountService Unit := do
  setUpPassword ctx fresh userId
  .tryCatch (SessionApplicationService.revokeAllSessions ctx ctx.tenantCode userId)
    fun _ => .throw AuthStoreUnavailableError

end PasswordService

end AccessService.Accounts
