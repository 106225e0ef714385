/-
  AccessService.Accounts.Authentication

  How a user gets tokens: `auth.application.service.ts` with `lockout.service.ts`, the
  second factor in `mfa_application.service.ts`, and the reset of a user's factors in
  `mfa_admin_application.service.ts`.
-/

import AccessService.Accounts.Credentials
import AccessService.Constants.Keys

namespace AccessService.Accounts

open AccessService.Constants AccessService.Lib AccessService.Pg AccessService.Persistence

-- ============================================================================
-- Errors
-- ============================================================================

/-- `InvalidCredentialsError` and its siblings, which differ in their codes. -/
def loginError (name code : String) : AccountError where
  name := name
  message := "Invalid email or password."
  code := some code
  status := 401

def InvalidCredentialsError : AccountError :=
  loginError "InvalidCredentialsError" "AUTH_INVALID_CREDENTIALS"

def AccountDisabledError : AccountError := loginError "AccountDisabledError" "AUTH_ACCOUNT_DISABLED"

def AccountLockedError : AccountError := loginError "AccountLockedError" "AUTH_ACCOUNT_LOCKED"

def IpRestrictedError : AccountError := loginError "IpRestrictedError" "AUTH_IP_RESTRICTED"

def RedisClientUnavailable : AccountError :=
  { AuthStoreUnavailableError with message := "Redis client is unavailable" }

/-- A failed command of the lockout counters, by the message it is reported with. -/
def lockoutStoreError (message : String) (e : AccountError) : AccountError :=
  if e.name = "AuthStoreUnavailableError" then e
  else { AuthStoreUnavailableError with message := message }

def httpError (name message : String) (status : Nat) : AccountError where
  name := name
  message := message
  status := status

def UnauthorizedException (message : String) : AccountError :=
  httpError "UnauthorizedException" message 401

-- ============================================================================
-- lockout.service.ts
-- ============================================================================

namespace LockoutService

def failureKey (tenantCode : String) (userId : Uuid) : String :=
  "auth:login-failure:\x7b" ++ tenantCode ++ "\x7d:" ++ userId.text

def ipFailureKey (tenantCode : String) (userId : Uuid) : String :=
  "auth:ip-failure:\x7b" ++ tenantCode ++ "\x7d:" ++ userId.text

def ttlSeconds : Nat := 900

/-- `incr-counter.lua`: the first count sets the expiry. -/
def incrCounter (key : String) : AccountService Nat :=
  .call fun s =>
    let count := (s.redis.failures.get s.now key).getD 0 + 1
    let failures := s.redis.failures.update s.now key fun _ => count
    .ok (count, { s with redis := { s.redis with
      failures :=
        if count = 1 then failures.expire s.now key (s.now + seconds ttlSeconds) else failures } })

/-- A command of the adapter, which there is only with a Redis client. -/
def withAdapter {α : Type} (ctx : AccountContext) (message : String) (command : AccountService α) :
    AccountService α :=
  if ctx.redisClient = true then
    .tryCatch command fun e => .throw (lockoutStoreError message e)
  else .throw RedisClientUnavailable

def incrementFailureCount (ctx : AccountContext) (tenantCode : String) (userId : Uuid) :
    AccountService Nat :=
  withAdapter ctx "Redis increment failure" (incrCounter (failureKey tenantCode userId))

def recordIpFailure (ctx : AccountContext) (tenantCode : String) (userId : Uuid) :
    AccountService Unit :=
  withAdapter ctx "Redis IP failure increment error" do
    let count ← incrCounter (ipFailureKey tenantCode userId)
    Faulty.when (count ≥ 10)
      (SecurityEventService.log tenantCode (some userId) "authentication.login-failed")

def resetFailureCount (ctx : AccountContext) (tenantCode : String) (userId : Uuid) :
    AccountService Unit :=
  withAdapter ctx "Redis delete failure" (writeRedis fun _ redis =>
    { redis with failures := redis.failures.erase (failureKey tenantCode userId) })

/-- `settings.maxFailedRetries || 5` -/
def threshold (settings : AuthenticationSettings) : ℤ :=
  if settings.maxFailedRetries = 0 then 5 else settings.maxFailedRetries

/-- `(lockedUser.securityVersion || 1) + 1` -/
def nextSecurityVersion (user : UserRow) : ℤ :=
  (if user.securityVersion.val = 0 then 1 else user.securityVersion.val) + 1

/-- The user is there and not LOCKED. -/
def lockUser (ctx : AccountContext) (tenantCode : String) (userId : Uuid) (user : UserRow) :
    AccountService Bool := do
  UserRepository.update user.id
    { status := some .LOCKED, securityVersion := nextSecurityVersion user }
  resetFailureCount ctx tenantCode userId
  pure true

def lockUnlessLocked (ctx : AccountContext) (tenantCode : String) (userId : Uuid) :
    AccountService Bool :=
  runInTransaction do
    match ← UserRepository.findByIdWithLock userId with
    | none => pure false
    | some user =>
      if user.status = .LOCKED then pure false else lockUser ctx tenantCode userId user

/-- The lockout is enabled. -/
def countFailure (ctx : AccountContext) (tenantCode : String) (userId : Uuid)
    (settings : AuthenticationSettings) : AccountService Bool := do
  let count ← incrementFailureCount ctx tenantCode userId
  if (count : ℤ) ≥ threshold settings then lockUnlessLocked ctx tenantCode userId else pure false

def handleFailure (ctx : AccountContext) (tenantCode : String) (userId : Uuid)
    (settings : Option AuthenticationSettings) : AccountService Bool :=
  match settings with
  | none => pure false
  | some settings =>
    if settings.accountLockoutEnabled = false then pure false
    else countFailure ctx tenantCode userId settings

end LockoutService

-- ============================================================================
-- auth.application.service.ts
-- ============================================================================

/-- The access and the refresh token, by what they are signed for. -/
structure AuthTokens where
  sub : Uuid
  sid : String
  tenantCode : String
  deriving DecidableEq

inductive LoginResult where
  | authenticated (tokens : AuthTokens)
  | mfaRequired (challengeId : String)
  deriving DecidableEq

/-- `crypto.randomUUID()` for the session and for the challenge of a login. -/
structure FreshLogin where
  sessionId : Uuid
  challengeId : Uuid
  deriving DecidableEq

namespace AuthApplicationService

def logLoginFailed (tenantCode : String) (userId : Option Uuid) : AccountService Unit :=
  SecurityEventService.log tenantCode userId "authentication.login-failed"

def denyLocation (ctx : AccountContext) (tenantCode email : String) : AccountService Unit := do
  match ← UserRepository.findByEmailUnscoped email with
  | none => logLoginFailed tenantCode none
  | some user => do
    LockoutService.recordIpFailure ctx tenantCode user.id
    logLoginFailed tenantCode (some user.id)

/-- The settings of the tenant, where they let the address in. -/
def validateIpPolicy (ctx : AccountContext) (tenantCode email : String) :
    AccountService (Option AuthenticationSettings) := do
  let settings ← AuthenticationSettingsRepository.findByTenantCode tenantCode
  if ctx.admits ctx.sourceIp settings = true then pure settings
  else do
    denyLocation ctx tenantCode email
    .throw IpRestrictedError

def verifyTenantExistence (tenantCode : String) : AccountService Unit := do
  let tenantExists ← TenantRepository.«exists» tenantCode
  if tenantExists = true then pure () else .throw InvalidCredentialsError

/-- The error for a user that is not ACTIVE. -/
def statusError (status : UserStatus) : AccountError :=
  match status with
  | .SUSPENDED => AccountDisabledError
  | .LOCKED => AccountLockedError
  | _ => InvalidCredentialsError

/-- The password check against a fixed hash, which takes time and changes nothing, is
    left out. -/
def fetchAndValidateUser (tenantCode email : String) : AccountService UserRow := do
  match ← UserRepository.findByEmailWithTenant email tenantCode with
  | none => do
    logLoginFailed tenantCode none
    .throw InvalidCredentialsError
  | some user =>
    if user.status = .ACTIVE then pure user
    else do
      logLoginFailed tenantCode (some user.id)
      .throw (statusError user.status)

def isPasswordValid (ctx : AccountContext) (password : String) (credential : Option Credential) :
    Bool :=
  credential.any fun credential => ctx.verifyPassword credential.passwordHash password

def denyPassword (ctx : AccountContext) (user : UserRow)
    (settings : Option AuthenticationSettings) : AccountService Unit := do
  let locked ← LockoutService.handleFailure ctx user.tenantCode user.id settings
  Faulty.when (locked = true)
    (SecurityEventService.log user.tenantCode (some user.id) "authentication.account-locked")
  logLoginFailed user.tenantCode (some user.id)
  .throw InvalidCredentialsError

def verifyUserPassword (ctx : AccountContext) (user : UserRow) (password : String)
    (settings : Option AuthenticationSettings) : AccountService Unit := do
  let credential ← CredentialRepository.findActiveByUseUnscope user.id
  if isPasswordValid ctx password credential = true then
    LockoutService.resetFailureCount ctx user.tenantCode user.id
  else denyPassword ctx user settings

def mfaRequired (user : UserRow) (settings : Option AuthenticationSettings)
    (mfaMethods : List MfaMethod) : Bool :=
  settings.any (·.restrictedMfaEnabled) || user.mfaEnrollmentRequired ||
    user.mfaReEnrollmentRequired || mfaMethods ≠ []

def mfaTtlSeconds : Nat := 300

def challengeKey (tenantCode : String) (userId : Uuid) (challengeId : String) : String :=
  GenerateAuthMfaChallengeKey tenantCode userId.text challengeId

def challengeKeyOf (challenge : MfaChallengeData) : String :=
  challengeKey challenge.tenantCode challenge.userId challenge.challengeId

/-- `redisCacheProvider.set` of a challenge -/
def storeChallenge (challenge : MfaChallengeData) : AccountService Unit :=
  writeRedis fun now redis =>
    let expiresAt := now + seconds mfaTtlSeconds
    { redis with
      mfaChallenges := redis.mfaChallenges.set (challengeKeyOf challenge) challenge
        (some expiresAt) }

/-- The id of the challenge, if there has to be one. -/
def evaluateMfa (user : UserRow) (settings : Option AuthenticationSettings) (rememberMe : Bool)
    (challengeId : Uuid) : AccountService (Option String) := do
  let mfaMethods ← MfaMethodRepository.findActiveByUserId user.id
  if mfaRequired user settings mfaMethods = true then do
    .tryCatch
      (storeChallenge
        { challengeId := challengeId.text, userId := user.id, tenantCode := user.tenantCode,
          rememberMe := rememberMe, attemptsLeft := 0 })
      fun _ => .throw AuthStoreUnavailableError
    pure (some challengeId.text)
  else pure none

/-- Signing is a call; what it throws is an `AuthStoreUnavailableError`. -/
def generateAuthTokens (user : UserRow) (sessionId : Uuid) : AccountService AuthTokens :=
  .tryCatch (.read fun _ =>
      { sub := user.id, sid := sessionId.text, tenantCode := user.tenantCode })
    fun _ => .throw AuthStoreUnavailableError

def sessionTtlSeconds (rememberMe : Bool) : Nat := if rememberMe then 2592000 else 604800

def sessionEmployee (employee : EmployeeRow) : SessionEmployee where
  employeeId := employee.id
  companyId := employee.companyId
  locationId := employee.locationId
  departmentId := employee.departmentId
  managerId := employee.managerId

def findSessionEmployee (ctx : AccountContext) (user : UserRow) :
    AccountService (Option SessionEmployee) := do
  match user.employeeRefId with
  | none => pure none
  | some employeeRefId => do
    let employee ← EmployeeReferenceRepository.findById ctx employeeRefId
    pure (employee.map sessionEmployee)

/-- The session, and its id in the index without the hash tag. -/
def storeSession (ctx : AccountContext) (user : UserRow) (sessionId : String)
    (employee : Option SessionEmployee) (rememberMe : Bool) : AccountService Unit := do
  writeRedis fun now redis => redis.setSession (ctx.keys.buildSession sessionId)
    { sessionId := sessionId, userId := user.id, tenantCode := user.tenantCode,
      employee := employee }
    (now + seconds (sessionTtlSeconds rememberMe))
  Faulty.when (ctx.redisClient = true) do
    let index := ctx.keys.buildUserSessions user.tenantCode user.id false
    writeRedis fun now redis => redis.add now index sessionId
    writeRedis fun now redis =>
      redis.expireIndex now index (now + seconds (sessionTtlSeconds rememberMe))

def storeSessionAndLogSuccess (ctx : AccountContext) (user : UserRow) (sessionId : String)
    (rememberMe : Bool) : AccountService Unit := do
  let employee ← findSessionEmployee ctx user
  .tryCatch (storeSession ctx user sessionId employee rememberMe)
    fun _ => .throw AuthStoreUnavailableError
  SecurityEventService.log user.tenantCode (some user.id) "authentication.login-succeeded"

/-- The first factor is through. -/
def completeLogin (ctx : AccountContext) (fresh : FreshLogin) (user : UserRow)
    (settings : Option AuthenticationSettings) (rememberMe : Bool) :
    AccountService LoginResult := do
  match ← evaluateMfa user settings rememberMe fresh.challengeId with
  | some challengeId => pure (.mfaRequired challengeId)
  | none => do
    let tokens ← generateAuthTokens user fresh.sessionId
    storeSessionAndLogSuccess ctx user fresh.sessionId.text rememberMe
    pure (.authenticated tokens)

/-- The empty password counts as none. -/
def checkPassword (ctx : AccountContext) (user : UserRow) (password : Option String)
    (settings : Option AuthenticationSettings) : AccountService Unit :=
  match password with
  | none => pure ()
  | some password =>
    if password = "" then pure () else verifyUserPassword ctx user password settings

def processLogin (ctx : AccountContext) (fresh : FreshLogin) (tenantCode email : String)
    (password : Option String) (rememberMe : Bool) : AccountService LoginResult := do
  let settings ← validateIpPolicy ctx tenantCode email
  verifyTenantExistence tenantCode
  let user ← fetchAndValidateUser tenantCode email
  checkPassword ctx user password settings
  completeLogin ctx fresh user settings rememberMe

structure LoginWithPasswordDto where
  email : String
  password : String
  rememberMe : Bool := false
  deriving DecidableEq

/-- The tenants in turn, until a login succeeds; else the last error is thrown. -/
def tryTenants (ctx : AccountContext) (fresh : FreshLogin) (dto : LoginWithPasswordDto)
    (err : AccountError) : List String → AccountService LoginResult
  | [] => .throw err
  | tenantCode :: tenantCodes =>
    .tryCatch (processLogin ctx fresh tenantCode dto.email (some dto.password) dto.rememberMe)
      fun error => tryTenants ctx fresh dto error tenantCodes

/-- `throw undefined` -/
def undefinedError : AccountError where
  name := "undefined"
  message := ""

def loginWithPassword (ctx : AccountContext) (fresh : FreshLogin) (dto : LoginWithPasswordDto) :
    AccountService LoginResult := do
  let tenantCodes ← UserRepository.findTenantCodeByEmail dto.email
  tryTenants ctx fresh dto undefinedError tenantCodes

end AuthApplicationService

-- ============================================================================
-- firebase-sso-application.service.ts
-- ============================================================================

/-- What the identity provider says of a token it accepts. -/
structure DecodedFirebaseToken where
  uid : String
  email : Option String
  tenantCode : Option String
  deriving DecidableEq

def ExternalIdentityNotMappedException : AccountError where
  name := "ExternalIdentityNotMappedException"
  message := "No internal user account found for the provided external identity."

def AmbiguousIdentityMappingException : AccountError where
  name := "AmbiguousIdentityMappingException"
  message := "External identity maps to multiple internal user accounts."

namespace FirebaseSsoApplicationService

/-- `decodedToken.tenant_code || DEFAULT_TENANT_CODE` -/
def tenantOrDefault (ctx : AccountContext) (tenantCode : Option String) : String :=
  match tenantCode with
  | none => ctx.defaultTenantCode
  | some code => if code = "" then ctx.defaultTenantCode else code

/-- The user of a verified token. -/
def authenticate (ctx : AccountContext) (decodedToken : DecodedFirebaseToken) :
    AccountService UserRow := do
  let decodedToken ← .read fun _ => decodedToken
  match ← UserRepository.findByTenantAndExternalIdentity decodedToken.uid with
  | none => do
    SecurityEventService.log (tenantOrDefault ctx decodedToken.tenantCode) none
      "authentication.sso-login-failed"
    .throw ExternalIdentityNotMappedException
  | some user =>
    if some user.normalizedEmail ≠ decodedToken.email then do
      SecurityEventService.log (tenantOrDefault ctx decodedToken.tenantCode) none
        "authentication.sso-login-failed"
      .throw ExternalIdentityNotMappedException
    else if decodedToken.tenantCode ≠ some user.tenantCode then do
      SecurityEventService.log user.tenantCode none "authentication.sso-login-failed"
      .throw AmbiguousIdentityMappingException
    else do
      SecurityEventService.log user.tenantCode (some user.id) "authentication.sso-login-succeeded"
      pure user

end FirebaseSsoApplicationService

namespace AuthApplicationService

/-- What a caller sees of the exceptions of the single sign-on. -/
def firebaseLoginError (error : AccountError) : AccountError :=
  if error.name = "InvalidFirebaseTokenException" ∨
      error.name = "ExternalIdentityNotMappedException" then
    UnauthorizedException
      "Authentication failed via Single Sign-On. Please try again or contact your administrator."
  else if error.name = "AmbiguousIdentityMappingException" then
    httpError "ConflictException" ("Authentication failed due to ambiguous identity mappings. " ++
      "Please contact your administrator.") 409
  else if error.name = "FirebaseProviderUnavailableException" then
    httpError "ServiceUnavailableException" ("Single Sign-On service is temporarily " ++
      "unavailable. Please try logging in with your password.") 503
  else error

/-- `return this.processLogin(..)` is not awaited: what it throws is not translated. -/
def loginWithFirebase (ctx : AccountContext) (fresh : FreshLogin)
    (decodedToken : DecodedFirebaseToken) : AccountService LoginResult := do
  let user ← .tryCatch (FirebaseSsoApplicationService.authenticate ctx decodedToken)
    fun error => .throw (firebaseLoginError error)
  processLogin ctx fresh user.tenantCode user.normalizedEmail none false

end AuthApplicationService

-- ============================================================================
-- mfa_application.service.ts
-- ============================================================================

namespace RedisMfaChallengeAdapter

def storeUnavailable (message : String) : AccountError :=
  httpError "ServiceUnavailableException" message 503

def getChallenge (tenantCode : String) (userId : Uuid) (challengeId : String) :
    AccountService (Option MfaChallengeData) :=
  .tryCatch (.read fun s => s.redis.mfaChallenges.get s.now
      (AuthApplicationService.challengeKey tenantCode userId challengeId))
    fun _ => .throw
      (storeUnavailable "AUTH_STORE_UNAVAILABLE: Redis unavailable during MFA challenge lookup")

/-- What deleting runs into is ignored. -/
def deleteChallenge (tenantCode : String) (userId : Uuid) (challengeId : String) :
    AccountService Unit :=
  .tryCatch
    (deleteMfaChallenge (AuthApplicationService.challengeKey tenantCode userId challengeId))
    fun _ => pure ()

/-- The attempts that are left. -/
def decrementAttempts (data : MfaChallengeData) : AccountService ℤ :=
  .tryCatch (do
      let updated := { data with attemptsLeft := data.attemptsLeft - 1 }
      if updated.attemptsLeft ≤ 0 then
        deleteChallenge data.tenantCode data.userId data.challengeId
      else AuthApplicationService.storeChallenge updated
      pure updated.attemptsLeft)
    fun _ => .throw
      (storeUnavailable "AUTH_STORE_UNAVAILABLE: Redis unavailable during attempt decrement")

end RedisMfaChallengeAdapter

structure VerifyChallengeDto where
  challengeId : String
  code : String
  /-- `@IsUUID()` takes capitals, too. -/
  isUUID : isUuidText challengeId.toLower = true
  deriving DecidableEq

theorem VerifyChallengeDto.colon_notMem (dto : VerifyChallengeDto) :
    ':' ∉ dto.challengeId.toList :=
  colon_notMem_of_toLower dto.isUUID

namespace MfaApplicationService

def wrongCode (challenge : MfaChallengeData) : AccountService AuthTokens := do
  let remaining ← RedisMfaChallengeAdapter.decrementAttempts challenge
  if remaining ≤ 0 then
    .throw (httpError "HttpException" "MFA_CHALLENGE_LOCKED: Maximum attempts exceeded" 429)
  else .throw (UnauthorizedException "INVALID_MFA_CODE: Incorrect verification code")

def rightCode (ctx : AccountContext) (sessionId : Uuid) (user : UserRow) (userId : Uuid)
    (challengeId : String) (challenge : MfaChallengeData) : AccountService AuthTokens := do
  RedisMfaChallengeAdapter.deleteChallenge ctx.tenantCode userId challengeId
  let tokens ← AuthApplicationService.generateAuthTokens user sessionId
  AuthApplicationService.storeSessionAndLogSuccess ctx user sessionId.text challenge.rememberMe
  pure tokens

/-- `userId` is the user of the request context. -/
def verifyLoginChallenge (ctx : AccountContext) (sessionId userId : Uuid)
    (dto : VerifyChallengeDto) : AccountService AuthTokens := do
  let user ← required (UserRepository.findById ctx userId)
  match ← RedisMfaChallengeAdapter.getChallenge ctx.tenantCode userId dto.challengeId with
  | none =>
    .throw (UnauthorizedException "INVALID_MFA_CODE: Challenge code expired or invalid")
  | some challenge =>
    if dto.code ≠ "123456" then wrongCode challenge
    else rightCode ctx sessionId user userId dto.challengeId challenge

end MfaApplicationService

-- ============================================================================
-- mfa_admin_application.service.ts
-- ============================================================================

namespace MfaAdminApplicationService

/-- DEL of one session -/
def deleteSession (sessionKey : String) : AccountService Unit :=
  writeRedis fun _ redis => { redis with sessions := redis.sessions.erase sessionKey }

/-- The keys one by one, the index last. -/
def deleteOneByOne (ctx : AccountContext) (index : String) (sessionIds : List String) :
    AccountService Unit := do
  Faulty.forEach (fun sessionId => deleteSession (ctx.keys.buildSession sessionId)) sessionIds
  writeRedis fun _ redis => { redis with userSessions := redis.userSessions.erase index }

/-- The number of revoked sessions. -/
def revokeSessions (ctx : AccountContext) (userId : Uuid) : AccountService Nat := do
  let index := ctx.keys.buildUserSessions ctx.tenantCode userId false
  let sessionIds ← smembers index
  Faulty.when (sessionIds ≠ []) (deleteOneByOne ctx index sessionIds)
  pure sessionIds.length

def resetUserMfa (ctx : AccountContext) (targetUserId : Uuid) : AccountService Nat :=
  runInTransaction do
    MfaMethodRepository.disableAllUserFactors ctx targetUserId
    let rowAffected ← UserRepository.incrementSecurityVersionById ctx targetUserId
    if rowAffected = 0 then
      .throw (httpError "NotFoundException" "Target user not found in admin tenant context" 404)
    else do
      SecurityEventService.log ctx.tenantCode (some targetUserId) "authentication.mfa-reset"
      if ctx.redisClient = true then revokeSessions ctx targetUserId else pure 0

end MfaAdminApplicationService

end AccessService.Accounts
