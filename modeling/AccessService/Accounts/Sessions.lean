/-
  AccessService.Accounts.Sessions

  A session in Redis and the index of a user's sessions: `session.application.service.ts`,
  `redis-session.adapter.ts` and `session.service.ts`.

  The application services find a user's sessions in the index without the hash tag, the
  adapter in the one with it.
-/

import AccessService.Accounts.AccountRepositories
import Mathlib.Data.List.Infix

namespace AccessService.Accounts

open AccessService.Lib AccessService.Pg AccessService.Persistence
open AccessService.Authorization (Timestamp)

-- ============================================================================
-- Errors
-- ============================================================================

/-- `authentication.exception.ts` and `password.exception.ts` have the same class. -/
def AuthStoreUnavailableError : AccountError where
  name := "AuthStoreUnavailableError"
  message := "Service temporarily unavailable. Please try again later."
  code := some "AUTH_SESSION_STORE_UNAVAILABLE"
  status := 503

def SessionStoreUnavailable : AccountError where
  name := "ServiceUnavailableException"
  message := "Session store unavailable"
  code := some "AUTH_SESSION_STORE_UNAVAILABLE"
  status := 503

def UserNotFound : AccountError where
  name := "NotFoundException"
  message := "User not found within tenant scope"
  code := some "USER_NOT_FOUND"
  status := 404

-- ============================================================================
-- Redis commands
-- ============================================================================

/-- Seconds, on the clock's scale. -/
def seconds (n : Nat) : Timestamp := n * 1000

namespace Redis

/-- SMEMBERS -/
def members (now : Timestamp) (redis : Redis) (index : String) : List String :=
  (redis.userSessions.get now index).getD []

def added (sessionId : String) (sessionIds : Option (List String)) : List String :=
  if sessionId ∈ sessionIds.getD [] then sessionIds.getD [] else sessionIds.getD [] ++ [sessionId]

/-- SADD -/
def add (now : Timestamp) (redis : Redis) (index sessionId : String) : Redis :=
  { redis with userSessions := redis.userSessions.update now index (added sessionId) }

/-- SREM; an empty set is no key. -/
def remove (now : Timestamp) (redis : Redis) (index sessionId : String) : Redis :=
  if (redis.members now index).filter (· ≠ sessionId) = [] then
    { redis with userSessions := redis.userSessions.erase index }
  else
    { redis with userSessions := redis.userSessions.update now index fun _ =>
        (redis.members now index).filter (· ≠ sessionId) }

def setSession (redis : Redis) (sessionKey : String) (session : AuthContext)
    (expiresAt : Timestamp) : Redis :=
  { redis with sessions := redis.sessions.set sessionKey session (some expiresAt) }

/-- EXPIRE of an index -/
def expireIndex (now : Timestamp) (redis : Redis) (index : String) (expiresAt : Timestamp) :
    Redis :=
  { redis with userSessions := redis.userSessions.expire now index expiresAt }

/-- DEL of session keys and an index. -/
def deleteAll (redis : Redis) (sessionKeys : List String) (index : String) : Redis :=
  { redis with
    sessions := redis.sessions.eraseAll sessionKeys
    userSessions := redis.userSessions.erase index }

end Redis

def smembers (index : String) : AccountService (List String) :=
  .read fun s => s.redis.members s.now index

/-- DEL of a challenge -/
def deleteMfaChallenge (key : String) : AccountService Unit :=
  writeRedis fun _ redis => { redis with mfaChallenges := redis.mfaChallenges.erase key }

-- ============================================================================
-- session.application.service.ts
-- ============================================================================

/-- The sessions in the index go, and the index with them. -/
def deleteIndexed (ctx : AccountContext) (index : String) : AccountService Unit := do
  let sessionIds ← smembers index
  Faulty.when (sessionIds ≠ [])
    (writeRedis fun _ redis => redis.deleteAll (sessionIds.map ctx.keys.buildSession) index)

def SessionApplicationService.revokeAllSessions (ctx : AccountContext) (tenantCode : String)
    (userId : Uuid) : AccountService Unit :=
  Faulty.when (ctx.redisClient = true)
    (deleteIndexed ctx (ctx.keys.buildUserSessions tenantCode userId false))

-- ============================================================================
-- redis-session.adapter.ts
-- ============================================================================

namespace RedisSessionAdapter

/-- `Number(result) || 1`, for a result that is 0 or 1. -/
def deleteSession (ctx : AccountContext) (tenantCode : String) (userId : Uuid)
    (sessionId : String) : AccountService Nat := do
  writeRedis fun now redis =>
    ({ redis with sessions := redis.sessions.erase (ctx.keys.buildSession sessionId) } : Redis).remove
      now (ctx.keys.buildUserSessions tenantCode userId true) sessionId
  pure 1

def purgeAllUserSessions (ctx : AccountContext) (tenantCode : String) (userId : Uuid) :
    AccountService Nat :=
  .call fun s =>
    let index := ctx.keys.buildUserSessions tenantCode userId true
    let sessionIds := s.redis.members s.now index
    .ok (sessionIds.length, { s with
      redis := s.redis.deleteAll (sessionIds.map fun id => ctx.keys.buildSession "" ++ id) index })

end RedisSessionAdapter

-- ============================================================================
-- session.service.ts
-- ============================================================================

namespace SessionService

/-- What `logoutCurrentSession` throws for an exception inside. -/
def logoutFailure (e : AccountError) : AccountError :=
  if e.name = "ServiceUnavailableException" ∨ "Redis".toList <:+: e.message.toList then
    SessionStoreUnavailable
  else e

/-- The number of revoked sessions. -/
def logoutCurrentSession (ctx : AccountContext) (tenantCode : String) (userId : Uuid)
    (sessionId : String) : AccountService Nat :=
  .tryCatch (do
      let revoked ← RedisSessionAdapter.deleteSession ctx tenantCode userId sessionId
      runInTransaction
        (SecurityEventService.log tenantCode (some userId) "authentication.session-revoked")
      pure revoked)
    fun e => .throw (logoutFailure e)

/-- The condition on the user in the UPDATE of `revokeAllUserSessions`. -/
def isActiveUser (tenantCode : String) (userId : Uuid) (user : UserRow) : Bool :=
  user.tenantCode = tenantCode && user.id = userId && user.status = .ACTIVE

/-- The number of revoked sessions. -/
def revokeAllUserSessions (ctx : AccountContext) (tenantCode : String) (targetUserId : Uuid) :
    AccountService Nat := do
  runInTransaction do
    let updatedRows ← UserRepository.increment (isActiveUser tenantCode targetUserId)
    if updatedRows = 0 then .throw UserNotFound
    else SecurityEventService.log tenantCode (some targetUserId) "authentication.sessions-revoked"
  .tryCatch (RedisSessionAdapter.purgeAllUserSessions ctx tenantCode targetUserId)
    fun _ => .throw SessionStoreUnavailable

end SessionService

end AccessService.Accounts
