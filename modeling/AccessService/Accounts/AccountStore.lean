/-
  AccessService.Accounts.AccountStore

  The tables behind a user's account (users, employee references, invitations,
  credentials, MFA methods, tenants and their settings) with the constraints of
  `schema.sql`, and the Redis entries for sessions, challenges and counters.
-/

import AccessService.Lib.Expiring
import AccessService.Persistence.Database

namespace AccessService.Accounts

open AccessService.Lib AccessService.Pg AccessService.Persistence
open AccessService.Authorization (Timestamp)
open AccessService.Employee (EmployeeReference)

-- ============================================================================
-- Rows
-- ============================================================================

inductive CredentialStatus where
  | ACTIVE
  | PENDING
  | SUPERSEDED
  deriving DecidableEq

inductive InvitationStatus where
  | PENDING
  | SENT
  | ACCEPTED
  | REVOKED
  | CANCELLED
  deriving DecidableEq

inductive MfaFactorStatus where
  | PENDING
  | ACTIVE
  | DISABLED
  deriving DecidableEq

/-- INTEGER, `chk_users_security_version`. -/
structure SecurityVersion where
  val : ℤ
  positive : 1 ≤ val
  upper : val < 2 ^ 31

instance : DecidableEq SecurityVersion := fun v w =>
  decidable_of_iff (v.val = w.val)
    ⟨fun h => by cases v; cases w; cases h; rfl, congrArg SecurityVersion.val⟩

def SecurityVersion.ofInt? (n : ℤ) : Option SecurityVersion :=
  if h : 1 ≤ n ∧ n < 2 ^ 31 then some ⟨n, h.1, h.2⟩ else none

theorem SecurityVersion.ofInt?_eq_some {n : ℤ} {v : SecurityVersion}
    (h : SecurityVersion.ofInt? n = some v) : v.val = n := by
  unfold SecurityVersion.ofInt? at h
  split at h
  · cases h
    rfl
  · cases h

@[simp] theorem SecurityVersion.ofInt?_val (v : SecurityVersion) :
    SecurityVersion.ofInt? v.val = some v :=
  dif_pos ⟨v.positive, v.upper⟩

structure UserRow extends User where
  normalizedEmail : String
  displayEmail : String
  credentialStatus : CredentialStatus := .PENDING
  securityVersion : SecurityVersion := ⟨1, by decide, by decide⟩
  mfaEnrollmentRequired : Bool := false
  mfaReEnrollmentRequired : Bool := false
  externalIdentityId : Option String := none
  deriving DecidableEq

structure EmployeeRow extends EmployeeReference where
  sourceVersion : Option String := none
  deriving DecidableEq

structure Invitation where
  id : Uuid
  tenantCode : String
  userId : Uuid
  tokenHash : String
  status : InvitationStatus
  expiresAt : Timestamp
  sentAt : Option Timestamp := none
  acceptedAt : Option Timestamp := none
  revokedAt : Option Timestamp := none
  deriving DecidableEq

/-- PENDING or SENT. -/
def Invitation.isOpen (i : Invitation) : Bool := i.status = .PENDING || i.status = .SENT

def Invitation.isExpired (i : Invitation) (now : Timestamp) : Bool :=
  (i.status ≠ .PENDING && i.status ≠ .SENT) || i.expiresAt < now

/-- The CHECK constraints. -/
def Invitation.checked (i : Invitation) : Bool :=
  i.sentAt.all (fun sentAt => i.expiresAt > sentAt) &&
    (i.status ≠ .ACCEPTED || i.acceptedAt.isSome) && (i.status ≠ .REVOKED || i.revokedAt.isSome)

/-- `uq_invitations_token_hash` and `uq_invitations_one_pending_per_user` -/
def Invitation.conflicts (i other : Invitation) : Bool :=
  other.id ≠ i.id &&
    (other.tokenHash = i.tokenHash || (i.isOpen && other.isOpen && other.userId = i.userId))

structure Credential where
  id : Uuid
  tenantCode : String
  userId : Uuid
  passwordHash : String
  algorithm : String
  status : CredentialStatus
  passwordChangedAt : Option Timestamp := none
  deriving DecidableEq

/-- `uq_credentials_one_active_per_user` -/
def Credential.conflicts (c other : Credential) : Bool :=
  other.id ≠ c.id && c.status = .ACTIVE && other.status = .ACTIVE && other.userId = c.userId

structure MfaMethod where
  id : Uuid
  tenantCode : String
  userId : Uuid
  status : MfaFactorStatus
  isPrimary : Bool
  deriving DecidableEq

structure AuthenticationSettings where
  tenantCode : String
  restrictedMfaEnabled : Bool := false
  needAdminResetPassword : Bool := false
  accountLockoutEnabled : Bool := false
  maxFailedRetries : ℤ := 5
  ipRestrictionEnabled : Bool := false
  allowedIpCidrs : List String := []
  deriving DecidableEq

/-- A row of the outbox, without its payload. -/
structure SecurityEvent where
  tenantCode : String
  userId : Option Uuid
  eventType : String
  deriving DecidableEq

structure AccountDatabase where
  users : Keyed UserRow fun row => row.id
  employees : Keyed EmployeeRow fun row => row.id
  invitations : Keyed Invitation Invitation.id := .empty
  credentials : Keyed Credential Credential.id := .empty
  mfaMethods : Keyed MfaMethod MfaMethod.id := .empty
  tenants : List String := []
  settings : Keyed AuthenticationSettings AuthenticationSettings.tenantCode := .empty
  outbox : List SecurityEvent := []

-- ============================================================================
-- Redis
-- ============================================================================

structure SessionEmployee where
  employeeId : Uuid
  companyId : Option String
  locationId : Option String
  departmentId : Option String
  managerId : Option Uuid
  deriving DecidableEq

/-- The value of a session key. -/
structure AuthContext where
  sessionId : String
  userId : Uuid
  tenantCode : String
  employee : Option SessionEmployee
  deriving DecidableEq

structure MfaChallengeData where
  challengeId : String
  tenantCode : String
  userId : Uuid
  attemptsLeft : ℤ
  rememberMe : Bool
  deriving DecidableEq

structure PasswordResetChallengeData where
  tenantCode : String
  userId : Uuid
  hashedCode : String
  codeVerified : Bool
  resetToken : Option String
  attempts : ℤ
  deriving DecidableEq

/-- The families of keys are told apart by their prefixes. -/
structure Redis where
  sessions : Expiring String AuthContext := {}
  userSessions : Expiring String (List String) := {}
  mfaChallenges : Expiring String MfaChallengeData := {}
  resetChallenges : Expiring String PasswordResetChallengeData := {}
  failures : Expiring String Nat := {}

/-- `CACHE_KEY_BUILDER`, as far as its keys are relied on: a key for each session
    that is a prefix followed by the id, and for each user one key with the hash tag
    and one without. -/
structure CacheKeyBuilder where
  buildSession : String → String
  buildUserSessions : String → Uuid → (useHashTag : Bool) → String
  session_prefix : ∀ sessionId, buildSession sessionId = buildSession "" ++ sessionId
  hashTag_apart : ∀ tenantCode userId tenantCode' userId',
    buildUserSessions tenantCode userId true ≠ buildUserSessions tenantCode' userId' false

theorem CacheKeyBuilder.session_injective (keys : CacheKeyBuilder) {sessionId sessionId' : String}
    (h : keys.buildSession sessionId = keys.buildSession sessionId') : sessionId = sessionId' := by
  rw [keys.session_prefix sessionId, keys.session_prefix sessionId'] at h
  have htext := congrArg String.toList h
  rw [String.toList_append, String.toList_append] at htext
  exact String.toList_inj.mp (List.append_cancel_left htext)

-- ============================================================================
-- Services
-- ============================================================================

structure AccountStore where
  now : Timestamp := 0
  db : AccountDatabase
  redis : Redis := {}

/-- An exception, by its class and what the response shows of it. -/
structure AccountError where
  name : String
  message : String
  code : Option String := none
  status : Nat := 500
  deriving DecidableEq

abbrev AccountService (α : Type) : Type := Faulty AccountStore AccountError α

/-- What a request runs with: the request context, whether there is a Redis client,
    and the libraries for keys, values, hashes and network ranges. -/
structure AccountContext where
  tenantCode : String
  sourceIp : String := "unknown"
  /-- `DEFAULT_TENANT_CODE` -/
  defaultTenantCode : String := ""
  redisClient : Bool := true
  keys : CacheKeyBuilder
  /-- The text under which the cache provider stores a challenge. -/
  challengeText : MfaChallengeData → String
  hashToken : String → String
  verifyPassword : (hash plain : String) → Bool
  /-- `ipRestrictionService.evaluate` does not throw. -/
  admits : String → Option AuthenticationSettings → Bool

def queryFailed : AccountError where
  name := "QueryFailedError"
  message := "query failed"

/-- The base repository misses a required row. -/
def EntityNotFound : AccountError where
  name := "EntityNotFound"
  message := "not found"
  status := 404

/-- Redis is no part of a transaction. -/
def runInTransaction {α : Type} (body : AccountService α) : AccountService α :=
  .transaction (fun before after => { after with db := before.db }) body

def readDb {α : Type} (f : AccountDatabase → α) : AccountService α := .read fun s => f s.db

/-- A write that the constraints may refuse. -/
def writeDb (f : AccountDatabase → Option AccountDatabase) : AccountService Unit :=
  .call fun s =>
    match f s.db with
    | some db => .ok ((), { s with db := db })
    | none => .error queryFailed

def writeRedis (f : Timestamp → Redis → Redis) : AccountService Unit :=
  .write fun s => { s with redis := f s.now s.redis }

theorem readDb_completes {α : Type} {f : AccountDatabase → α} : Faulty.Completes (readDb f) :=
  Faulty.completes_read _

theorem writeRedis_completes {f : Timestamp → Redis → Redis} :
    Faulty.Completes (writeRedis f) :=
  Faulty.completes_write _

/-- `new Date()`, which is no call. -/
def clock : AccountService Timestamp := .modify fun s => (s.now, s)

/-- A row that has to be there. -/
def required {α : Type} (find : AccountService (Option α)) : AccountService α := do
  match ← find with
  | some a => pure a
  | none => .throw EntityNotFound

/-- The new row in the place of the one with its key, unless it conflicts. -/
def replaceRow {α κ : Type} [DecidableEq κ] {key : α → κ} (conflicts : α → α → Bool)
    (table : Keyed α key) (a : α) : Option (Keyed α key) :=
  if table.rows.any (conflicts a) then none else some (table.replace a)

def insertRow {α κ : Type} [DecidableEq κ] {key : α → κ} (conflicts : α → α → Bool)
    (table : Keyed α key) (a : α) : Option (Keyed α key) :=
  if table.rows.any (conflicts a) then none else table.insert a

/-- UPDATE of the row with a key; no row, no change. -/
def updateRow {α κ : Type} [DecidableEq κ] {key : α → κ} (conflicts : α → α → Bool)
    (table : Keyed α key) (k : κ) (f : α → Option α) : Option (Keyed α key) :=
  match table.rows.find? fun a => key a = k with
  | none => some table
  | some a => (f a).bind (replaceRow conflicts table)

-- ============================================================================
-- A small store: one user and their employee
-- ============================================================================

def sampleUserSessions (tenantCode : String) (userId : Uuid) : (useHashTag : Bool) → String
  | true => "\x7b" ++ (tenantCode ++ ":" ++ userId.text ++ "\x7d:auth:user-sessions")
  | false => "a" ++ ("uth:user-sessions:" ++ tenantCode ++ ":" ++ userId.text)

theorem sampleUserSessions_apart (tenantCode : String) (userId : Uuid) (tenantCode' : String)
    (userId' : Uuid) :
    sampleUserSessions tenantCode userId true ≠ sampleUserSessions tenantCode' userId' false := by
  intro h
  have hbrace : "\x7b".toList = ['\x7b'] := by simp
  have hplain : "a".toList = ['a'] := by simp
  have hchars := congrArg String.toList h
  simp only [sampleUserSessions, String.toList_append, hbrace, hplain] at hchars
  exact absurd (List.cons.inj hchars).1 (by decide)

def sampleKeys : CacheKeyBuilder where
  buildSession sessionId := "auth:session:" ++ sessionId
  buildUserSessions := sampleUserSessions
  session_prefix sessionId := by rw [String.append_empty]
  hashTag_apart := sampleUserSessions_apart

def acmeAccounts : AccountContext where
  tenantCode := "acme"
  keys := sampleKeys
  challengeText challenge := challenge.userId.text
  hashToken token := token
  verifyPassword hash plain := hash = plain
  admits _ _ := true

def sampleAccount : UserRow where
  toUser := sampleUser
  normalizedEmail := "kim@acme.test"
  displayEmail := "Kim@acme.test"

def sampleAccountStore : AccountStore where
  db :=
    { users := ⟨[sampleAccount], List.nodup_singleton sampleUserId⟩
      employees := ⟨[{ toEmployeeReference := sampleEmployee }],
        List.nodup_singleton sampleEmployeeId⟩
      tenants := ["acme"] }

end AccessService.Accounts
