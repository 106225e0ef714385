/-
  AccessService.Accounts.CognitoProvisioning

  `cognito-user-provisioning.service.ts`: a Cognito record for a user, created or, where the
  e-mail has one, linked. What Cognito and the database answer is left open; a record has
  one username, `createUser` reports a username that exists, and a new `sub` is nobody's.
-/

import AccessService.Accounts.AccountStore
import AccessService.Lib.Retry
import Mathlib.Data.List.Infix

namespace AccessService.Accounts.CognitoUserProvisioning

open AccessService.Js (trim)
open AccessService.Lib AccessService.Lib.Retry AccessService.Pg AccessService.Persistence

-- ============================================================================
-- Errors
-- ============================================================================

/-- The exceptions of the Cognito client: `CognitoUserAlreadyExistsException`,
    `CognitoInternalException` and every other `CognitoException`. -/
inductive CognitoErrorClass where
  | userAlreadyExists
  | internal
  | general
  deriving DecidableEq

structure CognitoError where
  name : String
  message : String
  code : String
  deriving DecidableEq

/-- Any other thing thrown; it need not be an `Error`. -/
structure JsError where
  name : Option String
  message : Option String
  deriving DecidableEq

inductive Thrown where
  | provisioning (message : String) (errorCode : Option String)
  | cognito (errorClass : CognitoErrorClass) (error : CognitoError)
  | other (error : JsError)
  deriving DecidableEq

namespace Thrown

def isUserAlreadyExists : Thrown → Bool
  | cognito .userAlreadyExists _ => true
  | _ => false

def isInternal : Thrown → Bool
  | cognito .internal _ => true
  | _ => false

def name : Thrown → Option String
  | provisioning _ _ => some "CognitoProvisioningException"
  | cognito _ error => some error.name
  | other error => error.name

def message : Thrown → Option String
  | provisioning message _ => some message
  | cognito _ error => some error.message
  | other error => error.message

/-- The code that is reported; the two defaults are each `catch`'s own. -/
def code (provisioningDefault nameDefault : String) : Thrown → String
  | provisioning _ errorCode => errorCode.getD provisioningDefault
  | cognito _ error => error.code
  | other error => error.name.getD nameDefault

/-- `text.includes(part)` -/
def includes (text part : String) : Bool := part.toList <:+: text.toList

def isRetryableError (error : Thrown) : Bool :=
  error.isInternal ||
    ["Throttling", "TooManyRequests", "Internal", "Timeout"].any (includes (error.name.getD "")) ||
    ["timeout", "ETIMEDOUT", "ECONNRESET"].any (includes (error.message.getD ""))

end Thrown

-- ============================================================================
-- Cognito and the database
-- ============================================================================

structure ProvisionCognitoUserInput where
  userId : Uuid
  email : String
  tenantCode : String
  suppressNotification : Option Bool := none
  isEmailVerified : Option Bool := none
  deriving DecidableEq

structure CreateUserInput where
  username : String
  email : String
  emailVerified : String
  /-- `custom:tenant_code` -/
  tenantCode : String
  messageAction : Option String
  deriving DecidableEq

/-- A record of the user pool, with the attributes it was created with. -/
structure CognitoRecord where
  username : String
  sub : String
  email : String
  emailVerified : String
  tenantCode : String
  deriving DecidableEq

/-- What an answer carries of the attributes that the code reads. -/
structure UserAttributes where
  sub : Option String
  tenantCode : Option String
  deriving DecidableEq

inductive CognitoProvisioningAction where
  | CREATED
  | LINKED_EXISTING
  deriving DecidableEq

structure CognitoProvisioningResult where
  userId : Uuid
  externalIdentityId : String
  username : String
  action : CognitoProvisioningAction
  deriving DecidableEq

/-- The events for the outbox, with their payloads. -/
inductive ProvisioningEvent where
  | provisioned (tenantCode : String) (userId : Uuid) (normalizedEmail externalIdentityId : String)
      (action : CognitoProvisioningAction)
  | failed (tenantCode : String) (userId : Uuid) (normalizedEmail errorCode reason : String)
      (retryCount : Nat)
  deriving DecidableEq

structure CognitoState where
  users : Keyed UserRow fun user => user.id
  directory : Keyed CognitoRecord CognitoRecord.username := .empty
  outbox : List ProvisioningEvent := []

inductive CreateUserAnswer where
  | completes (showsSub : Bool)
  | fails (error : Thrown) (created : Bool)
  deriving DecidableEq

inductive GetUserAnswer where
  | completes (showsSub showsTenant : Bool)
  | fails (error : Thrown)
  deriving DecidableEq

/-- What a call meets. The requests to Cognito are numbered by attempt; a database call that
    throws has changed nothing. -/
structure Environment where
  newSub : String
  createUser : Nat → CreateUserAnswer
  getUser : Nat → GetUserAnswer
  usernameExists : CognitoError
  userNotFound : CognitoError
  findUser : Option JsError := none
  updateUser : Option JsError := none
  logProvisioned : Option JsError := none
  logFailed : Option JsError := none

namespace CognitoState

/-- The username's own record stays where there is one. -/
def register (s : CognitoState) (record : CognitoRecord) : CognitoState :=
  match s.directory.insert record with
  | some directory => { s with directory := directory }
  | none => s

def recordOf (s : CognitoState) (username : String) : Option CognitoRecord :=
  s.directory.rowAt username

def log (s : CognitoState) (event : ProvisioningEvent) : CognitoState :=
  { s with outbox := s.outbox ++ [event] }

/-- `userRepository.update(userId, { externalIdentityId: sub })` -/
def setIdentity (s : CognitoState) (userId : Uuid) (sub : String) : CognitoState :=
  { s with
    users := s.users.update
      (fun user => if user.id = userId then { user with externalIdentityId := some sub } else user)
      fun user => by split <;> rfl }

end CognitoState

-- ============================================================================
-- The service
-- ============================================================================

namespace Environment

variable (env : Environment)

def newRecord (request : CreateUserInput) : CognitoRecord where
  username := request.username
  sub := env.newSub
  email := request.email
  emailVerified := request.emailVerified
  tenantCode := request.tenantCode

/-- `cognitoService.createUser` -/
def attemptCreate (request : CreateUserInput) (attempt : Nat) (s : CognitoState) :
    Except Thrown UserAttributes × CognitoState :=
  match env.createUser attempt with
  | .fails error created =>
    (.error error, if created then s.register (env.newRecord request) else s)
  | .completes showsSub =>
    match s.recordOf request.username with
    | some _ => (.error (.cognito .userAlreadyExists env.usernameExists), s)
    | none =>
      (.ok ⟨if showsSub then some env.newSub else none, some request.tenantCode⟩,
        s.register (env.newRecord request))

/-- `cognitoService.getUser` -/
def attemptGet (username : String) (attempt : Nat) (s : CognitoState) :
    Except Thrown UserAttributes × CognitoState :=
  match env.getUser attempt with
  | .fails error => (.error error, s)
  | .completes showsSub showsTenant =>
    match s.recordOf username with
    | none => (.error (.cognito .general env.userNotFound), s)
    | some record =>
      (.ok ⟨if showsSub then some record.sub else none,
        if showsTenant then some record.tenantCode else none⟩, s)

end Environment

def maxRetries : Nat := 3

/-- An `AlreadyExists` is bubbled up at once. -/
def executeWithRetry (operation : Nat → CognitoState → Except Thrown UserAttributes × CognitoState)
    (s : CognitoState) : (Except Thrown UserAttributes × CognitoState) × Nat :=
  retry (fun error => !error.isUserAlreadyExists && error.isRetryableError) operation
    (maxRetries - 1) 1 s

/-- An empty string is falsy. -/
def truthy (text : Option String) : Option String := text.filter (· ≠ "")

section Service

variable (env : Environment) (input : ProvisionCognitoUserInput) (normalizedEmail : String)

def createInput : CreateUserInput where
  username := normalizedEmail
  email := normalizedEmail
  emailVerified := if input.isEmailVerified = some true then "true" else "false"
  tenantCode := input.tenantCode
  messageAction := if input.suppressNotification = some true then some "SUPPRESS" else none

/-- The end of both `try` blocks: the update of the user and its audit event. -/
def storeIdentity (action : CognitoProvisioningAction) (sub : String) (s : CognitoState) :
    Except Thrown CognitoProvisioningResult × CognitoState :=
  match env.updateUser with
  | some error => (.error (.other error), s)
  | none =>
    let s := s.setIdentity input.userId sub
    match env.logProvisioned with
    | some error => (.error (.other error), s)
    | none =>
      (.ok ⟨input.userId, sub, normalizedEmail, action⟩,
        s.log (.provisioned input.tenantCode input.userId normalizedEmail sub action))

/-- The end of both `catch` blocks. -/
def reportFailure (errorCode errorMessage : String) (retryCount : Nat) (error : Thrown)
    (s : CognitoState) : Except Thrown CognitoProvisioningResult × CognitoState :=
  match env.logFailed with
  | some logError => (.error (.other logError), s)
  | none =>
    let s := s.log
      (.failed input.tenantCode input.userId normalizedEmail errorCode errorMessage retryCount)
    match error with
    | .provisioning _ _ => (.error error, s)
    | _ => (.error (.provisioning errorMessage (some errorCode)), s)

/-- The checks of the link path, on what Cognito answered: the sub to link. -/
def checkLinkable (attributes : UserAttributes) (s : CognitoState) : Except Thrown String :=
  match truthy attributes.sub with
  | none =>
    .error (.provisioning "Existing Cognito user record is missing required sub attribute"
      (some "MISSING_COGNITO_SUB"))
  | some sub =>
    match (truthy attributes.tenantCode).filter (· ≠ input.tenantCode) with
    | some cognitoTenant =>
      .error (.provisioning
        ("Cognito user exists but belongs to a different tenant: " ++ cognitoTenant)
        (some "TENANT_MISMATCH"))
    | none =>
      match env.findUser with
      | some error => .error (.other error)
      | none =>
        match s.users.rows.find? fun user => user.externalIdentityId = some sub with
        | none => .ok sub
        | some existing =>
          if existing.id = input.userId then .ok sub
          else
            .error (.provisioning ("Cognito sub " ++ sub ++
              " is already linked to another internal user " ++ existing.id.text)
              (some "IDENTITY_CONFLICT"))

/-- What the `try` block of the link path does before the update. -/
def findLinkable (s : CognitoState) : Except Thrown String × CognitoState :=
  match (executeWithRetry (env.attemptGet normalizedEmail) s).1 with
  | (.error error, s) => (.error error, s)
  | (.ok attributes, s) => (checkLinkable env input attributes s, s)

def tryLink (s : CognitoState) : Except Thrown CognitoProvisioningResult × CognitoState :=
  match findLinkable env input normalizedEmail s with
  | (.error error, s) => (.error error, s)
  | (.ok sub, s) => storeIdentity env input normalizedEmail .LINKED_EXISTING sub s

/-- The `catch` block of the link path. -/
def catchLink : Except Thrown CognitoProvisioningResult × CognitoState →
    Except Thrown CognitoProvisioningResult × CognitoState
  | (.ok result, s) => (.ok result, s)
  | (.error linkError, s) =>
    reportFailure env input normalizedEmail
      (linkError.code "LINK_CONFLICT" "FETCH_EXISTING_FAILED")
      (linkError.message.getD
        ("Failed to fetch existing Cognito user for linking: " ++ normalizedEmail))
      1 linkError s

def linkExistingCognitoUser (s : CognitoState) :
    Except Thrown CognitoProvisioningResult × CognitoState :=
  catchLink env input normalizedEmail (tryLink env input normalizedEmail s)

/-- What the `try` block of the create path does before the update: the sub of the new
    record, and the number of attempts. -/
def createRecord (s : CognitoState) : (Except Thrown String × CognitoState) × Nat :=
  match executeWithRetry (env.attemptCreate (createInput input normalizedEmail)) s with
  | ((.error error, s), retryCount) => ((.error error, s), retryCount)
  | ((.ok attributes, s), retryCount) =>
    match truthy attributes.sub with
    | none =>
      ((.error (.provisioning "Cognito user record is missing required sub attribute"
        (some "MISSING_COGNITO_SUB")), s), retryCount)
    | some sub => ((.ok sub, s), retryCount)

def tryCreate (s : CognitoState) :
    (Except Thrown CognitoProvisioningResult × CognitoState) × Nat :=
  match createRecord env input normalizedEmail s with
  | ((.error error, s), retryCount) => ((.error error, s), retryCount)
  | ((.ok sub, s), retryCount) =>
    (storeIdentity env input normalizedEmail .CREATED sub s, retryCount)

/-- The `catch` block of the create path. -/
def catchCreate (retryCount : Nat) : Except Thrown CognitoProvisioningResult × CognitoState →
    Except Thrown CognitoProvisioningResult × CognitoState
  | (.ok result, s) => (.ok result, s)
  | (.error error, s) =>
    if error.isUserAlreadyExists then linkExistingCognitoUser env input normalizedEmail s
    else
      reportFailure env input normalizedEmail
        (error.code "COGNITO_PROVISIONING_ERROR" "UNKNOWN_ERROR")
        (error.message.getD "Failed to provision Cognito user") retryCount error s

end Service

/-- The lower-casing, of all of Unicode, is left open. -/
def normalizeEmail (toLowerCase : String → String) (email : String) : String :=
  trim (toLowerCase email)

def provisionCognitoUser (toLowerCase : String → String) (env : Environment)
    (input : ProvisionCognitoUserInput) (s : CognitoState) :
    Except Thrown CognitoProvisioningResult × CognitoState :=
  let normalizedEmail := normalizeEmail toLowerCase input.email
  let (tried, retryCount) := tryCreate env input normalizedEmail s
  catchCreate env input normalizedEmail retryCount tried

-- ============================================================================
-- The directory
-- ============================================================================

namespace CognitoState

variable {s : CognitoState} {record : CognitoRecord} {username : String}

theorem register_of_some (h : (s.recordOf record.username).isSome) : s.register record = s := by
  obtain ⟨own, hown⟩ := Option.isSome_iff_exists.mp h
  obtain ⟨hmem, hname⟩ := Keyed.rowAt_eq_some.mp hown
  have htaken : record.username ∈ s.directory.rows.map CognitoRecord.username :=
    List.mem_map.mpr ⟨own, hmem, hname⟩
  simp only [register, Keyed.insert, dif_pos htaken]

theorem recordOf_register :
    (s.register record).recordOf record.username =
      some ((s.recordOf record.username).getD record) := by
  rcases hown : s.recordOf record.username with _ | own
  · have hfree : record.username ∉ s.directory.rows.map CognitoRecord.username := by
      intro htaken
      obtain ⟨own, hmem, hname⟩ := List.mem_map.mp htaken
      rw [recordOf, Keyed.rowAt_eq_some.mpr ⟨hmem, hname⟩] at hown
      cases hown
    refine Keyed.rowAt_eq_some.mpr ⟨?_, rfl⟩
    simp only [register, Keyed.insert, dif_neg hfree]
    exact List.mem_append_right _ (List.mem_singleton_self _)
  · rw [register_of_some (hown ▸ rfl), hown]
    rfl

@[simp] theorem register_users : (s.register record).users = s.users := by
  unfold register
  split <;> rfl

theorem register_register : (s.register record).register record = s.register record :=
  register_of_some (by rw [recordOf_register]; rfl)

theorem mem_setIdentity {userId : Uuid} {sub : String} {user : UserRow} :
    user ∈ (s.setIdentity userId sub).users.rows ↔
      ∃ old ∈ s.users.rows,
        (if old.id = userId then { old with externalIdentityId := some sub } else old) = user :=
  List.mem_map

end CognitoState

-- ============================================================================
-- What a call can do
-- ============================================================================

section Cases

variable {env : Environment} {input : ProvisionCognitoUserInput} {normalizedEmail : String}

/-- The record that a call may add. -/
def Environment.recordFor (env : Environment) (input : ProvisionCognitoUserInput)
    (normalizedEmail : String) : CognitoRecord :=
  env.newRecord (createInput input normalizedEmail)

theorem recordOf_recordFor (s : CognitoState) :
    (s.register (env.recordFor input normalizedEmail)).recordOf normalizedEmail =
      some ((s.recordOf normalizedEmail).getD (env.recordFor input normalizedEmail)) :=
  CognitoState.recordOf_register

theorem attemptCreate_cases {request : CreateUserInput} {n : Nat} {s t : CognitoState}
    {r : Except Thrown UserAttributes} (h : env.attemptCreate request n s = (r, t)) :
    (t = s ∨ t = s.register (env.newRecord request)) ∧
      ∀ attributes, r = .ok attributes → s.recordOf request.username = none ∧
        t = s.register (env.newRecord request) ∧
        (attributes.sub = none ∨ attributes.sub = some env.newSub) := by
  unfold Environment.attemptCreate at h
  split at h
  next error created _ =>
    obtain ⟨rfl, rfl⟩ := Prod.mk.inj h
    refine ⟨?_, nofun⟩
    cases created
    · exact .inl rfl
    · exact .inr rfl
  next showsSub _ =>
    split at h
    · cases h
      exact ⟨.inl rfl, nofun⟩
    next hnone =>
      obtain ⟨rfl, rfl⟩ := Prod.mk.inj h
      refine ⟨.inr rfl, ?_⟩
      rintro _ ⟨⟩
      refine ⟨hnone, rfl, ?_⟩
      cases showsSub
      · exact .inl rfl
      · exact .inr rfl

theorem attemptGet_ok {username : String} {n : Nat} {s t : CognitoState}
    {attributes : UserAttributes} (h : env.attemptGet username n s = (.ok attributes, t)) :
    ∃ record showsSub showsTenant, env.getUser n = .completes showsSub showsTenant ∧
      s.recordOf username = some record ∧
      attributes = ⟨if showsSub then some record.sub else none,
        if showsTenant then some record.tenantCode else none⟩ := by
  unfold Environment.attemptGet at h
  split at h
  · cases h
  next showsSub showsTenant hanswer =>
    split at h
    · cases h
    next record hrecord =>
      cases h
      exact ⟨record, showsSub, showsTenant, hanswer, hrecord, rfl⟩

theorem attemptGet_state {username : String} {n : Nat} {s : CognitoState} :
    (env.attemptGet username n s).2 = s := by
  unfold Environment.attemptGet
  split
  · rfl
  · split <;> rfl

theorem truthy_eq_some {text : Option String} {word : String} :
    truthy text = some word ↔ text = some word ∧ word ≠ "" := by
  simp [truthy, Option.filter_eq_some_iff]

/-- A sub comes only with a new record. -/
theorem createRecord_cases {s t : CognitoState} {r : Except Thrown String} {n : Nat}
    (h : createRecord env input normalizedEmail s = ((r, t), n)) :
    (t = s ∨ t = s.register (env.recordFor input normalizedEmail)) ∧
      ∀ sub, r = .ok sub → s.recordOf normalizedEmail = none ∧
        t = s.register (env.recordFor input normalizedEmail) ∧ sub = env.newSub := by
  let record := env.recordFor input normalizedEmail
  let Tried : CognitoState → Prop := fun u => u = s ∨ u = s.register record
  have hregister : ∀ u, Tried u → Tried (u.register record) := by
    rintro u (rfl | rfl)
    · exact .inr rfl
    · exact .inr CognitoState.register_register
  obtain ⟨m, u, -, -, hu, hlast⟩ : ∃ m u, 1 ≤ m ∧ m ≤ maxRetries ∧ Tried u ∧
      executeWithRetry (env.attemptCreate (createInput input normalizedEmail)) s =
        (env.attemptCreate (createInput input normalizedEmail) m u, m) := by
    refine retry_last (fun n u e t hu hattempt => ?_) (maxRetries - 1) 1 (.inl rfl)
    rcases (attemptCreate_cases hattempt).1 with rfl | rfl
    · exact hu
    · exact hregister u hu
  rcases hattempt : env.attemptCreate (createInput input normalizedEmail) m u with ⟨e, v⟩
  obtain ⟨hstate, hok⟩ := attemptCreate_cases hattempt
  have hv : Tried v := by
    rcases hstate with rfl | rfl
    · exact hu
    · exact hregister u hu
  rw [createRecord, hlast, hattempt] at h
  rcases e with error | attributes
  · cases h
    exact ⟨hv, nofun⟩
  · obtain ⟨hnone, hvu, hsub⟩ := hok attributes rfl
    dsimp only at h
    split at h
    · cases h
      exact ⟨hv, nofun⟩
    next sub hshown =>
      cases h
      refine ⟨hv, ?_⟩
      rintro _ ⟨⟩
      -- the last attempt created the record, so no attempt before it did
      obtain rfl : u = s := by
        rcases hu with rfl | rfl
        · rfl
        · exact nomatch (recordOf_recordFor s).symm.trans hnone
      refine ⟨hnone, hvu, ?_⟩
      rcases hsub with hhidden | hsub
      · rw [hhidden] at hshown
        cases hshown
      · rw [hsub] at hshown
        exact (Option.some.inj (truthy_eq_some.mp hshown).1).symm

/-- With a sub, but without a tenant. -/
def GetUserAnswer.isUnmarked : GetUserAnswer → Bool
  | .completes showsSub showsTenant => showsSub && !showsTenant
  | .fails _ => false

theorem lookup_last (env : Environment) (normalizedEmail : String) (s : CognitoState) :
    ∃ n, 1 ≤ n ∧ n ≤ maxRetries ∧ (executeWithRetry (env.attemptGet normalizedEmail) s).1 =
      ((env.attemptGet normalizedEmail n s).1, s) := by
  obtain ⟨n, u, hfrom, hto, rfl, hlast⟩ : ∃ n u, 1 ≤ n ∧ n ≤ maxRetries ∧ u = s ∧
      executeWithRetry (env.attemptGet normalizedEmail) s =
        (env.attemptGet normalizedEmail n u, n) := by
    refine retry_last (fun n u e t hu hattempt => ?_) (maxRetries - 1) 1 rfl
    have hstate : (env.attemptGet normalizedEmail n u).2 = u := attemptGet_state
    rw [hattempt] at hstate
    exact hstate.trans hu
  refine ⟨n, hfrom, hto, ?_⟩
  rw [hlast]
  exact Prod.ext rfl attemptGet_state

theorem findLinkable_state {s : CognitoState} :
    (findLinkable env input normalizedEmail s).2 = s := by
  obtain ⟨n, -, -, hlast⟩ := lookup_last env normalizedEmail s
  rw [findLinkable, hlast]
  rcases (env.attemptGet normalizedEmail n s).1 with error | attributes <;> rfl

/-- No two users hold one identity. -/
def CognitoState.DistinctIdentities (s : CognitoState) : Prop :=
  ∀ user ∈ s.users.rows, ∀ other ∈ s.users.rows, ∀ sub, user.externalIdentityId = some sub →
    other.externalIdentityId = some sub → user = other

/-- A user with the sub, if there is one, is the user of the call. -/
def Unheld (input : ProvisionCognitoUserInput) (s : CognitoState) (sub : String) : Prop :=
  ∀ user ∈ s.users.rows, user.externalIdentityId = some sub → user.id = input.userId

theorem checkLinkable_ok {attributes : UserAttributes} {s : CognitoState} {sub : String}
    (h : checkLinkable env input attributes s = .ok sub) :
    attributes.sub = some sub ∧
      (∀ tenantCode, attributes.tenantCode = some tenantCode → tenantCode ≠ "" →
        tenantCode = input.tenantCode) ∧
      (s.DistinctIdentities → Unheld input s sub) := by
  unfold checkLinkable at h
  split at h
  · cases h
  next shown hshown =>
    split at h
    · cases h
    next htenant =>
      split at h
      · cases h
      next hfound =>
        have hsub : shown = sub ∧ (s.DistinctIdentities → Unheld input s shown) := by
          split at h
          next hfree =>
            refine ⟨Except.ok.inj h, fun _ user huser hholds => ?_⟩
            exact absurd (decide_eq_true hholds) (List.find?_eq_none.mp hfree user huser)
          next existing hexisting =>
            split at h
            next hown =>
              refine ⟨Except.ok.inj h, fun hdistinct user huser hholds => ?_⟩
              have hsome : existing.externalIdentityId = some shown := by
                simpa using List.find?_some hexisting
              rw [hdistinct user huser existing (List.mem_of_find?_eq_some hexisting) shown hholds
                hsome]
              exact hown
            · cases h
        obtain ⟨rfl, hunheld⟩ := hsub
        refine ⟨(truthy_eq_some.mp hshown).1, fun tenantCode hcarried hne => ?_, hunheld⟩
        by_contra hother
        rw [truthy_eq_some.mpr ⟨hcarried, hne⟩] at htenant
        simp [hother] at htenant

/-- The two ways to the sub that is stored, and the state it is stored from. -/
inductive Identified (env : Environment) (input : ProvisionCognitoUserInput)
    (normalizedEmail : String) (s : CognitoState) :
    CognitoProvisioningAction → String → CognitoState → Prop where
  | created {sub : String} {u : CognitoState} {n : Nat}
      (h : createRecord env input normalizedEmail s = ((.ok sub, u), n)) :
      Identified env input normalizedEmail s .CREATED sub u
  | linked {error : Thrown} {sub : String} {u : CognitoState} {n : Nat}
      (h : createRecord env input normalizedEmail s = ((.error error, u), n))
      (hexists : error.isUserAlreadyExists = true)
      (hlink : findLinkable env input normalizedEmail u = (.ok sub, u)) :
      Identified env input normalizedEmail s .LINKED_EXISTING sub u

/-- The user is updated; it is the audit event that decides whether the call returns. -/
structure Stores (env : Environment) (input : ProvisionCognitoUserInput)
    (normalizedEmail : String) (action : CognitoProvisioningAction) (sub : String)
    (u : CognitoState) (outcome : Except Thrown CognitoProvisioningResult × CognitoState) :
    Prop where
  updated : env.updateUser = none
  users : outcome.2.users = (u.setIdentity input.userId sub).users
  directory : outcome.2.directory = u.directory
  returns : env.logProvisioned = none →
    outcome.1 = .ok ⟨input.userId, sub, normalizedEmail, action⟩
  throws : env.logProvisioned ≠ none → ∃ error, outcome.1 = .error error

/-- Throws, and leaves the users and the directory. -/
structure Fails (u : CognitoState)
    (outcome : Except Thrown CognitoProvisioningResult × CognitoState) : Prop where
  throws : ∃ error, outcome.1 = .error error
  users : outcome.2.users = u.users
  directory : outcome.2.directory = u.directory

theorem fails_reportFailure (errorCode errorMessage : String) (retryCount : Nat) (error : Thrown)
    (s : CognitoState) :
    Fails s
      (reportFailure env input normalizedEmail errorCode errorMessage retryCount error s) := by
  unfold reportFailure
  split
  · exact ⟨⟨_, rfl⟩, rfl, rfl⟩
  · cases error <;> exact ⟨⟨_, rfl⟩, rfl, rfl⟩

/-- An update that throws changes nothing, an audit event that throws comes too late. -/
theorem storeIdentity_cases (env : Environment) (input : ProvisionCognitoUserInput)
    (normalizedEmail : String) (action : CognitoProvisioningAction) (sub : String)
    (s : CognitoState) :
    (∃ error, storeIdentity env input normalizedEmail action sub s = (.error (.other error), s)) ∨
    (env.updateUser = none ∧ ∃ error, env.logProvisioned = some error ∧
      storeIdentity env input normalizedEmail action sub s =
        (.error (.other error), s.setIdentity input.userId sub)) ∨
    (env.updateUser = none ∧ env.logProvisioned = none ∧
      storeIdentity env input normalizedEmail action sub s =
        (.ok ⟨input.userId, sub, normalizedEmail, action⟩,
          (s.setIdentity input.userId sub).log
            (.provisioned input.tenantCode input.userId normalizedEmail sub action))) := by
  unfold storeIdentity
  rcases env.updateUser with _ | error
  · rcases env.logProvisioned with _ | error
    · exact .inr (.inr ⟨rfl, rfl, rfl⟩)
    · exact .inr (.inl ⟨rfl, error, rfl, rfl⟩)
  · exact .inl ⟨error, rfl⟩

/-- What a `catch` block makes of the update, where it only reports what the database throws. -/
theorem finish_storeIdentity
    (finish : Except Thrown CognitoProvisioningResult × CognitoState →
      Except Thrown CognitoProvisioningResult × CognitoState)
    (hok : ∀ result t, finish (.ok result, t) = (.ok result, t))
    (hother : ∀ error t, Fails t (finish (.error (.other error), t)))
    (action : CognitoProvisioningAction) (sub : String) (s : CognitoState) :
    Fails s (finish (storeIdentity env input normalizedEmail action sub s)) ∨
      Stores env input normalizedEmail action sub s
        (finish (storeIdentity env input normalizedEmail action sub s)) := by
  rcases storeIdentity_cases env input normalizedEmail action sub s with
    ⟨error, h⟩ | ⟨hupdate, error, hlog, h⟩ | ⟨hupdate, hlog, h⟩
  · rw [h]
    exact .inl (hother error s)
  · rw [h]
    have hfails := hother error (s.setIdentity input.userId sub)
    refine .inr ⟨hupdate, hfails.users, hfails.directory, fun hnone => ?_, fun _ => hfails.throws⟩
    rw [hlog] at hnone
    cases hnone
  · rw [h, hok]
    exact .inr ⟨hupdate, rfl, rfl, fun _ => rfl, fun hne => absurd hlog hne⟩

theorem fails_catchLink (error : Thrown) (s : CognitoState) :
    Fails s (catchLink env input normalizedEmail (.error error, s)) := by
  rw [catchLink]
  exact fails_reportFailure ..

theorem fails_catchCreate {error : Thrown} (h : error.isUserAlreadyExists = false)
    (retryCount : Nat) (s : CognitoState) :
    Fails s (catchCreate env input normalizedEmail retryCount (.error error, s)) := by
  rw [catchCreate, if_neg (Bool.eq_false_iff.mp h)]
  exact fails_reportFailure ..

theorem link_cases (s : CognitoState) :
    Fails s (linkExistingCognitoUser env input normalizedEmail s) ∨
      ∃ sub, findLinkable env input normalizedEmail s = (.ok sub, s) ∧
        Stores env input normalizedEmail .LINKED_EXISTING sub s
          (linkExistingCognitoUser env input normalizedEmail s) := by
  have hstate : (findLinkable env input normalizedEmail s).2 = s := findLinkable_state
  unfold linkExistingCognitoUser tryLink
  rcases hfind : findLinkable env input normalizedEmail s with ⟨error | sub, u⟩
  · obtain rfl : u = s := by rwa [hfind] at hstate
    exact .inl (fails_catchLink error u)
  · obtain rfl : u = s := by rwa [hfind] at hstate
    rcases finish_storeIdentity (catchLink env input normalizedEmail) (fun _ _ => rfl)
      (fun error t => fails_catchLink (.other error) t) .LINKED_EXISTING sub u with hfails | hstores
    · exact .inl hfails
    · exact .inr ⟨sub, rfl, hstores⟩

theorem provision_cases (toLowerCase : String → String) (env : Environment)
    (input : ProvisionCognitoUserInput) (s : CognitoState) :
    let normalizedEmail := normalizeEmail toLowerCase input.email
    let outcome := provisionCognitoUser toLowerCase env input s
    (∃ u, (u = s ∨ u = s.register (env.recordFor input normalizedEmail)) ∧ Fails u outcome) ∨
      ∃ action sub u, Identified env input normalizedEmail s action sub u ∧
        Stores env input normalizedEmail action sub u outcome := by
  intro normalizedEmail outcome
  rcases hcreate : createRecord env input normalizedEmail s with ⟨⟨error | sub, u⟩, n⟩
  · have hstate := (createRecord_cases hcreate).1
    have houtcome : outcome = catchCreate env input normalizedEmail n (.error error, u) := by
      simp only [outcome, provisionCognitoUser, tryCreate]
      rw [hcreate]
    rw [houtcome]
    rcases hexists : error.isUserAlreadyExists
    · exact .inl ⟨u, hstate, fails_catchCreate hexists n u⟩
    · rw [catchCreate, if_pos hexists]
      rcases link_cases u with hfails | ⟨sub, hlink, hstores⟩
      · exact .inl ⟨u, hstate, hfails⟩
      · exact .inr ⟨.LINKED_EXISTING, sub, u, .linked hcreate hexists hlink, hstores⟩
  · have hstate := (createRecord_cases hcreate).1
    have houtcome : outcome = catchCreate env input normalizedEmail n
        (storeIdentity env input normalizedEmail .CREATED sub u) := by
      simp only [outcome, provisionCognitoUser, tryCreate]
      rw [hcreate]
    rw [houtcome]
    rcases finish_storeIdentity (catchCreate env input normalizedEmail n) (fun _ _ => rfl)
      (fun _ t => fails_catchCreate rfl n t) .CREATED sub u with hfails | hstores
    · exact .inl ⟨u, hstate, hfails⟩
    · exact .inr ⟨.CREATED, sub, u, .created hcreate, hstores⟩

theorem Identified.provisions {toLowerCase : String → String} {s u : CognitoState}
    {action : CognitoProvisioningAction} {sub : String}
    (h : Identified env input (normalizeEmail toLowerCase input.email) s action sub u)
    (hupdate : env.updateUser = none) (hlog : env.logProvisioned = none) :
    ∃ t, provisionCognitoUser toLowerCase env input s =
        (.ok ⟨input.userId, sub, normalizeEmail toLowerCase input.email, action⟩, t) ∧
      t.users = (u.setIdentity input.userId sub).users ∧ t.directory = u.directory := by
  cases h with
  | created h =>
    simp only [provisionCognitoUser, tryCreate, h, storeIdentity, hupdate, hlog, catchCreate]
    exact ⟨_, rfl, rfl, rfl⟩
  | linked h hexists hlink =>
    simp only [provisionCognitoUser, tryCreate, h, catchCreate, if_pos hexists,
      linkExistingCognitoUser, tryLink, hlink, storeIdentity, hupdate, hlog, catchLink]
    exact ⟨_, rfl, rfl, rfl⟩

/-- The way to the sub does not see the audit event. -/
theorem Identified.audited {s u : CognitoState} {action : CognitoProvisioningAction} {sub : String}
    (h : Identified env input normalizedEmail s action sub u) :
    Identified { env with logProvisioned := none } input normalizedEmail s action sub u := by
  cases h with
  | created h => exact .created h
  | linked h hexists hlink => exact .linked h hexists hlink

/-- The tenant for which the record of the e-mail was created, or is created by the call. -/
def createdFor (s : CognitoState) (input : ProvisionCognitoUserInput) (normalizedEmail : String) :
    String :=
  ((s.recordOf normalizedEmail).map (·.tenantCode)).getD input.tenantCode

theorem recordOf_tried {s u : CognitoState} {record : CognitoRecord}
    (hu : u = s ∨ u = s.register (env.recordFor input normalizedEmail))
    (hrecord : u.recordOf normalizedEmail = some record) :
    record.tenantCode = createdFor s input normalizedEmail := by
  rcases hu with rfl | rfl
  · rw [createdFor, hrecord]
    rfl
  · rw [recordOf_recordFor] at hrecord
    obtain rfl := Option.some.inj hrecord
    unfold createdFor
    cases s.recordOf normalizedEmail <;> rfl

section Identified

variable {s u : CognitoState} {action : CognitoProvisioningAction} {sub : String}

theorem Identified.tried (h : Identified env input normalizedEmail s action sub u) :
    u = s ∨ u = s.register (env.recordFor input normalizedEmail) := by
  cases h with
  | created h => exact (createRecord_cases h).1
  | linked h _ _ => exact (createRecord_cases h).1

theorem Identified.users (h : Identified env input normalizedEmail s action sub u) :
    u.users = s.users := by
  rcases h.tried with rfl | rfl
  · rfl
  · exact CognitoState.register_users

/-- The answer that the link path goes by. -/
theorem findLinkable_ok {t : CognitoState}
    (h : findLinkable env input normalizedEmail s = (.ok sub, t)) :
    ∃ record n, s.recordOf normalizedEmail = some record ∧ record.sub = sub ∧ 1 ≤ n ∧
      n ≤ maxRetries ∧
      (record.tenantCode = input.tenantCode ∨ record.tenantCode = "" ∨
        (env.getUser n).isUnmarked = true) ∧
      (s.DistinctIdentities → Unheld input s sub) := by
  obtain ⟨n, hfrom, hto, hlast⟩ := lookup_last env normalizedEmail s
  rw [findLinkable, hlast] at h
  rcases hattempt : (env.attemptGet normalizedEmail n s).1 with error | attributes
  · rw [hattempt] at h
    cases h
  · rw [hattempt] at h
    obtain ⟨record, showsSub, showsTenant, hanswer, hrecord, hattributes⟩ :=
      attemptGet_ok (Prod.ext hattempt attemptGet_state :
        env.attemptGet normalizedEmail n s = (.ok attributes, s))
    obtain ⟨hsub, htenant, hunheld⟩ := checkLinkable_ok (Prod.mk.inj h).1
    subst hattributes
    have hshown : showsSub = true ∧ record.sub = sub := by
      cases showsSub
      · cases hsub
      · exact ⟨rfl, Option.some.inj hsub⟩
    refine ⟨record, n, hrecord, hshown.2, hfrom, hto, ?_, hunheld⟩
    cases showsTenant with
    | false =>
      refine .inr (.inr ?_)
      rw [hanswer, hshown.1]
      rfl
    | true =>
      by_cases hempty : record.tenantCode = ""
      · exact .inr (.inl hempty)
      · exact .inl (htenant record.tenantCode rfl hempty)

theorem Identified.record (h : Identified env input normalizedEmail s action sub u) :
    ∃ record, u.recordOf normalizedEmail = some record ∧ record.sub = sub := by
  cases h with
  | created h =>
    obtain ⟨-, hok⟩ := createRecord_cases h
    obtain ⟨hnone, rfl, rfl⟩ := hok sub rfl
    refine ⟨_, recordOf_recordFor s, ?_⟩
    rw [hnone]
    rfl
  | linked h hexists hlink =>
    obtain ⟨record, _, hrecord, hsub, -⟩ := findLinkable_ok hlink
    exact ⟨record, hrecord, hsub⟩

/-- A record that another tenant's call created is linked only by an answer without a tenant. -/
theorem Identified.tenant (h : Identified env input normalizedEmail s action sub u) :
    createdFor s input normalizedEmail = input.tenantCode ∨
      createdFor s input normalizedEmail = "" ∨
      ∃ n, 1 ≤ n ∧ n ≤ maxRetries ∧ (env.getUser n).isUnmarked = true := by
  have htried := h.tried
  cases h with
  | created h =>
    obtain ⟨hnone, -⟩ := (createRecord_cases h).2 sub rfl
    refine .inl ?_
    rw [createdFor, hnone]
    rfl
  | linked h hexists hlink =>
    obtain ⟨record, n, hrecord, -, hfrom, hto, hguard, -⟩ := findLinkable_ok hlink
    rw [← recordOf_tried htried hrecord]
    exact hguard.imp_right (Or.imp_right fun hunmarked => ⟨n, hfrom, hto, hunmarked⟩)

theorem Identified.unheld (h : Identified env input normalizedEmail s action sub u)
    (hfresh : ∀ user ∈ s.users.rows, user.externalIdentityId ≠ some env.newSub)
    (hdistinct : s.DistinctIdentities) : Unheld input s sub := by
  have husers := h.users
  cases h with
  | created h =>
    obtain ⟨-, -, rfl⟩ := (createRecord_cases h).2 sub rfl
    exact fun user huser hholds => absurd hholds (hfresh user huser)
  | linked h hexists hlink =>
    obtain ⟨_, _, -, -, -, -, -, hunheld⟩ := findLinkable_ok hlink
    unfold Unheld CognitoState.DistinctIdentities at *
    rw [husers] at hunheld
    exact hunheld hdistinct

end Identified

end Cases

end AccessService.Accounts.CognitoUserProvisioning
