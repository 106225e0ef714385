/-
  AccessService.Accounts.LoginAttempts

  What one attempt of a login does to the users and to the sessions: nothing, it stores the
  session of an ACTIVE user, or it locks the user whose password was wrong.
-/

import AccessService.Accounts.LoginEffects
import AccessService.Accounts.SessionIndex

namespace AccessService.Accounts

open AccessService.Lib AccessService.Pg AccessService.Persistence
open AccessService.Authorization (Timestamp)

variable {w w' : World AccountStore AccountError} {ctx : AccountContext} {user : UserRow}

-- ============================================================================
-- Users and sessions
-- ============================================================================

/-- The clock, the sessions and their indexes. -/
def sessionsOf (s : AccountStore) :
    Timestamp × Expiring String AuthContext × Expiring String (List String) :=
  (s.now, s.redis.sessions, s.redis.userSessions)

/-- And the users. -/
def standingOf (s : AccountStore) :
    Keyed UserRow (fun row => row.id) ×
      Timestamp × Expiring String AuthContext × Expiring String (List String) :=
  (usersOf s, sessionsOf s)

theorem session_of_sessions {s s' : AccountStore} (h : sessionsOf s' = sessionsOf s) :
    s'.session = s.session := by
  obtain ⟨hnow, hrest⟩ := Prod.mk.inj h
  obtain ⟨hsessions, -⟩ := Prod.mk.inj hrest
  funext k
  rw [AccountStore.session, AccountStore.session, hnow, hsessions]

theorem indexed_of_sessions {s s' : AccountStore} (h : sessionsOf s' = sessionsOf s) :
    s'.indexed = s.indexed := by
  obtain ⟨hnow, hrest⟩ := Prod.mk.inj h
  obtain ⟨-, hindexes⟩ := Prod.mk.inj hrest
  funext index
  rw [AccountStore.indexed, AccountStore.indexed, Redis.members, Redis.members, hnow, hindexes]

theorem leaves_sessions_of_cache {α : Type} {x : AccountService α} (h : Faulty.Leaves cacheOf x) :
    Faulty.Leaves sessionsOf x :=
  h.comp fun cache => (cache.1, cache.2.sessions, cache.2.userSessions)

theorem leaves_sessions_of_standing {α : Type} {x : AccountService α}
    (h : Faulty.Leaves standingOf x) : Faulty.Leaves sessionsOf x :=
  h.comp Prod.snd

theorem leaves_standing {α : Type} {x : AccountService α} (husers : Faulty.Leaves usersOf x)
    (hcache : Faulty.Leaves cacheOf x) : Faulty.Leaves standingOf x :=
  fun w => congrArg₂ Prod.mk (husers w) (leaves_sessions_of_cache hcache w)

theorem readDb_standing {α : Type} {f : AccountDatabase → α} :
    Faulty.Leaves standingOf (readDb f) :=
  Faulty.leaves_read _

theorem log_standing {tenantCode eventType : String} {userId : Option Uuid} :
    Faulty.Leaves standingOf (SecurityEventService.log tenantCode userId eventType) :=
  leaves_standing log_users log_cache

theorem findSessionEmployee_standing :
    Faulty.Leaves standingOf (AuthApplicationService.findSessionEmployee ctx user) := by
  unfold AuthApplicationService.findSessionEmployee
  split
  · exact Faulty.leaves_pure _
  · exact readDb_standing.bind fun _ => Faulty.leaves_pure _

-- ============================================================================
-- lockout.service.ts
-- ============================================================================

namespace LockoutService

variable {tenantCode : String} {userId : Uuid} {settings : Option AuthenticationSettings}

theorem incrCounter_standing {key : String} : Faulty.Leaves standingOf (incrCounter key) := by
  refine Faulty.leaves_call fun s n s' h => ?_
  obtain ⟨-, rfl⟩ := Prod.mk.inj (Except.ok.inj h)
  rfl

theorem resetFailureCount_standing :
    Faulty.Leaves standingOf (resetFailureCount ctx tenantCode userId) :=
  withAdapter_leaves (Faulty.leaves_write fun _ => rfl)

theorem recordIpFailure_standing :
    Faulty.Leaves standingOf (recordIpFailure ctx tenantCode userId) :=
  withAdapter_leaves (incrCounter_standing.bind fun _ => Faulty.leaves_when log_standing)

theorem update_sessions {change : UserUpdate} :
    Faulty.Leaves sessionsOf (UserRepository.update userId change) :=
  leaves_sessions_of_cache update_cache

theorem lockUnlessLocked_sessions :
    Faulty.Leaves sessionsOf (lockUnlessLocked ctx tenantCode userId) := by
  refine Faulty.leaves_transaction ?_ fun s s' h => h
  refine Faulty.Leaves.bind (Faulty.leaves_read _) fun found => ?_
  cases found with
  | none => exact Faulty.leaves_pure _
  | some user =>
    simp only
    split
    · exact Faulty.leaves_pure _
    · exact update_sessions.bind fun _ =>
        (leaves_sessions_of_standing resetFailureCount_standing).bind fun _ =>
          Faulty.leaves_pure _

theorem handleFailure_sessions :
    Faulty.Leaves sessionsOf (handleFailure ctx tenantCode userId settings) := by
  unfold handleFailure
  split
  · exact Faulty.leaves_pure _
  · split
    · exact Faulty.leaves_pure _
    · refine Faulty.Leaves.bind ?_ fun count => ?_
      · exact leaves_sessions_of_standing (withAdapter_leaves incrCounter_standing)
      · split
        · exact lockUnlessLocked_sessions
        · exact Faulty.leaves_pure _

/-- The lockout is enabled, and one failure more reaches the threshold. -/
def reaches (s : AccountStore) (tenantCode : String) (userId : Uuid)
    (settings : Option AuthenticationSettings) : Bool :=
  settings.any fun settings => settings.accountLockoutEnabled &&
    decide (threshold settings ≤
      ((s.redis.failures.get s.now (failureKey tenantCode userId)).getD 0 + 1 : Nat))

/-- The user whom one failure more locks. -/
def lockedNext (s : AccountStore) (tenantCode : String) (userId : Uuid)
    (settings : Option AuthenticationSettings) : Option UserRow :=
  if reaches s tenantCode userId settings then
    (UserRepository.userWithId s.db userId).filter (·.status ≠ .LOCKED)
  else none

theorem incrementFailureCount_ok {count : Nat}
    (h : incrementFailureCount ctx tenantCode userId w = (.ok count, w')) :
    count = (w.state.redis.failures.get w.state.now (failureKey tenantCode userId)).getD 0 + 1 := by
  unfold incrementFailureCount withAdapter at h
  split at h
  · have hcall := Faulty.call_ok (Faulty.tryCatch_throw_ok h)
    exact (Prod.mk.inj (Except.ok.inj hcall)).1.symm
  · exact absurd h Faulty.throw_ok

/-- A lock is the answer to the failure that reaches the threshold. -/
theorem handleFailure_reaches (h : handleFailure ctx tenantCode userId settings w =
    (.ok true, w')) : reaches w.state tenantCode userId settings = true := by
  unfold handleFailure at h
  split at h
  · cases (Faulty.pure_ok.mp h).1
  · next settings =>
    split at h
    · cases (Faulty.pure_ok.mp h).1
    next hdisabled =>
      have henabled : settings.accountLockoutEnabled = true := Bool.not_eq_false _ ▸ hdisabled
      obtain ⟨count, w₁, hcount, hrest⟩ := Faulty.bind_ok.mp h
      split at hrest
      next hge =>
        rw [reaches, Option.any_some, henabled, Bool.true_and, decide_eq_true_eq,
          ← incrementFailureCount_ok hcount]
        exact hge
      · cases (Faulty.pure_ok.mp hrest).1

end LockoutService

/-- Nothing has happened to the users and the sessions, or the user has been LOCKED. -/
def LocksAtMost (locked : Option UserRow) (s s' : AccountStore) : Prop :=
  standingOf s' = standingOf s ∨ ∃ user, locked = some user ∧ sessionsOf s' = sessionsOf s ∧
    Rewrites s s' user
      { status := some .LOCKED, securityVersion := LockoutService.nextSecurityVersion user }

theorem LocksAtMost.of_standing {locked : Option UserRow} {s s' s₁ : AccountStore}
    (h : LocksAtMost locked s s') (hpost : standingOf s₁ = standingOf s') :
    LocksAtMost locked s s₁ := by
  obtain ⟨husers, hsessions⟩ := Prod.mk.inj hpost
  rcases h with hsame | ⟨user, hlocked, hsame, hrewrites⟩
  · exact .inl (hpost.trans hsame)
  · exact .inr ⟨user, hlocked, hsessions.trans hsame, hrewrites.of_users rfl husers⟩

theorem LockoutService.handleFailure_locksAtMost {tenantCode : String} {userId : Uuid}
    {settings : Option AuthenticationSettings} {r : Except AccountError Bool}
    (h : handleFailure ctx tenantCode userId settings w = (r, w')) :
    LocksAtMost (lockedNext w.state tenantCode userId settings) w.state w'.state := by
  have hsessions : sessionsOf w'.state = sessionsOf w.state := handleFailure_sessions.ok h
  rcases handleFailure_run h with ⟨husers, -⟩ | ⟨user, rfl, hid, hstatus, hrewrites⟩
  · exact .inl (congrArg₂ Prod.mk husers hsessions)
  · refine .inr ⟨user, ?_, hsessions, hrewrites⟩
    rw [lockedNext, if_pos (handleFailure_reaches h),
      userWithId_eq_some.mpr ⟨hrewrites.found, hid⟩, Option.filter_some, if_pos]
    exact decide_eq_true hstatus

theorem StoresSession.of_sessions {sessionId : String} {s₀ s s' s₁ : AccountStore}
    (h : StoresSession ctx user sessionId s s') (hpre : sessionsOf s = sessionsOf s₀)
    (hpost : sessionsOf s₁ = sessionsOf s') : StoresSession ctx user sessionId s₀ s₁ := by
  obtain ⟨hstored, hothers, hindexed⟩ := h
  rw [session_of_sessions hpre] at hothers
  rw [indexed_of_sessions hpre] at hindexed
  refine ⟨?_, ?_, ?_⟩
  · rwa [session_of_sessions hpost]
  · rwa [session_of_sessions hpost]
  · rwa [indexed_of_sessions hpost]

-- ============================================================================
-- auth.application.service.ts
-- ============================================================================

namespace AuthApplicationService

variable {tenantCode email password sessionId : String} {rememberMe : Bool}
  {settings : Option AuthenticationSettings}

theorem denyLocation_standing : Faulty.Leaves standingOf (denyLocation ctx tenantCode email) := by
  refine readDb_standing.bind fun found => ?_
  cases found with
  | none => exact log_standing
  | some user => exact LockoutService.recordIpFailure_standing.bind fun _ => log_standing

theorem validateIpPolicy_standing :
    Faulty.Leaves standingOf (validateIpPolicy ctx tenantCode email) := by
  refine readDb_standing.bind fun settings => ?_
  split
  · exact Faulty.leaves_pure _
  · exact denyLocation_standing.bind fun _ => Faulty.leaves_throw _

theorem verifyTenantExistence_standing :
    Faulty.Leaves standingOf (verifyTenantExistence tenantCode) := by
  refine readDb_standing.bind fun tenantExists => ?_
  split
  · exact Faulty.leaves_pure _
  · exact Faulty.leaves_throw _

theorem fetchAndValidateUser_standing :
    Faulty.Leaves standingOf (fetchAndValidateUser tenantCode email) := by
  refine readDb_standing.bind fun found => ?_
  cases found with
  | none => exact log_standing.bind fun _ => Faulty.leaves_throw _
  | some user =>
    simp only
    split
    · exact Faulty.leaves_pure _
    · exact log_standing.bind fun _ => Faulty.leaves_throw _

theorem evaluateMfa_standing {challengeId : Uuid} :
    Faulty.Leaves standingOf (evaluateMfa user settings rememberMe challengeId) := by
  refine readDb_standing.bind fun mfaMethods => ?_
  split
  · refine Faulty.Leaves.bind ?_ fun _ => Faulty.leaves_pure _
    exact Faulty.leaves_tryCatch (Faulty.leaves_write fun _ => rfl) fun _ => Faulty.leaves_throw _
  · exact Faulty.leaves_pure _

theorem generateAuthTokens_standing {sessionId : Uuid} :
    Faulty.Leaves standingOf (generateAuthTokens user sessionId) :=
  Faulty.leaves_tryCatch (Faulty.leaves_read _) fun _ => Faulty.leaves_throw _

/-- The user whom an attempt with this password locks. -/
def lockedBy (ctx : AccountContext) (s : AccountStore) (tenantCode email password : String) :
    Option UserRow :=
  let settings := s.db.settings.rows.find? fun settings => settings.tenantCode = tenantCode
  if ctx.admits ctx.sourceIp settings = true ∧ tenantCode ∈ s.db.tenants ∧ password ≠ "" then
    let found := s.db.users.rows.find? fun user =>
      user.tenantCode = tenantCode && user.normalizedEmail = UserRepository.normalizeEmail email
    (found.filter (·.status = .ACTIVE)).bind fun user =>
      if isPasswordValid ctx password (CredentialRepository.activeCredential s.db user.id) then none
      else LockoutService.lockedNext s user.tenantCode user.id settings
  else none

/-- What an attempt has done, unless it has found the session store unavailable. -/
inductive Attempted (ctx : AccountContext) (sessionId : String) (locked : Option UserRow)
    (s s' : AccountStore) : Prop where
  | locks (hlocks : LocksAtMost locked s s')
  | stores {user : UserRow} (hmem : user ∈ s.db.users.rows) (hactive : user.status = .ACTIVE)
      (husers : usersOf s' = usersOf s) (hstores : StoresSession ctx user sessionId s s')
      (howner : s'.HasSession (user.tenantCode, user.id) (ctx.keys.buildSession sessionId))

theorem validateIpPolicy_admits
    (h : validateIpPolicy ctx tenantCode email w = (.ok settings, w')) :
    w'.state = w.state ∧ ctx.admits ctx.sourceIp settings = true := by
  obtain ⟨found, w₁, hfind, hrest⟩ := Faulty.bind_ok.mp h
  obtain ⟨-, hstate⟩ := readDb_ok hfind
  split at hrest
  next hadmits =>
    obtain ⟨rfl, rfl⟩ := Faulty.pure_ok.mp hrest
    exact ⟨hstate, hadmits⟩
  · exact absurd (Faulty.bind_ok.mp hrest) (fun ⟨_, _, _, hthrow⟩ => Faulty.throw_ok hthrow)

theorem verifyTenantExistence_ok {u : Unit}
    (h : verifyTenantExistence tenantCode w = (.ok u, w')) :
    w'.state = w.state ∧ tenantCode ∈ w.state.db.tenants := by
  obtain ⟨tenantExists, w₁, hfind, hrest⟩ := Faulty.bind_ok.mp h
  obtain ⟨rfl, hstate⟩ := readDb_ok hfind
  split at hrest
  next hexists =>
    obtain ⟨-, rfl⟩ := Faulty.pure_ok.mp hrest
    exact ⟨hstate, of_decide_eq_true hexists⟩
  · exact absurd hrest Faulty.throw_ok

/-- The ACTIVE user is the one that the e-mail address belongs to in the tenant. -/
theorem fetchAndValidateUser_found (h : fetchAndValidateUser tenantCode email w = (.ok user, w')) :
    (w.state.db.users.rows.find? fun user => user.tenantCode = tenantCode &&
      user.normalizedEmail = UserRepository.normalizeEmail email) = some user := by
  obtain ⟨found, w₁, hfind, hrest⟩ := Faulty.bind_ok.mp h
  obtain ⟨hsome, -⟩ := readDb_ok hfind
  cases found with
  | none => exact absurd (Faulty.bind_ok.mp hrest) (fun ⟨_, _, _, hthrow⟩ => Faulty.throw_ok hthrow)
  | some found =>
    simp only at hrest
    split at hrest
    · obtain ⟨rfl, -⟩ := Faulty.pure_ok.mp hrest
      exact hsome.symm
    · exact absurd (Faulty.bind_ok.mp hrest)
        (fun ⟨_, _, _, hthrow⟩ => Faulty.throw_ok hthrow)

/-- A denied password has at most locked the user. -/
theorem denyPassword_locksAtMost {r : Except AccountError Unit}
    (h : denyPassword ctx user settings w = (r, w')) :
    LocksAtMost (LockoutService.lockedNext w.state user.tenantCode user.id settings) w.state
      w'.state := by
  rcases Faulty.bind_cases h with ⟨e, hfailure, -⟩ | ⟨locked, w₁, hfailure, hrest⟩
  · exact LockoutService.handleFailure_locksAtMost hfailure
  · refine (LockoutService.handleFailure_locksAtMost hfailure).of_standing ?_
    refine Faulty.Leaves.ok ?_ hrest
    exact (Faulty.leaves_when log_standing).bind fun _ => log_standing.bind fun _ =>
      Faulty.leaves_throw _

/-- However the check of a password ends. -/
theorem verifyUserPassword_cases {r : Except AccountError Unit}
    (h : verifyUserPassword ctx user password settings w = (r, w')) :
    standingOf w'.state = standingOf w.state ∨
      (isPasswordValid ctx password
        (CredentialRepository.activeCredential w.state.db user.id) = false ∧
        (∃ e, r = .error e) ∧
        LocksAtMost (LockoutService.lockedNext w.state user.tenantCode user.id settings) w.state
          w'.state) := by
  rcases Faulty.bind_cases h with ⟨e, hread, -⟩ | ⟨credential, w₁, hread, hrest⟩
  · exact .inl (readDb_standing.ok hread)
  · obtain ⟨rfl, hstate⟩ := readDb_ok hread
    split at hrest
    · refine .inl ((LockoutService.resetFailureCount_standing.ok hrest).trans ?_)
      rw [hstate]
    next hinvalid =>
      have hlocks := denyPassword_locksAtMost hrest
      rw [hstate] at hlocks
      refine .inr ⟨Bool.not_eq_true _ ▸ hinvalid, ?_, hlocks⟩
      rcases r with e | u
      · exact ⟨e, rfl⟩
      · obtain ⟨locked, w₂, -, hrest⟩ := Faulty.bind_ok.mp hrest
        obtain ⟨u₃, w₃, -, hrest⟩ := Faulty.bind_ok.mp hrest
        obtain ⟨u₄, w₄, -, hrest⟩ := Faulty.bind_ok.mp hrest
        exact absurd hrest Faulty.throw_ok

/-- The stored session says whose it is. -/
theorem storeSession_owner {employee : Option SessionEmployee} {u : Unit}
    (h : storeSession ctx user sessionId employee rememberMe w = (.ok u, w')) :
    w'.state.HasSession (user.tenantCode, user.id) (ctx.keys.buildSession sessionId) := by
  obtain ⟨u₁, w₁, hset, hrest⟩ := Faulty.bind_ok.mp h
  have hstate₁ := writeRedis_ok hset
  have hsame : w'.state.session = w₁.state.session := by
    refine Faulty.Leaves.ok ?_ hrest
    exact Faulty.leaves_when (Faulty.Leaves.bind (Faulty.leaves_write fun _ => rfl) fun _ =>
      Faulty.leaves_write fun _ => rfl)
  refine ⟨⟨sessionId, user.id, user.tenantCode, employee⟩, ?_, rfl⟩
  rw [hsame, AccountStore.session, hstate₁]
  exact Expiring.get_set_ttl seconds_pos

theorem storeSession_users {employee : Option SessionEmployee} :
    Faulty.Leaves usersOf (storeSession ctx user sessionId employee rememberMe) :=
  writeRedis_users.bind fun _ =>
    Faulty.leaves_when (writeRedis_users.bind fun _ => writeRedis_users)

/-- However it ends, unless the store is unavailable. -/
theorem storeSessionAndLogSuccess_attempted {r : Except AccountError Unit}
    {locked : Option UserRow} (hmem : user ∈ w.state.db.users.rows)
    (hactive : user.status = .ACTIVE)
    (havailable : ∀ e, r = .error e → e.name ≠ AuthStoreUnavailableError.name)
    (h : storeSessionAndLogSuccess ctx user sessionId rememberMe w = (r, w')) :
    Attempted ctx sessionId locked w.state w'.state := by
  rcases Faulty.bind_cases h with ⟨e, hfind, -⟩ | ⟨employee, w₁, hfind, hrest⟩
  · exact .locks (.inl (findSessionEmployee_standing.ok hfind))
  · have hstanding₁ : standingOf w₁.state = standingOf w.state :=
      findSessionEmployee_standing.ok hfind
    obtain ⟨husers₁, hsessions₁⟩ := Prod.mk.inj hstanding₁
    rcases Faulty.bind_cases hrest with ⟨e, hstore, rfl⟩ | ⟨u, w₂, hstore, hlog⟩
    · rcases Faulty.tryCatch_cases hstore with ⟨a, -, hok⟩ | ⟨e', w₃, -, hthrow⟩
      · cases hok
      · obtain ⟨he, -⟩ := Prod.mk.inj hthrow
        obtain rfl := Except.error.inj he
        exact absurd rfl (havailable _ rfl)
    · have hstored := Faulty.tryCatch_throw_ok hstore
      obtain ⟨husers₃, hsessions₃⟩ := Prod.mk.inj (log_standing.ok hlog)
      have husers₂ : usersOf w₂.state = usersOf w₁.state :=
        storeSession_users.ok hstored
      refine .stores hmem hactive ?_ ((storeSession_ok hstored).of_sessions hsessions₁ hsessions₃) ?_
      · rw [husers₃, husers₂, husers₁]
      · rw [AccountStore.HasSession, session_of_sessions hsessions₃]
        exact storeSession_owner hstored

theorem Attempted.of_standing {locked : Option UserRow} {s₀ s s' : AccountStore}
    (h : Attempted ctx sessionId locked s s') (hpre : standingOf s = standingOf s₀) :
    Attempted ctx sessionId locked s₀ s' := by
  obtain ⟨husers, hsessions⟩ := Prod.mk.inj hpre
  cases h with
  | locks hlocks =>
    rcases hlocks with hsame | ⟨user, hlocked, hsame, hrewrites⟩
    · exact .locks (.inl (hsame.trans hpre))
    · exact .locks (.inr ⟨user, hlocked, hsame.trans hsessions, hrewrites.of_users husers rfl⟩)
  | stores hmem hactive husers' hstores howner =>
    refine .stores ?_ hactive (husers'.trans husers) (hstores.of_sessions hsessions rfl) howner
    rwa [show s.db.users = s₀.db.users from husers] at hmem

theorem completeLogin_attempted {fresh : FreshLogin} {r : Except AccountError LoginResult}
    {locked : Option UserRow} (hmem : user ∈ w.state.db.users.rows)
    (hactive : user.status = .ACTIVE)
    (havailable : ∀ e, r = .error e → e.name ≠ AuthStoreUnavailableError.name)
    (h : completeLogin ctx fresh user settings rememberMe w = (r, w')) :
    Attempted ctx fresh.sessionId.text locked w.state w'.state := by
  rcases Faulty.bind_cases h with ⟨e, hmfa, -⟩ | ⟨challengeId, w₁, hmfa, hrest⟩
  · exact .locks (.inl (evaluateMfa_standing.ok hmfa))
  have hstanding₁ : standingOf w₁.state = standingOf w.state := evaluateMfa_standing.ok hmfa
  cases challengeId with
  | some challengeId =>
    obtain ⟨-, rfl⟩ := Prod.mk.inj hrest
    exact .locks (.inl hstanding₁)
  | none =>
    rcases Faulty.bind_cases hrest with ⟨e, htokens, -⟩ | ⟨tokens, w₂, htokens, hrest⟩
    · exact .locks (.inl ((generateAuthTokens_standing.ok htokens).trans hstanding₁))
    · have hstanding₂ : standingOf w₂.state = standingOf w.state :=
        (generateAuthTokens_standing.ok htokens).trans hstanding₁
      have hmem₂ : user ∈ (usersOf w₂.state).rows := by
        rw [(Prod.mk.inj hstanding₂).1]
        exact hmem
      rcases Faulty.bind_cases hrest with ⟨e, hstore, rfl⟩ | ⟨u, w₃, hstore, hpure⟩
      · refine (storeSessionAndLogSuccess_attempted hmem₂ hactive ?_ hstore).of_standing hstanding₂
        exact fun e' he' => havailable e' (congrArg _ (Except.error.inj he'))
      · obtain ⟨-, rfl⟩ := Prod.mk.inj hpure
        refine (storeSessionAndLogSuccess_attempted hmem₂ hactive ?_ hstore).of_standing hstanding₂
        intro e hok
        cases hok

/-- The password of the ACTIVE user, in the state that the attempt has found. -/
theorem checkPassword_attempted {r : Except AccountError Unit}
    (hsettings : settings = w.state.db.settings.rows.find? fun settings =>
      settings.tenantCode = tenantCode)
    (hadmits : ctx.admits ctx.sourceIp settings = true) (hexists : tenantCode ∈ w.state.db.tenants)
    (hfound : (w.state.db.users.rows.find? fun user => user.tenantCode = tenantCode &&
      user.normalizedEmail = UserRepository.normalizeEmail email) = some user)
    (hactive : user.status = .ACTIVE)
    (h : checkPassword ctx user (some password) settings w = (r, w')) :
    standingOf w'.state = standingOf w.state ∨
      (∃ e, r = .error e) ∧
        LocksAtMost (lockedBy ctx w.state tenantCode email password) w.state w'.state := by
  unfold checkPassword at h
  simp only at h
  split at h
  · obtain ⟨-, rfl⟩ := Prod.mk.inj h
    exact .inl rfl
  next hpassword =>
    rcases verifyUserPassword_cases h with hsame | ⟨hinvalid, herror, hlocks⟩
    · exact .inl hsame
    · refine .inr ⟨herror, ?_⟩
      rw [lockedBy, ← hsettings, if_pos ⟨hadmits, hexists, hpassword⟩, hfound]
      simp only [Option.filter_some, hactive, decide_true, if_true, Option.bind_some, hinvalid,
        Bool.false_eq_true, if_false]
      exact hlocks

/-- What an attempt does, however it ends, unless the store is unavailable. -/
theorem processLogin_attempted {fresh : FreshLogin} {r : Except AccountError LoginResult}
    (havailable : ∀ e, r = .error e → e.name ≠ AuthStoreUnavailableError.name)
    (h : processLogin ctx fresh tenantCode email (some password) rememberMe w = (r, w')) :
    Attempted ctx fresh.sessionId.text (lockedBy ctx w.state tenantCode email password) w.state
      w'.state := by
  rcases Faulty.bind_cases h with ⟨e, hpolicy, -⟩ | ⟨settings, w₁, hpolicy, hrest⟩
  · exact .locks (.inl (validateIpPolicy_standing.ok hpolicy))
  have hsettings := validateIpPolicy_ok hpolicy
  obtain ⟨hstate₁, hadmits⟩ := validateIpPolicy_admits hpolicy
  rw [← hstate₁] at hsettings ⊢
  rcases Faulty.bind_cases hrest with ⟨e, htenant, -⟩ | ⟨u, w₂, htenant, hrest⟩
  · exact .locks (.inl (verifyTenantExistence_standing.ok htenant))
  obtain ⟨hstate₂, hexists⟩ := verifyTenantExistence_ok htenant
  rw [← hstate₂] at hsettings hexists ⊢
  rcases Faulty.bind_cases hrest with ⟨e, hfetch, -⟩ | ⟨user, w₃, hfetch, hrest⟩
  · exact .locks (.inl (fetchAndValidateUser_standing.ok hfetch))
  have hfound := fetchAndValidateUser_found hfetch
  obtain ⟨hstate₃, hmem, -, hactive⟩ := fetchAndValidateUser_ok hfetch
  rw [← hstate₃] at hsettings hexists hfound hmem ⊢
  rcases Faulty.bind_cases hrest with ⟨e, hcheck, rfl⟩ | ⟨u₄, w₄, hcheck, hrest⟩
  · rcases checkPassword_attempted hsettings hadmits hexists hfound hactive hcheck with
      hsame | ⟨-, hlocks⟩
    · exact .locks (.inl hsame)
    · exact .locks hlocks
  · rcases checkPassword_attempted hsettings hadmits hexists hfound hactive hcheck with
      hsame | ⟨⟨e, herror⟩, -⟩
    · have hmem₄ : user ∈ (usersOf w₄.state).rows := by
        rw [(Prod.mk.inj hsame).1]
        exact hmem
      exact (completeLogin_attempted hmem₄ hactive havailable hrest).of_standing hsame
    · cases herror

end AuthApplicationService

end AccessService.Accounts
