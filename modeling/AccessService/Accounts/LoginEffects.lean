/-
  AccessService.Accounts.LoginEffects

  What a login does up to its answer: until a challenge is stored, it leaves alone what
  later logins look at, but that a user may be LOCKED.
-/

import AccessService.Accounts.AccountOperations

namespace AccessService.Accounts

open AccessService.Lib AccessService.Pg AccessService.Persistence
open AccessService.Authorization (Timestamp)

variable {w w' : World AccountStore AccountError} {ctx : AccountContext} {user : UserRow}

-- ============================================================================
-- What logins look at
-- ============================================================================

structure LoginPolicy where
  settings : Keyed AuthenticationSettings AuthenticationSettings.tenantCode
  mfaMethods : Keyed MfaMethod MfaMethod.id
  now : Timestamp
  mfaChallenges : Expiring String MfaChallengeData

def policyOf (s : AccountStore) : LoginPolicy where
  settings := s.db.settings
  mfaMethods := s.db.mfaMethods
  now := s.now
  mfaChallenges := s.redis.mfaChallenges

/-- From the one store to the other, users may have been LOCKED. -/
structure OnlyLocks (s₀ s : AccountStore) : Prop where
  policy : policyOf s = policyOf s₀
  active : ∀ user ∈ s.db.users.rows, user.status = .ACTIVE → user ∈ s₀.db.users.rows

theorem OnlyLocks.refl (s : AccountStore) : OnlyLocks s s := ⟨rfl, fun _ h _ => h⟩

theorem OnlyLocks.trans {s₀ s₁ s₂ : AccountStore} (h : OnlyLocks s₀ s₁) (h' : OnlyLocks s₁ s₂) :
    OnlyLocks s₀ s₂ :=
  ⟨h'.policy.trans h.policy,
    fun user hmem hactive => h.active user (h'.active user hmem hactive) hactive⟩

theorem OnlyLocks.of_same {s₀ s : AccountStore} (hpolicy : policyOf s = policyOf s₀)
    (husers : usersOf s = usersOf s₀) : OnlyLocks s₀ s :=
  ⟨hpolicy, fun user hmem _ => by rwa [show s.db.users = s₀.db.users from husers] at hmem⟩

-- ============================================================================
-- Calls
-- ============================================================================

theorem readDb_policy {α : Type} {f : AccountDatabase → α} : Faulty.Leaves policyOf (readDb f) :=
  Faulty.leaves_read _

theorem writeDb_policy {f : AccountDatabase → Option AccountDatabase}
    (h : ∀ db db', f db = some db' → db'.settings = db.settings ∧ db'.mfaMethods = db.mfaMethods) :
    Faulty.Leaves policyOf (writeDb f) := by
  refine writeDb_leaves fun s db hdb => ?_
  obtain ⟨hsettings, hmethods⟩ := h s.db db hdb
  rw [policyOf, policyOf, hsettings, hmethods]

theorem writeRedis_policy {f : Timestamp → Redis → Redis}
    (h : ∀ now redis, (f now redis).mfaChallenges = redis.mfaChallenges) :
    Faulty.Leaves policyOf (writeRedis f) :=
  Faulty.leaves_write fun s => by rw [policyOf, policyOf, h s.now s.redis]

theorem runInTransaction_policy {α : Type} {body : AccountService α}
    (h : Faulty.Leaves policyOf body) : Faulty.Leaves policyOf (runInTransaction body) :=
  Faulty.leaves_transaction h fun s s' hsame => by
    injection hsame with _ _ hnow hchallenges
    rw [policyOf, policyOf, hnow, hchallenges]

theorem log_policy {tenantCode eventType : String} {userId : Option Uuid} :
    Faulty.Leaves policyOf (SecurityEventService.log tenantCode userId eventType) :=
  writeDb_policy fun _ _ h => by cases h; exact ⟨rfl, rfl⟩

theorem update_policy {id : Uuid} {change : UserUpdate} :
    Faulty.Leaves policyOf (UserRepository.update id change) :=
  writeDb_policy fun _ _ h => by
    obtain ⟨-, -, rfl⟩ := Option.map_eq_some_iff.mp h
    exact ⟨rfl, rfl⟩

theorem incrCounter_policy {key : String} :
    Faulty.Leaves policyOf (LockoutService.incrCounter key) := by
  refine Faulty.leaves_call fun s n s' h => ?_
  obtain ⟨-, rfl⟩ := Prod.mk.inj (Except.ok.inj h)
  rfl

theorem resetFailureCount_policy {tenantCode : String} {userId : Uuid} :
    Faulty.Leaves policyOf (LockoutService.resetFailureCount ctx tenantCode userId) :=
  LockoutService.withAdapter_leaves (writeRedis_policy fun _ _ => rfl)

theorem recordIpFailure_policy {tenantCode : String} {userId : Uuid} :
    Faulty.Leaves policyOf (LockoutService.recordIpFailure ctx tenantCode userId) :=
  LockoutService.withAdapter_leaves (incrCounter_policy.bind fun _ => Faulty.leaves_when log_policy)

theorem recordIpFailure_users {tenantCode : String} {userId : Uuid} :
    Faulty.Leaves usersOf (LockoutService.recordIpFailure ctx tenantCode userId) :=
  LockoutService.withAdapter_leaves (incrCounter_users.bind fun _ => Faulty.leaves_when log_users)

-- ============================================================================
-- The lockout
-- ============================================================================

theorem lockUnlessLocked_policy {tenantCode : String} {userId : Uuid} :
    Faulty.Leaves policyOf (LockoutService.lockUnlessLocked ctx tenantCode userId) := by
  refine runInTransaction_policy (readDb_policy.bind fun found => ?_)
  cases found with
  | none => exact Faulty.leaves_pure _
  | some user =>
    simp only
    split
    · exact Faulty.leaves_pure _
    · exact update_policy.bind fun _ => resetFailureCount_policy.bind fun _ =>
        Faulty.leaves_pure _

theorem handleFailure_policy {tenantCode : String} {userId : Uuid}
    {settings : Option AuthenticationSettings} :
    Faulty.Leaves policyOf (LockoutService.handleFailure ctx tenantCode userId settings) := by
  unfold LockoutService.handleFailure
  split
  · exact Faulty.leaves_pure _
  · split
    · exact Faulty.leaves_pure _
    · refine (LockoutService.withAdapter_leaves incrCounter_policy).bind fun count => ?_
      split
      · exact lockUnlessLocked_policy
      · exact Faulty.leaves_pure _

/-- A program that only locks users, however it ends. -/
def Locks {α : Type} (x : AccountService α) : Prop := ∀ w, OnlyLocks w.state (x w).2.state

theorem Locks.run {α : Type} {x : AccountService α} (h : Locks x) {r : Except AccountError α}
    (hx : x w = (r, w')) : OnlyLocks w.state w'.state := by
  have hw := h w
  rwa [hx] at hw

theorem locks_of_same {α : Type} {x : AccountService α} (hpolicy : Faulty.Leaves policyOf x)
    (husers : Faulty.Leaves usersOf x) : Locks x :=
  fun w => .of_same (hpolicy w) (husers w)

theorem locks_pure {α : Type} (a : α) : Locks (pure a : AccountService α) :=
  fun w => .refl w.state

theorem locks_throw {α : Type} (e : AccountError) : Locks (.throw e : AccountService α) :=
  fun w => .refl w.state

theorem locks_readDb {α : Type} {f : AccountDatabase → α} : Locks (readDb f) :=
  locks_of_same readDb_policy readDb_users

theorem locks_log {tenantCode eventType : String} {userId : Option Uuid} :
    Locks (SecurityEventService.log tenantCode userId eventType) :=
  locks_of_same log_policy log_users

theorem Locks.bind {α β : Type} {x : AccountService α} {f : α → AccountService β}
    (hx : Locks x) (hf : ∀ a, Locks (f a)) : Locks (x >>= f) := by
  intro w
  rcases h : (x >>= f) w with ⟨r, w'⟩
  rcases Faulty.bind_cases h with ⟨e, he, -⟩ | ⟨a, w₁, ha, hrest⟩
  · exact hx.run he
  · exact (hx.run ha).trans ((hf a).run hrest)

theorem locks_when {c : Prop} [Decidable c] {x : AccountService Unit} (hx : Locks x) :
    Locks (Faulty.when c x) := by
  unfold Faulty.when
  split
  · exact hx
  · exact locks_pure ()

theorem locks_tryCatch {α : Type} {x : AccountService α} {handler : AccountError → AccountService α}
    (hx : Locks x) (hh : ∀ e, Locks (handler e)) : Locks (.tryCatch x handler) := by
  intro w
  unfold Faulty.tryCatch
  rcases h : x w with ⟨e | a, w₁⟩
  · exact (hx.run h).trans (hh e w₁)
  · exact hx.run h

theorem locks_writeRedis {f : Timestamp → Redis → Redis}
    (h : ∀ now redis, (f now redis).mfaChallenges = redis.mfaChallenges) : Locks (writeRedis f) :=
  locks_of_same (writeRedis_policy h) writeRedis_users

theorem handleFailure_locks {tenantCode : String} {userId : Uuid}
    {settings : Option AuthenticationSettings} :
    Locks (LockoutService.handleFailure ctx tenantCode userId settings) := by
  intro w
  rcases h : LockoutService.handleFailure ctx tenantCode userId settings w with ⟨r, w'⟩
  have hpolicy := handleFailure_policy.ok h
  rcases LockoutService.handleFailure_run h with ⟨hsame, -⟩ | ⟨user, -, hid, -, hrewrites⟩
  · exact .of_same hpolicy hsame
  · refine ⟨hpolicy, fun other hmem hactive => ?_⟩
    obtain ⟨hfound, user', happly, husers⟩ := hrewrites
    obtain ⟨hid', hstatus, -⟩ := UserUpdate.apply_eq_some happly
    rw [show w'.state.db.users = _ from husers, Keyed.mem_replace
      (List.mem_map.mpr ⟨user, hfound, hid'.symm⟩)] at hmem
    rcases hmem with rfl | ⟨hmem, -⟩
    · rw [hstatus] at hactive
      cases hactive
    · exact hmem

-- ============================================================================
-- The parts of a login
-- ============================================================================

namespace AuthApplicationService

variable {tenantCode email password : String} {settings : Option AuthenticationSettings}

theorem denyLocation_locks : Locks (denyLocation ctx tenantCode email) := by
  refine locks_readDb.bind fun found => ?_
  cases found with
  | none => exact locks_log
  | some user =>
    exact (locks_of_same recordIpFailure_policy recordIpFailure_users).bind fun _ => locks_log

theorem validateIpPolicy_locks : Locks (validateIpPolicy ctx tenantCode email) := by
  refine locks_readDb.bind fun settings => ?_
  split
  · exact locks_pure _
  · exact denyLocation_locks.bind fun _ => locks_throw _

theorem verifyTenantExistence_locks : Locks (verifyTenantExistence tenantCode) := by
  refine locks_readDb.bind fun tenantExists => ?_
  split
  · exact locks_pure _
  · exact locks_throw _

theorem fetchAndValidateUser_locks : Locks (fetchAndValidateUser tenantCode email) := by
  refine locks_readDb.bind fun found => ?_
  cases found with
  | none => exact locks_log.bind fun _ => locks_throw _
  | some user =>
    simp only
    split
    · exact locks_pure _
    · exact locks_log.bind fun _ => locks_throw _

theorem verifyUserPassword_locks : Locks (verifyUserPassword ctx user password settings) := by
  refine locks_readDb.bind fun credential => ?_
  split
  · exact locks_of_same resetFailureCount_policy resetFailureCount_users
  · refine handleFailure_locks.bind fun locked => (locks_when locks_log).bind fun _ => ?_
    exact locks_log.bind fun _ => locks_throw _

theorem checkPassword_locks {password : Option String} :
    Locks (checkPassword ctx user password settings) := by
  unfold checkPassword
  split
  · exact locks_pure _
  · split
    · exact locks_pure _
    · exact verifyUserPassword_locks

theorem generateAuthTokens_locks {sessionId : Uuid} : Locks (generateAuthTokens user sessionId) :=
  locks_tryCatch (locks_of_same (Faulty.leaves_read _) (Faulty.leaves_read _))
    fun _ => locks_throw _

theorem findSessionEmployee_locks : Locks (findSessionEmployee ctx user) := by
  unfold findSessionEmployee
  split
  · exact locks_pure _
  · exact locks_readDb.bind fun _ => locks_pure _

theorem storeSession_locks {sessionId : String} {employee : Option SessionEmployee}
    {rememberMe : Bool} : Locks (storeSession ctx user sessionId employee rememberMe) := by
  refine Locks.bind ?_ fun _ => locks_when (Locks.bind ?_ fun _ => ?_)
  · exact locks_writeRedis fun _ _ => rfl
  · exact locks_writeRedis fun _ _ => rfl
  · exact locks_writeRedis fun _ _ => rfl

theorem storeSessionAndLogSuccess_locks {sessionId : String} {rememberMe : Bool} :
    Locks (storeSessionAndLogSuccess ctx user sessionId rememberMe) := by
  refine findSessionEmployee_locks.bind fun employee => Locks.bind ?_ fun _ => locks_log
  exact locks_tryCatch storeSession_locks fun _ => locks_throw _

end AuthApplicationService

-- ============================================================================
-- What a login answers
-- ============================================================================

open AuthApplicationService

/-- MFA is required for the user: by the tenant, by a flag of the user, or by a factor. -/
def mfaRequiredIn (s : AccountStore) (user : UserRow) : Bool :=
  mfaRequired user
    (s.db.settings.rows.find? fun settings => settings.tenantCode = user.tenantCode)
    (s.db.mfaMethods.rows.filter fun m => m.userId = user.id && m.status = .ACTIVE)

theorem OnlyLocks.mfaRequiredIn {s₀ s : AccountStore} (h : OnlyLocks s₀ s) (user : UserRow) :
    mfaRequiredIn s user = AccessService.Accounts.mfaRequiredIn s₀ user := by
  injection h.policy with hsettings hmethods _ _
  unfold AccessService.Accounts.mfaRequiredIn
  rw [hsettings, hmethods]

/-- A login's answer, by the store it ran in: tokens for an ACTIVE user for whom no MFA is
    required, or a challenge for an ACTIVE user, which has been stored. -/
inductive LoginAnswer (fresh : FreshLogin) (s s' : AccountStore) : LoginResult → Prop where
  | authenticated {user : UserRow} (hmem : user ∈ s.db.users.rows)
      (hactive : user.status = .ACTIVE) (hmfa : mfaRequiredIn s user = false)
      (hlocks : OnlyLocks s s') :
      LoginAnswer fresh s s' (.authenticated ⟨user.id, fresh.sessionId.text, user.tenantCode⟩)
  | mfaRequired {user : UserRow} {challenge : MfaChallengeData} (hmem : user ∈ s.db.users.rows)
      (hactive : user.status = .ACTIVE) (hmfa : mfaRequiredIn s user = true)
      (huser : challenge.userId = user.id)
      (htenant : challenge.tenantCode = user.tenantCode)
      (hid : challenge.challengeId = fresh.challengeId.text) (hnow : s'.now = s.now)
      (hstored : s'.redis.mfaChallenges = s.redis.mfaChallenges.set (challengeKeyOf challenge)
        challenge (some (s.now + seconds mfaTtlSeconds))) :
      LoginAnswer fresh s s' (.mfaRequired fresh.challengeId.text)

theorem LoginAnswer.of_locks {fresh : FreshLogin} {s₀ s s' : AccountStore} {result : LoginResult}
    (hlocks : OnlyLocks s₀ s) (h : LoginAnswer fresh s s' result) :
    LoginAnswer fresh s₀ s' result := by
  cases h with
  | authenticated hmem hactive hmfa hlocks' =>
    refine .authenticated (hlocks.active _ hmem hactive) hactive ?_ (hlocks.trans hlocks')
    rw [← hlocks.mfaRequiredIn]
    exact hmfa
  | mfaRequired hmem hactive hmfa huser htenant hid hnow hstored =>
    injection hlocks.policy with _ _ hnow₀ hchallenges
    refine .mfaRequired (hlocks.active _ hmem hactive) hactive ?_ huser htenant hid
      (hnow.trans hnow₀) ?_
    · rw [← hlocks.mfaRequiredIn]
      exact hmfa
    · rw [hstored, hnow₀, hchallenges]

/-- However it ends: an answer, or nothing but locked users. -/
def Answers (fresh : FreshLogin) (s : AccountStore) :
    Except AccountError LoginResult × World AccountStore AccountError → Prop
  | (.ok result, w') => LoginAnswer fresh s w'.state result
  | (.error _, w') => OnlyLocks s w'.state

theorem Answers.of_locks {fresh : FreshLogin} {s₀ s : AccountStore}
    {out : Except AccountError LoginResult × World AccountStore AccountError}
    (hlocks : OnlyLocks s₀ s) (h : Answers fresh s out) : Answers fresh s₀ out := by
  rcases out with ⟨_ | result, w'⟩
  · exact hlocks.trans h
  · exact LoginAnswer.of_locks hlocks h

/-- A login that begins with what only locks users. -/
theorem answers_bind {α : Type} {x : AccountService α} {f : α → AccountService LoginResult}
    {fresh : FreshLogin} {w : World AccountStore AccountError} (hx : Locks x)
    (hf : ∀ a w₁, x w = (.ok a, w₁) → Answers fresh w₁.state (f a w₁)) :
    Answers fresh w.state ((x >>= f) w) := by
  rcases h : (x >>= f) w with ⟨r, w'⟩
  rcases Faulty.bind_cases h with ⟨e, he, rfl⟩ | ⟨a, w₁, ha, hrest⟩
  · exact hx.run he
  · rw [← hrest]
    exact (hf a w₁ ha).of_locks (hx.run ha)

theorem fetchAndValidateUser_ok {tenantCode email : String}
    (h : fetchAndValidateUser tenantCode email w = (.ok user, w')) :
    w'.state = w.state ∧ user ∈ w.state.db.users.rows ∧ user.tenantCode = tenantCode ∧
      user.status = .ACTIVE := by
  obtain ⟨found, w₁, hfind, hrest⟩ := Faulty.bind_ok.mp h
  obtain ⟨hsome, hstate⟩ := readDb_ok hfind
  cases found with
  | none => exact absurd (Faulty.bind_ok.mp hrest) (fun ⟨_, _, _, hthrow⟩ => Faulty.throw_ok hthrow)
  | some found =>
    simp only at hrest
    split at hrest
    next hactive =>
      obtain ⟨rfl, rfl⟩ := Faulty.pure_ok.mp hrest
      have hkeys := List.find?_some hsome.symm
      rw [Bool.and_eq_true, decide_eq_true_eq] at hkeys
      exact ⟨hstate, List.mem_of_find?_eq_some hsome.symm, hkeys.1, hactive⟩
    · exact absurd (Faulty.bind_ok.mp hrest)
        (fun ⟨_, _, _, hthrow⟩ => Faulty.throw_ok hthrow)

theorem validateIpPolicy_ok {tenantCode email : String} {settings : Option AuthenticationSettings}
    (h : validateIpPolicy ctx tenantCode email w = (.ok settings, w')) :
    settings = w.state.db.settings.rows.find? fun settings => settings.tenantCode = tenantCode := by
  obtain ⟨found, w₁, hfind, hrest⟩ := Faulty.bind_ok.mp h
  obtain ⟨rfl, hstate⟩ := readDb_ok hfind
  split at hrest
  · exact (Faulty.pure_ok.mp hrest).1.symm
  · exact absurd (Faulty.bind_ok.mp hrest) (fun ⟨_, _, _, hthrow⟩ => Faulty.throw_ok hthrow)

theorem generateAuthTokens_ok {sessionId : Uuid} {tokens : AuthTokens}
    (h : generateAuthTokens user sessionId w = (.ok tokens, w')) :
    tokens = ⟨user.id, sessionId.text, user.tenantCode⟩ :=
  (Faulty.read_ok (Faulty.tryCatch_throw_ok h)).1

/-- The last part of a login, for an ACTIVE user whose tenant's settings have been read. -/
theorem completeLogin_answers {fresh : FreshLogin} {settings : Option AuthenticationSettings}
    {rememberMe : Bool} (hmem : user ∈ w.state.db.users.rows) (hactive : user.status = .ACTIVE)
    (hsettings : settings =
      w.state.db.settings.rows.find? fun settings => settings.tenantCode = user.tenantCode) :
    Answers fresh w.state (completeLogin ctx fresh user settings rememberMe w) := by
  rcases h : completeLogin ctx fresh user settings rememberMe w with ⟨r, w'⟩
  unfold completeLogin evaluateMfa at h
  rw [bind_assoc] at h
  rcases Faulty.bind_cases h with ⟨e, he, rfl⟩ | ⟨mfaMethods, w₁, hread, hrest⟩
  · exact locks_readDb.run he
  obtain ⟨hmethods, hstate₁⟩ := readDb_ok hread
  have hrequired : mfaRequired user settings mfaMethods = mfaRequiredIn w.state user := by
    rw [hmethods, hsettings, mfaRequiredIn]
  rw [hrequired] at hrest
  split at hrest
  next hmfa =>
    rw [bind_assoc] at hrest
    rcases Faulty.bind_cases hrest with ⟨e, he, rfl⟩ | ⟨u, w₂, hstore, hrest⟩
    · -- the challenge could not be stored, and the login fails
      rcases Faulty.tryCatch_cases he with ⟨a, -, hok⟩ | ⟨e', w₂, herror, hthrow⟩
      · exact absurd hok nofun
      · obtain ⟨-, rfl⟩ := Prod.mk.inj hthrow
        rw [Answers, writeRedis_error herror, hstate₁]
        exact .refl _
    · have hstate₂ := writeRedis_ok (Faulty.tryCatch_throw_ok hstore)
      obtain ⟨rfl, rfl⟩ := Prod.mk.inj hrest
      rw [hstate₁] at hstate₂
      rw [Answers, hstate₂]
      exact .mfaRequired hmem hactive hmfa rfl rfl rfl rfl rfl
  next hnot =>
    rw [pure_bind] at hrest
    have hlocks₁ : OnlyLocks w.state w₁.state := by
      rw [hstate₁]
      exact .refl _
    rcases Faulty.bind_cases hrest with ⟨e, he, rfl⟩ | ⟨tokens, w₃, htokens, hrest⟩
    · exact hlocks₁.trans (generateAuthTokens_locks.run he)
    · have hlocks₃ := hlocks₁.trans (generateAuthTokens_locks.run htokens)
      rcases Faulty.bind_cases hrest with ⟨e, he, rfl⟩ | ⟨u, w₄, hsession, hrest⟩
      · exact hlocks₃.trans (storeSessionAndLogSuccess_locks.run he)
      · obtain ⟨rfl, rfl⟩ := Prod.mk.inj hrest
        rw [generateAuthTokens_ok htokens]
        exact .authenticated hmem hactive (Bool.not_eq_true _ ▸ hnot)
          (hlocks₃.trans (storeSessionAndLogSuccess_locks.run hsession))

/-- A password that is let through has changed no user. -/
theorem checkPassword_ok {password : Option String} {settings : Option AuthenticationSettings}
    {u : Unit} (h : checkPassword ctx user password settings w = (.ok u, w')) :
    usersOf w'.state = usersOf w.state := by
  unfold checkPassword at h
  split at h
  · exact (Faulty.leaves_pure ()).ok h
  · split at h
    · exact (Faulty.leaves_pure ()).ok h
    · obtain ⟨credential, w₁, hread, hrest⟩ := Faulty.bind_ok.mp h
      have husers : usersOf w₁.state = usersOf w.state := readDb_users.ok hread
      split at hrest
      · exact (resetFailureCount_users.ok hrest).trans husers
      · obtain ⟨locked, w₂, -, hrest⟩ := Faulty.bind_ok.mp hrest
        obtain ⟨u₃, w₃, -, hrest⟩ := Faulty.bind_ok.mp hrest
        obtain ⟨u₄, w₄, -, hrest⟩ := Faulty.bind_ok.mp hrest
        exact absurd hrest Faulty.throw_ok

theorem processLogin_answers {fresh : FreshLogin} {tenantCode email : String}
    {password : Option String} {rememberMe : Bool} :
    Answers fresh w.state (processLogin ctx fresh tenantCode email password rememberMe w) := by
  refine answers_bind validateIpPolicy_locks fun settings w₁ hpolicy => ?_
  refine answers_bind verifyTenantExistence_locks fun _ w₂ hexists => ?_
  refine answers_bind fetchAndValidateUser_locks fun user w₃ hfetch => ?_
  obtain ⟨hstate₃, hmem, rfl, hactive⟩ := fetchAndValidateUser_ok hfetch
  refine answers_bind checkPassword_locks fun _ w₄ hcheck => ?_
  have husers : usersOf w₄.state = usersOf w₂.state := by
    rw [checkPassword_ok hcheck, hstate₃]
  have hlocks : OnlyLocks w.state w₄.state :=
    ((validateIpPolicy_locks.run hpolicy).trans (verifyTenantExistence_locks.run hexists)).trans
      ((fetchAndValidateUser_locks.run hfetch).trans (checkPassword_locks.run hcheck))
  injection hlocks.policy with hsettings _ _ _
  refine completeLogin_answers ?_ hactive ?_
  · rw [show w₄.state.db.users = w₂.state.db.users from husers]
    exact hmem
  · rw [hsettings]
    exact validateIpPolicy_ok hpolicy

-- ============================================================================
-- Logins
-- ============================================================================

/-- Induction on the tenants that are left: those before have only locked users. -/
theorem tryTenants_answers {fresh : FreshLogin} {dto : LoginWithPasswordDto} {err : AccountError}
    {tenantCodes : List String} :
    Answers fresh w.state (tryTenants ctx fresh dto err tenantCodes w) := by
  induction tenantCodes generalizing err w with
  | nil => exact OnlyLocks.refl w.state
  | cons tenantCode tenantCodes ih =>
    have hlogin : Answers fresh w.state (processLogin ctx fresh tenantCode dto.email
        (some dto.password) dto.rememberMe w) := processLogin_answers
    unfold tryTenants Faulty.tryCatch
    rcases hrun : processLogin ctx fresh tenantCode dto.email (some dto.password)
      dto.rememberMe w with ⟨error | result, w₁⟩
    · rw [hrun] at hlogin
      exact ih.of_locks hlogin
    · rw [hrun] at hlogin
      exact hlogin

theorem loginWithPassword_answers {fresh : FreshLogin} {dto : LoginWithPasswordDto} :
    Answers fresh w.state (loginWithPassword ctx fresh dto w) :=
  answers_bind (locks_of_same (Faulty.leaves_read _) (Faulty.leaves_read _))
    fun _ _ _ => tryTenants_answers

theorem authenticate_locks {decodedToken : DecodedFirebaseToken} :
    Locks (FirebaseSsoApplicationService.authenticate ctx decodedToken) := by
  refine (locks_of_same (Faulty.leaves_read _) (Faulty.leaves_read _)).bind fun decodedToken => ?_
  refine locks_readDb.bind fun found => ?_
  cases found with
  | none => exact locks_log.bind fun _ => locks_throw _
  | some user =>
    simp only
    split
    · exact locks_log.bind fun _ => locks_throw _
    · split
      · exact locks_log.bind fun _ => locks_throw _
      · exact locks_log.bind fun _ => locks_pure _

theorem loginWithFirebase_answers {fresh : FreshLogin} {decodedToken : DecodedFirebaseToken} :
    Answers fresh w.state (loginWithFirebase ctx fresh decodedToken w) :=
  answers_bind (locks_tryCatch authenticate_locks fun _ => locks_throw _)
    fun _ _ _ => processLogin_answers

end AccessService.Accounts
