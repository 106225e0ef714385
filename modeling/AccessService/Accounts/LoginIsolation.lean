/-
  AccessService.Accounts.LoginIsolation

  What an attempt to log in to a tenant does to accounts: it leaves alone the accounts of
  all other tenants, and the account of its own tenant unless it counts a failure or takes
  the counted ones back.
-/

import AccessService.Accounts.LoginAttempts

namespace AccessService.Accounts

open AccessService.Lib AccessService.Pg AccessService.Persistence
open AccessService.Authorization (Timestamp)

variable {w w' : World AccountStore AccountError} {ctx : AccountContext} {user : UserRow}

-- ============================================================================
-- Keys of the failure counters
-- ============================================================================

theorem length_uuidText (u : Uuid) : u.text.toList.length = 36 := by
  have hu := u.isUuid
  rw [isUuidText, Bool.and_eq_true, decide_eq_true_eq] at hu
  exact hu.1

theorem append_uuid_inj {s s' : String} {u u' : Uuid} (h : s ++ u.text = s' ++ u'.text) :
    s = s' ∧ u = u' := by
  have htext := congrArg String.toList h
  rw [String.toList_append, String.toList_append] at htext
  have hlength : u.text.toList.length = u'.text.toList.length := by
    rw [length_uuidText, length_uuidText]
  obtain ⟨hs, hu⟩ := List.append_inj' htext hlength
  exact ⟨String.toList_inj.mp hs, Uuid.ext (String.toList_inj.mp hu)⟩

theorem append_ne_of_char {s s' t t' : String} {i : Nat} {c c' : Char}
    (hc : s.toList[i]? = some c) (hc' : s'.toList[i]? = some c') (hne : c ≠ c') :
    s ++ t ≠ s' ++ t' := by
  intro heq
  have htext := congrArg (fun s : String => s.toList[i]?) heq
  simp only [String.toList_append] at htext
  rw [List.getElem?_append_left, List.getElem?_append_left, hc, hc'] at htext
  · exact hne (Option.some.inj htext)
  · exact (List.getElem?_eq_some_iff.mp hc').1
  · exact (List.getElem?_eq_some_iff.mp hc).1

namespace LockoutService

variable {tenantCode tenantCode' : String} {userId userId' : Uuid}

theorem failureKey_inj (h : failureKey tenantCode userId = failureKey tenantCode' userId') :
    tenantCode = tenantCode' ∧ userId = userId' := by
  obtain ⟨hhead, huser⟩ := append_uuid_inj h
  exact ⟨(String.append_right_inj _).mp ((String.append_left_inj _).mp hhead), huser⟩

/-- The two counters of a user are apart, and so are those of two users. -/
theorem ipFailureKey_ne : ipFailureKey tenantCode userId ≠ failureKey tenantCode' userId' := by
  unfold ipFailureKey failureKey
  rw [String.append_assoc, String.append_assoc, String.append_assoc, String.append_assoc]
  refine append_ne_of_char (i := 5) (c := 'i') ?_ (by simp : _ = some 'l') (by decide)
  simp

end LockoutService

-- ============================================================================
-- Accounts
-- ============================================================================

/-- The failures that are counted against an account. -/
def failuresOf (s : AccountStore) (tenantCode : String) (userId : Uuid) : Option Nat :=
  s.redis.failures.get s.now (LockoutService.failureKey tenantCode userId)

/-- What an attempt looks at, and what it may change. -/
structure AccountsView where
  settings : Keyed AuthenticationSettings AuthenticationSettings.tenantCode
  credentials : Keyed Credential Credential.id
  tenants : List String
  users : List UserRow
  failures : String → Uuid → Option Nat

def accountsOf (s : AccountStore) : AccountsView where
  settings := s.db.settings
  credentials := s.db.credentials
  tenants := s.db.tenants
  users := s.db.users.rows
  failures := failuresOf s

/-- Without the accounts of a tenant. -/
def AccountsView.without (v : AccountsView) (tenantCode : String) : AccountsView :=
  { v with
    users := v.users.filter (·.tenantCode ≠ tenantCode)
    failures := fun other userId => if other = tenantCode then none else v.failures other userId }

def othersOf (tenantCode : String) (s : AccountStore) : AccountsView :=
  (accountsOf s).without tenantCode

theorem othersOf_of_accounts {tenantCode : String} {s s' : AccountStore}
    (h : accountsOf s' = accountsOf s) : othersOf tenantCode s' = othersOf tenantCode s :=
  congrArg (AccountsView.without · tenantCode) h

theorem leaves_others {α : Type} {x : AccountService α} {tenantCode : String}
    (h : Faulty.Leaves accountsOf x) : Faulty.Leaves (othersOf tenantCode) x :=
  h.comp fun v => v.without tenantCode

theorem readDb_accounts {α : Type} {f : AccountDatabase → α} :
    Faulty.Leaves accountsOf (readDb f) :=
  Faulty.leaves_read _

theorem log_accounts {tenantCode eventType : String} {userId : Option Uuid} :
    Faulty.Leaves accountsOf (SecurityEventService.log tenantCode userId eventType) := by
  refine Faulty.leaves_call fun s u s' h => ?_
  obtain ⟨-, rfl⟩ := Prod.mk.inj (Except.ok.inj h)
  rfl

theorem accounts_of_same {s s' : AccountStore} (hsettings : s'.db.settings = s.db.settings)
    (hcredentials : s'.db.credentials = s.db.credentials) (htenants : s'.db.tenants = s.db.tenants)
    (husers : s'.db.users = s.db.users) (hfailures : failuresOf s' = failuresOf s) :
    accountsOf s' = accountsOf s := by
  rw [accountsOf, accountsOf, hsettings, hcredentials, htenants, husers, hfailures]

/-- A command of Redis that leaves the counters alone. -/
theorem writeRedis_accounts {f : Timestamp → Redis → Redis}
    (h : ∀ now redis, (f now redis).failures = redis.failures) :
    Faulty.Leaves accountsOf (writeRedis f) := by
  refine Faulty.leaves_write fun s => accounts_of_same rfl rfl rfl rfl ?_
  funext tenantCode userId
  rw [failuresOf, failuresOf, h]

-- ============================================================================
-- lockout.service.ts
-- ============================================================================

namespace LockoutService

variable {tenantCode : String} {userId : Uuid} {settings : Option AuthenticationSettings}

/-- `incr-counter.lua` counts at its key. -/
theorem incrCounter_get {key : String} {n : Nat} (h : incrCounter key w = (.ok n, w')) :
    w'.state.db = w.state.db ∧ w'.state.now = w.state.now ∧
      n = (w.state.redis.failures.get w.state.now key).getD 0 + 1 ∧
      ∀ k, w'.state.redis.failures.get w.state.now k =
        if k = key then some n else w.state.redis.failures.get w.state.now k := by
  obtain ⟨hn, hstate⟩ := Prod.mk.inj (Except.ok.inj (Faulty.call_ok h))
  rw [← hstate, ← hn]
  refine ⟨rfl, rfl, rfl, fun k => ?_⟩
  dsimp only
  split
  · rw [Expiring.get_expire (by decide), Expiring.get_update]
  · rw [Expiring.get_update]

theorem incrCounter_failures {key : String} {r : Except AccountError Nat}
    (h : incrCounter key w = (r, w')) {k : String} (hk : k ≠ key) :
    w'.state.redis.failures.get w'.state.now k = w.state.redis.failures.get w.state.now k := by
  rcases r with e | n
  · rw [Faulty.call_error h]
  · obtain ⟨-, hnow, -, hget⟩ := incrCounter_get h
    rw [hnow, hget, if_neg hk]

theorem incrCounter_db {key : String} : Faulty.Leaves (·.db) (incrCounter key) := by
  refine Faulty.leaves_call fun s n s' h => ?_
  obtain ⟨-, rfl⟩ := Prod.mk.inj (Except.ok.inj h)
  rfl

/-- The counter of another family. -/
theorem incrCounter_accounts {key : String}
    (hkey : ∀ tenantCode userId, failureKey tenantCode userId ≠ key) :
    Faulty.Leaves accountsOf (incrCounter key) := by
  intro w
  have hrun : incrCounter key w = ((incrCounter key w).1, (incrCounter key w).2) := rfl
  have hdb : (incrCounter key w).2.state.db = w.state.db := incrCounter_db w
  refine accounts_of_same (by rw [hdb]) (by rw [hdb]) (by rw [hdb]) (by rw [hdb]) ?_
  funext tenantCode userId
  exact incrCounter_failures hrun (hkey tenantCode userId)

theorem recordIpFailure_accounts :
    Faulty.Leaves accountsOf (recordIpFailure ctx tenantCode userId) := by
  refine withAdapter_leaves (Faulty.Leaves.bind ?_ fun _ => Faulty.leaves_when log_accounts)
  exact incrCounter_accounts fun _ _ => ipFailureKey_ne.symm

/-- The accounts of the other tenants, as far as they are not in the table of users. -/
def countersOf (tenantCode : String) (s : AccountStore) : AccountsView where
  settings := s.db.settings
  credentials := s.db.credentials
  tenants := s.db.tenants
  users := []
  failures other userId := if other = tenantCode then none else failuresOf s other userId

theorem others_of_counters {s s' : AccountStore}
    (h : countersOf tenantCode s' = countersOf tenantCode s)
    (husers : s'.db.users.rows.filter (·.tenantCode ≠ tenantCode) =
      s.db.users.rows.filter (·.tenantCode ≠ tenantCode)) :
    othersOf tenantCode s' = othersOf tenantCode s := by
  have hview : ∀ s : AccountStore, othersOf tenantCode s =
      { countersOf tenantCode s with users := s.db.users.rows.filter (·.tenantCode ≠ tenantCode) } :=
    fun _ => rfl
  rw [hview, hview, h, husers]

theorem counters_of_failures {s s' : AccountStore} (hdb : s'.db = s.db)
    (hfailures : ∀ other userId, other ≠ tenantCode →
      failuresOf s' other userId = failuresOf s other userId) :
    countersOf tenantCode s' = countersOf tenantCode s := by
  refine AccountsView.mk.injEq .. ▸ ⟨by rw [hdb], by rw [hdb], by rw [hdb], rfl, ?_⟩
  funext other userId
  split
  · rfl
  next hother => exact hfailures other userId hother

theorem incrementFailureCount_counters :
    Faulty.Leaves (countersOf tenantCode) (incrementFailureCount ctx tenantCode userId) := by
  refine withAdapter_leaves fun w => ?_
  have hrun : incrCounter (failureKey tenantCode userId) w =
      ((incrCounter (failureKey tenantCode userId) w).1,
        (incrCounter (failureKey tenantCode userId) w).2) := rfl
  refine counters_of_failures (incrCounter_db w) fun other userId' hother => ?_
  exact incrCounter_failures hrun fun hkey => hother (failureKey_inj hkey).1

theorem resetFailureCount_counters :
    Faulty.Leaves (countersOf tenantCode) (resetFailureCount ctx tenantCode userId) := by
  refine withAdapter_leaves (Faulty.leaves_write fun s => ?_)
  refine counters_of_failures rfl fun other userId' hother => ?_
  exact Expiring.get_erase.trans (if_neg fun hkey => hother (failureKey_inj hkey).1)

theorem update_counters {id : Uuid} {change : UserUpdate} :
    Faulty.Leaves (countersOf tenantCode) (UserRepository.update id change) := by
  refine Faulty.leaves_call fun s u s' h => ?_
  split at h
  next db hdb =>
    obtain ⟨-, rfl⟩ := Prod.mk.inj (Except.ok.inj h)
    obtain ⟨users, -, rfl⟩ := Option.map_eq_some_iff.mp hdb
    rfl
  · cases h

theorem lockUnlessLocked_counters :
    Faulty.Leaves (countersOf tenantCode) (lockUnlessLocked ctx tenantCode userId) := by
  refine Faulty.leaves_transaction ?_ fun s s' h => ?_
  · refine Faulty.Leaves.bind (Faulty.leaves_read _) fun found => ?_
    cases found with
    | none => exact Faulty.leaves_pure _
    | some user =>
      simp only
      split
      · exact Faulty.leaves_pure _
      · exact update_counters.bind fun _ => resetFailureCount_counters.bind fun _ =>
          Faulty.leaves_pure _
  · injection h with hsettings hcredentials htenants _ hfailures
    exact AccountsView.mk.injEq .. ▸ ⟨rfl, rfl, rfl, rfl, hfailures⟩

theorem handleFailure_counters :
    Faulty.Leaves (countersOf tenantCode) (handleFailure ctx tenantCode userId settings) := by
  unfold handleFailure
  split
  · exact Faulty.leaves_pure _
  · split
    · exact Faulty.leaves_pure _
    · refine incrementFailureCount_counters.bind fun count => ?_
      split
      · exact lockUnlessLocked_counters
      · exact Faulty.leaves_pure _

theorem handleFailure_others {r : Except AccountError Bool} (hmem : user ∈ w.state.db.users.rows)
    (h : handleFailure ctx user.tenantCode user.id settings w = (r, w')) :
    othersOf user.tenantCode w'.state = othersOf user.tenantCode w.state := by
  refine others_of_counters (handleFailure_counters.ok h) ?_
  rcases handleFailure_run h with ⟨husers, -⟩ | ⟨locked, -, hid, -, hrewrites⟩
  · rw [show w'.state.db.users = w.state.db.users from husers]
  · obtain ⟨hfound, user', happly, husers⟩ := hrewrites
    obtain rfl := w.state.db.users.row_unique hfound hmem hid
    have htenant : user'.tenantCode = locked.tenantCode := by
      obtain ⟨version, -, rfl⟩ := Option.map_eq_some_iff.mp happly
      rfl
    rw [husers]
    refine Keyed.filter_replace_of_not hmem (UserUpdate.apply_eq_some happly).1 ?_ ?_
    · simp
    · simp [htenant]

theorem resetFailureCount_forgets (h : resetFailureCount ctx tenantCode userId w = (.ok (), w')) :
    w'.state.db = w.state.db ∧ failuresOf w'.state tenantCode userId = none := by
  unfold resetFailureCount withAdapter at h
  split at h
  · rw [writeRedis_ok (Faulty.tryCatch_throw_ok h)]
    exact ⟨rfl, Expiring.get_erase_same⟩
  · exact absurd h Faulty.throw_ok

/-- Nothing is counted where no lockout is enabled or no counter is reached. -/
theorem handleFailure_idle (h : ctx.redisClient = false ∨
    settings.any (·.accountLockoutEnabled) = false) {r : Except AccountError Bool}
    (hrun : handleFailure ctx tenantCode userId settings w = (r, w')) :
    accountsOf w'.state = accountsOf w.state := by
  unfold handleFailure at hrun
  split at hrun
  · exact (Faulty.leaves_pure _).ok hrun
  next settings =>
    split at hrun
    · exact (Faulty.leaves_pure _).ok hrun
    next henabled =>
      rcases h with hclient | hdisabled
      · unfold countFailure incrementFailureCount withAdapter at hrun
        rw [if_neg (by rw [hclient]; exact Bool.false_ne_true)] at hrun
        obtain ⟨-, rfl⟩ := Prod.mk.inj hrun
        rfl
      · exact absurd hdisabled henabled

/-- There is nothing to take back. -/
theorem resetFailureCount_idle
    (h : ctx.redisClient = false ∨ failuresOf w.state tenantCode userId = none)
    {r : Except AccountError Unit} (hrun : resetFailureCount ctx tenantCode userId w = (r, w')) :
    accountsOf w'.state = accountsOf w.state := by
  unfold resetFailureCount withAdapter at hrun
  split at hrun
  next hclient =>
    rcases r with e | u
    · rcases Faulty.tryCatch_cases hrun with ⟨a, -, hok⟩ | ⟨e', w₁, herror, hthrow⟩
      · cases hok
      · obtain ⟨-, rfl⟩ := Prod.mk.inj hthrow
        rw [writeRedis_error herror]
    · have hnone : failuresOf w.state tenantCode userId = none := by
        rcases h with hfalse | hnone
        · rw [hclient] at hfalse
          cases hfalse
        · exact hnone
      rw [writeRedis_ok (Faulty.tryCatch_throw_ok hrun)]
      refine accounts_of_same rfl rfl rfl rfl ?_
      funext other userId'
      refine Expiring.get_erase.trans ?_
      split
      next hkey =>
        obtain ⟨rfl, rfl⟩ := failureKey_inj hkey
        exact hnone.symm
      · rfl
  · obtain ⟨-, rfl⟩ := Prod.mk.inj hrun
    rfl

end LockoutService

-- ============================================================================
-- Attempts
-- ============================================================================

namespace AuthApplicationService

variable {tenantCode email password : String} {rememberMe : Bool}
  {settings : Option AuthenticationSettings} {fresh : FreshLogin}

def settingsOf (s : AccountStore) (tenantCode : String) : Option AuthenticationSettings :=
  s.db.settings.rows.find? fun settings => settings.tenantCode = tenantCode

def userOf (s : AccountStore) (tenantCode email : String) : Option UserRow :=
  s.db.users.rows.find? fun user =>
    user.tenantCode = tenantCode && user.normalizedEmail = UserRepository.normalizeEmail email

/-- The user whose password an attempt checks. -/
def candidate (ctx : AccountContext) (s : AccountStore) (tenantCode email : String) :
    Option UserRow :=
  if ctx.admits ctx.sourceIp (settingsOf s tenantCode) = true ∧ tenantCode ∈ s.db.tenants then
    (userOf s tenantCode email).filter (·.status = .ACTIVE)
  else none

def knowsPassword (ctx : AccountContext) (s : AccountStore) (password : String) (user : UserRow) :
    Bool :=
  isPasswordValid ctx password (CredentialRepository.activeCredential s.db user.id)

/-- An attempt counts a failure of the account, or takes back the ones counted. -/
def touches (ctx : AccountContext) (dto : LoginWithPasswordDto) (s : AccountStore)
    (tenantCode : String) : Bool :=
  (candidate ctx s tenantCode dto.email).any fun user =>
    ctx.redisClient && dto.password ≠ "" &&
      if knowsPassword ctx s dto.password user then (failuresOf s tenantCode user.id).isSome
      else (settingsOf s tenantCode).any (·.accountLockoutEnabled)

/-- An attempt succeeds, unless a store fails. -/
def letsIn (ctx : AccountContext) (dto : LoginWithPasswordDto) (s : AccountStore)
    (tenantCode : String) : Bool :=
  (candidate ctx s tenantCode dto.email).any fun user =>
    dto.password = "" || (ctx.redisClient && knowsPassword ctx s dto.password user)

theorem denyLocation_accounts : Faulty.Leaves accountsOf (denyLocation ctx tenantCode email) := by
  refine readDb_accounts.bind fun found => ?_
  cases found with
  | none => exact log_accounts
  | some user => exact LockoutService.recordIpFailure_accounts.bind fun _ => log_accounts

theorem validateIpPolicy_accounts :
    Faulty.Leaves accountsOf (validateIpPolicy ctx tenantCode email) := by
  refine readDb_accounts.bind fun settings => ?_
  split
  · exact Faulty.leaves_pure _
  · exact denyLocation_accounts.bind fun _ => Faulty.leaves_throw _

theorem verifyTenantExistence_accounts :
    Faulty.Leaves accountsOf (verifyTenantExistence tenantCode) := by
  refine readDb_accounts.bind fun tenantExists => ?_
  split
  · exact Faulty.leaves_pure _
  · exact Faulty.leaves_throw _

theorem fetchAndValidateUser_accounts :
    Faulty.Leaves accountsOf (fetchAndValidateUser tenantCode email) := by
  refine readDb_accounts.bind fun found => ?_
  cases found with
  | none => exact log_accounts.bind fun _ => Faulty.leaves_throw _
  | some user =>
    simp only
    split
    · exact Faulty.leaves_pure _
    · exact log_accounts.bind fun _ => Faulty.leaves_throw _

theorem evaluateMfa_accounts {challengeId : Uuid} :
    Faulty.Leaves accountsOf (evaluateMfa user settings rememberMe challengeId) := by
  refine readDb_accounts.bind fun mfaMethods => ?_
  split
  · refine Faulty.Leaves.bind ?_ fun _ => Faulty.leaves_pure _
    exact Faulty.leaves_tryCatch (writeRedis_accounts fun _ _ => rfl) fun _ => Faulty.leaves_throw _
  · exact Faulty.leaves_pure _

theorem storeSessionAndLogSuccess_accounts {sessionId : String} :
    Faulty.Leaves accountsOf (storeSessionAndLogSuccess ctx user sessionId rememberMe) := by
  refine Faulty.Leaves.bind ?_ fun employee => ?_
  · unfold findSessionEmployee
    split
    · exact Faulty.leaves_pure _
    · exact readDb_accounts.bind fun _ => Faulty.leaves_pure _
  · refine Faulty.Leaves.bind (Faulty.leaves_tryCatch ?_ fun _ => Faulty.leaves_throw _)
      fun _ => log_accounts
    refine Faulty.Leaves.bind ?_ fun _ => ?_
    · exact writeRedis_accounts fun _ _ => rfl
    · refine Faulty.leaves_when (Faulty.Leaves.bind ?_ fun _ => ?_)
      · exact writeRedis_accounts fun _ _ => rfl
      · exact writeRedis_accounts fun _ _ => rfl

theorem completeLogin_accounts :
    Faulty.Leaves accountsOf (completeLogin ctx fresh user settings rememberMe) := by
  refine evaluateMfa_accounts.bind fun challengeId => ?_
  cases challengeId with
  | some challengeId => exact Faulty.leaves_pure _
  | none =>
    refine Faulty.Leaves.bind (Faulty.leaves_tryCatch (Faulty.leaves_read _)
      fun _ => Faulty.leaves_throw _) fun tokens => ?_
    exact storeSessionAndLogSuccess_accounts.bind fun _ => Faulty.leaves_pure _

theorem checkPassword_others {r : Except AccountError Unit}
    (hmem : user ∈ w.state.db.users.rows)
    (h : checkPassword ctx user (some password) settings w = (r, w')) :
    othersOf user.tenantCode w'.state = othersOf user.tenantCode w.state := by
  unfold checkPassword at h
  simp only at h
  split at h
  · obtain ⟨-, rfl⟩ := Prod.mk.inj h
    rfl
  · rcases Faulty.bind_cases h with ⟨e, hread, -⟩ | ⟨credential, w₁, hread, hrest⟩
    · exact othersOf_of_accounts (readDb_accounts.ok hread)
    · obtain ⟨-, hstate₁⟩ := readDb_ok hread
      rw [← hstate₁] at hmem ⊢
      split at hrest
      · refine LockoutService.others_of_counters
          (LockoutService.resetFailureCount_counters.ok hrest) ?_
        have husers : usersOf w'.state = usersOf w₁.state := resetFailureCount_users.ok hrest
        rw [show w'.state.db.users = w₁.state.db.users from husers]
      · rcases Faulty.bind_cases hrest with ⟨e, hfailure, -⟩ | ⟨locked, w₂, hfailure, hlogs⟩
        · exact LockoutService.handleFailure_others hmem hfailure
        · refine (Faulty.Leaves.ok (leaves_others ?_) hlogs).trans
            (LockoutService.handleFailure_others hmem hfailure)
          exact (Faulty.leaves_when log_accounts).bind fun _ => log_accounts.bind fun _ =>
            Faulty.leaves_throw _

/-- An attempt leaves the accounts of the other tenants alone. -/
theorem processLogin_others {r : Except AccountError LoginResult}
    (h : processLogin ctx fresh tenantCode email (some password) rememberMe w = (r, w')) :
    othersOf tenantCode w'.state = othersOf tenantCode w.state := by
  rcases Faulty.bind_cases h with ⟨e, hpolicy, -⟩ | ⟨settings, w₁, hpolicy, hrest₁⟩
  · exact othersOf_of_accounts (validateIpPolicy_accounts.ok hpolicy)
  rw [← (validateIpPolicy_admits hpolicy).1]
  rcases Faulty.bind_cases hrest₁ with ⟨e, htenant, -⟩ | ⟨u, w₂, htenant, hrest₂⟩
  · exact othersOf_of_accounts (verifyTenantExistence_accounts.ok htenant)
  rw [← (verifyTenantExistence_ok htenant).1]
  rcases Faulty.bind_cases hrest₂ with ⟨e, hfetch, -⟩ | ⟨user, w₃, hfetch, hrest₃⟩
  · exact othersOf_of_accounts (fetchAndValidateUser_accounts.ok hfetch)
  obtain ⟨hstate₃, hmem, rfl, -⟩ := fetchAndValidateUser_ok hfetch
  rw [← hstate₃] at hmem ⊢
  rcases Faulty.bind_cases hrest₃ with ⟨e, hcheck, -⟩ | ⟨u₄, w₄, hcheck, hcomplete⟩
  · exact checkPassword_others hmem hcheck
  · exact (othersOf_of_accounts (completeLogin_accounts.ok hcomplete)).trans
      (checkPassword_others hmem hcheck)

theorem checkPassword_idle {r : Except AccountError Unit}
    (hidle : ctx.redisClient = false ∨ password = "" ∨
      if knowsPassword ctx w.state password user then
        failuresOf w.state user.tenantCode user.id = none
      else settings.any (·.accountLockoutEnabled) = false)
    (h : checkPassword ctx user (some password) settings w = (r, w')) :
    accountsOf w'.state = accountsOf w.state := by
  unfold checkPassword at h
  simp only at h
  split at h
  · obtain ⟨-, rfl⟩ := Prod.mk.inj h
    rfl
  next hpassword =>
    rcases Faulty.bind_cases h with ⟨e, hread, -⟩ | ⟨credential, w₁, hread, hrest⟩
    · exact readDb_accounts.ok hread
    · obtain ⟨rfl, hstate₁⟩ := readDb_ok hread
      rw [← hstate₁] at hidle ⊢
      split at hrest
      next hknows =>
        refine LockoutService.resetFailureCount_idle (hidle.imp_right fun hidle => ?_) hrest
        rcases hidle with hempty | hidle
        · exact absurd hempty hpassword
        · rwa [if_pos (by rw [hstate₁]; exact hknows)] at hidle
      next hdenies =>
        have hidle' : ctx.redisClient = false ∨ settings.any (·.accountLockoutEnabled) = false := by
          refine hidle.imp_right fun hidle => ?_
          rcases hidle with hempty | hidle
          · exact absurd hempty hpassword
          · rwa [if_neg (by rw [hstate₁]; exact hdenies)] at hidle
        rcases Faulty.bind_cases hrest with ⟨e, hfailure, -⟩ | ⟨locked, w₂, hfailure, hlogs⟩
        · exact LockoutService.handleFailure_idle hidle' hfailure
        · refine (Faulty.Leaves.ok ?_ hlogs).trans (LockoutService.handleFailure_idle hidle' hfailure)
          exact (Faulty.leaves_when log_accounts).bind fun _ => log_accounts.bind fun _ =>
            Faulty.leaves_throw _

/-- An attempt that does not touch the account of its tenant touches none. -/
theorem processLogin_idle {dto : LoginWithPasswordDto} {r : Except AccountError LoginResult}
    (htouches : touches ctx dto w.state tenantCode = false)
    (h : processLogin ctx fresh tenantCode dto.email (some dto.password) rememberMe w = (r, w')) :
    accountsOf w'.state = accountsOf w.state := by
  rcases Faulty.bind_cases h with ⟨e, hpolicy, -⟩ | ⟨settings, w₁, hpolicy, hrest⟩
  · exact validateIpPolicy_accounts.ok hpolicy
  obtain ⟨hstate₁, hadmits⟩ := validateIpPolicy_admits hpolicy
  obtain rfl : settings = settingsOf w.state tenantCode := validateIpPolicy_ok hpolicy
  rcases Faulty.bind_cases hrest with ⟨e, htenant, -⟩ | ⟨u, w₂, htenant, hrest⟩
  · exact (verifyTenantExistence_accounts.ok htenant).trans (by rw [hstate₁])
  obtain ⟨hstate₂, hexists⟩ := verifyTenantExistence_ok htenant
  rw [hstate₁] at hstate₂ hexists
  rcases Faulty.bind_cases hrest with ⟨e, hfetch, -⟩ | ⟨user, w₃, hfetch, hrest⟩
  · exact (fetchAndValidateUser_accounts.ok hfetch).trans (by rw [hstate₂])
  have hfound : userOf w₂.state tenantCode dto.email = some user :=
    fetchAndValidateUser_found hfetch
  obtain ⟨hstate₃, -, htenantCode, hactive⟩ := fetchAndValidateUser_ok hfetch
  rw [hstate₂] at hfound hstate₃
  have hidle : ctx.redisClient = false ∨ dto.password = "" ∨
      if knowsPassword ctx w₃.state dto.password user then
        failuresOf w₃.state user.tenantCode user.id = none
      else (settingsOf w.state tenantCode).any (·.accountLockoutEnabled) = false := by
    rw [touches, candidate, if_pos ⟨hadmits, hexists⟩, hfound, Option.filter_some,
      if_pos (decide_eq_true hactive), Option.any_some] at htouches
    rw [hstate₃, htenantCode]
    by_cases hclient : ctx.redisClient = true
    · by_cases hpassword : dto.password = ""
      · exact .inr (.inl hpassword)
      · refine .inr (.inr ?_)
        rw [hclient, decide_eq_true hpassword, Bool.true_and, Bool.true_and] at htouches
        split at htouches
        next hknows =>
          rw [if_pos hknows]
          exact Option.isSome_eq_false_iff.mp htouches |> Option.isNone_iff_eq_none.mp
        next hdenies =>
          rw [if_neg hdenies]
          exact htouches
    · exact .inl (Bool.not_eq_true _ ▸ hclient)
  rcases Faulty.bind_cases hrest with ⟨e, hcheck, -⟩ | ⟨u₄, w₄, hcheck, hrest⟩
  · exact (checkPassword_idle hidle hcheck).trans (by rw [hstate₃])
  · exact (completeLogin_accounts.ok hrest).trans
      ((checkPassword_idle hidle hcheck).trans (by rw [hstate₃]))

-- ============================================================================
-- Who may be let in
-- ============================================================================

section Views

variable {s s' : AccountStore} {dto : LoginWithPasswordDto} {other : String}

theorem userOf_without (hother : other ≠ tenantCode) :
    userOf s other email = (s.db.users.rows.filter (·.tenantCode ≠ tenantCode)).find? fun user =>
      user.tenantCode = other && user.normalizedEmail = UserRepository.normalizeEmail email := by
  rw [userOf, List.find?_filter]
  refine List.find?_congr fun user _ => ?_
  by_cases htenant : user.tenantCode = other
  · simp [htenant, hother]
  · simp [htenant]

theorem policy_of_others (h : othersOf tenantCode s' = othersOf tenantCode s) :
    settingsOf s' other = settingsOf s other ∧
      (∀ ctx, knowsPassword ctx s' = knowsPassword ctx s) ∧ s'.db.tenants = s.db.tenants := by
  injection h with hsettings hcredentials htenants
  refine ⟨?_, ?_, htenants⟩
  · rw [settingsOf, settingsOf, show s'.db.settings = s.db.settings from hsettings]
  · intro ctx
    funext password user
    rw [knowsPassword, knowsPassword, CredentialRepository.activeCredential,
      CredentialRepository.activeCredential,
      show s'.db.credentials = s.db.credentials from hcredentials]

theorem userOf_of_others (hother : other ≠ tenantCode)
    (h : othersOf tenantCode s' = othersOf tenantCode s) :
    userOf s' other email = userOf s other email := by
  rw [userOf_without hother, userOf_without hother]
  exact congrArg (List.find? _) (congrArg AccountsView.users h)

theorem failuresOf_of_others (hother : other ≠ tenantCode)
    (h : othersOf tenantCode s' = othersOf tenantCode s) :
    failuresOf s' other = failuresOf s other := by
  have hview : ∀ s, (othersOf tenantCode s).failures other = failuresOf s other := by
    intro s
    funext userId
    exact if_neg hother
  rw [← hview, ← hview, h]

theorem touches_of_others (hother : other ≠ tenantCode)
    (h : othersOf tenantCode s' = othersOf tenantCode s) :
    touches ctx dto s' other = touches ctx dto s other := by
  obtain ⟨hsettings, hknows, htenants⟩ := policy_of_others h
  unfold touches candidate
  rw [hsettings, hknows, htenants, userOf_of_others hother h, failuresOf_of_others hother h]

theorem letsIn_of_others (hother : other ≠ tenantCode)
    (h : othersOf tenantCode s' = othersOf tenantCode s) :
    letsIn ctx dto s' other = letsIn ctx dto s other := by
  obtain ⟨hsettings, hknows, htenants⟩ := policy_of_others h
  unfold letsIn candidate
  rw [hsettings, hknows, htenants, userOf_of_others hother h]

end Views

/-- What no attempt changes of the users, in their order. -/
def identitiesOf (s : AccountStore) : List (Uuid × String × String) :=
  s.db.users.rows.map fun user => (user.id, user.tenantCode, user.normalizedEmail)

theorem leaves_identities {α : Type} {x : AccountService α} (h : Faulty.Leaves usersOf x) :
    Faulty.Leaves identitiesOf x :=
  h.comp fun users => users.rows.map fun user => (user.id, user.tenantCode, user.normalizedEmail)

theorem users_of_accounts {α : Type} {x : AccountService α} (h : Faulty.Leaves accountsOf x) :
    Faulty.Leaves identitiesOf x :=
  h.comp fun v => v.users.map fun user => (user.id, user.tenantCode, user.normalizedEmail)

theorem handleFailure_identities {userId : Uuid} :
    Faulty.Leaves identitiesOf (LockoutService.handleFailure ctx tenantCode userId settings) := by
  intro w
  rcases h : LockoutService.handleFailure ctx tenantCode userId settings w with ⟨r, w'⟩
  rcases LockoutService.handleFailure_run h with ⟨husers, -⟩ | ⟨user, -, -, -, hrewrites⟩
  · rw [identitiesOf, identitiesOf, show w'.state.db.users = w.state.db.users from husers]
  · obtain ⟨hfound, user', happly, husers⟩ := hrewrites
    rw [identitiesOf, husers]
    refine Keyed.map_replace_of_same hfound (UserUpdate.apply_eq_some happly).1 ?_
    obtain ⟨version, -, rfl⟩ := Option.map_eq_some_iff.mp happly
    rfl

theorem checkPassword_identities :
    Faulty.Leaves identitiesOf (checkPassword ctx user (some password) settings) := by
  unfold checkPassword
  simp only
  split
  · exact Faulty.leaves_pure _
  · refine (users_of_accounts readDb_accounts).bind fun credential => ?_
    split
    · exact leaves_identities resetFailureCount_users
    · refine handleFailure_identities.bind fun locked => users_of_accounts ?_
      exact (Faulty.leaves_when log_accounts).bind fun _ => log_accounts.bind fun _ =>
        Faulty.leaves_throw _

theorem processLogin_identities :
    Faulty.Leaves identitiesOf
      (processLogin ctx fresh tenantCode email (some password) rememberMe) :=
  (users_of_accounts validateIpPolicy_accounts).bind fun _ =>
    (users_of_accounts verifyTenantExistence_accounts).bind fun _ =>
      (users_of_accounts fetchAndValidateUser_accounts).bind fun _ =>
        checkPassword_identities.bind fun _ => users_of_accounts completeLogin_accounts

/-- An attempt makes no user ACTIVE. -/
theorem processLogin_active {r : Except AccountError LoginResult}
    (h : processLogin ctx fresh tenantCode email (some password) rememberMe w = (r, w'))
    (hmem : user ∈ w'.state.db.users.rows) (hactive : user.status = .ACTIVE) :
    user ∈ w.state.db.users.rows := by
  have hcomplete : ∀ {w₁ settings user₁}, completeLogin ctx fresh user₁ settings rememberMe w₁ =
      (r, w') → user ∈ w₁.state.db.users.rows := by
    intro w₁ settings user₁ hrun
    have hsame := congrArg AccountsView.users (completeLogin_accounts.ok hrun)
    rwa [show w'.state.db.users.rows = w₁.state.db.users.rows from hsame] at hmem
  rcases Faulty.bind_cases h with ⟨e, hpolicy, -⟩ | ⟨settings, w₁, hpolicy, hrest₁⟩
  · exact (validateIpPolicy_locks.run hpolicy).active user hmem hactive
  refine (validateIpPolicy_locks.run hpolicy).active user ?_ hactive
  rcases Faulty.bind_cases hrest₁ with ⟨e, htenant, -⟩ | ⟨u, w₂, htenant, hrest₂⟩
  · exact (verifyTenantExistence_locks.run htenant).active user hmem hactive
  refine (verifyTenantExistence_locks.run htenant).active user ?_ hactive
  rcases Faulty.bind_cases hrest₂ with ⟨e, hfetch, -⟩ | ⟨user₃, w₃, hfetch, hrest₃⟩
  · exact (fetchAndValidateUser_locks.run hfetch).active user hmem hactive
  refine (fetchAndValidateUser_locks.run hfetch).active user ?_ hactive
  rcases Faulty.bind_cases hrest₃ with ⟨e, hcheck, -⟩ | ⟨u₄, w₄, hcheck, hrun⟩
  · exact (checkPassword_locks.run hcheck).active user hmem hactive
  · exact (checkPassword_locks.run hcheck).active user (hcomplete hrun) hactive

/-- Whose password is checked after an attempt could have been before. -/
theorem candidate_before {other : String} {r : Except AccountError LoginResult}
    (h : processLogin ctx fresh tenantCode email (some password) rememberMe w = (r, w'))
    (huser : userOf w'.state other email = some user) (hactive : user.status = .ACTIVE) :
    userOf w.state other email = some user := by
  have hplaces : ∀ s : AccountStore, (userOf s other email).map (fun user =>
      (user.id, user.tenantCode, user.normalizedEmail)) = (identitiesOf s).find? fun identity =>
        identity.2.1 = other && identity.2.2 = UserRepository.normalizeEmail email := by
    intro s
    rw [identitiesOf, List.find?_map]
    rfl
  have hsame := hplaces w.state
  rw [← processLogin_identities.ok h, ← hplaces, huser, Option.map_some] at hsame
  obtain ⟨user₀, hfound, hid⟩ := Option.map_eq_some_iff.mp hsame
  have hmem : user ∈ w.state.db.users.rows :=
    processLogin_active h (List.mem_of_find?_eq_some huser) hactive
  rw [hfound, w.state.db.users.row_unique (List.mem_of_find?_eq_some hfound) hmem
    (Prod.mk.inj hid).1]

theorem candidate_eq_some {s : AccountStore} :
    candidate ctx s tenantCode email = some user ↔
      ctx.admits ctx.sourceIp (settingsOf s tenantCode) = true ∧ tenantCode ∈ s.db.tenants ∧
        userOf s tenantCode email = some user ∧ user.status = .ACTIVE := by
  unfold candidate
  split
  next hpolicy => simp [hpolicy, Option.filter_eq_some_iff]
  next hpolicy => simpa using fun hadmits hexists => absurd ⟨hadmits, hexists⟩ hpolicy

theorem letsIn_eq_true {dto : LoginWithPasswordDto} {s : AccountStore} :
    letsIn ctx dto s tenantCode = true ↔ ∃ user,
      candidate ctx s tenantCode dto.email = some user ∧
        (dto.password = "" ∨ (ctx.redisClient = true ∧ knowsPassword ctx s dto.password user)) := by
  unfold letsIn
  rw [Option.any_eq_true]
  simp only [Bool.or_eq_true, decide_eq_true_eq, Bool.and_eq_true]

theorem letsIn_before {dto : LoginWithPasswordDto} {other : String}
    {r : Except AccountError LoginResult}
    (h : processLogin ctx fresh tenantCode dto.email (some dto.password) rememberMe w = (r, w'))
    (hletsIn : letsIn ctx dto w'.state other = true) : letsIn ctx dto w.state other = true := by
  obtain ⟨user, hcandidate, hpassword⟩ := letsIn_eq_true.mp hletsIn
  obtain ⟨hadmits, hexists, huser, hactive⟩ := candidate_eq_some.mp hcandidate
  obtain ⟨hsettings, hknows, htenants⟩ := policy_of_others (processLogin_others h)
  rw [hsettings] at hadmits
  rw [htenants] at hexists
  rw [hknows] at hpassword
  refine letsIn_eq_true.mpr ⟨user, ?_, hpassword⟩
  exact candidate_eq_some.mpr ⟨hadmits, hexists, candidate_before h huser hactive, hactive⟩

theorem checkPassword_passes {u : Unit}
    (h : checkPassword ctx user (some password) settings w = (.ok u, w')) :
    password = "" ∨ (ctx.redisClient = true ∧ knowsPassword ctx w.state password user = true) := by
  unfold checkPassword at h
  simp only at h
  split at h
  next hempty => exact .inl hempty
  · obtain ⟨credential, w₁, hread, hrest⟩ := Faulty.bind_ok.mp h
    obtain ⟨rfl, -⟩ := readDb_ok hread
    split at hrest
    next hknows =>
      refine .inr ⟨?_, hknows⟩
      unfold LockoutService.resetFailureCount LockoutService.withAdapter at hrest
      split at hrest
      next hclient => exact hclient
      · exact absurd hrest Faulty.throw_ok
    · obtain ⟨locked, w₂, -, hrest⟩ := Faulty.bind_ok.mp hrest
      obtain ⟨u₃, w₃, -, hrest⟩ := Faulty.bind_ok.mp hrest
      obtain ⟨u₄, w₄, -, hrest⟩ := Faulty.bind_ok.mp hrest
      exact absurd hrest Faulty.throw_ok

/-- Who is let in could be. -/
theorem processLogin_letsIn {dto : LoginWithPasswordDto} {result : LoginResult}
    (h : processLogin ctx fresh tenantCode dto.email (some dto.password) rememberMe w =
      (.ok result, w')) : letsIn ctx dto w.state tenantCode = true := by
  obtain ⟨settings, w₁, hpolicy, hrest₁⟩ := Faulty.bind_ok.mp h
  obtain ⟨hstate₁, hadmits⟩ := validateIpPolicy_admits hpolicy
  obtain rfl : settings = settingsOf w.state tenantCode := validateIpPolicy_ok hpolicy
  obtain ⟨u, w₂, htenant, hrest₂⟩ := Faulty.bind_ok.mp hrest₁
  obtain ⟨hstate₂, hexists⟩ := verifyTenantExistence_ok htenant
  rw [hstate₁] at hstate₂ hexists
  obtain ⟨user, w₃, hfetch, hrest₃⟩ := Faulty.bind_ok.mp hrest₂
  have hfound : userOf w₂.state tenantCode dto.email = some user := fetchAndValidateUser_found hfetch
  obtain ⟨hstate₃, -, -, hactive⟩ := fetchAndValidateUser_ok hfetch
  rw [hstate₂] at hfound hstate₃
  obtain ⟨u₄, w₄, hcheck, -⟩ := Faulty.bind_ok.mp hrest₃
  have hpasses := checkPassword_passes hcheck
  rw [hstate₃] at hpasses
  refine letsIn_eq_true.mpr ⟨user, ?_, hpasses⟩
  exact candidate_eq_some.mpr ⟨hadmits, hexists, hfound, hactive⟩

end AuthApplicationService

end AccessService.Accounts
