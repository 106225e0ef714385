/-
  AccessService.Accounts.TenantLogins

  When a login that succeeds has harmed no other account.  Every tenant that has an account
  with the e-mail address is tried in turn, with the same password, and a tenant that is
  tried in vain counts a failure.
-/

import AccessService.Accounts.LoginIsolation
import AccessService.Accounts.TokenIssue

namespace AccessService.Accounts

open AccessService.Lib AccessService.Pg AccessService.Persistence
open AccessService.Authorization (Timestamp)

variable {w w' : World AccountStore AccountError} {ctx : AccountContext} {user : UserRow}

namespace AuthApplicationService

variable {tenantCode email password : String} {rememberMe : Bool}
  {settings : Option AuthenticationSettings} {fresh : FreshLogin}

-- ============================================================================
-- The attempts of a login
-- ============================================================================

/-- The attempts on the tenants end with a result for one of them. -/
inductive Serves (ctx : AccountContext) (fresh : FreshLogin) (dto : LoginWithPasswordDto) :
    List String → World AccountStore AccountError → String → LoginResult →
      World AccountStore AccountError → Prop where
  | here {tenantCode : String} {tenantCodes : List String} {result : LoginResult}
      {w w' : World AccountStore AccountError}
      (h : processLogin ctx fresh tenantCode dto.email (some dto.password) dto.rememberMe w =
        (.ok result, w')) :
      Serves ctx fresh dto (tenantCode :: tenantCodes) w tenantCode result w'
  | next {tenantCode served : String} {tenantCodes : List String} {result : LoginResult}
      {e : AccountError} {w w₁ w' : World AccountStore AccountError}
      (h : processLogin ctx fresh tenantCode dto.email (some dto.password) dto.rememberMe w =
        (.error e, w₁))
      (hrest : Serves ctx fresh dto tenantCodes w₁ served result w') :
      Serves ctx fresh dto (tenantCode :: tenantCodes) w served result w'

variable {dto : LoginWithPasswordDto} {tenantCodes : List String} {result : LoginResult}
  {served : String}

theorem tryTenants_ok {err : AccountError} :
    tryTenants ctx fresh dto err tenantCodes w = (.ok result, w') ↔
      ∃ served, Serves ctx fresh dto tenantCodes w served result w' := by
  induction tenantCodes generalizing err w with
  | nil =>
    refine iff_of_false Faulty.throw_ok ?_
    rintro ⟨served, h⟩
    cases h
  | cons tenantCode tenantCodes ih =>
    unfold tryTenants Faulty.tryCatch
    rcases hrun : processLogin ctx fresh tenantCode dto.email (some dto.password) dto.rememberMe w
      with ⟨e | result', w₁⟩
    · simp only [ih]
      constructor
      · rintro ⟨served, h⟩
        exact ⟨served, .next hrun h⟩
      · rintro ⟨served, h⟩
        cases h with
        | here hok => cases hrun.symm.trans hok
        | next herror hrest =>
          cases hrun.symm.trans herror
          exact ⟨served, hrest⟩
    · constructor
      · intro h
        cases h
        exact ⟨tenantCode, .here hrun⟩
      · rintro ⟨served, h⟩
        cases h with
        | here hok => exact hrun.symm.trans hok
        | next herror _ => cases hrun.symm.trans herror

/-- A login returns a result for a tenant. -/
def LoginReturns (ctx : AccountContext) (fresh : FreshLogin) (dto : LoginWithPasswordDto)
    (w : World AccountStore AccountError) (served : String) (result : LoginResult)
    (w' : World AccountStore AccountError) : Prop :=
  ∃ tenantCodes w₁, UserRepository.findTenantCodeByEmail dto.email w = (.ok tenantCodes, w₁) ∧
    Serves ctx fresh dto tenantCodes w₁ served result w'

theorem loginWithPassword_ok :
    loginWithPassword ctx fresh dto w = (.ok result, w') ↔
      ∃ served, LoginReturns ctx fresh dto w served result w' := by
  unfold loginWithPassword LoginReturns
  rw [Faulty.bind_ok]
  simp only [tryTenants_ok]
  constructor
  · rintro ⟨tenantCodes, w₁, hfind, served, h⟩
    exact ⟨served, tenantCodes, w₁, hfind, h⟩
  · rintro ⟨served, tenantCodes, w₁, hfind, h⟩
    exact ⟨tenantCodes, w₁, hfind, served, h⟩

theorem Serves.mem (h : Serves ctx fresh dto tenantCodes w served result w') :
    served ∈ tenantCodes := by
  induction h with
  | here _ => exact List.mem_cons_self
  | next _ _ ih => exact List.mem_cons_of_mem _ ih

theorem letsIn_of_serves (h : Serves ctx fresh dto tenantCodes w served result w') :
    letsIn ctx dto w.state served = true := by
  induction h with
  | here hok => exact processLogin_letsIn hok
  | next herror _ ih => exact letsIn_before herror ih

/-- The tenants with an account, in the order in which they are tried. -/
def tenantCodesOf (s : AccountStore) (email : String) : List String :=
  (s.db.users.rows.filter fun user =>
    user.normalizedEmail = UserRepository.normalizeEmail email).map (·.tenantCode)

/-- No account of another tenant is touched before a tenant that may let the caller in is
    reached. -/
def Spares (ctx : AccountContext) (dto : LoginWithPasswordDto) (s : AccountStore)
    (tenantCodes : List String) (served : String) : Prop :=
  letsIn ctx dto s served = true → ∀ tenantCode, tenantCode ≠ served →
    [tenantCode, served].Sublist tenantCodes → touches ctx dto s tenantCode = false

/-- Induction on the attempts: each leaves what `Spares` looks at. -/
theorem Serves.others (h : Serves ctx fresh dto tenantCodes w served result w') {s : AccountStore}
    (hothers : othersOf served w.state = othersOf served s) (hletsIn : letsIn ctx dto s served = true)
    (hspares : Spares ctx dto s tenantCodes served) :
    othersOf served w'.state = othersOf served s := by
  induction h with
  | here hok => exact (processLogin_others hok).trans hothers
  | @next tenantCode served tenantCodes result e w w₁ w' herror hrest ih =>
    refine ih ?_ hletsIn fun _ other hother hsublist => ?_
    · by_cases hsame : tenantCode = served
      · exact (hsame ▸ processLogin_others herror).trans hothers
      · have htouches : touches ctx dto w.state tenantCode = false := by
          rw [touches_of_others hsame hothers]
          refine hspares hletsIn tenantCode hsame ?_
          exact (List.singleton_sublist.mpr hrest.mem).cons_cons _
        exact (othersOf_of_accounts (processLogin_idle htouches herror)).trans hothers
    · exact hspares hletsIn other hother (hsublist.cons _)

/-- What counting a failure, or taking the failures back, changes of an account. -/
def lockoutState (s : AccountStore) (user : UserRow) :
    Option (UserStatus × SecurityVersion) × Option Nat :=
  ((UserRepository.userWithId s.db user.id).map fun row => (row.status, row.securityVersion),
    failuresOf s user.tenantCode user.id)

/-- However the stores behave, a login that returns a result for the tenant has left every
    account of the others as it was. -/
def HarmsNoOther (ctx : AccountContext) (fresh : FreshLogin) (dto : LoginWithPasswordDto)
    (s : AccountStore) (served : String) : Prop :=
  ∀ faults result w', LoginReturns ctx fresh dto ⟨s, faults⟩ served result w' →
    ∀ user ∈ s.db.users.rows, user.tenantCode ≠ served →
      lockoutState w'.state user = lockoutState s user

theorem lockoutState_of_others {s s' : AccountStore} (hmem : user ∈ s.db.users.rows)
    (hother : user.tenantCode ≠ served) (h : othersOf served s' = othersOf served s) :
    lockoutState s' user = lockoutState s user := by
  have hfailures := failuresOf_of_others hother h
  have husers : s'.db.users.rows.filter (·.tenantCode ≠ served) =
      s.db.users.rows.filter (·.tenantCode ≠ served) :=
    congrArg AccountsView.users h
  have hmem' : user ∈ s'.db.users.rows.filter (·.tenantCode ≠ served) := by
    rw [husers]
    exact List.mem_filter.mpr ⟨hmem, decide_eq_true hother⟩
  rw [lockoutState, lockoutState, hfailures, userWithId_eq_some.mpr ⟨hmem, rfl⟩,
    userWithId_eq_some.mpr ⟨(List.mem_filter.mp hmem').1, rfl⟩]

theorem harmsNoOther_of_spares {s : AccountStore}
    (h : Spares ctx dto s (tenantCodesOf s dto.email) served) :
    HarmsNoOther ctx fresh dto s served := by
  rintro faults result w' ⟨tenantCodes, w₁, hfind, hserves⟩ user hmem hother
  obtain ⟨rfl, hstate⟩ := readDb_ok hfind
  have hletsIn := letsIn_of_serves hserves
  rw [hstate] at hletsIn
  exact lockoutState_of_others hmem hother (hserves.others (by rw [hstate]) hletsIn h)

-- ============================================================================
-- Runs of attempts
-- ============================================================================

section Runs

variable {s : AccountStore} {faults : List (Option AccountError)}

theorem readDb_bind_runs {α β : Type} {f : AccountDatabase → α} {k : α → AccountService β}
    (h : ¬Faulty.ThrowsAt ⟨s, faults⟩ 0) :
    (readDb f >>= k) ⟨s, faults⟩ = k (f s.db) ⟨s, faults.tail⟩ :=
  Faulty.call_bind_runs (f := fun s : AccountStore => .ok (f s.db, s)) h rfl

theorem not_throwsAt_tail {i : Nat} (h : ¬Faulty.ThrowsAt ⟨s, faults⟩ (i + 1)) :
    ¬Faulty.ThrowsAt ⟨s, faults.tail⟩ i := by
  rwa [Faulty.ThrowsAt, List.getElem?_tail]

/-- An attempt that a store fails at once has done nothing. -/
theorem processLogin_fails {e : AccountError} : processLogin ctx fresh tenantCode email
    (some password) rememberMe ⟨s, some e :: faults⟩ = (.error e, ⟨s, faults⟩) :=
  rfl

/-- An attempt up to the password. -/
theorem processLogin_candidate (hcandidate : candidate ctx s tenantCode email = some user)
    (h : ∀ i < 3, ¬Faulty.ThrowsAt ⟨s, faults⟩ i) :
    processLogin ctx fresh tenantCode email (some password) rememberMe ⟨s, faults⟩ =
      (checkPassword ctx user (some password) (settingsOf s tenantCode) >>= fun _ =>
        completeLogin ctx fresh user (settingsOf s tenantCode) rememberMe)
          ⟨s, faults.tail.tail.tail⟩ := by
  obtain ⟨hadmits, hexists, hfound, hactive⟩ := candidate_eq_some.mp hcandidate
  have hpolicy : validateIpPolicy ctx tenantCode email ⟨s, faults⟩ =
      (.ok (settingsOf s tenantCode), ⟨s, faults.tail⟩) := by
    refine (readDb_bind_runs (h 0 (by decide))).trans ?_
    exact congrFun (if_pos hadmits) _
  have htenant : verifyTenantExistence tenantCode ⟨s, faults.tail⟩ =
      (.ok (), ⟨s, faults.tail.tail⟩) := by
    refine (readDb_bind_runs (not_throwsAt_tail (h 1 (by decide)))).trans ?_
    exact congrFun (if_pos (decide_eq_true hexists)) _
  have hfetch : fetchAndValidateUser tenantCode email ⟨s, faults.tail.tail⟩ =
      (.ok user, ⟨s, faults.tail.tail.tail⟩) := by
    refine (readDb_bind_runs (not_throwsAt_tail (not_throwsAt_tail (h 2 (by decide))))).trans ?_
    unfold userOf at hfound
    simp only [hfound]
    exact congrFun (if_pos hactive) _
  unfold processLogin
  rw [Faulty.bind_runs hpolicy, Faulty.bind_runs htenant, Faulty.bind_runs hfetch]

theorem resetFailureCount_completes {userId : Uuid} (hclient : ctx.redisClient = true) :
    Faulty.Completes (LockoutService.resetFailureCount ctx tenantCode userId) := by
  unfold LockoutService.resetFailureCount LockoutService.withAdapter
  rw [if_pos hclient]
  exact writeRedis_completes.tryCatch

theorem findSessionEmployee_completes : Faulty.Completes (findSessionEmployee ctx user) := by
  unfold findSessionEmployee
  split
  · exact Faulty.completes_pure _
  · exact readDb_completes.bind fun _ => Faulty.completes_pure _

theorem storeSessionAndLogSuccess_completes {sessionId : String} :
    Faulty.Completes (storeSessionAndLogSuccess ctx user sessionId rememberMe) := by
  refine findSessionEmployee_completes.bind fun employee => ?_
  refine Faulty.Completes.bind (Faulty.Completes.tryCatch ?_) fun _ => log_completes
  refine writeRedis_completes.bind fun _ => Faulty.completes_when ?_
  exact writeRedis_completes.bind fun _ => writeRedis_completes

theorem completeLogin_completes :
    Faulty.Completes (completeLogin ctx fresh user settings rememberMe) := by
  refine Faulty.Completes.bind ?_ fun challengeId => ?_
  · refine readDb_completes.bind fun mfaMethods => ?_
    split
    · exact writeRedis_completes.tryCatch.bind fun _ => Faulty.completes_pure _
    · exact Faulty.completes_pure _
  · cases challengeId with
    | some challengeId => exact Faulty.completes_pure _
    | none =>
      refine (Faulty.completes_read _).tryCatch.bind fun tokens => ?_
      exact storeSessionAndLogSuccess_completes.bind fun _ => Faulty.completes_pure _

/-- With all stores available, who may be let in is. -/
theorem processLogin_completes (fresh : FreshLogin) (h : letsIn ctx dto s tenantCode = true) :
    ∃ result w', processLogin ctx fresh tenantCode dto.email (some dto.password) dto.rememberMe
      ⟨s, []⟩ = (.ok result, w') := by
  obtain ⟨user, hcandidate, hpassword⟩ := letsIn_eq_true.mp h
  have hcalm : ∀ i, ¬Faulty.ThrowsAt (.calm s : World AccountStore AccountError) i :=
    fun i ⟨_, he⟩ => by cases he
  rw [processLogin_candidate hcandidate fun i _ => hcalm i]
  obtain ⟨u, s₁, hcheck⟩ : ∃ u s₁, checkPassword ctx user (some dto.password)
      (settingsOf s tenantCode) (.calm s) = (.ok u, .calm s₁) := by
    unfold checkPassword
    by_cases hempty : dto.password = ""
    · exact ⟨(), s, congrFun (if_pos hempty) _⟩
    · obtain ⟨hclient, hknows⟩ := hpassword.resolve_left hempty
      obtain ⟨u, s₁, hreset⟩ := resetFailureCount_completes hclient s
      refine ⟨u, s₁, ?_⟩
      simp only [if_neg hempty]
      refine (readDb_bind_runs (hcalm 0)).trans ?_
      exact (congrFun (if_pos hknows) _).trans hreset
  obtain ⟨result, s₂, hcomplete⟩ : ∃ result s₂, completeLogin ctx fresh user
      (settingsOf s tenantCode) dto.rememberMe (.calm s₁) = (.ok result, .calm s₂) :=
    completeLogin_completes s₁
  exact ⟨result, _, (Faulty.bind_runs hcheck).trans hcomplete⟩

/-- A failure that is counted, by a call that a store fails afterwards. -/
theorem handleFailure_counts {e : AccountError} {settings : AuthenticationSettings}
    (hclient : ctx.redisClient = true) (henabled : settings.accountLockoutEnabled = true) :
    ∃ s₁, failuresOf s₁ tenantCode user.id =
        some ((failuresOf s tenantCode user.id).getD 0 + 1) ∧
      (LockoutService.handleFailure ctx tenantCode user.id (some settings)
          ⟨s, none :: some e :: faults⟩ = (.error e, ⟨s₁, faults⟩) ∨
        LockoutService.handleFailure ctx tenantCode user.id (some settings)
          ⟨s, none :: some e :: faults⟩ = (.ok false, ⟨s₁, some e :: faults⟩)) := by
  have hcounts : ∃ n s₁, LockoutService.incrCounter (LockoutService.failureKey tenantCode user.id)
      ⟨s, none :: some e :: faults⟩ = (.ok n, ⟨s₁, some e :: faults⟩) := ⟨_, _, rfl⟩
  obtain ⟨n, s₁, hincr⟩ := hcounts
  obtain ⟨-, hnow, rfl, hget⟩ := LockoutService.incrCounter_get hincr
  refine ⟨s₁, ?_, ?_⟩
  · rw [failuresOf, show s₁.now = s.now from hnow]
    exact (hget _).trans (if_pos rfl)
  · have hcount : LockoutService.incrementFailureCount ctx tenantCode user.id
        ⟨s, none :: some e :: faults⟩ =
          (.ok ((failuresOf s tenantCode user.id).getD 0 + 1), ⟨s₁, some e :: faults⟩) := by
      unfold LockoutService.incrementFailureCount LockoutService.withAdapter
      rw [if_pos hclient, Faulty.tryCatch, hincr]
      rfl
    unfold LockoutService.handleFailure
    simp only [henabled, Bool.true_eq_false, if_false, LockoutService.countFailure]
    rw [Faulty.bind_runs hcount]
    split
    · exact .inl rfl
    · exact .inr rfl

theorem verifyUserPassword_counts {e : AccountError} {settings : AuthenticationSettings}
    (hclient : ctx.redisClient = true) (henabled : settings.accountLockoutEnabled = true)
    (hdenies : ¬knowsPassword ctx s password user = true) :
    ∃ s₁, failuresOf s₁ user.tenantCode user.id =
        some ((failuresOf s user.tenantCode user.id).getD 0 + 1) ∧
      verifyUserPassword ctx user password (some settings) ⟨s, none :: none :: some e :: faults⟩ =
        (.error e, ⟨s₁, faults⟩) := by
  obtain ⟨s₁, hcounted, hfailure⟩ := handleFailure_counts hclient henabled
  refine ⟨s₁, hcounted, (readDb_bind_runs (fun ⟨_, he⟩ => by cases he)).trans ?_⟩
  refine (congrFun (if_neg hdenies) _).trans ?_
  rcases hfailure with hthrows | hruns
  · exact Faulty.bind_throws hthrows
  · exact (Faulty.bind_runs hruns).trans rfl

theorem verifyUserPassword_forgets (hclient : ctx.redisClient = true)
    (hknows : knowsPassword ctx s password user = true) :
    ∃ s₁, failuresOf s₁ user.tenantCode user.id = none ∧
      verifyUserPassword ctx user password settings ⟨s, none :: none :: faults⟩ =
        (.ok (), ⟨s₁, faults⟩) := by
  have hreset : ∃ s₁, LockoutService.resetFailureCount ctx user.tenantCode user.id
      ⟨s, none :: faults⟩ = (.ok (), ⟨s₁, faults⟩) := by
    unfold LockoutService.resetFailureCount LockoutService.withAdapter
    rw [if_pos hclient]
    exact ⟨_, rfl⟩
  obtain ⟨s₁, hreset⟩ := hreset
  refine ⟨s₁, (LockoutService.resetFailureCount_forgets hreset).2, ?_⟩
  refine (readDb_bind_runs (fun ⟨_, he⟩ => by cases he)).trans ?_
  exact (congrFun (if_pos hknows) _).trans hreset

theorem touches_eq_true : touches ctx dto s tenantCode = true ↔ ∃ user,
    candidate ctx s tenantCode dto.email = some user ∧ ctx.redisClient = true ∧
      dto.password ≠ "" ∧
        if knowsPassword ctx s dto.password user then (failuresOf s tenantCode user.id).isSome
        else (settingsOf s tenantCode).any (·.accountLockoutEnabled) := by
  unfold touches
  rw [Option.any_eq_true]
  refine exists_congr fun user => and_congr_right fun _ => ?_
  rw [Bool.and_eq_true, Bool.and_eq_true, decide_eq_true_eq, and_assoc]

/-- An attempt that touches the account of its tenant, and that a store fails afterwards. -/
theorem processLogin_touches (fresh : FreshLogin) (faults : List (Option AccountError))
    (e : AccountError) (h : touches ctx dto s tenantCode = true) :
    ∃ s₁, processLogin ctx fresh tenantCode dto.email (some dto.password) dto.rememberMe
        ⟨s, none :: none :: none :: none :: none :: some e :: faults⟩ = (.error e, ⟨s₁, faults⟩) ∧
      ∃ user ∈ s.db.users.rows, user.tenantCode = tenantCode ∧
        failuresOf s₁ tenantCode user.id ≠ failuresOf s tenantCode user.id := by
  obtain ⟨user, hcandidate, hclient, hpassword, htouches⟩ := touches_eq_true.mp h
  obtain ⟨-, -, hfound, -⟩ := candidate_eq_some.mp hcandidate
  have hkeys := List.find?_some hfound
  rw [Bool.and_eq_true, decide_eq_true_eq] at hkeys
  obtain ⟨rfl, -⟩ := hkeys
  have hfree : ∀ i < 3,
      ¬Faulty.ThrowsAt ⟨s, none :: none :: none :: none :: none :: some e :: faults⟩ i := by
    rintro i hi ⟨e', he'⟩
    match i, hi with
    | 0, _ | 1, _ | 2, _ => cases he'
  have hchecks : ∃ s₁, failuresOf s₁ user.tenantCode user.id ≠ failuresOf s user.tenantCode user.id ∧
      (verifyUserPassword ctx user dto.password (settingsOf s user.tenantCode) >>= fun _ =>
        completeLogin ctx fresh user (settingsOf s user.tenantCode) dto.rememberMe)
          ⟨s, none :: none :: some e :: faults⟩ = (.error e, ⟨s₁, faults⟩) := by
    split at htouches
    next hknows =>
      obtain ⟨n, hn⟩ := Option.isSome_iff_exists.mp htouches
      obtain ⟨s₁, hnone, hverify⟩ : ∃ s₁, failuresOf s₁ user.tenantCode user.id = none ∧
          verifyUserPassword ctx user dto.password (settingsOf s user.tenantCode)
            ⟨s, none :: none :: some e :: faults⟩ = (.ok (), ⟨s₁, some e :: faults⟩) :=
        verifyUserPassword_forgets hclient hknows
      exact ⟨s₁, by rw [hnone, hn]; nofun, Faulty.bind_runs hverify⟩
    next hdenies =>
      obtain ⟨settings, hsettings, henabled⟩ := (Option.any_eq_true _ _).mp htouches
      obtain ⟨s₁, hcounted, hverify⟩ := verifyUserPassword_counts hclient henabled hdenies
      rw [hsettings]
      refine ⟨s₁, fun hsame => ?_, Faulty.bind_throws hverify⟩
      rw [hcounted] at hsame
      cases hfailures : failuresOf s user.tenantCode user.id with
      | none =>
        rw [hfailures] at hsame
        cases hsame
      | some n =>
        rw [hfailures] at hsame
        exact absurd (Option.some.inj hsame) (Nat.succ_ne_self n)
  obtain ⟨s₁, hchanged, hruns⟩ := hchecks
  refine ⟨s₁, ?_, user, List.mem_of_find?_eq_some hfound, rfl, hchanged⟩
  rw [processLogin_candidate hcandidate hfree, checkPassword]
  simp only [if_neg hpassword]
  exact hruns

/-- The attempts on some tenants, each of which a store fails at once. -/
theorem serves_after (skipped : List String) (e : AccountError)
    (h : Serves ctx fresh dto tenantCodes ⟨s, faults⟩ served result w') :
    Serves ctx fresh dto (skipped ++ tenantCodes)
      ⟨s, List.replicate skipped.length (some e) ++ faults⟩ served result w' := by
  induction skipped with
  | nil => exact h
  | cons tenantCode skipped ih => exact .next processLogin_fails ih

theorem loginReturns_of_serves
    (h : Serves ctx fresh dto (tenantCodesOf s dto.email) ⟨s, faults⟩ served result w') :
    LoginReturns ctx fresh dto ⟨s, none :: faults⟩ served result w' :=
  ⟨_, _, rfl, h⟩

/-- A tenant before the one served is touched where the stores fail all other attempts. -/
theorem harms_of_touches (hletsIn : letsIn ctx dto s served = true) (hne : tenantCode ≠ served)
    (hsublist : [tenantCode, served].Sublist (tenantCodesOf s dto.email))
    (htouches : touches ctx dto s tenantCode = true) : ¬HarmsNoOther ctx fresh dto s served := by
  intro hharms
  obtain ⟨codes, codes', hcodes, hmem, hserved⟩ := List.cons_sublist_iff.mp hsublist
  obtain ⟨pre, post, rfl⟩ := List.append_of_mem hmem
  obtain ⟨pre', post', rfl⟩ := List.append_of_mem (List.singleton_sublist.mp hserved)
  obtain ⟨s₁, hattempt, user, huser, rfl, hchanged⟩ := processLogin_touches fresh
    (List.replicate (post ++ pre').length (some queryFailed) ++ []) queryFailed htouches
  have hletsIn₁ : letsIn ctx dto s₁ served = true := by
    rw [letsIn_of_others hne.symm (processLogin_others hattempt), hletsIn]
  obtain ⟨result, w', hlogin⟩ := processLogin_completes fresh hletsIn₁
  have hserves := serves_after pre queryFailed
    (.next hattempt (serves_after (post ++ pre') queryFailed
      (.here hlogin : Serves ctx fresh dto (served :: post') _ served result w')))
  have horder : pre ++ user.tenantCode :: (post ++ pre' ++ served :: post') =
      tenantCodesOf s dto.email := by
    rw [hcodes]
    simp only [List.append_assoc, List.cons_append]
  rw [horder] at hserves
  have hsame := hharms _ result w' (loginReturns_of_serves hserves) user huser hne
  refine hchanged (Eq.trans ?_ (congrArg Prod.snd hsame))
  show failuresOf s₁ user.tenantCode user.id = failuresOf w'.state user.tenantCode user.id
  rw [failuresOf_of_others hne (processLogin_others hlogin)]

/-- Exactly when no account of another tenant is touched before the tenant is reached. -/
theorem harmsNoOther_iff :
    HarmsNoOther ctx fresh dto s served ↔ Spares ctx dto s (tenantCodesOf s dto.email) served := by
  refine ⟨fun hharms hletsIn tenantCode hne hsublist => ?_, harmsNoOther_of_spares⟩
  rw [← Bool.not_eq_true]
  exact fun htouches => harms_of_touches hletsIn hne hsublist htouches hharms

end Runs

-- ============================================================================
-- One person in two tenants
-- ============================================================================

def globexAccount : UserRow :=
  { sampleAccount with id := sampleRoleId, tenantCode := "globex", employeeRefId := none }

def globexPassword : Credential :=
  { samplePassword with
    id := sampleEmployeeId
    tenantCode := "globex"
    userId := sampleRoleId
    passwordHash := "battery staple" }

def strictLockout : AuthenticationSettings where
  tenantCode := "acme"
  accountLockoutEnabled := true
  maxFailedRetries := 1

def twoTenants : AccountStore where
  db :=
    { users := ⟨[sampleAccount, globexAccount], by decide⟩
      employees := sampleAccountStore.db.employees
      credentials := ⟨[samplePassword, globexPassword], by decide⟩
      tenants := ["acme", "globex"]
      settings := ⟨[strictLockout], List.nodup_singleton "acme"⟩ }

def globexLogin : LoginWithPasswordDto := ⟨"kim@acme.test", "battery staple", false⟩

def acmeAttempt : Except AccountError LoginResult × World AccountStore AccountError :=
  processLogin acmeAccounts sampleFreshLogin "acme" globexLogin.email (some globexLogin.password)
    globexLogin.rememberMe ⟨twoTenants, []⟩

def globexAttempt : Except AccountError LoginResult × World AccountStore AccountError :=
  processLogin acmeAccounts sampleFreshLogin "globex" globexLogin.email
    (some globexLogin.password) globexLogin.rememberMe acmeAttempt.2

/-- The login to the second tenant locks the account in the first. -/
theorem not_harmsNoOther :
    ¬∀ (ctx : AccountContext) (fresh : FreshLogin) (dto : LoginWithPasswordDto) (s : AccountStore)
      (served : String), HarmsNoOther ctx fresh dto s served := by
  intro h
  have hfirst : acmeAttempt.1 = .error InvalidCredentialsError := by decide +kernel
  have hsecond : globexAttempt.1.isOk = true := by decide +kernel
  have hstatus : (lockoutState globexAttempt.2.state sampleAccount).1.map Prod.fst =
      some UserStatus.LOCKED := by
    decide +kernel
  obtain ⟨result, hresult⟩ : ∃ result, globexAttempt.1 = .ok result := by
    rcases hrun : globexAttempt.1 with e | result
    · rw [hrun] at hsecond
      cases hsecond
    · exact ⟨result, rfl⟩
  have hreturns : LoginReturns acmeAccounts sampleFreshLogin globexLogin ⟨twoTenants, []⟩ "globex"
      result globexAttempt.2 :=
    ⟨_, _, rfl, .next (Faulty.run_eq hfirst) (.here (Faulty.run_eq hresult))⟩
  have hsame := h acmeAccounts sampleFreshLogin globexLogin twoTenants "globex" [] result
    globexAttempt.2 hreturns sampleAccount List.mem_cons_self (by decide)
  rw [hsame] at hstatus
  revert hstatus
  decide +kernel

end AuthApplicationService

end AccessService.Accounts
