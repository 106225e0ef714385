/-
  AccessService.Accounts.UniformDenials

  What a caller sees of a login that is denied, with all stores available: where accounts
  with the e-mail address exist, the error of the last tenant; where none exists, nothing
  has been caught, and `undefined` is thrown.
-/

import AccessService.Accounts.TenantLogins

namespace AccessService.Accounts

open AccessService.Lib AccessService.Pg AccessService.Persistence

variable {ctx : AccountContext} {user : UserRow} {s : AccountStore}

-- ============================================================================
-- Counting a failure
-- ============================================================================

/-- The next security version is an INTEGER. -/
def UserRow.canBeLocked (user : UserRow) : Bool :=
  decide (LockoutService.nextSecurityVersion user < 2 ^ 31)

theorem ofInt?_nextSecurityVersion (h : user.canBeLocked = true) :
    ∃ version, SecurityVersion.ofInt? (LockoutService.nextSecurityVersion user) = some version := by
  refine ⟨_, dif_pos ⟨?_, of_decide_eq_true h⟩⟩
  have hpositive := user.securityVersion.positive
  unfold LockoutService.nextSecurityVersion
  split <;> omega

theorem writeDb_calm {f : AccountDatabase → Option AccountDatabase} {db : AccountDatabase}
    (h : f s.db = some db) : writeDb f (.calm s) = (.ok (), .calm { s with db := db }) := by
  unfold writeDb
  rw [Faulty.call_calm, h]

theorem readDb_bind_calm {α β : Type} {f : AccountDatabase → α} {k : α → AccountService β} :
    (readDb f >>= k) (.calm s) = k (f s.db) (.calm s) :=
  rfl

namespace LockoutService

variable {tenantCode : String} {settings : Option AuthenticationSettings}

theorem update_completes (hmem : user ∈ s.db.users.rows) (h : user.canBeLocked = true) :
    ∃ s', UserRepository.update user.id
      { status := some .LOCKED, securityVersion := nextSecurityVersion user } (.calm s) =
        (.ok (), .calm s') := by
  obtain ⟨version, hversion⟩ := ofInt?_nextSecurityVersion h
  have hfind : s.db.users.rows.find? (fun row => row.id = user.id) = some user :=
    userWithId_eq_some.mpr ⟨hmem, rfl⟩
  have hrow : ∃ users, updateRow (fun _ _ => false) s.db.users user.id
      (UserUpdate.apply { status := some .LOCKED, securityVersion := nextSecurityVersion user }) =
        some users := by
    unfold updateRow
    rw [hfind]
    simp only [UserUpdate.apply, hversion, Option.map_some, Option.bind_some, replaceRow]
    rw [if_neg (by simp)]
    exact ⟨_, rfl⟩
  obtain ⟨users, husers⟩ := hrow
  unfold UserRepository.update UserRepository.overwrite
  refine ⟨_, writeDb_calm (Option.map_eq_some_iff.mpr ⟨users, husers, rfl⟩)⟩

theorem lockUnlessLocked_completes (hclient : ctx.redisClient = true)
    (hmem : user ∈ s.db.users.rows) (h : user.canBeLocked = true) :
    ∃ b s', lockUnlessLocked ctx tenantCode user.id (.calm s) = (.ok b, .calm s') := by
  have hfind : UserRepository.userWithId s.db user.id = some user :=
    userWithId_eq_some.mpr ⟨hmem, rfl⟩
  simp only [lockUnlessLocked, runInTransaction_ok, UserRepository.findByIdWithLock,
    readDb_bind_calm, hfind]
  split
  · exact ⟨false, s, rfl⟩
  · obtain ⟨s₁, hupdate⟩ := update_completes hmem h
    obtain ⟨u, s₂, hreset⟩ : ∃ u s₂, resetFailureCount ctx tenantCode user.id (.calm s₁) =
        (.ok u, .calm s₂) :=
      AuthApplicationService.resetFailureCount_completes hclient s₁
    refine ⟨true, s₂, ?_⟩
    rw [lockUser, Faulty.bind_runs hupdate, Faulty.bind_runs hreset]
    rfl

theorem handleFailure_completes (hclient : ctx.redisClient = true)
    (hmem : user ∈ s.db.users.rows) (h : user.canBeLocked = true) :
    ∃ b s', handleFailure ctx tenantCode user.id settings (.calm s) = (.ok b, .calm s') := by
  unfold handleFailure
  split
  · exact ⟨false, s, rfl⟩
  · split
    · exact ⟨false, s, rfl⟩
    · obtain ⟨count, s₁, hcount⟩ : ∃ count s₁,
          incrementFailureCount ctx tenantCode user.id (.calm s) = (.ok count, .calm s₁) := by
        unfold incrementFailureCount withAdapter
        rw [if_pos hclient]
        exact ⟨_, _, rfl⟩
      have husers : usersOf s₁ = usersOf s := incrementFailureCount_users.ok hcount
      rw [countFailure, Faulty.bind_runs hcount]
      split
      · refine lockUnlessLocked_completes hclient ?_ h
        rwa [show s₁.db.users = s.db.users from husers]
      · exact ⟨false, s₁, rfl⟩

end LockoutService

-- ============================================================================
-- Denied attempts
-- ============================================================================

namespace AuthApplicationService

variable {fresh : FreshLogin} {dto : LoginWithPasswordDto} {tenantCode : String}
  {tenantCodes : List String} {settings : Option AuthenticationSettings}

theorem denyPassword_throws (hclient : ctx.redisClient = true) (hmem : user ∈ s.db.users.rows)
    (h : user.canBeLocked = true) :
    ∃ s', denyPassword ctx user settings (.calm s) = (.error InvalidCredentialsError, .calm s') := by
  obtain ⟨locked, s₁, hfailure⟩ : ∃ locked s₁, LockoutService.handleFailure ctx user.tenantCode
      user.id settings (.calm s) = (.ok locked, .calm s₁) :=
    LockoutService.handleFailure_completes hclient hmem h
  unfold denyPassword
  rw [Faulty.bind_runs hfailure]
  cases locked with
  | false => exact ⟨_, rfl⟩
  | true => exact ⟨_, rfl⟩

/-- The ACTIVE account in the tenant has another password, and can still be locked. -/
def Mistaken (ctx : AccountContext) (dto : LoginWithPasswordDto) (s : AccountStore)
    (tenantCode : String) : Prop :=
  ∃ user, candidate ctx s tenantCode dto.email = some user ∧ user.canBeLocked = true ∧
    knowsPassword ctx s dto.password user = false

theorem mistaken_of_others {s' : AccountStore} {other : String} (hother : other ≠ tenantCode)
    (h : othersOf tenantCode s' = othersOf tenantCode s) (hmistaken : Mistaken ctx dto s other) :
    Mistaken ctx dto s' other := by
  obtain ⟨user, hcandidate, hlockable, hdenies⟩ := hmistaken
  obtain ⟨hadmits, hexists, huser, hactive⟩ := candidate_eq_some.mp hcandidate
  obtain ⟨hsettings, hknows, htenants⟩ := policy_of_others h
  refine ⟨user, candidate_eq_some.mpr ⟨?_, ?_, ?_, hactive⟩, hlockable, ?_⟩
  · rwa [hsettings]
  · rwa [htenants]
  · rwa [userOf_of_others hother h]
  · rwa [hknows]

theorem processLogin_denies (hclient : ctx.redisClient = true) (hpassword : dto.password ≠ "")
    (h : Mistaken ctx dto s tenantCode) :
    ∃ s', processLogin ctx fresh tenantCode dto.email (some dto.password) dto.rememberMe
      (.calm s) = (.error InvalidCredentialsError, .calm s') := by
  obtain ⟨user, hcandidate, hlockable, hdenies⟩ := h
  obtain ⟨-, -, huser, -⟩ := candidate_eq_some.mp hcandidate
  have hcalm : ∀ i, ¬Faulty.ThrowsAt (.calm s : World AccountStore AccountError) i :=
    fun i ⟨_, he⟩ => by cases he
  obtain ⟨s', hthrows⟩ : ∃ s', denyPassword ctx user (settingsOf s tenantCode) (.calm s) =
      (.error InvalidCredentialsError, .calm s') :=
    denyPassword_throws hclient (List.mem_of_find?_eq_some huser) hlockable
  have hcheck : checkPassword ctx user (some dto.password) (settingsOf s tenantCode) (.calm s) =
      (.error InvalidCredentialsError, .calm s') := by
    simp only [checkPassword, if_neg hpassword, verifyUserPassword,
      CredentialRepository.findActiveByUseUnscope, readDb_bind_calm]
    rw [if_neg (by rw [Bool.not_eq_true]; exact hdenies)]
    exact hthrows
  refine ⟨s', (processLogin_candidate hcandidate fun i _ => hcalm i).trans ?_⟩
  exact Faulty.bind_throws hcheck

/-- Induction on the tenants: an attempt leaves the accounts of the others. -/
theorem tryTenants_denies {err : AccountError} (hclient : ctx.redisClient = true)
    (hpassword : dto.password ≠ "") (hnodup : tenantCodes.Nodup)
    (hmistaken : ∀ tenantCode ∈ tenantCodes, Mistaken ctx dto s tenantCode)
    (hsome : tenantCodes ≠ [] ∨ err = InvalidCredentialsError) :
    (tryTenants ctx fresh dto err tenantCodes (.calm s)).1 = .error InvalidCredentialsError := by
  induction tenantCodes generalizing err s with
  | nil => exact congrArg _ (hsome.resolve_left (fun hne => hne rfl))
  | cons tenantCode tenantCodes ih =>
    obtain ⟨hfresh, hrest⟩ := List.nodup_cons.mp hnodup
    obtain ⟨s₁, hthrows⟩ : ∃ s₁, processLogin ctx fresh tenantCode dto.email (some dto.password)
        dto.rememberMe (.calm s) = (.error InvalidCredentialsError, .calm s₁) :=
      processLogin_denies hclient hpassword (hmistaken tenantCode List.mem_cons_self)
    unfold tryTenants Faulty.tryCatch
    rw [hthrows]
    refine ih hrest (fun other hother => ?_) (.inr rfl)
    refine mistaken_of_others ?_ (processLogin_others hthrows)
      (hmistaken other (List.mem_cons_of_mem _ hother))
    rintro rfl
    exact hfresh hother

-- ============================================================================
-- Denied logins
-- ============================================================================

/-- No tenant has an account with the e-mail address. -/
def Unknown (s : AccountStore) (email : String) : Prop :=
  ∀ user ∈ s.db.users.rows, user.normalizedEmail ≠ UserRepository.normalizeEmail email

/-- Some tenant has one, and wherever there is one it is ACTIVE, in a tenant that is there
    and lets the address in, and has another password. -/
structure KnownElsewise (ctx : AccountContext) (dto : LoginWithPasswordDto) (s : AccountStore) :
    Prop where
  known : ∃ user ∈ s.db.users.rows,
    user.normalizedEmail = UserRepository.normalizeEmail dto.email
  denied : ∀ user ∈ s.db.users.rows,
    user.normalizedEmail = UserRepository.normalizeEmail dto.email →
      user.status = .ACTIVE ∧ user.tenantCode ∈ s.db.tenants ∧
        ctx.admits ctx.sourceIp (settingsOf s user.tenantCode) = true ∧
          knowsPassword ctx s dto.password user = false

/-- With all stores available, both logins throw the error for wrong credentials. -/
def SameAnswer (ctx : AccountContext) (fresh : FreshLogin) (dto : LoginWithPasswordDto)
    (first second : AccountStore) : Prop :=
  (loginWithPassword ctx fresh dto (.calm first)).1 = .error InvalidCredentialsError ∧
    (loginWithPassword ctx fresh dto (.calm second)).1 = .error InvalidCredentialsError

theorem loginWithPassword_calm : loginWithPassword ctx fresh dto (.calm s) =
    tryTenants ctx fresh dto undefinedError (tenantCodesOf s dto.email) (.calm s) :=
  rfl

/-- The loop over no tenant has caught nothing. -/
theorem loginWithPassword_unknown (h : Unknown s dto.email) :
    (loginWithPassword ctx fresh dto (.calm s)).1 = .error undefinedError := by
  have hnone : tenantCodesOf s dto.email = [] := by
    rw [tenantCodesOf, List.filter_eq_nil_iff.mpr, List.map_nil]
    intro user hmem
    rw [decide_eq_true_eq]
    exact h user hmem
  rw [loginWithPassword_calm, hnone]
  rfl

/-- As long as no security version overflows, and an e-mail address is unique in a tenant. -/
theorem loginWithPassword_known (hclient : ctx.redisClient = true) (hpassword : dto.password ≠ "")
    (hunique : (tenantCodesOf s dto.email).Nodup)
    (hlockable : ∀ user ∈ s.db.users.rows, user.canBeLocked = true)
    (h : KnownElsewise ctx dto s) :
    (loginWithPassword ctx fresh dto (.calm s)).1 = .error InvalidCredentialsError := by
  rw [loginWithPassword_calm]
  refine tryTenants_denies hclient hpassword hunique (fun tenantCode hmem => ?_) (.inl ?_)
  · obtain ⟨user₀, hmem₀, rfl⟩ := List.mem_map.mp hmem
    obtain ⟨hrow₀, hemail₀⟩ := List.mem_filter.mp hmem₀
    have hsome : (userOf s user₀.tenantCode dto.email).isSome = true := by
      refine List.find?_isSome.mpr ⟨user₀, hrow₀, ?_⟩
      rw [decide_eq_true rfl, Bool.true_and]
      exact hemail₀
    obtain ⟨user, huser⟩ := Option.isSome_iff_exists.mp hsome
    have hrow := List.mem_of_find?_eq_some huser
    have hkeys := List.find?_some huser
    rw [Bool.and_eq_true, decide_eq_true_eq, decide_eq_true_eq] at hkeys
    obtain ⟨hactive, hexists, hadmits, hdenies⟩ := h.denied user hrow hkeys.2
    rw [hkeys.1] at hexists hadmits
    exact ⟨user, candidate_eq_some.mpr ⟨hadmits, hexists, huser, hactive⟩, hlockable user hrow,
      hdenies⟩
  · obtain ⟨user, hrow, hemail⟩ := h.known
    exact List.ne_nil_of_mem
      (List.mem_map_of_mem (List.mem_filter.mpr ⟨hrow, decide_eq_true hemail⟩))

/-- An unknown e-mail address is never answered as a known one is. -/
theorem not_sameAnswer {first second : AccountStore} (h : Unknown first dto.email) :
    ¬SameAnswer ctx fresh dto first second := by
  rintro ⟨hfirst, -⟩
  rw [loginWithPassword_unknown h] at hfirst
  exact absurd (Except.error.inj hfirst) (by decide)

-- ============================================================================
-- One unknown and one known e-mail address
-- ============================================================================

def mistypedLogin : LoginWithPasswordDto := ⟨"kim@acme.test", "correct hose", false⟩

def nobodyStore : AccountStore where
  db := { users := .empty, employees := .empty, tenants := ["acme"] }

theorem not_sameAnswer_mistyped :
    ¬SameAnswer acmeAccounts sampleFreshLogin mistypedLogin nobodyStore twoTenants :=
  not_sameAnswer fun _ hmem => absurd hmem List.not_mem_nil

theorem twoTenants_known : KnownElsewise acmeAccounts mistypedLogin twoTenants where
  known := ⟨sampleAccount, List.mem_cons_self, by decide +kernel⟩
  denied := by
    decide +kernel

/-- The caller can tell that the account in the second store exists. -/
theorem not_same_failures :
    ¬∀ (ctx : AccountContext) (fresh : FreshLogin) (dto : LoginWithPasswordDto)
      (first second : AccountStore), ctx.redisClient = true → Unknown first dto.email →
        KnownElsewise ctx dto second → SameAnswer ctx fresh dto first second := by
  intro h
  have hsame := h acmeAccounts sampleFreshLogin mistypedLogin nobodyStore twoTenants rfl
    (fun _ hmem => absurd hmem List.not_mem_nil) twoTenants_known
  have hthrows : (loginWithPassword acmeAccounts sampleFreshLogin mistypedLogin
      (.calm nobodyStore)).1 = .error undefinedError :=
    loginWithPassword_unknown fun _ hmem => absurd hmem List.not_mem_nil
  rw [SameAnswer, hthrows] at hsame
  exact absurd (Except.error.inj hsame.1) (by decide)

end AuthApplicationService

end AccessService.Accounts
