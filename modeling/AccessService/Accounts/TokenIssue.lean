/-
  AccessService.Accounts.TokenIssue

  Who gets tokens: logins and verifications of the challenges they leave, in any order
  with the events and the lockouts that change the users' statuses.
-/

import AccessService.Accounts.Challenges

namespace AccessService.Accounts

open AccessService.Constants AccessService.Lib AccessService.Lib.Transition AccessService.Pg
open AccessService.Persistence
open AuthApplicationService

-- ============================================================================
-- Runs
-- ============================================================================

/-- An operation with what its calls run into, or time passes. -/
inductive AuthStep where
  | synchronizeEmployeeStatus (ctx : AccountContext) (fresh : FreshInvitation)
      (event : EmployeeEvent) (payload : EmployeeStatusPayload)
      (faults : List (Option AccountError))
  | handleFailure (ctx : AccountContext) (tenantCode : String) (userId : Uuid)
      (settings : Option AuthenticationSettings) (faults : List (Option AccountError))
  | loginWithPassword (ctx : AccountContext) (fresh : FreshLogin) (dto : LoginWithPasswordDto)
      (faults : List (Option AccountError))
  | loginWithFirebase (ctx : AccountContext) (fresh : FreshLogin)
      (decodedToken : DecodedFirebaseToken) (faults : List (Option AccountError))
  | verifyLoginChallenge (ctx : AccountContext) (sessionId userId : Uuid)
      (dto : VerifyChallengeDto) (faults : List (Option AccountError))
  | pass (time : Nat)

/-- What a run shows of a program that ends: its answer, if it has one, and the store. -/
def outcome {α : Type} (answer : α → Option LoginResult) :
    Except AccountError α × World AccountStore AccountError → Option LoginResult × AccountStore
  | (.ok a, w) => (answer a, w.state)
  | (.error _, w) => (none, w.state)

def AuthStep.perform (s : AccountStore) : AuthStep → Option LoginResult × AccountStore
  | .synchronizeEmployeeStatus ctx fresh event payload faults =>
    outcome (fun _ => none) (ProvisioningApplicationService.synchronizeEmployeeStatus ctx fresh
      event payload ⟨s, faults⟩)
  | .handleFailure ctx tenantCode userId settings faults =>
    outcome (fun _ => none) (LockoutService.handleFailure ctx tenantCode userId settings
      ⟨s, faults⟩)
  | .loginWithPassword ctx fresh dto faults =>
    outcome some (AuthApplicationService.loginWithPassword ctx fresh dto ⟨s, faults⟩)
  | .loginWithFirebase ctx fresh decodedToken faults =>
    outcome some (AuthApplicationService.loginWithFirebase ctx fresh decodedToken ⟨s, faults⟩)
  | .verifyLoginChallenge ctx sessionId userId dto faults =>
    outcome (fun tokens => some (.authenticated tokens))
      (MfaApplicationService.verifyLoginChallenge ctx sessionId userId dto ⟨s, faults⟩)
  | .pass time => (none, { s with now := s.now + time })

def AuthStep.isLogin : AuthStep → Bool
  | .loginWithPassword .. => true
  | .loginWithFirebase .. => true
  | _ => false

/-- A step that has been performed, and the store it was performed in. -/
structure AuthEvent where
  before : AccountStore
  step : AuthStep

def AuthEvent.answer (event : AuthEvent) : Option LoginResult :=
  (event.step.perform event.before).1

def AuthEvent.after (event : AuthEvent) : AccountStore := (event.step.perform event.before).2

/-- The store, and what has happened so far. -/
structure AuthRun where
  store : AccountStore
  history : List AuthEvent := []

def AuthRun.after (s : AuthRun) (step : AuthStep) : AuthRun where
  store := (step.perform s.store).2
  history := ⟨s.store, step⟩ :: s.history

/-- From a store without challenges, the operations in any order. -/
def authentications : System AuthRun AuthStep where
  init s := s.history = [] ∧ ∀ key, s.store.challenge key = none
  step s step := some (s.after step)

-- ============================================================================
-- What tokens are issued on
-- ============================================================================

/-- The event is a login in which an ACTIVE user, for whom MFA is required, has got the
    challenge. -/
structure FirstFactor (event : AuthEvent) (challenge : MfaChallengeData) : Prop where
  login : event.step.isLogin = true
  answer : event.answer = some (.mfaRequired challenge.challengeId)
  user : ∃ user ∈ event.before.db.users.rows, user.id = challenge.userId ∧
    user.tenantCode = challenge.tenantCode ∧ user.status = .ACTIVE ∧
    mfaRequiredIn event.before user = true
  stored : ∃ stored, event.after.challenge (challengeKeyOf challenge) = some stored ∧
    challenge.Continues stored

/-- The step verifies a live challenge that an earlier login has created for the user. -/
def SecondFactor (s : AuthRun) (user : UserRow) : AuthStep → Prop
  | .verifyLoginChallenge ctx _ userId dto _ =>
    ∃ challenge,
      s.store.challenge (challengeKey ctx.tenantCode userId dto.challengeId) = some challenge ∧
      challenge.userId = user.id ∧ challenge.tenantCode = user.tenantCode ∧
      challenge.challengeId = dto.challengeId ∧ ∃ event ∈ s.history, FirstFactor event challenge
  | _ => False

/-- The tokens are for an ACTIVE user, from a login without MFA or for a second factor. -/
structure Entitled (s : AuthRun) (step : AuthStep) (tokens : AuthTokens) (user : UserRow) :
    Prop where
  stored : user ∈ s.store.db.users.rows
  sub : user.id = tokens.sub
  tenant : user.tenantCode = tokens.tenantCode
  active : user.status = .ACTIVE
  factors : (step.isLogin = true ∧ mfaRequiredIn s.store user = false) ∨ SecondFactor s user step

/-- A user who presents the right code with a live challenge is ACTIVE. -/
def StillActive (s : AccountStore) : AuthStep → Prop
  | .verifyLoginChallenge ctx _ userId dto _ =>
    dto.code = "123456" →
      (s.challenge (challengeKey ctx.tenantCode userId dto.challengeId)).isSome = true →
      (UserRepository.userInTenant ctx s.db userId).all (·.status = .ACTIVE) = true
  | _ => True

-- ============================================================================
-- Every challenge comes from a login
-- ============================================================================

/-- The invariant: each live challenge is at its own key, and a login has created it. -/
def Accounted (s : AuthRun) : Prop :=
  ∀ key challenge, s.store.challenge key = some challenge →
    key = challengeKeyOf challenge ∧ ':' ∉ challenge.challengeId.toList ∧
      ∃ event ∈ s.history, FirstFactor event challenge

theorem FirstFactor.continues {event : AuthEvent} {challenge earlier : MfaChallengeData}
    (h : FirstFactor event earlier) (hsame : challenge.Continues earlier) :
    FirstFactor event challenge := by
  obtain ⟨stored, hstored, hcontinues⟩ := h.stored
  have hstored' : ∃ stored, event.after.challenge (challengeKeyOf challenge) = some stored ∧
      challenge.Continues stored := by
    refine ⟨stored, ?_, hsame.trans hcontinues⟩
    rw [hsame]
    exact hstored
  rw [hsame] at hstored' ⊢
  exact ⟨h.login, h.answer, h.user, hstored'⟩

theorem Accounted.inherits {s : AuthRun} {step : AuthStep} (hs : Accounted s)
    (h : Inherits s.store (step.perform s.store).2) : Accounted (s.after step) := by
  intro key challenge hthere
  rcases h key challenge hthere with hsame | ⟨hkey, key', earlier, hearlier, hcontinues⟩
  · obtain ⟨hkey, hcolon, event, hevent, hfirst⟩ := hs key challenge hsame
    exact ⟨hkey, hcolon, event, List.mem_cons_of_mem _ hevent, hfirst⟩
  · obtain ⟨-, hcolon, event, hevent, hfirst⟩ := hs key' earlier hearlier
    refine ⟨hkey, ?_, event, List.mem_cons_of_mem _ hevent, hfirst.continues hcontinues⟩
    rw [hcontinues]
    exact hcolon

/-- The challenge that a login has just created. -/
theorem firstFactor_of_answer {s : AccountStore} {step : AuthStep} {user : UserRow}
    {challenge : MfaChallengeData} (hlogin : step.isLogin = true)
    (hanswer : (step.perform s).1 = some (.mfaRequired challenge.challengeId))
    (hmem : user ∈ s.db.users.rows) (hactive : user.status = .ACTIVE)
    (hmfa : mfaRequiredIn s user = true) (huser : challenge.userId = user.id)
    (htenant : challenge.tenantCode = user.tenantCode)
    (hnow : (step.perform s).2.now = s.now)
    (hstored : (step.perform s).2.redis.mfaChallenges = s.redis.mfaChallenges.set
      (challengeKeyOf challenge) challenge (some (s.now + seconds mfaTtlSeconds))) :
    FirstFactor ⟨s, step⟩ challenge where
  login := hlogin
  answer := hanswer
  user := ⟨user, hmem, huser.symm, htenant.symm, hactive, hmfa⟩
  stored := by
    refine ⟨challenge, ?_, rfl⟩
    rw [AccountStore.challenge, AuthEvent.after, hstored, hnow]
    exact Expiring.get_set_ttl (by decide)

/-- A login keeps the invariant, and answers tokens only to the entitled. -/
theorem login_accounted {s : AuthRun} {step : AuthStep} {fresh : FreshLogin}
    {out : Except AccountError LoginResult × World AccountStore AccountError}
    (hlogin : step.isLogin = true) (hperform : step.perform s.store = outcome some out)
    (h : Answers fresh s.store out) (hs : Accounted s) :
    Accounted (s.after step) ∧ ∀ tokens,
      (step.perform s.store).1 = some (.authenticated tokens) → ∃ user, Entitled s step tokens user := by
  rcases out with ⟨e | result, w'⟩
  · rw [hperform]
    refine ⟨hs.inherits ?_, nofun⟩
    rw [hperform]
    exact OnlyLocks.inherits h
  · change LoginAnswer fresh s.store w'.state result at h
    cases h with
    | authenticated hmem hactive hmfa hlocks =>
      refine ⟨hs.inherits ?_, fun tokens htokens => ?_⟩
      · rw [hperform]
        exact hlocks.inherits
      · rw [hperform] at htokens
        obtain rfl := LoginResult.authenticated.inj (Option.some.inj htokens)
        exact ⟨_, hmem, rfl, rfl, hactive, .inl ⟨hlogin, hmfa⟩⟩
    | mfaRequired hmem hactive hmfa huser htenant hid hnow hstored =>
      rename_i user challenge
      refine ⟨fun key other hthere => ?_, fun tokens htokens => ?_⟩
      · have hafter : (step.perform s.store).2 = w'.state := by
          rw [hperform]
          rfl
        have hfirst : FirstFactor ⟨s.store, step⟩ challenge := by
          refine firstFactor_of_answer hlogin ?_ hmem hactive hmfa huser htenant ?_ ?_
          · rw [hperform, hid]
            rfl
          · rw [hafter, hnow]
          · rw [hafter, hstored]
        unfold AuthRun.after at hthere ⊢
        rw [hafter, AccountStore.challenge, hnow, hstored, Expiring.get_set] at hthere
        split at hthere
        next hkey =>
          split at hthere
          · obtain rfl := Option.some.inj hthere
            exact ⟨hkey, hid ▸ Uuid.colon_notMem _, _, List.mem_cons_self, hfirst⟩
          · cases hthere
        · obtain ⟨hkey, hcolon, event, hevent, hearlier⟩ := hs key other hthere
          exact ⟨hkey, hcolon, event, List.mem_cons_of_mem _ hevent, hearlier⟩
      · rw [hperform] at htokens
        cases Option.some.inj htokens

/-- What a verification that answers has looked at. -/
theorem verify_entitled {s : AuthRun} {ctx : AccountContext} {sessionId userId : Uuid}
    {dto : VerifyChallengeDto} {faults : List (Option AccountError)} {tokens : AuthTokens}
    {user : UserRow} {challenge : MfaChallengeData} (hs : Accounted s)
    (hguard : StillActive s.store (.verifyLoginChallenge ctx sessionId userId dto faults))
    (huser : UserRepository.userInTenant ctx s.store.db userId = some user)
    (hcode : dto.code = "123456")
    (hthere : s.store.challenge (challengeKey ctx.tenantCode userId dto.challengeId) =
      some challenge)
    (htokens : tokens = ⟨user.id, sessionId.text, user.tenantCode⟩) :
    Entitled s (.verifyLoginChallenge ctx sessionId userId dto faults) tokens user := by
  obtain ⟨hmem, htenant, hid⟩ := userInTenant_eq_some.mp huser
  obtain ⟨hkey, hcolon, event, hevent, hfirst⟩ := hs _ challenge hthere
  obtain ⟨hsameTenant, hsameUser, hsameId⟩ := GenerateAuthMfaChallengeKey_inj
    userId.colon_notMem challenge.userId.colon_notMem dto.colon_notMem hcolon hkey
  have hactive := hguard hcode (by rw [hthere]; rfl)
  rw [huser, Option.all_some, decide_eq_true_eq] at hactive
  subst htokens
  refine ⟨hmem, rfl, rfl, hactive, .inr ⟨challenge, hthere, ?_, ?_, ?_, event, hevent, hfirst⟩⟩
  · rw [hid, Uuid.ext hsameUser]
  · rw [htenant, hsameTenant]
  · exact hsameId.symm

/-- The step lemma: the invariant is kept, and who gets tokens is entitled to them. -/
theorem AuthRun.after_accounted {s : AuthRun} {step : AuthStep} (hs : Accounted s)
    (hguard : StillActive s.store step) :
    Accounted (s.after step) ∧ ∀ tokens, (step.perform s.store).1 =
      some (.authenticated tokens) → ∃ user, Entitled s step tokens user := by
  have hquiet : ∀ {α : Type} (x : AccountService α) (faults : List (Option AccountError)),
      step.perform s.store = outcome (fun _ => none) (x ⟨s.store, faults⟩) →
      Inherits s.store (x ⟨s.store, faults⟩).2.state →
      Accounted (s.after step) ∧ ∀ tokens, (step.perform s.store).1 =
        some (.authenticated tokens) → ∃ user, Entitled s step tokens user := by
    intro α x faults hperform hinherits
    rcases hrun : x ⟨s.store, faults⟩ with ⟨e | a, w'⟩
    · rw [hrun] at hperform hinherits
      rw [hperform]
      exact ⟨hs.inherits (by rw [hperform]; exact hinherits), nofun⟩
    · rw [hrun] at hperform hinherits
      rw [hperform]
      exact ⟨hs.inherits (by rw [hperform]; exact hinherits), nofun⟩
  cases step with
  | synchronizeEmployeeStatus ctx fresh event payload faults =>
    exact hquiet _ faults rfl (.of_policy
      (ProvisioningApplicationService.synchronizeEmployeeStatus_policy _) (.refl _))
  | handleFailure ctx tenantCode userId settings faults =>
    exact hquiet _ faults rfl (.of_policy (handleFailure_policy _) (.refl _))
  | loginWithPassword ctx fresh dto faults =>
    exact login_accounted rfl rfl loginWithPassword_answers hs
  | loginWithFirebase ctx fresh decodedToken faults =>
    exact login_accounted rfl rfl loginWithFirebase_answers hs
  | verifyLoginChallenge ctx sessionId userId dto faults =>
    rcases hrun : MfaApplicationService.verifyLoginChallenge ctx sessionId userId dto
      ⟨s.store, faults⟩ with ⟨r, w'⟩
    obtain ⟨hinherits, htokens⟩ := MfaApplicationService.verifyLoginChallenge_run hrun
    have hperform : (AuthStep.verifyLoginChallenge ctx sessionId userId dto faults).perform
        s.store = outcome (fun tokens => some (.authenticated tokens)) (r, w') := by
      rw [AuthStep.perform, hrun]
    rw [hperform]
    rcases r with e | answered
    · exact ⟨hs.inherits (by rw [hperform]; exact hinherits), nofun⟩
    · refine ⟨hs.inherits (by rw [hperform]; exact hinherits), fun tokens hanswer => ?_⟩
      obtain rfl := LoginResult.authenticated.inj (Option.some.inj hanswer)
      obtain ⟨user, challenge, huser, hcode, hthere, heq⟩ := htokens answered rfl
      exact ⟨user, verify_entitled hs hguard huser hcode hthere heq⟩
  | pass time => exact ⟨hs.inherits (inherits_later s.store time), nofun⟩

/-- In every run in which each user who presents the right code with a live challenge is
    ACTIVE, tokens are for ACTIVE users only, and a second factor stands on a first. -/
theorem tokens_for_the_entitled {start : AuthRun} {steps : List AuthStep}
    (hstart : authentications.init start)
    (hguard : authentications.Along (fun s step _ => StillActive s.store step) start steps) :
    authentications.Along (fun s step _ => ∀ tokens, (step.perform s.store).1 =
      some (.authenticated tokens) → ∃ user, Entitled s step tokens user) start steps := by
  have hinit : Accounted start := by
    intro key challenge hthere
    rw [hstart.2 key] at hthere
    cases hthere
  refine System.Along.imp ?_ ?_ hinit hguard
  · intro s step t hs hstep hactive
    exact (AuthRun.after_accounted hs hactive).2
  · intro s step t hs hstep hactive
    obtain rfl := Option.some.inj hstep
    exact (AuthRun.after_accounted hs hactive).1

-- ============================================================================
-- A login with a second factor, and a suspension between the two
-- ============================================================================

def samplePassword : Credential where
  id := sampleGroupId
  tenantCode := "acme"
  userId := sampleUserId
  passwordHash := "correct horse"
  algorithm := "bcrypt"
  status := .ACTIVE

def sampleFactor : MfaMethod where
  id := sampleRoleId
  tenantCode := "acme"
  userId := sampleUserId
  status := .ACTIVE
  isPrimary := true

def enrolledStore : AccountStore where
  db := { sampleAccountStore.db with
    credentials := ⟨[samplePassword], List.nodup_singleton sampleGroupId⟩
    mfaMethods := ⟨[sampleFactor], List.nodup_singleton sampleRoleId⟩ }

def sampleFreshLogin : FreshLogin := ⟨sampleEmployeeId, sampleGroupId⟩

def firstFactorSample : AuthStep :=
  .loginWithPassword acmeAccounts sampleFreshLogin ⟨"kim@acme.test", "correct horse", false⟩ []

def suspensionSample : AuthStep :=
  .synchronizeEmployeeStatus acmeAccounts ⟨sampleRoleId, "7d793037a0760186574b0282f2f435e7"⟩
    .EMPLOYEE_SUSPENDED ⟨sampleEmployeeId, ⟨1, Js.SafeInteger.one_isSafe⟩⟩ []

def secondFactorSample : AuthStep :=
  .verifyLoginChallenge acmeAccounts sampleRoleId sampleUserId
    ⟨sampleGroupId.text, "123456", by decide +kernel⟩ []

def sampleTokens : AuthTokens := ⟨sampleUserId, sampleRoleId.text, "acme"⟩

/-- Once the password has been given. -/
def challengedRun : AuthRun := AuthRun.after { store := enrolledStore } firstFactorSample

theorem tokens_for_the_entitled_sample :
    (secondFactorSample.perform challengedRun.store).1 = some (.authenticated sampleTokens) ∧
      ∃ user, Entitled challengedRun secondFactorSample sampleTokens user := by
  have hanswer : (secondFactorSample.perform challengedRun.store).1 =
      some (.authenticated sampleTokens) := by
    decide +kernel
  have hactive : (UserRepository.userInTenant acmeAccounts challengedRun.store.db
      sampleUserId).all (·.status = .ACTIVE) = true := by
    decide +kernel
  have hguard : authentications.Along (fun s step _ => StillActive s.store step)
      { store := enrolledStore } [firstFactorSample, secondFactorSample] := by
    intro t ht
    obtain rfl := Option.some.inj ht
    exact ⟨trivial, fun _ _ => ⟨fun _ _ => hactive, trivial⟩⟩
  have halong := tokens_for_the_entitled ⟨rfl, fun _ => rfl⟩ hguard
  exact ⟨hanswer, ((halong challengedRun rfl).2 _ rfl).1 _ hanswer⟩

/-- The tokens are for a user who is DISABLED by then. -/
theorem not_tokens_for_the_entitled :
    ¬∀ (start : AuthRun) (steps : List AuthStep), authentications.init start →
      authentications.Along (fun s step _ => ∀ tokens, (step.perform s.store).1 =
        some (.authenticated tokens) → ∃ user, Entitled s step tokens user) start steps := by
  intro h
  have halong := h { store := enrolledStore }
    [firstFactorSample, suspensionSample, secondFactorSample] ⟨rfl, fun _ => rfl⟩
  have hthird := (((halong _ rfl).2 _ rfl).2 _ rfl).1 sampleTokens
  have hanswer : (secondFactorSample.perform
      (challengedRun.after suspensionSample).store).1 =
      some (.authenticated sampleTokens) := by
    decide +kernel
  obtain ⟨user, hentitled⟩ := hthird hanswer
  have hnone : (challengedRun.after suspensionSample).store.db.users.rows.all
      (·.status = .DISABLED) = true := by
    decide +kernel
  have hdisabled := of_decide_eq_true (List.all_eq_true.mp hnone user hentitled.stored)
  rw [hentitled.active] at hdisabled
  cases hdisabled

end AccessService.Accounts
