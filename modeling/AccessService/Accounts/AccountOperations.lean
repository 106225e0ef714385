/-
  AccessService.Accounts.AccountOperations

  The operations that write to a user's account, run one at a time: which row of the users
  a run rewrites, on what condition, and with what update.
-/

import AccessService.Accounts.AccountEffects
import AccessService.Lib.Transition

namespace AccessService.Accounts

open AccessService.Lib AccessService.Lib.Transition AccessService.Pg AccessService.Persistence

-- ============================================================================
-- Operations
-- ============================================================================

inductive AccountOperation where
  | synchronizeEmployeeStatus (fresh : FreshInvitation) (event : EmployeeEvent)
      (payload : EmployeeStatusPayload)
  | acceptInvitation (fresh : FreshCredential) (token : String)
  | resendInvitation (fresh : FreshInvitation) (targetUserId : Uuid)
  | confirmPasswordReset (fresh : FreshCredential) (dto : ConfirmPasswordReset)
  | setupPasswordViaSsoFallback (fresh : FreshCredential) (userId : Uuid)
  | handleFailure (tenantCode : String) (userId : Uuid)
      (settings : Option AuthenticationSettings)
  | revokeAllUserSessions (tenantCode : String) (targetUserId : Uuid)
  | resetUserMfa (targetUserId : Uuid)

/-- What a caller gets, where it is a Boolean; else `true` for a return. -/
def AccountOperation.run (ctx : AccountContext) : AccountOperation → AccountService Bool
  | .synchronizeEmployeeStatus fresh event payload =>
    ProvisioningApplicationService.synchronizeEmployeeStatus ctx fresh event payload
  | .acceptInvitation fresh token => do
    let _ ← InvitationApplicationService.acceptInvitation ctx fresh token
    pure true
  | .resendInvitation fresh targetUserId => do
    let _ ← InvitationApplicationService.resendInvitation ctx fresh targetUserId
    pure true
  | .confirmPasswordReset fresh dto => do
    PasswordService.confirmPasswordReset ctx fresh dto
    pure true
  | .setupPasswordViaSsoFallback fresh userId => do
    PasswordService.setupPasswordViaSsoFallback ctx fresh userId
    pure true
  | .handleFailure tenantCode userId settings =>
    LockoutService.handleFailure ctx tenantCode userId settings
  | .revokeAllUserSessions tenantCode targetUserId => do
    let _ ← SessionService.revokeAllUserSessions ctx tenantCode targetUserId
    pure true
  | .resetUserMfa targetUserId => do
    let _ ← MfaAdminApplicationService.resetUserMfa ctx targetUserId
    pure true

/-- The status an event gives the user. -/
def EmployeeEvent.userStatus : EmployeeEvent → Option UserStatus
  | .EMPLOYEE_SUSPENDED => some .DISABLED
  | .EMPLOYEE_TERMINATED => some .ARCHIVED
  | .EMPLOYEE_REACTIVATED => some .INACTIVE
  | .other => none

def EmployeeEvent.update (event : EmployeeEvent) (user : UserRow) : UserUpdate where
  status := event.userStatus
  securityVersion := user.securityVersion.val

/-- The user whom an event is applied to: the event is new to the employee, and the
    employee has a user. -/
def appliesTo (ctx : AccountContext) (db : AccountDatabase) (event : EmployeeEvent)
    (payload : EmployeeStatusPayload) : Option UserRow :=
  if event = .other then none
  else
    (EmployeeReferenceRepository.employeeInTenant ctx db payload.id).bind fun employee =>
      if employee.isStale payload.sourceVersion then none
      else UserRepository.userOfEmployee ctx db employee.id

/-- The user whose account a run that returned has changed. -/
def AccountOperation.changed (ctx : AccountContext) (s : AccountStore) (returned : Bool) :
    AccountOperation → Option Uuid
  | .synchronizeEmployeeStatus _ event payload => (appliesTo ctx s.db event payload).map (·.id)
  | .acceptInvitation _ token =>
    (InvitationRepository.invitationWithToken s.db (ctx.hashToken token)).map (·.userId)
  | .resendInvitation _ _ => none
  | .confirmPasswordReset _ dto => some dto.userId
  | .setupPasswordViaSsoFallback _ userId => some userId
  | .handleFailure _ userId _ => if returned then some userId else none
  | .revokeAllUserSessions _ targetUserId => some targetUserId
  | .resetUserMfa targetUserId => some targetUserId

/-- The invitation of a token is there and open. -/
def LiveInvitation (ctx : AccountContext) (s : AccountStore) (token : String) (userId : Uuid) :
    Prop :=
  ∃ invitation, InvitationRepository.invitationWithToken s.db (ctx.hashToken token) =
    some invitation ∧ invitation.isExpired s.now = false ∧ invitation.userId = userId

/-- An operation's update of a user, with the conditions it is made on. -/
inductive UserChange (ctx : AccountContext) (s : AccountStore) :
    AccountOperation → UserRow → UserUpdate → Prop where
  | synchronized {fresh event payload user}
      (happlies : appliesTo ctx s.db event payload = some user) :
      UserChange ctx s (.synchronizeEmployeeStatus fresh event payload) user (event.update user)
  | accepted {fresh token user} (hlive : LiveInvitation ctx s token user.id)
      (hclient : ctx.redisClient = true) :
      UserChange ctx s (.acceptInvitation fresh token) user (activated user)
  | reset {fresh dto user} (huser : user.id = dto.userId) :
      UserChange ctx s (.confirmPasswordReset fresh dto) user
        { securityVersion := user.securityVersion.val }
  | setUp {fresh userId user} (huser : user.id = userId)
      (htenant : user.tenantCode = ctx.tenantCode)
      (hnone : CredentialRepository.activeCredential s.db userId = none) :
      UserChange ctx s (.setupPasswordViaSsoFallback fresh userId) user (activated user)
  | locked {tenantCode userId settings user} (huser : user.id = userId)
      (hstatus : user.status ≠ .LOCKED) :
      UserChange ctx s (.handleFailure tenantCode userId settings) user
        { status := some .LOCKED, securityVersion := LockoutService.nextSecurityVersion user }
  | forcedOut {tenantCode targetUserId user}
      (hactive : SessionService.isActiveUser tenantCode targetUserId user = true) :
      UserChange ctx s (.revokeAllUserSessions tenantCode targetUserId) user
        { securityVersion := user.securityVersion.val + 1 }
  | factorsReset {targetUserId user} (huser : user.id = targetUserId)
      (htenant : user.tenantCode = ctx.tenantCode) :
      UserChange ctx s (.resetUserMfa targetUserId) user
        { securityVersion := user.securityVersion.val + 1 }

-- ============================================================================
-- Steps
-- ============================================================================

/-- An operation runs, with what its calls run into, or time passes. -/
inductive AccountStep where
  | call (ctx : AccountContext) (op : AccountOperation) (faults : List (Option AccountError))
  | pass (time : Nat)

def AccountStep.after (s : AccountStore) : AccountStep → AccountStore
  | .call ctx op faults => (op.run ctx ⟨s, faults⟩).2.state
  | .pass time => { s with now := s.now + time }

variable {w w' : World AccountStore AccountError} {ctx : AccountContext} {user : UserRow}

-- ============================================================================
-- provisioning.application.service.ts
-- ============================================================================

namespace ProvisioningApplicationService

variable {fresh : FreshInvitation} {event : EmployeeEvent} {payload : EmployeeStatusPayload}
  {employee : EmployeeRow} {sourceVersion : String} {b : Bool}

theorem suspendUserAndEmployee_ok (hmem : user ∈ w.state.db.users.rows)
    (h : suspendUserAndEmployee ctx user employee sourceVersion w = (.ok b, w')) :
    Rewrites w.state w'.state user (EmployeeEvent.update .EMPLOYEE_SUSPENDED user) := by
  refine rewrites_of_bind hmem (fun _ => ?_) h
  refine EmployeeReferenceRepository.update_users.bind fun _ => log_users.bind fun _ => ?_
  exact revokeAllSessions_users.bind fun _ => Faulty.leaves_pure _

theorem terminateUserAndEmployee_ok (hmem : user ∈ w.state.db.users.rows)
    (h : terminateUserAndEmployee ctx user employee sourceVersion w = (.ok b, w')) :
    Rewrites w.state w'.state user (EmployeeEvent.update .EMPLOYEE_TERMINATED user) := by
  refine rewrites_of_bind hmem (fun _ => ?_) h
  refine EmployeeReferenceRepository.update_users.bind fun _ => ?_
  refine revokePendingInvitations_users.bind fun _ => log_users.bind fun _ => ?_
  exact revokeAllSessions_users.bind fun _ => Faulty.leaves_pure _

theorem reactivateUserAndEmployee_ok (hmem : user ∈ w.state.db.users.rows)
    (h : reactivateUserAndEmployee ctx fresh user employee sourceVersion w = (.ok b, w')) :
    Rewrites w.state w'.state user (EmployeeEvent.update .EMPLOYEE_REACTIVATED user) := by
  refine rewrites_of_bind hmem (fun _ => ?_) h
  refine EmployeeReferenceRepository.update_users.bind fun _ => ?_
  refine revokePendingInvitations_users.bind fun _ => clock_users.bind fun _ => ?_
  refine InvitationRepository.create_users.bind fun _ => log_users.bind fun _ => ?_
  exact Faulty.leaves_pure _

theorem synchronizeUser_ok (hevent : event ≠ .other) (hmem : user ∈ w.state.db.users.rows)
    (h : synchronizeUser ctx fresh event user employee sourceVersion w = (.ok b, w')) :
    Rewrites w.state w'.state user (event.update user) := by
  cases event with
  | EMPLOYEE_SUSPENDED => exact suspendUserAndEmployee_ok hmem h
  | EMPLOYEE_TERMINATED => exact terminateUserAndEmployee_ok hmem h
  | EMPLOYEE_REACTIVATED => exact reactivateUserAndEmployee_ok hmem h
  | other => exact absurd rfl hevent

/-- A return: the user whom the event is applied to is rewritten, if there is one. -/
theorem synchronizeEmployeeStatus_ok
    (h : synchronizeEmployeeStatus ctx fresh event payload w = (.ok b, w')) :
    match appliesTo ctx w.state.db event payload with
    | none => usersOf w'.state = usersOf w.state
    | some user => Rewrites w.state w'.state user (event.update user) := by
  obtain ⟨found, w₁, hfind, hrest⟩ := Faulty.bind_ok.mp (runInTransaction_ok.mp h)
  obtain ⟨rfl, hstate₁⟩ := readDb_ok hfind
  unfold appliesTo
  rcases hemployee : EmployeeReferenceRepository.employeeInTenant ctx w.state.db payload.id with
    _ | employee
  · rw [hemployee] at hrest
    obtain ⟨-, rfl⟩ := Faulty.pure_ok.mp hrest
    simp only [Option.bind_none, ite_self]
    rw [hstate₁]
  · rw [hemployee] at hrest
    simp only [Option.bind_some] at hrest ⊢
    by_cases hstale : employee.isStale payload.sourceVersion = true
    · rw [if_pos hstale] at hrest ⊢
      obtain ⟨-, rfl⟩ := Faulty.pure_ok.mp hrest
      rw [ite_self, hstate₁]
    · rw [if_neg hstale] at hrest ⊢
      obtain ⟨linked, w₂, hlinked, hrest⟩ := Faulty.bind_ok.mp hrest
      obtain ⟨rfl, hstate₂⟩ := readDb_ok hlinked
      rw [hstate₁] at hstate₂ hrest
      rcases huser : UserRepository.userOfEmployee ctx w.state.db employee.id with _ | user
      · rw [huser] at hrest
        have husers := (EmployeeReferenceRepository.update_users.bind
          fun _ => Faulty.leaves_pure true).ok hrest
        rw [ite_self, husers, hstate₂]
      · rw [huser] at hrest
        have hmem : user ∈ w₂.state.db.users.rows := by
          rw [hstate₂]
          exact List.mem_of_find?_eq_some huser
        by_cases hevent : event = .other
        · subst hevent
          obtain ⟨-, rfl⟩ := Faulty.pure_ok.mp hrest
          rw [if_pos rfl, hstate₂]
        · rw [if_neg hevent]
          exact (synchronizeUser_ok hevent hmem hrest).of_users (by rw [hstate₂]) rfl

end ProvisioningApplicationService

-- ============================================================================
-- invitation.application.service.ts
-- ============================================================================

namespace InvitationApplicationService

theorem revokeSessionsAndChallenges_client {tenantCode : String} {userId : Uuid} {u : Unit}
    (h : revokeSessionsAndChallenges ctx tenantCode userId w = (.ok u, w')) :
    ctx.redisClient = true := by
  unfold revokeSessionsAndChallenges at h
  split at h
  next hclient => exact hclient
  · exact absurd h Faulty.throw_ok

theorem acceptLiveInvitation_ok {fresh : FreshCredential} {invitation : Invitation} {userId : Uuid}
    (h : acceptLiveInvitation ctx fresh invitation w = (.ok userId, w')) :
    ∃ user, user.id = invitation.userId ∧ ctx.redisClient = true ∧
      Rewrites w.state w'.state user (activated user) := by
  obtain ⟨user, w₁, hfind, hrest⟩ := Faulty.bind_ok.mp h
  obtain ⟨hsome, hstate₁⟩ := readDb_ok (required_ok.mp hfind)
  obtain ⟨hmem, hid⟩ := userWithId_eq_some.mp hsome.symm
  obtain ⟨hashed, w₂, hhash, hrest⟩ := Faulty.bind_ok.mp hrest
  obtain ⟨u₃, w₃, hpassword, hrest⟩ := Faulty.bind_ok.mp hrest
  obtain ⟨acceptedAt, w₄, hclock, hrest⟩ := Faulty.bind_ok.mp hrest
  obtain ⟨u₅, w₅, hinvitation, hrest⟩ := Faulty.bind_ok.mp hrest
  have husers : usersOf w₅.state = usersOf w.state :=
    calc usersOf w₅.state = usersOf w₄.state := InvitationRepository.update_users.ok hinvitation
      _ = usersOf w₃.state := clock_users.ok hclock
      _ = usersOf w₂.state := setPassword_users.ok hpassword
      _ = usersOf w₁.state := (Faulty.leaves_read _).ok hhash
      _ = usersOf w.state := congrArg usersOf hstate₁
  have hmem₅ : user ∈ (usersOf w₅.state).rows := by
    rw [husers]
    exact hmem
  have hrewrites := rewrites_of_bind hmem₅ (fun _ => log_users.bind fun _ =>
    revokeSessionsAndChallenges_users.bind fun _ => Faulty.leaves_pure _) hrest
  obtain ⟨u₆, w₆, -, hrest⟩ := Faulty.bind_ok.mp hrest
  obtain ⟨u₇, w₇, -, hrest⟩ := Faulty.bind_ok.mp hrest
  obtain ⟨u₈, w₈, hrevoke, -⟩ := Faulty.bind_ok.mp hrest
  exact ⟨user, hid, revokeSessionsAndChallenges_client hrevoke, hrewrites.of_users husers rfl⟩

theorem acceptInvitation_ok {fresh : FreshCredential} {token : String} {userId : Uuid}
    (h : acceptInvitation ctx fresh token w = (.ok userId, w')) :
    ∃ user, LiveInvitation ctx w.state token user.id ∧ ctx.redisClient = true ∧
      Rewrites w.state w'.state user (activated user) := by
  obtain ⟨invitation, w₁, hfind, hrest⟩ := Faulty.bind_ok.mp (runInTransaction_ok.mp h)
  obtain ⟨hsome, hstate₁⟩ := readDb_ok (required_ok.mp hfind)
  obtain ⟨now, w₂, hclock, hrest⟩ := Faulty.bind_ok.mp hrest
  obtain ⟨rfl, rfl⟩ := clock_ok hclock
  rw [hstate₁] at hrest
  split at hrest
  · exact absurd hrest Faulty.throw_ok
  next hexpired =>
    obtain ⟨user, hid, hclient, hrewrites⟩ := acceptLiveInvitation_ok hrest
    rw [hstate₁] at hrewrites
    refine ⟨user, ⟨invitation, hsome.symm, ?_, hid.symm⟩, hclient, hrewrites⟩
    exact Bool.not_eq_true _ ▸ hexpired

theorem resendInvitation_users {fresh : FreshInvitation} {targetUserId : Uuid} :
    Faulty.Leaves usersOf (resendInvitation ctx fresh targetUserId) := by
  refine runInTransaction_users (required_users.bind fun user => readDb_users.bind fun active => ?_)
  cases active with
  | some active => exact Faulty.leaves_throw _
  | none =>
    refine revokePrevious_users.bind fun _ => clock_users.bind fun _ => ?_
    exact InvitationRepository.create_users.bind fun _ => log_users.bind fun _ =>
      Faulty.leaves_pure _

end InvitationApplicationService

-- ============================================================================
-- password.service.ts
-- ============================================================================

namespace PasswordService

variable {fresh : FreshCredential} {u : Unit}

theorem replacePassword_ok {dto : ConfirmPasswordReset}
    (h : replacePassword ctx fresh dto w = (.ok u, w')) :
    ∃ user, user.id = dto.userId ∧
      Rewrites w.state w'.state user { securityVersion := user.securityVersion.val } := by
  obtain ⟨user, w₁, hfind, hrest⟩ := Faulty.bind_ok.mp (runInTransaction_ok.mp h)
  obtain ⟨hsome, hstate₁⟩ := readDb_ok (required_ok.mp hfind)
  obtain ⟨hmem, hid⟩ := userWithId_eq_some.mp hsome.symm
  obtain ⟨u₂, w₂, hsupersede, hrest⟩ := Faulty.bind_ok.mp hrest
  obtain ⟨hashed, w₃, hhash, hrest⟩ := Faulty.bind_ok.mp hrest
  obtain ⟨u₄, w₄, hcreate, hrest⟩ := Faulty.bind_ok.mp hrest
  have husers : usersOf w₄.state = usersOf w.state :=
    calc usersOf w₄.state = usersOf w₃.state := createCredential_users.ok hcreate
      _ = usersOf w₂.state := (Faulty.leaves_read _).ok hhash
      _ = usersOf w₁.state := supersedeActive_users.ok hsupersede
      _ = usersOf w.state := congrArg usersOf hstate₁
  have hmem₄ : user ∈ (usersOf w₄.state).rows := by
    rw [husers]
    exact hmem
  exact ⟨user, hid, (rewrites_of_bind hmem₄ (fun _ => log_users) hrest).of_users husers rfl⟩

/-- What follows the transaction of a reset. -/
theorem afterReset_users {dto : ConfirmPasswordReset} :
    Faulty.Leaves usersOf (do
      .tryCatch (SessionApplicationService.revokeAllSessions ctx dto.tenantCode dto.userId)
        fun _ => pure ()
      PasswordResetRedisAdapter.deleteChallenge dto.challengeId dto.tenantCode dto.userId) :=
  (Faulty.leaves_tryCatch revokeAllSessions_users fun _ => Faulty.leaves_pure ()).bind
    fun _ => writeRedis_users

/-- However it ends: nothing, or the user has been given a new credential. -/
theorem confirmPasswordReset_run {dto : ConfirmPasswordReset} {r : Except AccountError Unit}
    (h : confirmPasswordReset ctx fresh dto w = (r, w')) :
    (usersOf w'.state = usersOf w.state ∧ ∃ e, r = .error e) ∨
      ∃ user, user.id = dto.userId ∧
        Rewrites w.state w'.state user { securityVersion := user.securityVersion.val } := by
  rcases Faulty.bind_cases h with ⟨e, he, rfl⟩ | ⟨challenge, w₁, hget, hrest⟩
  · exact .inl ⟨(Faulty.leaves_read _).ok he, e, rfl⟩
  · obtain ⟨-, hstate₁⟩ := Faulty.read_ok hget
    split at hrest
    · rcases Faulty.bind_cases hrest with ⟨e, he, rfl⟩ | ⟨u, w₂, hreplace, hrest⟩
      · refine .inl ⟨?_, e, rfl⟩
        rw [usersOf, runInTransaction_error he, hstate₁]
        rfl
      · obtain ⟨user, hid, hrewrites⟩ := replacePassword_ok hreplace
        exact .inr ⟨user, hid, hrewrites.of_users (by rw [hstate₁]) (afterReset_users.ok hrest)⟩
    · obtain ⟨rfl, rfl⟩ := Prod.mk.inj hrest
      exact .inl ⟨by rw [hstate₁], _, rfl⟩

/-- A credential that could be created was the only ACTIVE one. -/
theorem createCredential_ok {userId : Uuid} {hashed : FreshCredential}
    (h : createCredential ctx userId hashed w = (.ok u, w')) :
    CredentialRepository.activeCredential w.state.db userId = none := by
  obtain ⟨now, w₁, hclock, hcreate⟩ := Faulty.bind_ok.mp h
  obtain ⟨rfl, rfl⟩ := clock_ok hclock
  obtain ⟨db, hdb, -⟩ := writeDb_ok hcreate
  obtain ⟨credentials, hinsert, -⟩ := Option.map_eq_some_iff.mp hdb
  unfold insertRow at hinsert
  split at hinsert
  · cases hinsert
  next hconflicts =>
    refine List.find?_eq_none.mpr fun other hother hactive => hconflicts ?_
    refine List.any_eq_true.mpr ⟨other, hother, ?_⟩
    rw [Bool.and_eq_true, decide_eq_true_eq, decide_eq_true_eq] at hactive
    have hne : other.id ≠ hashed.id := by
      intro heq
      unfold Keyed.insert at hinsert
      rw [dif_pos (List.mem_map.mpr ⟨other, hother, heq⟩)] at hinsert
      cases hinsert
    simp [Credential.conflicts, hne, hactive.1, hactive.2]

theorem setFirstPassword_ok (hmem : user ∈ w.state.db.users.rows)
    (h : setFirstPassword ctx fresh user w = (.ok u, w')) :
    CredentialRepository.activeCredential w.state.db user.id = none ∧
      Rewrites w.state w'.state user (activated user) := by
  obtain ⟨hashed, w₁, hhash, hrest⟩ := Faulty.bind_ok.mp h
  obtain ⟨-, hstate₁⟩ := Faulty.read_ok hhash
  obtain ⟨u₂, w₂, hcreate, hrest⟩ := Faulty.bind_ok.mp hrest
  have husers : usersOf w₂.state = usersOf w.state :=
    (createCredential_users.ok hcreate).trans (congrArg usersOf hstate₁)
  have hmem₂ : user ∈ (usersOf w₂.state).rows := by
    rw [husers]
    exact hmem
  have hnone := createCredential_ok hcreate
  rw [hstate₁] at hnone
  refine ⟨hnone, (rewrites_of_bind hmem₂ (fun _ => ?_) hrest).of_users husers rfl⟩
  exact logOpenInvitation_users.bind fun _ =>
    InvitationRepository.cancelPendingInvitations_users.bind fun _ => log_users

theorem setUpPassword_ok {userId : Uuid} (h : setUpPassword ctx fresh userId w = (.ok u, w')) :
    ∃ user, user.id = userId ∧ user.tenantCode = ctx.tenantCode ∧
      CredentialRepository.activeCredential w.state.db userId = none ∧
      Rewrites w.state w'.state user (activated user) := by
  obtain ⟨user, w₁, hfind, hrest⟩ := Faulty.bind_ok.mp (runInTransaction_ok.mp h)
  obtain ⟨hsome, hstate₁⟩ := readDb_ok (required_ok.mp hfind)
  obtain ⟨hmem, htenant, hid⟩ := userInTenant_eq_some.mp hsome.symm
  obtain ⟨active, w₂, hactive, hrest⟩ := Faulty.bind_ok.mp hrest
  obtain ⟨-, hstate₂⟩ := readDb_ok hactive
  cases active with
  | some active => exact absurd hrest Faulty.throw_ok
  | none =>
    have hstate : w₂.state = w.state := hstate₂.trans hstate₁
    have hmem₂ : user ∈ w₂.state.db.users.rows := by
      rw [hstate]
      exact hmem
    obtain ⟨hnone, hrewrites⟩ := setFirstPassword_ok hmem₂ hrest
    rw [hstate] at hnone hrewrites
    exact ⟨user, hid, htenant, hid ▸ hnone, hrewrites⟩

/-- However it ends: nothing, or the user has been given its first credential. -/
theorem setupPasswordViaSsoFallback_run {userId : Uuid} {r : Except AccountError Unit}
    (h : setupPasswordViaSsoFallback ctx fresh userId w = (r, w')) :
    (usersOf w'.state = usersOf w.state ∧ ∃ e, r = .error e) ∨
      ∃ user, user.id = userId ∧ user.tenantCode = ctx.tenantCode ∧
        CredentialRepository.activeCredential w.state.db userId = none ∧
        Rewrites w.state w'.state user (activated user) := by
  rcases Faulty.bind_cases h with ⟨e, he, rfl⟩ | ⟨u, w₁, hsetup, hrest⟩
  · exact .inl ⟨congrArg AccountDatabase.users (runInTransaction_error he), e, rfl⟩
  · obtain ⟨user, hid, htenant, hnone, hrewrites⟩ := setUpPassword_ok hsetup
    have hafter := (Faulty.leaves_tryCatch revokeAllSessions_users
      fun _ => Faulty.leaves_throw AuthStoreUnavailableError).ok hrest
    exact .inr ⟨user, hid, htenant, hnone, hrewrites.of_users rfl hafter⟩

end PasswordService

-- ============================================================================
-- lockout.service.ts, session.service.ts, mfa_admin_application.service.ts
-- ============================================================================

namespace LockoutService

variable {tenantCode : String} {userId : Uuid} {settings : Option AuthenticationSettings}
  {r : Except AccountError Bool}

/-- However it ends: nothing, and the caller is told so, or the user is LOCKED. -/
theorem lockUnlessLocked_run (h : lockUnlessLocked ctx tenantCode userId w = (r, w')) :
    (usersOf w'.state = usersOf w.state ∧ r ≠ .ok true) ∨
      ∃ user, r = .ok true ∧ user.id = userId ∧ user.status ≠ .LOCKED ∧
        Rewrites w.state w'.state user
          { status := some .LOCKED, securityVersion := nextSecurityVersion user } := by
  rcases r with e | b
  · exact .inl ⟨congrArg AccountDatabase.users (runInTransaction_error h), nofun⟩
  · obtain ⟨found, w₁, hfind, hrest⟩ := Faulty.bind_ok.mp (runInTransaction_ok.mp h)
    obtain ⟨rfl, hstate₁⟩ := readDb_ok hfind
    rcases hsome : UserRepository.userWithId w.state.db userId with _ | user
    · rw [hsome] at hrest
      obtain ⟨rfl, rfl⟩ := Faulty.pure_ok.mp hrest
      exact .inl ⟨by rw [hstate₁], nofun⟩
    · rw [hsome] at hrest
      obtain ⟨hmem, hid⟩ := userWithId_eq_some.mp hsome
      simp only at hrest
      split at hrest
      · obtain ⟨rfl, rfl⟩ := Faulty.pure_ok.mp hrest
        exact .inl ⟨by rw [hstate₁], nofun⟩
      next hstatus =>
        have hmem₁ : user ∈ w₁.state.db.users.rows := by
          rw [hstate₁]
          exact hmem
        have hrewrites := rewrites_of_bind hmem₁ (fun _ => resetFailureCount_users.bind
          fun _ => Faulty.leaves_pure true) hrest
        have htrue : b = true := by
          simp only [lockUser, Faulty.bind_ok, Faulty.pure_ok] at hrest
          obtain ⟨-, -, -, -, -, -, rfl, -⟩ := hrest
          rfl
        exact .inr ⟨user, by rw [htrue], hid, hstatus, hrewrites.of_users (by rw [hstate₁]) rfl⟩

theorem handleFailure_run (h : handleFailure ctx tenantCode userId settings w = (r, w')) :
    (usersOf w'.state = usersOf w.state ∧ r ≠ .ok true) ∨
      ∃ user, r = .ok true ∧ user.id = userId ∧ user.status ≠ .LOCKED ∧
        Rewrites w.state w'.state user
          { status := some .LOCKED, securityVersion := nextSecurityVersion user } := by
  have hnothing : ∀ w₁ : World AccountStore AccountError, usersOf w₁.state = usersOf w.state →
      (pure false : AccountService Bool) w₁ = (r, w') →
      usersOf w'.state = usersOf w.state ∧ r ≠ .ok true := by
    rintro w₁ husers hpure
    obtain ⟨rfl, rfl⟩ := Prod.mk.inj hpure
    exact ⟨husers, nofun⟩
  unfold handleFailure at h
  split at h
  · exact .inl (hnothing w rfl h)
  · split at h
    · exact .inl (hnothing w rfl h)
    · rcases Faulty.bind_cases h with ⟨e, he, rfl⟩ | ⟨count, w₁, hcount, hrest⟩
      · exact .inl ⟨incrementFailureCount_users.ok he, nofun⟩
      · have husers : usersOf w₁.state = usersOf w.state := incrementFailureCount_users.ok hcount
        split at hrest
        · rcases lockUnlessLocked_run hrest with ⟨hsame, hr⟩ | ⟨user, hr, hid, hstatus, hrewrites⟩
          · exact .inl ⟨hsame.trans husers, hr⟩
          · exact .inr ⟨user, hr, hid, hstatus, hrewrites.of_users husers rfl⟩
        · exact .inl (hnothing w₁ husers hrest)

end LockoutService

/-- However it ends: nothing, or the version of the ACTIVE user has gone up. -/
theorem SessionService.revokeAllUserSessions_run {tenantCode : String} {targetUserId : Uuid}
    {r : Except AccountError Nat}
    (h : SessionService.revokeAllUserSessions ctx tenantCode targetUserId w = (r, w')) :
    (usersOf w'.state = usersOf w.state ∧ ∃ e, r = .error e) ∨
      ∃ user, SessionService.isActiveUser tenantCode targetUserId user = true ∧
        Rewrites w.state w'.state user
          { securityVersion := user.securityVersion.val + 1 } := by
  rcases Faulty.bind_cases h with ⟨e, he, rfl⟩ | ⟨u, w₁, hupdate, hrest⟩
  · exact .inl ⟨congrArg AccountDatabase.users (runInTransaction_error he), e, rfl⟩
  · have hafter : usersOf w'.state = usersOf w₁.state :=
      (Faulty.leaves_tryCatch purgeAllUserSessions_users
        fun _ => Faulty.leaves_throw SessionStoreUnavailable).ok hrest
    obtain ⟨n, w₂, hincrement, hlog⟩ := Faulty.bind_ok.mp (runInTransaction_ok.mp hupdate)
    rcases UserRepository.increment_ok hincrement with
      ⟨rfl, -⟩ | ⟨user, rfl, hactive, -, -, hrewrites⟩
    · exact absurd hlog Faulty.throw_ok
    · have hlogged : usersOf w₁.state = usersOf w₂.state := log_users.ok hlog
      exact .inr ⟨user, hactive, hrewrites.of_users rfl (hafter.trans hlogged)⟩

/-- A return: the version of the user in the tenant has gone up. -/
theorem MfaAdminApplicationService.resetUserMfa_ok {targetUserId : Uuid} {n : Nat}
    (h : MfaAdminApplicationService.resetUserMfa ctx targetUserId w = (.ok n, w')) :
    ∃ user, user.id = targetUserId ∧ user.tenantCode = ctx.tenantCode ∧
      Rewrites w.state w'.state user { securityVersion := user.securityVersion.val + 1 } := by
  obtain ⟨u, w₁, hdisable, hrest⟩ := Faulty.bind_ok.mp (runInTransaction_ok.mp h)
  obtain ⟨affected, w₂, hincrement, hrest⟩ := Faulty.bind_ok.mp hrest
  have husers : usersOf w₁.state = usersOf w.state := disableAllUserFactors_users.ok hdisable
  rcases UserRepository.increment_ok hincrement with
    ⟨rfl, -⟩ | ⟨user, rfl, hcondition, -, -, hrewrites⟩
  · exact absurd hrest Faulty.throw_ok
  · obtain ⟨u₃, w₃, hlog, hrest⟩ := Faulty.bind_ok.mp hrest
    have hafter : usersOf w'.state = usersOf w₃.state := by
      split at hrest
      · exact revokeSessions_users.ok hrest
      · exact (Faulty.leaves_pure 0).ok hrest
    rw [Bool.and_eq_true, decide_eq_true_eq, decide_eq_true_eq] at hcondition
    exact ⟨user, hcondition.1, hcondition.2,
      hrewrites.of_users husers (hafter.trans (log_users.ok hlog))⟩

-- ============================================================================
-- Any operation
-- ============================================================================

/-- A program whose result is not looked at. -/
theorem return_true_cases {α : Type} {x : AccountService α} {r : Except AccountError Bool}
    (h : (x >>= fun _ => pure true) w = (r, w')) :
    (∃ e, x w = (.error e, w') ∧ r = .error e) ∨ ∃ a, x w = (.ok a, w') ∧ r = .ok true := by
  rcases Faulty.bind_cases h with ⟨e, he, rfl⟩ | ⟨a, w₁, hx, hpure⟩
  · exact .inl ⟨e, he, rfl⟩
  · obtain ⟨rfl, rfl⟩ := Prod.mk.inj hpure
    exact .inr ⟨a, hx, rfl⟩

theorem return_true_run {α : Type} {x : AccountService α} {r : Except AccountError Bool}
    (h : (x >>= fun _ => pure true) w = (r, w')) :
    ∃ r', x w = (r', w') ∧ ((∃ e, r' = .error e) → ∃ e, r = .error e) := by
  rcases return_true_cases h with ⟨e, he, rfl⟩ | ⟨a, hok, rfl⟩
  · exact ⟨_, he, fun _ => ⟨e, rfl⟩⟩
  · exact ⟨_, hok, fun ⟨_, herror⟩ => nomatch herror⟩

/-- However a run ends: the users are as they were, or one of them has been changed by the
    operation's update; and a return says whether. -/
theorem AccountOperation.run_users {op : AccountOperation} {r : Except AccountError Bool}
    (h : op.run ctx w = (r, w')) :
    (usersOf w'.state = usersOf w.state ∧
        ∀ b, r = .ok b → op.changed ctx w.state b = none) ∨
      ∃ user change, UserChange ctx w.state op user change ∧
        Rewrites w.state w'.state user change ∧
        ∀ b, r = .ok b → op.changed ctx w.state b = some user.id := by
  cases op with
  | synchronizeEmployeeStatus fresh event payload =>
    rcases r with e | b
    · exact .inl ⟨congrArg AccountDatabase.users (runInTransaction_error h), nofun⟩
    · have hok := ProvisioningApplicationService.synchronizeEmployeeStatus_ok h
      rcases happlies : appliesTo ctx w.state.db event payload with _ | user
      · rw [happlies] at hok
        exact .inl ⟨hok, fun _ _ => congrArg (Option.map _) happlies⟩
      · rw [happlies] at hok
        exact .inr ⟨user, _, .synchronized happlies, hok,
          fun _ _ => congrArg (Option.map _) happlies⟩
  | acceptInvitation fresh token =>
    rcases return_true_cases h with ⟨e, he, rfl⟩ | ⟨userId, hok, rfl⟩
    · exact .inl ⟨congrArg AccountDatabase.users (runInTransaction_error he), nofun⟩
    · obtain ⟨user, hlive, hclient, hrewrites⟩ :=
        InvitationApplicationService.acceptInvitation_ok hok
      refine .inr ⟨user, _, .accepted hlive hclient, hrewrites, fun _ _ => ?_⟩
      obtain ⟨invitation, hfind, -, hid⟩ := hlive
      exact (congrArg (Option.map _) hfind).trans (congrArg some hid)
  | resendInvitation fresh targetUserId =>
    refine .inl ⟨?_, fun _ _ => rfl⟩
    rcases return_true_cases h with ⟨e, he, -⟩ | ⟨id, hok, -⟩
    · exact InvitationApplicationService.resendInvitation_users.ok he
    · exact InvitationApplicationService.resendInvitation_users.ok hok
  | confirmPasswordReset fresh dto =>
    obtain ⟨r', hr', herror⟩ := return_true_run h
    rcases PasswordService.confirmPasswordReset_run hr' with ⟨hsame, he⟩ | ⟨user, hid, hrewrites⟩
    · obtain ⟨e, rfl⟩ := herror he
      exact .inl ⟨hsame, nofun⟩
    · exact .inr ⟨user, _, .reset hid, hrewrites, fun _ _ => congrArg some hid.symm⟩
  | setupPasswordViaSsoFallback fresh userId =>
    obtain ⟨r', hr', herror⟩ := return_true_run h
    rcases PasswordService.setupPasswordViaSsoFallback_run hr' with
      ⟨hsame, he⟩ | ⟨user, hid, htenant, hnone, hrewrites⟩
    · obtain ⟨e, rfl⟩ := herror he
      exact .inl ⟨hsame, nofun⟩
    · exact .inr ⟨user, _, .setUp hid htenant hnone, hrewrites,
        fun _ _ => congrArg some hid.symm⟩
  | handleFailure tenantCode userId settings =>
    rcases LockoutService.handleFailure_run h with
      ⟨hsame, hr⟩ | ⟨user, rfl, hid, hstatus, hrewrites⟩
    · refine .inl ⟨hsame, fun b hb => ?_⟩
      cases b with
      | false => rfl
      | true => exact absurd hb hr
    · refine .inr ⟨user, _, .locked hid hstatus, hrewrites, fun b hb => ?_⟩
      obtain rfl := Except.ok.inj hb
      exact congrArg some hid.symm
  | revokeAllUserSessions tenantCode targetUserId =>
    obtain ⟨r', hr', herror⟩ := return_true_run h
    rcases SessionService.revokeAllUserSessions_run hr' with
      ⟨hsame, he⟩ | ⟨user, hactive, hrewrites⟩
    · obtain ⟨e, rfl⟩ := herror he
      exact .inl ⟨hsame, nofun⟩
    · refine .inr ⟨user, _, .forcedOut hactive, hrewrites, fun _ _ => ?_⟩
      unfold SessionService.isActiveUser at hactive
      rw [Bool.and_eq_true, Bool.and_eq_true, decide_eq_true_eq, decide_eq_true_eq] at hactive
      exact congrArg some hactive.1.2.symm
  | resetUserMfa targetUserId =>
    rcases return_true_cases h with ⟨e, he, rfl⟩ | ⟨n, hok, rfl⟩
    · exact .inl ⟨congrArg AccountDatabase.users (runInTransaction_error he), nofun⟩
    · obtain ⟨user, hid, htenant, hrewrites⟩ := MfaAdminApplicationService.resetUserMfa_ok hok
      exact .inr ⟨user, _, .factorsReset hid htenant, hrewrites,
        fun _ _ => congrArg some hid.symm⟩

end AccessService.Accounts
