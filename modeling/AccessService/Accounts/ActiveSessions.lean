/-
  AccessService.Accounts.ActiveSessions

  Whether only ACTIVE users have sessions, over runs of the operations that store sessions,
  revoke them or write a user's status.  A suspension and a termination revoke what is in
  the user's index, so the index has to hold every session; a lockout and a reactivation
  revoke nothing.
-/

import AccessService.Accounts.LoginAttempts
import AccessService.Accounts.TokenIssue

namespace AccessService.Accounts

open AccessService.Lib AccessService.Lib.Transition AccessService.Pg AccessService.Persistence
open AuthApplicationService

-- ============================================================================
-- Operations
-- ============================================================================

inductive StandingStep where
  | loginWithPassword (ctx : AccountContext) (fresh : FreshLogin) (dto : LoginWithPasswordDto)
      (faults : List (Option AccountError))
  | synchronizeEmployeeStatus (ctx : AccountContext) (fresh : FreshInvitation)
      (event : EmployeeEvent) (payload : EmployeeStatusPayload)
      (faults : List (Option AccountError))
  | acceptInvitation (ctx : AccountContext) (fresh : FreshCredential) (token : String)
      (faults : List (Option AccountError))
  | confirmPasswordReset (ctx : AccountContext) (fresh : FreshCredential)
      (dto : ConfirmPasswordReset) (faults : List (Option AccountError))
  | handleFailure (ctx : AccountContext) (tenantCode : String) (userId : Uuid)
      (settings : Option AuthenticationSettings) (faults : List (Option AccountError))
  | pass (time : Nat)

/-- An attempt to log in to one of the tenants, with the world it begins in. -/
structure LoginAttempt where
  tenantCode : String
  before : World AccountStore AccountError

def LoginAttempt.run (ctx : AccountContext) (fresh : FreshLogin) (dto : LoginWithPasswordDto)
    (attempt : LoginAttempt) : Except AccountError LoginResult × World AccountStore AccountError :=
  processLogin ctx fresh attempt.tenantCode dto.email (some dto.password) dto.rememberMe
    attempt.before

/-- The attempts of `tryTenants`, the last of which ends the login. -/
def attemptsFrom (ctx : AccountContext) (fresh : FreshLogin) (dto : LoginWithPasswordDto)
    (w : World AccountStore AccountError) : List String → List LoginAttempt
  | [] => []
  | tenantCode :: tenantCodes =>
    ⟨tenantCode, w⟩ :: match LoginAttempt.run ctx fresh dto ⟨tenantCode, w⟩ with
      | (.ok _, _) => []
      | (.error _, w') => attemptsFrom ctx fresh dto w' tenantCodes

def loginAttempts (ctx : AccountContext) (fresh : FreshLogin) (dto : LoginWithPasswordDto)
    (w : World AccountStore AccountError) : List LoginAttempt :=
  match UserRepository.findTenantCodeByEmail dto.email w with
  | (.ok tenantCodes, w') => attemptsFrom ctx fresh dto w' tenantCodes
  | (.error _, _) => []

/-- The attempt is not turned away because the store of the sessions is unavailable. -/
def LoginAttempt.findsStore (ctx : AccountContext) (fresh : FreshLogin)
    (dto : LoginWithPasswordDto) (attempt : LoginAttempt) : Bool :=
  match (attempt.run ctx fresh dto).1 with
  | .ok _ => true
  | .error e => e.name ≠ AuthStoreUnavailableError.name

/-- The store that an operation leaves when it succeeds. -/
def succeeded {α : Type} (out : Except AccountError α × World AccountStore AccountError) :
    Option AccountStore :=
  match out with
  | (.ok _, w') => some w'.state
  | (.error _, _) => none

/-- One operation after the other, with a Redis that is available.  A login may also fail:
    with a wrong password it goes through `handleFailure`.  Time passes as long as no key
    expires. -/
def standings (keys : CacheKeyBuilder) : System AccountStore StandingStep where
  init s := ∀ sessionId, s.session (keys.buildSession sessionId) = none
  step s
    | .loginWithPassword ctx fresh dto faults =>
      if ctx.redisClient && (loginAttempts (ctx.withKeys keys) fresh dto ⟨s, faults⟩).all
          (LoginAttempt.findsStore (ctx.withKeys keys) fresh dto) then
        some (loginWithPassword (ctx.withKeys keys) fresh dto ⟨s, faults⟩).2.state
      else none
    | .synchronizeEmployeeStatus ctx fresh event payload faults =>
      if ctx.redisClient then
        succeeded (ProvisioningApplicationService.synchronizeEmployeeStatus (ctx.withKeys keys)
          fresh event payload ⟨s, faults⟩)
      else none
    | .acceptInvitation ctx fresh token faults =>
      if ctx.redisClient then
        succeeded (InvitationApplicationService.acceptInvitation (ctx.withKeys keys) fresh token
          ⟨s, faults⟩)
      else none
    | .confirmPasswordReset ctx fresh dto faults =>
      if ctx.redisClient then
        succeeded (PasswordService.confirmPasswordReset (ctx.withKeys keys) fresh dto ⟨s, faults⟩)
      else none
    | .handleFailure ctx tenantCode userId settings faults =>
      if ctx.redisClient then
        succeeded (LockoutService.handleFailure (ctx.withKeys keys) tenantCode userId settings
          ⟨s, faults⟩)
      else none
    | .pass time => if s.keeps time then some { s with now := s.now + time } else none

/-- The user has no session. -/
def NoSession (keys : CacheKeyBuilder) (s : AccountStore) (user : UserRow) : Prop :=
  ∀ sessionId, ¬s.HasSession (user.tenantCode, user.id) (keys.buildSession sessionId)

/-- A user who is not ACTIVE has no session. -/
def OnlyActiveHaveSessions (keys : CacheKeyBuilder) (s : AccountStore) : Prop :=
  ∀ user ∈ s.db.users.rows, user.status ≠ .ACTIVE → NoSession keys s user

/-- A user who is going to be locked or reactivated by the step has no session. -/
def FindsNoSession (keys : CacheKeyBuilder) (s : AccountStore) : StandingStep → Prop
  | .loginWithPassword ctx fresh dto faults =>
    ∀ attempt ∈ loginAttempts (ctx.withKeys keys) fresh dto ⟨s, faults⟩, ∀ user,
      lockedBy (ctx.withKeys keys) attempt.before.state attempt.tenantCode dto.email
        dto.password = some user →
      NoSession keys attempt.before.state user
  | .synchronizeEmployeeStatus ctx _ event payload _ =>
    event = .EMPLOYEE_REACTIVATED → ∀ user,
      appliesTo (ctx.withKeys keys) s.db event payload = some user → NoSession keys s user
  | .handleFailure _ tenantCode userId settings _ =>
    ∀ user, LockoutService.lockedNext s tenantCode userId settings = some user →
      NoSession keys s user
  | _ => True

variable {keys : CacheKeyBuilder} {ctx : AccountContext} {user : UserRow} {change : UserUpdate}
  {s₀ s t : AccountStore} {w w' : World AccountStore AccountError}

-- ============================================================================
-- The invariant
-- ============================================================================

/-- And every session is in the index of its user, where a revocation finds it. -/
structure WellStanding (keys : CacheKeyBuilder) (s : AccountStore) : Prop where
  onlyActive : OnlyActiveHaveSessions keys s
  indexed : ∀ subject, Indexed keys subject s

/-- Sessions have at most gone, and those that are left are in their indexes. -/
structure Shrunk (keys : CacheKeyBuilder) (s₀ s : AccountStore) : Prop where
  kept : ∀ key session, s.session key = some session → s₀.session key = some session
  indexed : ∀ subject, Indexed keys subject s

theorem WellStanding.shrunk_refl (hs : WellStanding keys s) : Shrunk keys s s :=
  ⟨fun _ _ h => h, hs.indexed⟩

theorem Shrunk.of_same (h : Shrunk keys s₀ s) (hsession : t.session = s.session)
    (hindexed : t.indexed = s.indexed) : Shrunk keys s₀ t := by
  refine ⟨fun key session hsome => ?_, fun subject sessionId hhas => ?_⟩
  · rw [hsession] at hsome
    exact h.kept key session hsome
  · rw [AccountStore.HasSession, hsession] at hhas
    rw [hindexed]
    exact h.indexed subject sessionId hhas

theorem Shrunk.of_sessions (h : Shrunk keys s₀ s) (hsame : sessionsOf t = sessionsOf s) :
    Shrunk keys s₀ t :=
  h.of_same (session_of_sessions hsame) (indexed_of_sessions hsame)

theorem Shrunk.hasSession {subject : String × Uuid} {key : String} (h : Shrunk keys s₀ s)
    (hsession : s.HasSession subject key) : s₀.HasSession subject key := by
  obtain ⟨session, hsome, hsubject⟩ := hsession
  exact ⟨session, h.kept key session hsome, hsubject⟩

theorem Shrunk.noSession (h : Shrunk keys s₀ s) (hnone : NoSession keys s₀ user) :
    NoSession keys s user :=
  fun sessionId hsession => hnone sessionId (h.hasSession hsession)

theorem WellStanding.shrunk (hs : WellStanding keys s) (h : Shrunk keys s t)
    (husers : usersOf t = usersOf s) : WellStanding keys t := by
  refine ⟨fun user hmem hstatus => ?_, h.indexed⟩
  rw [show t.db.users = s.db.users from husers] at hmem
  exact h.noSession (hs.onlyActive user hmem hstatus)

theorem UserUpdate.apply_tenant {user' : UserRow} (h : change.apply user = some user') :
    user'.tenantCode = user.tenantCode := by
  obtain ⟨version, -, rfl⟩ := Option.map_eq_some_iff.mp h
  rfl

/-- One row is rewritten; its user keeps ACTIVE, or has no session in the end. -/
theorem WellStanding.rewritten (hs : WellStanding keys s) (h : Shrunk keys s t)
    (hrewrites : Rewrites s t user change)
    (hgone : change.status.getD user.status ≠ .ACTIVE → NoSession keys t user) :
    WellStanding keys t := by
  obtain ⟨hfound, user', happly, husers⟩ := hrewrites
  obtain ⟨hid, hstatus', -⟩ := UserUpdate.apply_eq_some happly
  refine ⟨fun other hmem hstatus => ?_, h.indexed⟩
  rw [husers, Keyed.mem_replace (List.mem_map.mpr ⟨user, hfound, hid.symm⟩)] at hmem
  rcases hmem with rfl | ⟨hmem, -⟩
  · rw [hstatus'] at hstatus
    have hnone := hgone hstatus
    unfold NoSession at hnone ⊢
    rwa [hid, UserUpdate.apply_tenant happly]
  · exact h.noSession (hs.onlyActive other hmem hstatus)

/-- An ACTIVE user gets a session. -/
theorem WellStanding.stored {sessionId : String} (hs : WellStanding keys s)
    (hkeys : ctx.keys = keys) (hmem : user ∈ s.db.users.rows) (hactive : user.status = .ACTIVE)
    (hclient : ctx.redisClient = true) (husers : usersOf t = usersOf s)
    (hstores : StoresSession ctx user sessionId s t)
    (howner : t.HasSession (user.tenantCode, user.id) (ctx.keys.buildSession sessionId)) :
    WellStanding keys t := by
  subst hkeys
  have hcases : ∀ {subject : String × Uuid} {id : String},
      t.HasSession subject (ctx.keys.buildSession id) →
      (id = sessionId ∧ (user.tenantCode, user.id) = subject) ∨
        s.HasSession subject (ctx.keys.buildSession id) := by
    intro subject id hsession
    by_cases hid : id = sessionId
    · subst hid
      obtain ⟨session, hsome, hsubject⟩ := hsession
      obtain ⟨mine, hmine, howns⟩ := howner
      obtain rfl := Option.some.inj (hsome.symm.trans hmine)
      exact .inl ⟨rfl, howns.symm.trans hsubject⟩
    · refine .inr ?_
      rwa [AccountStore.HasSession,
        hstores.others _ fun hkey => hid (ctx.keys.session_injective hkey)] at hsession
  refine ⟨fun other hother hstatus id hsession => ?_, fun subject id hsession => ?_⟩
  · rw [show t.db.users = s.db.users from husers] at hother
    rcases hcases hsession with ⟨-, hsubject⟩ | hold
    · have hsame : user = other :=
        Keyed.row_unique hmem hother (Prod.mk.inj hsubject).2
      exact hstatus (hsame ▸ hactive)
    · exact hs.onlyActive other hother hstatus id hold
  · rw [hstores.indexed]
    rcases hcases hsession with ⟨rfl, rfl⟩ | hold
    · exact .inr ⟨hclient, rfl, rfl⟩
    · exact .inl (hs.indexed subject id hold)

-- ============================================================================
-- Programs that leave or revoke sessions
-- ============================================================================

theorem shrunk_of_sessions {α : Type} {x : AccountService α} (h : Faulty.Leaves sessionsOf x) :
    Faulty.Preserves (Shrunk keys s₀) x :=
  h.preserves fun _ _ hsame hs => hs.of_sessions hsame

theorem shrunk_of_cache {α : Type} {x : AccountService α} (h : Faulty.Leaves cacheOf x) :
    Faulty.Preserves (Shrunk keys s₀) x :=
  shrunk_of_sessions (leaves_sessions_of_cache h)

theorem Shrunk.deleteAll {index : String} (h : Shrunk keys s₀ s) : Shrunk keys s₀ { s with
    redis := s.redis.deleteAll ((s.indexed index).map keys.buildSession) index } := by
  have hsession : ∀ key, AccountStore.session { s with
      redis := s.redis.deleteAll ((s.indexed index).map keys.buildSession) index } key =
      if key ∈ (s.indexed index).map keys.buildSession then none else s.session key :=
    fun key => Expiring.get_eraseAll
  have hindexed : ∀ other, AccountStore.indexed { s with
      redis := s.redis.deleteAll ((s.indexed index).map keys.buildSession) index } other =
      if other = index then [] else s.indexed other := by
    intro other
    show ((s.redis.userSessions.erase index).get s.now other).getD [] = _
    rw [Expiring.get_erase]
    split
    · rfl
    · rfl
  refine ⟨fun key session hsome => ?_, fun subject sessionId hhas => ?_⟩
  · rw [hsession] at hsome
    split at hsome
    · cases hsome
    · exact h.kept key session hsome
  · obtain ⟨session, hsome, hsubject⟩ := hhas
    rw [hsession] at hsome
    split at hsome
    · cases hsome
    next hkept =>
      have hmem := h.indexed subject sessionId ⟨session, hsome, hsubject⟩
      rw [hindexed, if_neg]
      · exact hmem
      · rintro rfl
        exact hkept (List.mem_map_of_mem hmem)

theorem deleteIndexed_shrunk {index : String} (hkeys : ctx.keys = keys) :
    Faulty.Preserves (Shrunk keys s₀) (deleteIndexed ctx index) := by
  intro w hw
  rcases hrun : deleteIndexed ctx index w with ⟨r, w'⟩
  subst hkeys
  rcases deleteIndexed_cases hrun with hsame | hdeleted
  · rw [hsame]
    exact hw
  · rw [hdeleted]
    exact hw.deleteAll

theorem revokeAllSessions_shrunk {tenantCode : String} {userId : Uuid} (hkeys : ctx.keys = keys) :
    Faulty.Preserves (Shrunk keys s₀)
      (SessionApplicationService.revokeAllSessions ctx tenantCode userId) :=
  Faulty.preserves_when (deleteIndexed_shrunk hkeys)

theorem noSession_of_removes (hkeys : ctx.keys = keys)
    (hindexed : ∀ subject, Indexed keys subject s) (hremoves : Removes ctx s t
      (s.indexed (ctx.keys.buildUserSessions user.tenantCode user.id false))) :
    NoSession keys t user := by
  subst hkeys
  rintro sessionId ⟨session, hsession, hmine⟩
  rw [hremoves] at hsession
  split at hsession
  · cases hsession
  next hkept =>
    exact hkept (List.mem_map_of_mem (hindexed _ sessionId ⟨session, hsession, hmine⟩))

namespace ProvisioningApplicationService

variable {fresh : FreshInvitation} {event : EmployeeEvent} {payload : EmployeeStatusPayload}
  {employee : EmployeeRow} {sourceVersion : String} {b : Bool}

theorem revokePendingInvitations_cache {userId : Uuid} :
    Faulty.Leaves cacheOf (revokePendingInvitations ctx userId) :=
  readDb_cache.bind fun _ => Faulty.leaves_when (Faulty.leaves_write fun _ => rfl)

theorem synchronizeUser_shrunk (hkeys : ctx.keys = keys) :
    Faulty.Preserves (Shrunk keys s₀)
      (synchronizeUser ctx fresh event user employee sourceVersion) := by
  have hupdate : ∀ (id : Uuid) (change : UserUpdate),
      Faulty.Preserves (Shrunk keys s₀) (UserRepository.update id change) :=
    fun _ _ => shrunk_of_cache update_cache
  have hemployee : ∀ (id : Uuid) (status : Option String), Faulty.Preserves (Shrunk keys s₀)
      (EmployeeReferenceRepository.update id status sourceVersion) :=
    fun _ _ => shrunk_of_cache writeDb_cache
  have hlog : ∀ (tenantCode eventType : String) (userId : Option Uuid),
      Faulty.Preserves (Shrunk keys s₀) (SecurityEventService.log tenantCode userId eventType) :=
    fun _ _ _ => shrunk_of_cache log_cache
  cases event with
  | EMPLOYEE_SUSPENDED =>
    refine (hupdate _ _).bind fun _ => (hemployee _ _).bind fun _ => (hlog _ _ _).bind fun _ => ?_
    exact (revokeAllSessions_shrunk hkeys).bind fun _ => Faulty.preserves_pure _
  | EMPLOYEE_TERMINATED =>
    refine (hupdate _ _).bind fun _ => (hemployee _ _).bind fun _ => ?_
    refine (shrunk_of_cache revokePendingInvitations_cache).bind fun _ => ?_
    refine (hlog _ _ _).bind fun _ => ?_
    exact (revokeAllSessions_shrunk hkeys).bind fun _ => Faulty.preserves_pure _
  | EMPLOYEE_REACTIVATED =>
    refine (hupdate _ _).bind fun _ => (hemployee _ _).bind fun _ => ?_
    refine (shrunk_of_cache revokePendingInvitations_cache).bind fun _ => ?_
    refine (shrunk_of_cache clock_cache).bind fun _ => ?_
    refine (shrunk_of_cache writeDb_cache).bind fun _ => (hlog _ _ _).bind fun _ => ?_
    exact Faulty.preserves_pure _
  | other => exact Faulty.preserves_pure _

theorem synchronizeEmployeeStatus_shrunk (hkeys : ctx.keys = keys)
    (hs : Shrunk keys s₀ w.state)
    (h : synchronizeEmployeeStatus ctx fresh event payload w = (.ok b, w')) :
    Shrunk keys s₀ w'.state := by
  have hbody := runInTransaction_ok.mp h
  refine congrArg (fun out => out.2.state) hbody ▸ Faulty.Preserves.bind ?_ (fun found => ?_) w hs
  · exact shrunk_of_cache readDb_cache
  · cases found with
    | none => exact Faulty.preserves_pure _
    | some employee =>
      simp only
      split
      · exact Faulty.preserves_pure _
      · refine (shrunk_of_cache readDb_cache).bind fun linked => ?_
        cases linked with
        | none => exact (shrunk_of_cache writeDb_cache).bind fun _ => Faulty.preserves_pure _
        | some user => exact synchronizeUser_shrunk hkeys

/-- A suspension and a termination end with the revocation of the user's sessions. -/
theorem synchronizeUser_removes (hclient : ctx.redisClient = true)
    (hevent : event = .EMPLOYEE_SUSPENDED ∨ event = .EMPLOYEE_TERMINATED)
    (h : synchronizeUser ctx fresh event user employee sourceVersion w = (.ok b, w')) :
    Removes ctx w.state w'.state
      (w.state.indexed (ctx.keys.buildUserSessions user.tenantCode user.id false)) := by
  have hrevoke : ∀ (w₁ : World AccountStore AccountError), cacheOf w₁.state = cacheOf w.state →
      (SessionApplicationService.revokeAllSessions ctx user.tenantCode user.id >>= fun _ =>
        pure true) w₁ = (.ok b, w') →
      Removes ctx w.state w'.state
        (w.state.indexed (ctx.keys.buildUserSessions user.tenantCode user.id false)) := by
    intro w₁ hcache hrest
    obtain ⟨u, w₂, hrun, hpure⟩ := Faulty.bind_ok.mp hrest
    obtain ⟨-, rfl⟩ := Faulty.pure_ok.mp hpure
    have hremoves := revokeAllSessions_removes hrun
    rw [if_pos hclient, indexed_of_cache hcache] at hremoves
    exact hremoves.of_session (session_of_cache hcache) rfl
  rcases hevent with rfl | rfl
  · obtain ⟨u₁, w₁, hupdate, hrest⟩ := Faulty.bind_ok.mp h
    obtain ⟨u₂, w₂, hemployee, hrest⟩ := Faulty.bind_ok.mp hrest
    obtain ⟨u₃, w₃, hlog, hrest⟩ := Faulty.bind_ok.mp hrest
    refine hrevoke w₃ ?_ hrest
    rw [log_cache.ok hlog, writeDb_cache.ok hemployee, update_cache.ok hupdate]
  · obtain ⟨u₁, w₁, hupdate, hrest⟩ := Faulty.bind_ok.mp h
    obtain ⟨u₂, w₂, hemployee, hrest⟩ := Faulty.bind_ok.mp hrest
    obtain ⟨u₃, w₃, hpending, hrest⟩ := Faulty.bind_ok.mp hrest
    obtain ⟨u₄, w₄, hlog, hrest⟩ := Faulty.bind_ok.mp hrest
    refine hrevoke w₄ ?_ hrest
    rw [log_cache.ok hlog, revokePendingInvitations_cache.ok hpending,
      writeDb_cache.ok hemployee, update_cache.ok hupdate]

theorem synchronizeEmployeeStatus_removes (hclient : ctx.redisClient = true)
    (hevent : event = .EMPLOYEE_SUSPENDED ∨ event = .EMPLOYEE_TERMINATED)
    (happlies : appliesTo ctx w.state.db event payload = some user)
    (h : synchronizeEmployeeStatus ctx fresh event payload w = (.ok b, w')) :
    Removes ctx w.state w'.state
      (w.state.indexed (ctx.keys.buildUserSessions user.tenantCode user.id false)) := by
  obtain ⟨found, w₁, hfind, hrest⟩ := Faulty.bind_ok.mp (runInTransaction_ok.mp h)
  obtain ⟨rfl, hstate₁⟩ := readDb_ok hfind
  unfold appliesTo at happlies
  split at happlies
  · cases happlies
  · obtain ⟨employee, hemployee, happlies⟩ := Option.bind_eq_some_iff.mp happlies
    split at happlies
    · cases happlies
    next hstale =>
      rw [hemployee] at hrest
      simp only [if_neg hstale] at hrest
      obtain ⟨linked, w₂, hlinked, hrest⟩ := Faulty.bind_ok.mp hrest
      obtain ⟨rfl, hstate₂⟩ := readDb_ok hlinked
      rw [hstate₁, happlies] at hrest
      have hstate : w₂.state = w.state := hstate₂.trans hstate₁
      rw [← hstate]
      exact synchronizeUser_removes hclient hevent hrest

end ProvisioningApplicationService

theorem deleteChallengeOf_sessions {userId : Uuid} {key : String} :
    Faulty.Leaves sessionsOf
      (InvitationApplicationService.deleteChallengeOf ctx userId key) := by
  refine (Faulty.leaves_read _).bind fun challenge => ?_
  cases challenge with
  | none => exact Faulty.leaves_pure ()
  | some challenge => exact Faulty.leaves_when (Faulty.leaves_write fun _ => rfl)

theorem acceptInvitation_shrunk {fresh : FreshCredential} {token : String} {userId : Uuid}
    (hkeys : ctx.keys = keys) (hs : Shrunk keys s₀ w.state)
    (h : InvitationApplicationService.acceptInvitation ctx fresh token w = (.ok userId, w')) :
    Shrunk keys s₀ w'.state := by
  have hbody := runInTransaction_ok.mp h
  refine congrArg (fun out => out.2.state) hbody ▸
    Faulty.Preserves.bind ?_ (fun invitation => ?_) w hs
  · exact shrunk_of_cache required_cache
  · refine (shrunk_of_cache clock_cache).bind fun now => ?_
    split
    · exact Faulty.preserves_throw _
    · refine (shrunk_of_cache required_cache).bind fun user => ?_
      refine Faulty.Preserves.bind (shrunk_of_cache (Faulty.leaves_read _)) fun hashed => ?_
      refine (shrunk_of_cache setPassword_cache).bind fun _ => ?_
      refine (shrunk_of_cache clock_cache).bind fun _ => ?_
      refine (shrunk_of_cache writeDb_cache).bind fun _ => ?_
      refine (shrunk_of_cache update_cache).bind fun _ => ?_
      refine (shrunk_of_cache log_cache).bind fun _ => ?_
      refine Faulty.Preserves.bind ?_ fun _ => Faulty.preserves_pure _
      unfold InvitationApplicationService.revokeSessionsAndChallenges
      split
      · refine Faulty.preserves_tryCatch ((deleteIndexed_shrunk hkeys).bind fun _ => ?_)
          fun _ => Faulty.preserves_throw _
        refine shrunk_of_sessions ((Faulty.leaves_read _).bind fun challengeKeys => ?_)
        exact Faulty.leaves_forEach (fun _ => deleteChallengeOf_sessions) challengeKeys
      · exact Faulty.preserves_throw _

namespace PasswordService

variable {fresh : FreshCredential} {dto : ConfirmPasswordReset}

theorem replacePassword_cache :
    Faulty.Leaves cacheOf (replacePassword ctx fresh dto) := by
  refine Faulty.leaves_transaction (required_cache.bind fun user => ?_) fun s s' hsame => hsame
  refine Faulty.Leaves.bind ?_ fun _ => Faulty.Leaves.bind (Faulty.leaves_read _) fun hashed => ?_
  · refine readDb_cache.bind fun active => ?_
    cases active with
    | none => exact Faulty.leaves_pure ()
    | some active => exact writeDb_cache
  · exact (clock_cache.bind fun _ => writeDb_cache).bind fun _ =>
      update_cache.bind fun _ => log_cache

theorem confirmPasswordReset_shrunk {r : Except AccountError Unit} (hkeys : ctx.keys = keys)
    (hs : Shrunk keys s₀ w.state) (h : confirmPasswordReset ctx fresh dto w = (r, w')) :
    Shrunk keys s₀ w'.state := by
  refine congrArg (fun out => out.2.state) h ▸ Faulty.Preserves.bind ?_ (fun challenge => ?_) w hs
  · exact shrunk_of_sessions (Faulty.leaves_read _)
  · split
    · refine (shrunk_of_cache replacePassword_cache).bind fun _ => ?_
      refine Faulty.Preserves.bind ?_ fun _ => ?_
      · exact Faulty.preserves_tryCatch (revokeAllSessions_shrunk hkeys)
          fun _ => Faulty.preserves_pure ()
      · exact shrunk_of_sessions (Faulty.leaves_write fun _ => rfl)
    · exact Faulty.preserves_throw _

end PasswordService

-- ============================================================================
-- Logins
-- ============================================================================

/-- The user whom a failure locks has no session. -/
theorem WellStanding.locksAtMost {locked : Option UserRow} (hs : WellStanding keys s)
    (h : LocksAtMost locked s t)
    (hnone : ∀ user, locked = some user → NoSession keys s user) : WellStanding keys t := by
  rcases h with hsame | ⟨user, hlocked, hsessions, hrewrites⟩
  · obtain ⟨husers, hsessions⟩ := Prod.mk.inj hsame
    exact hs.shrunk (hs.shrunk_refl.of_sessions hsessions) husers
  · have hshrunk := hs.shrunk_refl.of_sessions hsessions
    exact hs.rewritten hshrunk hrewrites fun _ => hshrunk.noSession (hnone user hlocked)

theorem WellStanding.attempted {locked : Option UserRow} {sessionId : String}
    (hs : WellStanding keys s) (hkeys : ctx.keys = keys) (hclient : ctx.redisClient = true)
    (h : Attempted ctx sessionId locked s t)
    (hnone : ∀ user, locked = some user → NoSession keys s user) : WellStanding keys t := by
  cases h with
  | locks hlocks => exact hs.locksAtMost hlocks hnone
  | stores hmem hactive husers hstores howner =>
    exact hs.stored hkeys hmem hactive hclient husers hstores howner

/-- Induction on the tenants that are left: every attempt keeps the invariant. -/
theorem tryTenants_wellStanding {fresh : FreshLogin} {dto : LoginWithPasswordDto}
    {err : AccountError} {tenantCodes : List String} (hkeys : ctx.keys = keys)
    (hclient : ctx.redisClient = true) (hs : WellStanding keys w.state)
    (hstore : ∀ attempt ∈ attemptsFrom ctx fresh dto w tenantCodes,
      attempt.findsStore ctx fresh dto = true)
    (hnone : ∀ attempt ∈ attemptsFrom ctx fresh dto w tenantCodes, ∀ user,
      lockedBy ctx attempt.before.state attempt.tenantCode dto.email dto.password = some user →
      NoSession keys attempt.before.state user) :
    WellStanding keys (tryTenants ctx fresh dto err tenantCodes w).2.state := by
  induction tenantCodes generalizing err w with
  | nil => exact hs
  | cons tenantCode tenantCodes ih =>
    rcases hrun : processLogin ctx fresh tenantCode dto.email (some dto.password) dto.rememberMe w
      with ⟨r, w₁⟩
    have hattempt : LoginAttempt.run ctx fresh dto ⟨tenantCode, w⟩ = (r, w₁) := hrun
    have hfirst := hstore ⟨tenantCode, w⟩ List.mem_cons_self
    unfold LoginAttempt.findsStore at hfirst
    rw [hattempt] at hfirst
    have hs₁ : WellStanding keys w₁.state := by
      refine hs.attempted hkeys hclient (processLogin_attempted ?_ hrun)
        (hnone ⟨tenantCode, w⟩ List.mem_cons_self)
      rintro e rfl
      exact of_decide_eq_true hfirst
    unfold tryTenants Faulty.tryCatch
    rw [hrun]
    rcases r with error | result
    · refine ih hs₁ (fun attempt hmem => hstore attempt ?_) fun attempt hmem => hnone attempt ?_
      · rw [attemptsFrom, hattempt]
        exact List.mem_cons_of_mem _ hmem
      · rw [attemptsFrom, hattempt]
        exact List.mem_cons_of_mem _ hmem
    · exact hs₁

theorem loginWithPassword_wellStanding {fresh : FreshLogin} {dto : LoginWithPasswordDto}
    (hkeys : ctx.keys = keys) (hclient : ctx.redisClient = true) (hs : WellStanding keys w.state)
    (hstore : ∀ attempt ∈ loginAttempts ctx fresh dto w, attempt.findsStore ctx fresh dto = true)
    (hnone : ∀ attempt ∈ loginAttempts ctx fresh dto w, ∀ user,
      lockedBy ctx attempt.before.state attempt.tenantCode dto.email dto.password = some user →
      NoSession keys attempt.before.state user) :
    WellStanding keys (loginWithPassword ctx fresh dto w).2.state := by
  unfold loginAttempts at hstore hnone
  refine Faulty.bind_state (P := WellStanding keys) (fun e w₁ hread => ?_)
    fun tenantCodes w₁ hread => ?_
  · unfold UserRepository.findTenantCodeByEmail readDb at hread
    rw [Faulty.read_error hread]
    exact hs
  · rw [hread] at hstore hnone
    obtain ⟨-, hstate⟩ := readDb_ok hread
    rw [← hstate] at hs
    exact tryTenants_wellStanding hkeys hclient hs hstore hnone

-- ============================================================================
-- One step
-- ============================================================================

theorem succeeded_eq_some {α : Type}
    {out : Except AccountError α × World AccountStore AccountError} :
    succeeded out = some t ↔ ∃ a w', out = (.ok a, w') ∧ w'.state = t := by
  constructor
  · intro h
    rcases out with ⟨e | a, w'⟩
    · cases h
    · exact ⟨a, w', rfl, Option.some.inj h⟩
  · rintro ⟨a, w', rfl, rfl⟩
    rfl

theorem synchronizeEmployeeStatus_wellStanding {fresh : FreshInvitation} {event : EmployeeEvent}
    {payload : EmployeeStatusPayload} {b : Bool} (hkeys : ctx.keys = keys)
    (hclient : ctx.redisClient = true) (hs : WellStanding keys w.state)
    (h : ProvisioningApplicationService.synchronizeEmployeeStatus ctx fresh event payload w =
      (.ok b, w'))
    (hnone : event = .EMPLOYEE_REACTIVATED → ∀ user,
      appliesTo ctx w.state.db event payload = some user → NoSession keys w.state user) :
    WellStanding keys w'.state := by
  have hshrunk := ProvisioningApplicationService.synchronizeEmployeeStatus_shrunk hkeys
    hs.shrunk_refl h
  have hok := ProvisioningApplicationService.synchronizeEmployeeStatus_ok h
  rcases happlies : appliesTo ctx w.state.db event payload with _ | user
  · rw [happlies] at hok
    exact hs.shrunk hshrunk hok
  · rw [happlies] at hok
    refine hs.rewritten hshrunk hok fun hstatus => ?_
    have hrevoked : event = .EMPLOYEE_SUSPENDED ∨ event = .EMPLOYEE_TERMINATED →
        NoSession keys w'.state user :=
      fun hevent => noSession_of_removes hkeys hs.indexed
        (ProvisioningApplicationService.synchronizeEmployeeStatus_removes hclient hevent happlies h)
    cases event with
    | EMPLOYEE_SUSPENDED => exact hrevoked (.inl rfl)
    | EMPLOYEE_TERMINATED => exact hrevoked (.inr rfl)
    | EMPLOYEE_REACTIVATED => exact hshrunk.noSession (hnone rfl user happlies)
    | other => exact hshrunk.noSession (hs.onlyActive user hok.found hstatus)

theorem WellStanding.later {time : Nat} (hs : WellStanding keys s) (h : s.keeps time = true) :
    WellStanding keys { s with now := s.now + time } := by
  obtain ⟨hsessions, hindexes⟩ := (Bool.and_eq_true _ _).mp h
  have hle := Nat.le_add_right s.now time
  refine hs.shrunk (hs.shrunk_refl.of_same ?_ ?_) rfl
  · exact funext fun key => Expiring.get_later hle hsessions
  · exact funext fun index => congrArg (Option.getD · []) (Expiring.get_later hle hindexes)

/-- The step lemma. -/
theorem standings_step {step : StandingStep} (hs : WellStanding keys s)
    (hstep : (standings keys).step s step = some t) (hfinds : FindsNoSession keys s step) :
    WellStanding keys t := by
  cases step with
  | loginWithPassword ctx fresh dto faults =>
    simp only [standings] at hstep
    split at hstep
    next havailable =>
      obtain ⟨hclient, hstore⟩ := (Bool.and_eq_true _ _).mp havailable
      obtain rfl := Option.some.inj hstep
      have hkeys : (ctx.withKeys keys).keys = keys := rfl
      exact loginWithPassword_wellStanding (w := ⟨s, faults⟩) hkeys hclient hs
        (List.all_eq_true.mp hstore) hfinds
    · cases hstep
  | synchronizeEmployeeStatus ctx fresh event payload faults =>
    simp only [standings] at hstep
    split at hstep
    next hclient =>
      obtain ⟨b, w', hrun, rfl⟩ := succeeded_eq_some.mp hstep
      have hkeys : (ctx.withKeys keys).keys = keys := rfl
      exact synchronizeEmployeeStatus_wellStanding (w := ⟨s, faults⟩) hkeys hclient hs hrun hfinds
    · cases hstep
  | acceptInvitation ctx fresh token faults =>
    simp only [standings] at hstep
    split at hstep
    next hclient =>
      obtain ⟨userId, w', hrun, rfl⟩ := succeeded_eq_some.mp hstep
      obtain ⟨user, -, -, hrewrites⟩ := InvitationApplicationService.acceptInvitation_ok hrun
      refine hs.rewritten (acceptInvitation_shrunk rfl hs.shrunk_refl hrun) hrewrites ?_
      exact fun hstatus => absurd rfl hstatus
    · cases hstep
  | confirmPasswordReset ctx fresh dto faults =>
    simp only [standings] at hstep
    split at hstep
    next hclient =>
      obtain ⟨u, w', hrun, rfl⟩ := succeeded_eq_some.mp hstep
      have hshrunk : Shrunk keys s w'.state :=
        PasswordService.confirmPasswordReset_shrunk rfl hs.shrunk_refl hrun
      rcases PasswordService.confirmPasswordReset_run hrun with
        ⟨-, e, herror⟩ | ⟨user, -, hrewrites⟩
      · cases herror
      · exact hs.rewritten hshrunk hrewrites fun hstatus =>
          hshrunk.noSession (hs.onlyActive user hrewrites.found hstatus)
    · cases hstep
  | handleFailure ctx tenantCode userId settings faults =>
    simp only [standings] at hstep
    split at hstep
    · obtain ⟨b, w', hrun, rfl⟩ := succeeded_eq_some.mp hstep
      exact hs.locksAtMost (LockoutService.handleFailure_locksAtMost hrun) hfinds
    · cases hstep
  | pass time =>
    simp only [standings] at hstep
    split at hstep
    next hkeeps =>
      obtain rfl := Option.some.inj hstep
      exact hs.later hkeeps
    · cases hstep

-- ============================================================================
-- Runs
-- ============================================================================

theorem wellStanding_init (h : (standings keys).init s) : WellStanding keys s := by
  have hnone : ∀ (subject : String × Uuid) (sessionId : String),
      ¬s.HasSession subject (keys.buildSession sessionId) := by
    rintro subject sessionId ⟨session, hsession, -⟩
    rw [h sessionId] at hsession
    cases hsession
  exact ⟨fun user _ _ sessionId => hnone _ sessionId,
    fun subject sessionId hsession => absurd hsession (hnone subject sessionId)⟩

/-- In a run in which whoever is locked or reactivated has no session, only ACTIVE users have
    sessions. -/
theorem only_active_have_sessions (keys : CacheKeyBuilder) {start s : AccountStore}
    {steps : List StandingStep} (hinit : (standings keys).init start)
    (hrun : (standings keys).execute start steps = some s)
    (hfinds : (standings keys).Along (fun s step _ => FindsNoSession keys s step) start steps) :
    OnlyActiveHaveSessions keys s :=
  (System.Along.invariant (fun _ _ _ hs hstep hfinds => standings_step hs hstep hfinds)
    (wellStanding_init hinit) hrun hfinds).onlyActive

-- ============================================================================
-- A suspension and a lockout after a login
-- ============================================================================

def lockoutSettings : AuthenticationSettings where
  tenantCode := "acme"
  accountLockoutEnabled := true

def lockableStore : AccountStore where
  db := { sampleAccountStore.db with
    credentials := ⟨[samplePassword], List.nodup_singleton sampleGroupId⟩
    settings := ⟨[lockoutSettings], List.nodup_singleton "acme"⟩ }

def passwordLoginStep : StandingStep :=
  .loginWithPassword acmeAccounts sampleFreshLogin ⟨"kim@acme.test", "correct horse", false⟩ []

def suspensionStep : StandingStep :=
  .synchronizeEmployeeStatus acmeAccounts ⟨sampleRoleId, "7d793037a0760186574b0282f2f435e7"⟩
    .EMPLOYEE_SUSPENDED ⟨sampleEmployeeId, ⟨1, Js.SafeInteger.one_isSafe⟩⟩ []

def failedLoginStep : StandingStep :=
  .handleFailure acmeAccounts "acme" sampleUserId (some lockoutSettings) []

theorem passwordLoginStep_locksNobody : ((loginAttempts acmeAccounts sampleFreshLogin
    ⟨"kim@acme.test", "correct horse", false⟩ ⟨lockableStore, []⟩).all fun attempt =>
      (lockedBy acmeAccounts attempt.before.state attempt.tenantCode "kim@acme.test"
        "correct horse").isNone) = true := by
  decide +kernel

/-- The suspension revokes the session. -/
theorem only_active_have_sessions_suspended :
    ∃ s, (standings sampleKeys).execute lockableStore [passwordLoginStep, suspensionStep] =
        some s ∧
      s.db.users.rows.map (·.status) = [.DISABLED] ∧ OnlyActiveHaveSessions sampleKeys s := by
  have hends : ((standings sampleKeys).execute lockableStore
      [passwordLoginStep, suspensionStep]).map (fun s => s.db.users.rows.map (·.status)) =
      some [.DISABLED] := by
    decide +kernel
  obtain ⟨s, hrun, hstatus⟩ := Option.map_eq_some_iff.mp hends
  refine ⟨s, hrun, hstatus, only_active_have_sessions sampleKeys (fun _ => rfl) hrun ?_⟩
  intro t _
  refine ⟨fun attempt hmem user hlocked => ?_, fun _ _ => ⟨fun hevent => ?_, trivial⟩⟩
  · have hnone := List.all_eq_true.mp passwordLoginStep_locksNobody attempt hmem
    cases (Option.isNone_iff_eq_none.mp hnone).symm.trans hlocked
  · cases hevent

/-- The fifth failure locks the user, whose session stays. -/
theorem not_only_active_have_sessions :
    ¬∀ (keys : CacheKeyBuilder) (start s : AccountStore) (steps : List StandingStep),
      (standings keys).init start → (standings keys).execute start steps = some s →
      OnlyActiveHaveSessions keys s := by
  intro h
  have hends : ((standings sampleKeys).execute lockableStore
      (passwordLoginStep :: List.replicate 5 failedLoginStep)).map
      (fun s => (s.db.users.rows.map fun user => (user.tenantCode, user.id, user.status),
        (s.session (sampleKeys.buildSession sampleFreshLogin.sessionId.text)).map fun session =>
          (session.tenantCode, session.userId))) =
      some ([("acme", sampleUserId, .LOCKED)], some ("acme", sampleUserId)) := by
    decide +kernel
  obtain ⟨s, hrun, hstate⟩ := Option.map_eq_some_iff.mp hends
  obtain ⟨husers, hsession⟩ := Prod.mk.inj hstate
  obtain ⟨session, hsome, howner⟩ := Option.map_eq_some_iff.mp hsession
  have hmem : ("acme", sampleUserId, UserStatus.LOCKED) ∈
      s.db.users.rows.map fun user => (user.tenantCode, user.id, user.status) := by
    rw [husers]
    exact List.mem_singleton_self _
  obtain ⟨user, huser, hcolumns⟩ := List.mem_map.mp hmem
  obtain ⟨htenant, hcolumns⟩ := Prod.mk.inj hcolumns
  obtain ⟨hid, hstatus⟩ := Prod.mk.inj hcolumns
  refine h sampleKeys lockableStore s _ (fun _ => rfl) hrun user huser ?_
    sampleFreshLogin.sessionId.text ⟨session, hsome, ?_⟩
  · rw [hstatus]
    exact nofun
  · rw [htenant, hid]
    exact howner

end AccessService.Accounts
