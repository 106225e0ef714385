/-
  AccessService.Accounts.SessionRevocation

  Which sessions a revocation reaches, after any sequence of logins: those whose ids are in
  the index that it looks at.
-/

import AccessService.Accounts.SessionEffects
import AccessService.Lib.Transition

namespace AccessService.Accounts

open AccessService.Lib AccessService.Lib.Transition AccessService.Pg AccessService.Persistence

-- ============================================================================
-- Sequences of logins
-- ============================================================================

/-- A login that has got as far as `storeSessionAndLogSuccess`. -/
structure SessionLogin where
  ctx : AccountContext
  user : UserRow
  sessionId : String
  rememberMe : Bool

inductive SessionStep where
  | login (ofUser : SessionLogin) (faults : List (Option AccountError))
  | pass (time : Nat)

/-- One key builder serves every request. -/
def AccountContext.withKeys (ctx : AccountContext) (keys : CacheKeyBuilder) : AccountContext :=
  { ctx with keys := keys }

def SessionLogin.run (keys : CacheKeyBuilder) (login : SessionLogin) : AccountService Unit :=
  AuthApplicationService.storeSessionAndLogSuccess (login.ctx.withKeys keys) login.user
    login.sessionId login.rememberMe

/-- Nothing in the cache expires for some time. -/
def AccountStore.keeps (s : AccountStore) (time : Nat) : Bool :=
  s.redis.sessions.keepsUntil s.now (s.now + time) &&
    s.redis.userSessions.keepsUntil s.now (s.now + time)

/-- The logins that succeed; and time passes, in which no key expires. -/
def sessionLogins (keys : CacheKeyBuilder) : System AccountStore SessionStep where
  init _ := True
  step s
    | .login login faults =>
      match login.run keys ⟨s, faults⟩ with
      | (.ok _, w') => some w'.state
      | (.error _, _) => none
    | .pass time => if s.keeps time then some { s with now := s.now + time } else none

def SessionStep.logins : SessionStep → List SessionLogin
  | .login ofUser _ => [ofUser]
  | .pass _ => []

def loginsOf (steps : List SessionStep) : List SessionLogin := steps.flatMap SessionStep.logins

def SessionLogin.subject (login : SessionLogin) : String × Uuid :=
  (login.user.tenantCode, login.user.id)

/-- The index that a login writes. -/
def SessionLogin.index (keys : CacheKeyBuilder) (login : SessionLogin) : String :=
  keys.buildUserSessions login.user.tenantCode login.user.id false

/-- The session ids are new: `crypto.randomUUID()`. -/
structure FreshIds (start : AccountStore) (logins : List SessionLogin) : Prop where
  distinct : (logins.map (·.sessionId)).Nodup
  new : ∀ login ∈ logins, ∀ index, login.sessionId ∉ start.indexed index

variable {keys : CacheKeyBuilder}

-- ============================================================================
-- After the logins
-- ============================================================================

/-- What one step adds. -/
theorem SessionStep.step_stores {s t : AccountStore} {step : SessionStep}
    (h : (sessionLogins keys).step s step = some t) :
    (∀ login ∈ step.logins, (t.session (keys.buildSession login.sessionId)).isSome = true) ∧
      (∀ k, (∀ login ∈ step.logins, k ≠ keys.buildSession login.sessionId) →
        t.session k = s.session k) ∧
      ∀ index id, id ∈ t.indexed index ↔ id ∈ s.indexed index ∨ ∃ login ∈ step.logins,
        login.ctx.redisClient = true ∧ index = login.index keys ∧ id = login.sessionId := by
  cases step with
  | login login faults =>
    simp only [sessionLogins] at h
    split at h
    next w' hrun =>
      obtain rfl := Option.some.inj h
      obtain ⟨hstored, hothers, hindexed⟩ := storeSessionAndLogSuccess_ok hrun
      refine ⟨?_, fun k hk => hothers k (hk login (List.mem_singleton_self _)), ?_⟩
      · intro login' hlogin'
        obtain rfl := List.mem_singleton.mp hlogin'
        exact hstored
      · intro index id
        rw [hindexed]
        refine or_congr_right ⟨fun hadded => ⟨login, List.mem_singleton_self _, hadded⟩, ?_⟩
        rintro ⟨login', hlogin', hadded⟩
        obtain rfl := List.mem_singleton.mp hlogin'
        exact hadded
    · cases h
  | pass time =>
    simp only [sessionLogins] at h
    split at h
    next hkeeps =>
      obtain rfl := Option.some.inj h
      obtain ⟨hsessions, hindexes⟩ := (Bool.and_eq_true _ _).mp hkeeps
      have hle := Nat.le_add_right s.now time
      refine ⟨fun _ hnone => absurd hnone List.not_mem_nil,
        fun k _ => Expiring.get_later hle hsessions, fun index id => ?_⟩
      have hsame : AccountStore.indexed { s with now := s.now + time } index = s.indexed index :=
        congrArg (Option.getD · []) (Expiring.get_later hle hindexes)
      rw [hsame]
      exact (or_iff_left fun ⟨_, hnone, _⟩ => absurd hnone List.not_mem_nil).symm
    · cases h

/-- A key that no login uses is as it was. -/
theorem session_unchanged {s t : AccountStore} {steps : List SessionStep} {k : String}
    (h : (sessionLogins keys).execute s steps = some t)
    (hk : ∀ login ∈ loginsOf steps, k ≠ keys.buildSession login.sessionId) :
    t.session k = s.session k := by
  induction steps generalizing s with
  | nil =>
    obtain rfl := Option.some.inj h
    rfl
  | cons step steps ih =>
    obtain ⟨s₁, hstep, hrest⟩ := System.execute_cons.mp h
    have hlater := ih hrest fun login hlogin => hk login (List.mem_append_right _ hlogin)
    exact hlater.trans ((SessionStep.step_stores hstep).2.1 k
      fun login hlogin => hk login (List.mem_append_left _ hlogin))

/-- The sessions of all logins are there. -/
theorem sessions_stored {s t : AccountStore} {steps : List SessionStep}
    (h : (sessionLogins keys).execute s steps = some t)
    (hdistinct : ((loginsOf steps).map (·.sessionId)).Nodup) :
    ∀ login ∈ loginsOf steps, (t.session (keys.buildSession login.sessionId)).isSome = true := by
  induction steps generalizing s with
  | nil => exact fun _ hnone => absurd hnone List.not_mem_nil
  | cons step steps ih =>
    obtain ⟨s₁, hstep, hrest⟩ := System.execute_cons.mp h
    have hids : ((step.logins ++ loginsOf steps).map (·.sessionId)).Nodup := hdistinct
    rw [List.map_append, List.nodup_append'] at hids
    obtain ⟨-, hlater, hdisjoint⟩ := hids
    intro login hlogin
    rcases List.mem_append.mp hlogin with hnow | hin
    · rw [session_unchanged hrest]
      · exact (SessionStep.step_stores hstep).1 login hnow
      · intro other hother hkey
        refine hdisjoint (List.mem_map_of_mem hnow) ?_
        rw [keys.session_injective hkey]
        exact List.mem_map_of_mem hother
    · exact ih hrest hlater login hin

/-- The indexes hold what they held, and the ids of the logins with a Redis client. -/
theorem sessions_indexed {s t : AccountStore} {steps : List SessionStep}
    (h : (sessionLogins keys).execute s steps = some t) (index id : String) :
    id ∈ t.indexed index ↔ id ∈ s.indexed index ∨ ∃ login ∈ loginsOf steps,
      login.ctx.redisClient = true ∧ index = login.index keys ∧ id = login.sessionId := by
  induction steps generalizing s with
  | nil =>
    obtain rfl := Option.some.inj h
    exact (or_iff_left fun ⟨_, hnone, _⟩ => absurd hnone List.not_mem_nil).symm
  | cons step steps ih =>
    obtain ⟨s₁, hstep, hrest⟩ := System.execute_cons.mp h
    rw [ih hrest, (SessionStep.step_stores hstep).2.2, or_assoc]
    refine or_congr_right ⟨?_, ?_⟩
    · rintro (⟨login, hlogin, hadded⟩ | ⟨login, hlogin, hadded⟩)
      · exact ⟨login, List.mem_append_left _ hlogin, hadded⟩
      · exact ⟨login, List.mem_append_right _ hlogin, hadded⟩
    · rintro ⟨login, hlogin, hadded⟩
      rcases List.mem_append.mp hlogin with hnow | hin
      · exact .inl ⟨login, hnow, hadded⟩
      · exact .inr ⟨login, hin, hadded⟩

-- ============================================================================
-- Revocations
-- ============================================================================

inductive Revocation where
  | revokeAllUserSessions (tenantCode : String) (targetUserId : Uuid)
  | revokeAllSessions (tenantCode : String) (userId : Uuid)
  | resetUserMfa (targetUserId : Uuid)
  | acceptInvitation (fresh : FreshCredential) (token : String)

def Revocation.run (ctx : AccountContext) : Revocation → AccountService Unit
  | .revokeAllUserSessions tenantCode targetUserId => do
    let _ ← SessionService.revokeAllUserSessions ctx tenantCode targetUserId
    pure ()
  | .revokeAllSessions tenantCode userId =>
    SessionApplicationService.revokeAllSessions ctx tenantCode userId
  | .resetUserMfa targetUserId => do
    let _ ← MfaAdminApplicationService.resetUserMfa ctx targetUserId
    pure ()
  | .acceptInvitation fresh token => do
    let _ ← InvitationApplicationService.acceptInvitation ctx fresh token
    pure ()

/-- The user whose sessions are to go. -/
def Revocation.subject (ctx : AccountContext) (s : AccountStore) :
    Revocation → Option (String × Uuid)
  | .revokeAllUserSessions tenantCode targetUserId => some (tenantCode, targetUserId)
  | .revokeAllSessions tenantCode userId => some (tenantCode, userId)
  | .resetUserMfa targetUserId => some (ctx.tenantCode, targetUserId)
  | .acceptInvitation _ token =>
    (InvitationRepository.invitationWithToken s.db (ctx.hashToken token)).bind fun invitation =>
      (UserRepository.userWithId s.db invitation.userId).map fun user =>
        (user.tenantCode, user.id)

def Revocation.isForceLogout : Revocation → Bool
  | .revokeAllUserSessions _ _ => true
  | _ => false

/-- The ids that a revocation finds in its index. -/
def Revocation.reached (ctx : AccountContext) (s : AccountStore) (subject : String × Uuid)
    (revocation : Revocation) : List String :=
  if revocation.isForceLogout then
    s.indexed (ctx.keys.buildUserSessions subject.1 subject.2 true)
  else if ctx.redisClient then
    s.indexed (ctx.keys.buildUserSessions subject.1 subject.2 false)
  else []

/-- A successful revocation takes away what it finds. -/
theorem Revocation.run_ok {ctx : AccountContext} {w w' : World AccountStore AccountError}
    {revocation : Revocation} {u : Unit} (h : revocation.run ctx w = (.ok u, w')) :
    ∃ subject, revocation.subject ctx w.state = some subject ∧
      Removes ctx w.state w'.state (revocation.reached ctx w.state subject) := by
  cases revocation with
  | revokeAllUserSessions tenantCode targetUserId =>
    obtain ⟨n, w₁, hrun, hpure⟩ := Faulty.bind_ok.mp h
    obtain ⟨-, rfl⟩ := Faulty.pure_ok.mp hpure
    exact ⟨_, rfl, revokeAllUserSessions_removes hrun⟩
  | revokeAllSessions tenantCode userId => exact ⟨_, rfl, revokeAllSessions_removes h⟩
  | resetUserMfa targetUserId =>
    obtain ⟨n, w₁, hrun, hpure⟩ := Faulty.bind_ok.mp h
    obtain ⟨-, rfl⟩ := Faulty.pure_ok.mp hpure
    exact ⟨_, rfl, resetUserMfa_removes hrun⟩
  | acceptInvitation fresh token =>
    obtain ⟨userId, w₁, hrun, hpure⟩ := Faulty.bind_ok.mp h
    obtain ⟨-, rfl⟩ := Faulty.pure_ok.mp hpure
    obtain ⟨invitation, user, hinvitation, huser, hclient, hremoves⟩ :=
      acceptInvitation_removes hrun
    refine ⟨(user.tenantCode, user.id), ?_, ?_⟩
    · rw [Revocation.subject, hinvitation, Option.bind_some, huser]
      rfl
    · unfold Revocation.reached Revocation.isForceLogout
      rw [if_neg Bool.false_ne_true, if_pos hclient]
      exact hremoves

/-- Of the logins, those with a Redis client are found, by the revocations that look where a
    login has written. -/
theorem mem_reached_iff {ctx : AccountContext} {start s : AccountStore} {steps : List SessionStep}
    {revocation : Revocation} {login : SessionLogin}
    (hrun : (sessionLogins keys).execute start steps = some s)
    (hfresh : FreshIds start (loginsOf steps)) (hlogin : login ∈ loginsOf steps) :
    login.sessionId ∈ revocation.reached (ctx.withKeys keys) s login.subject ↔
      revocation.isForceLogout = false ∧ ctx.redisClient = true ∧
        login.ctx.redisClient = true := by
  have hindexed := fun index => sessions_indexed hrun index login.sessionId
  have hold : ∀ index, login.sessionId ∈ start.indexed index ↔ False :=
    fun index => iff_false_intro (hfresh.new login hlogin index)
  unfold Revocation.reached
  cases revocation.isForceLogout with
  | true =>
    rw [if_pos rfl, hindexed, hold, false_or]
    refine iff_of_false ?_ fun h => Bool.noConfusion h.1
    rintro ⟨other, -, -, hindex, -⟩
    exact keys.hashTag_apart _ _ _ _ hindex
  | false =>
    rw [if_neg Bool.false_ne_true, and_iff_right rfl]
    cases hclient : ctx.redisClient with
    | true =>
      rw [if_pos (show (ctx.withKeys keys).redisClient = true from hclient), hindexed, hold,
        false_or, and_iff_right rfl]
      constructor
      · rintro ⟨other, hother, hotherClient, -, hid⟩
        obtain rfl := List.inj_on_of_nodup_map hfresh.distinct hlogin hother hid
        exact hotherClient
      · exact fun hloginClient => ⟨login, hlogin, hloginClient, rfl, rfl⟩
    | false =>
      rw [if_neg (show ¬(ctx.withKeys keys).redisClient = true by
        rw [AccountContext.withKeys, hclient]; exact Bool.false_ne_true)]
      exact iff_of_false List.not_mem_nil fun h => Bool.noConfusion h.1

/-- The session and its id in the index of the user's sessions go, and nothing else. -/
def RemovesExactly (ctx : AccountContext) (s s' : AccountStore) (tenantCode : String)
    (userId : Uuid) (sessionId : String) : Prop :=
  Removes ctx s s' [sessionId] ∧
    ∀ index id, id ∈ s'.indexed index ↔ id ∈ s.indexed index ∧
      ¬(index = ctx.keys.buildUserSessions tenantCode userId false ∧ id = sessionId)

/-- After any sequence of logins, a successful revocation leaves none of a user's sessions
    exactly when it is no force logout, and there was a Redis client for it and for each of
    the user's logins.  A logout removes exactly its session and index entry when the id is
    in no index. -/
theorem session_revocation_iff (keys : CacheKeyBuilder) :
    (∀ (start s : AccountStore) (steps : List SessionStep) (ctx : AccountContext)
        (revocation : Revocation) (faults : List (Option AccountError)) (u : Unit)
        (w' : World AccountStore AccountError),
        (sessionLogins keys).execute start steps = some s → FreshIds start (loginsOf steps) →
        revocation.run (ctx.withKeys keys) ⟨s, faults⟩ = (.ok u, w') →
        ((∀ login ∈ loginsOf steps,
            revocation.subject (ctx.withKeys keys) s = some login.subject →
            w'.state.session (keys.buildSession login.sessionId) = none) ↔
          ∀ login ∈ loginsOf steps,
            revocation.subject (ctx.withKeys keys) s = some login.subject →
            revocation.isForceLogout = false ∧ ctx.redisClient = true ∧
              login.ctx.redisClient = true)) ∧
      ∀ (ctx : AccountContext) (w w' : World AccountStore AccountError)
        (tenantCode sessionId : String) (userId : Uuid) (n : Nat),
        SessionService.logoutCurrentSession (ctx.withKeys keys) tenantCode userId sessionId w =
          (.ok n, w') →
        (RemovesExactly (ctx.withKeys keys) w.state w'.state tenantCode userId sessionId ↔
          ∀ useHashTag,
            sessionId ∉ w.state.indexed (keys.buildUserSessions tenantCode userId useHashTag)) := by
  constructor
  · intro start s steps ctx revocation faults u w' hrun hfresh hrevoke
    obtain ⟨subject, hsubject, hremoves⟩ := Revocation.run_ok hrevoke
    refine forall_congr' fun login => forall_congr' fun hlogin => forall_congr' fun hlogin' => ?_
    obtain rfl := Option.some.inj (hsubject.symm.trans hlogin')
    have hstored := sessions_stored hrun hfresh.distinct login hlogin
    rw [← mem_reached_iff hrun hfresh hlogin, hremoves]
    have hkey : keys.buildSession login.sessionId ∈ (revocation.reached (ctx.withKeys keys) s
        login.subject).map (ctx.withKeys keys).keys.buildSession ↔
        login.sessionId ∈ revocation.reached (ctx.withKeys keys) s login.subject := by
      constructor
      · intro hmem
        obtain ⟨id, hid, heq⟩ := List.mem_map.mp hmem
        exact keys.session_injective heq ▸ hid
      · exact fun hmem => List.mem_map_of_mem hmem
    show (if _ then _ else _) = none ↔ _
    split
    next hmem => exact iff_of_true rfl (hkey.mp hmem)
    next hmem =>
      refine iff_of_false (fun hnone => ?_) fun hreached => hmem (hkey.mpr hreached)
      rw [show s.session _ = none from hnone] at hstored
      cases hstored
  · intro ctx w w' tenantCode sessionId userId n hlogout
    obtain ⟨hremoves, hindexed⟩ := logoutCurrentSession_ok hlogout
    have hapart := keys.hashTag_apart tenantCode userId tenantCode userId
    constructor
    · rintro ⟨-, hexactly⟩ useHashTag hmem
      have hsame := (hindexed (keys.buildUserSessions tenantCode userId useHashTag)
        sessionId).symm.trans (hexactly _ _)
      cases useHashTag with
      | true => exact (hsame.mpr ⟨hmem, fun h => hapart h.1⟩).2 ⟨rfl, rfl⟩
      | false => exact (hsame.mp ⟨hmem, fun h => hapart h.1.symm⟩).2 ⟨rfl, rfl⟩
    · intro hnone
      refine ⟨hremoves, fun index id => (hindexed index id).trans (and_congr_right fun hmem => ?_)⟩
      refine iff_of_true ?_ ?_
      · rintro ⟨rfl, rfl⟩
        exact hnone true hmem
      · rintro ⟨rfl, rfl⟩
        exact hnone false hmem

-- ============================================================================
-- One login
-- ============================================================================

def sampleLogin : SessionLogin where
  ctx := acmeAccounts
  user := sampleAccount
  sessionId := "0d4c9a52-0000-4000-8000-000000000001"
  rememberMe := false

def sampleForceLogout : Revocation := .revokeAllUserSessions "acme" sampleUserId

/-- Once the user is logged in. -/
def loggedInStore : AccountStore := (sampleLogin.run sampleKeys ⟨sampleAccountStore, []⟩).2.state

theorem sampleLogin_runs : (sessionLogins sampleKeys).execute sampleAccountStore
    [.login sampleLogin []] = some loggedInStore := rfl

theorem sampleLogin_fresh :
    FreshIds sampleAccountStore (loginsOf [.login sampleLogin []]) where
  distinct := List.nodup_singleton _
  new _ _ _ := List.not_mem_nil

theorem session_revocation_iff_sample :
    ((∀ login ∈ loginsOf [.login sampleLogin []],
        sampleForceLogout.subject acmeAccounts loggedInStore = some login.subject →
        (sampleForceLogout.run acmeAccounts ⟨loggedInStore, []⟩).2.state.session
          (sampleKeys.buildSession login.sessionId) = none) ↔
      ∀ login ∈ loginsOf [.login sampleLogin []],
        sampleForceLogout.subject acmeAccounts loggedInStore = some login.subject →
        sampleForceLogout.isForceLogout = false ∧ acmeAccounts.redisClient = true ∧
          login.ctx.redisClient = true) ∧
      (RemovesExactly acmeAccounts loggedInStore
          (SessionService.logoutCurrentSession acmeAccounts "acme" sampleUserId
            sampleLogin.sessionId ⟨loggedInStore, []⟩).2.state "acme" sampleUserId
            sampleLogin.sessionId ↔
        ∀ useHashTag, sampleLogin.sessionId ∉
          loggedInStore.indexed (sampleKeys.buildUserSessions "acme" sampleUserId useHashTag)) :=
  ⟨(session_revocation_iff sampleKeys).1 sampleAccountStore loggedInStore _ acmeAccounts
      sampleForceLogout [] () _ sampleLogin_runs sampleLogin_fresh rfl,
    (session_revocation_iff sampleKeys).2 acmeAccounts ⟨loggedInStore, []⟩ _ "acme"
      sampleLogin.sessionId sampleUserId 1 rfl⟩

/-- The force logout answers that it has succeeded, and the session is still there. -/
theorem not_session_revocation :
    ¬∀ (keys : CacheKeyBuilder) (start s : AccountStore) (steps : List SessionStep)
        (ctx : AccountContext) (revocation : Revocation)
        (faults : List (Option AccountError)) (u : Unit)
        (w' : World AccountStore AccountError),
        (sessionLogins keys).execute start steps = some s → FreshIds start (loginsOf steps) →
        revocation.run (ctx.withKeys keys) ⟨s, faults⟩ = (.ok u, w') →
        ∀ login ∈ loginsOf steps,
          revocation.subject (ctx.withKeys keys) s = some login.subject →
          w'.state.session (keys.buildSession login.sessionId) = none := by
  intro h
  have hgone := h sampleKeys sampleAccountStore loggedInStore _ acmeAccounts sampleForceLogout []
    () _ sampleLogin_runs sampleLogin_fresh rfl sampleLogin (List.mem_singleton_self _) rfl
  have hthere : ((sampleForceLogout.run acmeAccounts ⟨loggedInStore, []⟩).2.state.session
      (sampleKeys.buildSession sampleLogin.sessionId)).isSome = true := by
    decide +kernel
  rw [show (sampleForceLogout.run acmeAccounts ⟨loggedInStore, []⟩).2.state.session
    (sampleKeys.buildSession sampleLogin.sessionId) = none from hgone] at hthere
  cases hthere

end AccessService.Accounts
