/-
  AccessService.Accounts.SessionIndex

  The index of a user's sessions and the lifetimes: a session lives for seven or thirty
  days, and every login gives the index the lifetime of its own session.  The index covers
  the sessions as long as each login's session outlasts the ones before it.
-/

import AccessService.Accounts.SessionRevocation

namespace AccessService.Accounts

open AccessService.Lib AccessService.Lib.Transition AccessService.Pg AccessService.Persistence
open AccessService.Authorization (Timestamp)

-- ============================================================================
-- Logins and revocations of one user
-- ============================================================================

inductive IndexStep where
  | login (ofUser : SessionLogin) (faults : List (Option AccountError))
  | revokeAllSessions (ctx : AccountContext) (faults : List (Option AccountError))
  | pass (time : Nat)

def AccountStore.at (s : AccountStore) (time : Timestamp) : AccountStore := { s with now := time }

/-- The key holds a session of the subject. -/
def AccountStore.HasSession (s : AccountStore) (subject : String × Uuid) (sessionKey : String) :
    Prop :=
  ∃ session, s.session sessionKey = some session ∧ (session.tenantCode, session.userId) = subject

/-- The logins of a user and the revocations of their sessions, however they end; and time
    passes, in which a key disappears when its time is over. -/
def sessionIndex (keys : CacheKeyBuilder) (subject : String × Uuid) :
    System AccountStore IndexStep where
  init s := ∀ sessionId, ¬s.HasSession subject (keys.buildSession sessionId)
  step s
    | .login login faults =>
      if login.subject = subject then some (login.run keys ⟨s, faults⟩).2.state else none
    | .revokeAllSessions ctx faults =>
      some (SessionApplicationService.revokeAllSessions (ctx.withKeys keys) subject.1 subject.2
        ⟨s, faults⟩).2.state
    | .pass time => some (s.at (s.now + time))

/-- Every live session of the subject is in the index. -/
def Indexed (keys : CacheKeyBuilder) (subject : String × Uuid) (s : AccountStore) : Prop :=
  ∀ sessionId, s.HasSession subject (keys.buildSession sessionId) →
    sessionId ∈ s.indexed (keys.buildUserSessions subject.1 subject.2 false)

/-- And it stays so while time passes. -/
def Covered (keys : CacheKeyBuilder) (subject : String × Uuid) (s : AccountStore) : Prop :=
  ∀ later, s.now ≤ later → Indexed keys subject (s.at later)

variable {keys : CacheKeyBuilder} {subject : String × Uuid} {s t : AccountStore}

theorem Covered.indexed (h : Covered keys subject s) : Indexed keys subject s :=
  h s.now (Nat.le_refl _)

theorem Covered.of_cache (h : Covered keys subject s) (hcache : cacheOf t = cacheOf s) :
    Covered keys subject t := by
  obtain ⟨hnow, hredis⟩ := Prod.mk.inj hcache
  intro later hle sessionId hsession
  rw [hnow] at hle
  have hat : cacheOf (t.at later) = cacheOf (s.at later) := by
    rw [cacheOf, cacheOf, AccountStore.at, AccountStore.at, hredis]
  rw [indexed_of_cache hat]
  refine h later hle sessionId ?_
  rwa [AccountStore.HasSession, session_of_cache hat] at hsession

theorem HasSession.of_later {sessionKey : String} {later : Timestamp} (hle : s.now ≤ later)
    (h : (s.at later).HasSession subject sessionKey) : s.HasSession subject sessionKey := by
  obtain ⟨session, hsession, hsubject⟩ := h
  exact ⟨session, Expiring.get_of_later hle hsession, hsubject⟩

-- ============================================================================
-- A login
-- ============================================================================

/-- The cache once a session is stored and indexed. -/
def Redis.withSession (ctx : AccountContext) (user : UserRow) (sessionId : String)
    (employee : Option SessionEmployee) (now expiresAt : Timestamp) (redis : Redis) : Redis :=
  let index := ctx.keys.buildUserSessions user.tenantCode user.id false
  (((redis.setSession (ctx.keys.buildSession sessionId)
    { sessionId := sessionId, userId := user.id, tenantCode := user.tenantCode,
      employee := employee } expiresAt).add now index sessionId).expireIndex now index expiresAt)

section Login

variable {ctx : AccountContext} {user : UserRow} {sessionId : String} {rememberMe : Bool}
  {w w' : World AccountStore AccountError}

/-- Unless the SADD or the EXPIRE runs into something, a session is stored and indexed or
    nothing has happened. -/
theorem storeSession_cases {employee : Option SessionEmployee} {r : Except AccountError Unit}
    (hclient : ctx.redisClient = true) (hadd : ¬Faulty.ThrowsAt w 1)
    (hexpire : ¬Faulty.ThrowsAt w 2)
    (h : AuthApplicationService.storeSession ctx user sessionId employee rememberMe w = (r, w')) :
    w'.state = w.state ∨ w'.state = { w.state with
      redis := w.state.redis.withSession ctx user sessionId employee w.state.now
        (w.state.now + seconds (AuthApplicationService.sessionTtlSeconds rememberMe)) } := by
  rcases Faulty.bind_cases h with ⟨e, hset, -⟩ | ⟨u, w₁, hset, hrest⟩
  · exact .inl (writeRedis_error hset)
  · rw [Faulty.when, if_pos hclient] at hrest
    rcases Faulty.bind_cases hrest with ⟨e, hsadd, -⟩ | ⟨u₂, w₂, hsadd, hrest⟩
    · have hthrows := Faulty.write_error_throwsAt hsadd
      exact absurd ((writeRedis_throwsAt hset).mp hthrows) hadd
    · rcases r with e | u₃
      · have hthrows := Faulty.write_error_throwsAt hrest
        have hthrows₁ := (writeRedis_throwsAt hsadd).mp hthrows
        exact absurd ((writeRedis_throwsAt hset).mp hthrows₁) hexpire
      · refine .inr ?_
        rw [writeRedis_ok hrest, writeRedis_ok hsadd, writeRedis_ok hset]
        rfl

/-- How many calls a login makes before it stores its session. -/
def UserRow.callsBefore (user : UserRow) : Nat := if user.employeeRefId.isSome then 1 else 0

theorem findSessionEmployee_throwsAt {r : Except AccountError (Option SessionEmployee)} {i : Nat}
    (h : AuthApplicationService.findSessionEmployee ctx user w = (r, w')) :
    Faulty.ThrowsAt w' i ↔ Faulty.ThrowsAt w (user.callsBefore + i) := by
  unfold AuthApplicationService.findSessionEmployee at h
  unfold UserRow.callsBefore
  rcases hemployee : user.employeeRefId with _ | employeeRefId
  · simp only [hemployee] at h
    rw [← (Prod.mk.inj h).2, Option.isSome_none, if_neg Bool.false_ne_true, Nat.zero_add]
  · simp only [hemployee] at h
    rw [Option.isSome_some, if_pos rfl, Nat.add_comm]
    rcases Faulty.bind_cases h with ⟨e, hfind, -⟩ | ⟨employee, w₁, hfind, hpure⟩
    · exact readDb_throwsAt hfind
    · rw [← (Prod.mk.inj hpure).2]
      exact readDb_throwsAt hfind

theorem login_cases {r : Except AccountError Unit} (hclient : ctx.redisClient = true)
    (hadd : ¬Faulty.ThrowsAt w (user.callsBefore + 1))
    (hexpire : ¬Faulty.ThrowsAt w (user.callsBefore + 2))
    (h : AuthApplicationService.storeSessionAndLogSuccess ctx user sessionId rememberMe w =
      (r, w')) :
    cacheOf w'.state = cacheOf w.state ∨ ∃ employee, cacheOf w'.state = (w.state.now,
      w.state.redis.withSession ctx user sessionId employee w.state.now
        (w.state.now + seconds (AuthApplicationService.sessionTtlSeconds rememberMe))) := by
  rcases Faulty.bind_cases h with ⟨e, hfind, -⟩ | ⟨employee, w₁, hfind, hrest⟩
  · exact .inl (findSessionEmployee_cache.ok hfind)
  · have hcache₁ : cacheOf w₁.state = cacheOf w.state := findSessionEmployee_cache.ok hfind
    obtain ⟨hnow, hredis⟩ := Prod.mk.inj hcache₁
    rw [← findSessionEmployee_throwsAt hfind] at hadd hexpire
    have hstored : ∀ {r₂ : Except AccountError Unit} {w₂ : World AccountStore AccountError},
        AuthApplicationService.storeSession ctx user sessionId employee rememberMe w₁ =
          (r₂, w₂) →
        cacheOf w₂.state = cacheOf w.state ∨ ∃ employee, cacheOf w₂.state = (w.state.now,
          w.state.redis.withSession ctx user sessionId employee w.state.now
            (w.state.now + seconds (AuthApplicationService.sessionTtlSeconds rememberMe))) := by
      intro r₂ w₂ hstore
      rcases storeSession_cases hclient hadd hexpire hstore with hsame | hnew
      · exact .inl ((congrArg cacheOf hsame).trans hcache₁)
      · refine .inr ⟨employee, ?_⟩
        rw [hnew, cacheOf, hnow, hredis]
    have hcaught : ∀ {r₂ : Except AccountError Unit} {w₂ : World AccountStore AccountError},
        Faulty.tryCatch (AuthApplicationService.storeSession ctx user sessionId employee
          rememberMe) (fun _ => .throw AuthStoreUnavailableError) w₁ = (r₂, w₂) →
        ∃ r₃, AuthApplicationService.storeSession ctx user sessionId employee rememberMe w₁ =
          (r₃, w₂) := by
      intro r₂ w₂ htry
      rcases Faulty.tryCatch_cases htry with ⟨a, hstore, -⟩ | ⟨e, w₃, hstore, hthrow⟩
      · exact ⟨_, hstore⟩
      · rw [← (Prod.mk.inj hthrow).2]
        exact ⟨_, hstore⟩
    rcases Faulty.bind_cases hrest with ⟨e, htry, -⟩ | ⟨u, w₂, htry, hlog⟩
    · obtain ⟨r₃, hstore⟩ := hcaught htry
      exact hstored hstore
    · obtain ⟨r₃, hstore⟩ := hcaught htry
      have hcache₂ : cacheOf w'.state = cacheOf w₂.state := log_cache.ok hlog
      rw [hcache₂]
      exact hstored hstore

end Login

/-- No session of the subject is there at some time from now on. -/
def NoneOutlasts (keys : CacheKeyBuilder) (subject : String × Uuid) (s : AccountStore)
    (expiresAt : Timestamp) : Prop :=
  ∀ later, expiresAt ≤ later → ∀ sessionId,
    ¬(s.at later).HasSession subject (keys.buildSession sessionId)

/-- A session that outlasts the others, in an index that lasts as long, covers them all. -/
theorem Covered.withSession {ctx : AccountContext} {user : UserRow} {sessionId : String}
    {employee : Option SessionEmployee} {ttl : Nat} (h : Covered keys subject s)
    (hkeys : ctx.keys = keys) (hsubject : (user.tenantCode, user.id) = subject)
    (hnone : NoneOutlasts keys subject s (s.now + ttl))
    (hcache : cacheOf t = (s.now, s.redis.withSession ctx user sessionId employee s.now
      (s.now + ttl))) :
    Covered keys subject t := by
  obtain ⟨hnow, hredis⟩ := Prod.mk.inj hcache
  subst hkeys hsubject
  intro later hle id hlive
  rw [hnow] at hle
  have hsessions : (t.at later).session (ctx.keys.buildSession id) =
      if ctx.keys.buildSession id = ctx.keys.buildSession sessionId then
        (if later < s.now + ttl then some ⟨sessionId, user.id, user.tenantCode, employee⟩
        else none)
      else (s.at later).session (ctx.keys.buildSession id) := by
    rw [AccountStore.session, AccountStore.at, hredis]
    show (s.redis.sessions.set _ _ _).get later _ = _
    rw [Expiring.get_set]
    simp only [ExpiringEntry.live, decide_eq_true_eq]
    rfl
  have hindexed : id ∈ (t.at later).indexed
      (ctx.keys.buildUserSessions user.tenantCode user.id false) ↔ later < s.now + ttl ∧
        (id ∈ s.indexed (ctx.keys.buildUserSessions user.tenantCode user.id false) ∨
          id = sessionId) := by
    rw [AccountStore.indexed, AccountStore.at, hredis]
    show id ∈ ((((s.redis.userSessions.update s.now _ _).expire s.now _ _).get later _).getD [])
      ↔ _
    rw [Expiring.get_update_expire, if_pos rfl]
    split
    next hlt =>
      rw [Option.getD_some, mem_added, and_iff_right hlt]
      rfl
    next hge => exact iff_of_false List.not_mem_nil fun hand => hge hand.1
  rw [hindexed]
  obtain ⟨session, hsession, hmine⟩ := hlive
  rw [hsessions] at hsession
  split at hsession
  next hkey =>
    split at hsession
    next hlt => exact ⟨hlt, .inr (ctx.keys.session_injective hkey)⟩
    · cases hsession
  · have hold : (s.at later).HasSession (user.tenantCode, user.id) (ctx.keys.buildSession id) :=
      ⟨session, hsession, hmine⟩
    refine ⟨?_, .inl (h.indexed id (HasSession.of_later hle hold))⟩
    by_contra hge
    exact hnone later (Nat.le_of_not_lt hge) id hold

-- ============================================================================
-- A revocation
-- ============================================================================

theorem deleteIndexed_cases {ctx : AccountContext} {index : String} {r : Except AccountError Unit}
    {w w' : World AccountStore AccountError} (h : deleteIndexed ctx index w = (r, w')) :
    w'.state = w.state ∨ w'.state = { w.state with
      redis := w.state.redis.deleteAll ((w.state.indexed index).map ctx.keys.buildSession)
        index } := by
  rcases Faulty.bind_cases h with ⟨e, hread, -⟩ | ⟨sessionIds, w₁, hread, hrest⟩
  · unfold smembers Faulty.read at hread
    exact .inl (Faulty.call_error hread)
  · obtain ⟨hval, hstate⟩ : sessionIds = w.state.indexed index ∧ w₁.state = w.state :=
      Faulty.read_ok hread
    subst hval
    unfold Faulty.when at hrest
    split at hrest
    · rcases r with e | u
      · exact .inl ((writeRedis_error hrest).trans hstate)
      · refine .inr ?_
        rw [writeRedis_ok hrest, hstate]
    · rw [← (Prod.mk.inj hrest).2]
      exact .inl hstate

/-- Once the sessions in a covering index are deleted, the subject has none. -/
theorem noSession_of_deleteAll (h : Covered keys subject s)
    (ht : t = { s with
      redis := s.redis.deleteAll
        ((s.indexed (keys.buildUserSessions subject.1 subject.2 false)).map keys.buildSession)
        (keys.buildUserSessions subject.1 subject.2 false) })
    {later : Timestamp} (hle : s.now ≤ later) (sessionId : String) :
    ¬(t.at later).HasSession subject (keys.buildSession sessionId) := by
  rintro ⟨session, hsession, hmine⟩
  subst ht
  have herased : (s.redis.sessions.eraseAll ((s.indexed (keys.buildUserSessions subject.1 subject.2
      false)).map keys.buildSession)).get later (keys.buildSession sessionId) = some session :=
    hsession
  rw [Expiring.get_eraseAll] at herased
  split at herased
  · cases herased
  next hkept =>
    have hold : (s.at later).HasSession subject (keys.buildSession sessionId) :=
      ⟨session, herased, hmine⟩
    exact hkept (List.mem_map_of_mem (h.indexed sessionId (HasSession.of_later hle hold)))

theorem Covered.revoke {ctx : AccountContext} {faults : List (Option AccountError)}
    (h : Covered keys subject s) :
    Covered keys subject (SessionApplicationService.revokeAllSessions (ctx.withKeys keys)
      subject.1 subject.2 ⟨s, faults⟩).2.state := by
  rcases hrun : SessionApplicationService.revokeAllSessions (ctx.withKeys keys) subject.1
    subject.2 ⟨s, faults⟩ with ⟨r, w'⟩
  show Covered keys subject w'.state
  unfold SessionApplicationService.revokeAllSessions Faulty.when at hrun
  split at hrun
  · rcases deleteIndexed_cases hrun with hsame | hdeleted
    · rw [hsame]
      exact h
    · intro later hle sessionId hsession
      rw [hdeleted] at hle
      exact absurd hsession (noSession_of_deleteAll h hdeleted hle sessionId)
  · rw [← (Prod.mk.inj hrun).2]
    exact h

-- ============================================================================
-- Runs
-- ============================================================================

/-- A login has a Redis client, neither its SADD nor its EXPIRE runs into something, and no
    live session of the subject outlasts the new one. -/
def KeepsIndex (keys : CacheKeyBuilder) (subject : String × Uuid) (s : AccountStore) :
    IndexStep → AccountStore → Prop
  | .login login faults, _ =>
    login.ctx.redisClient = true ∧
      ¬Faulty.ThrowsAt (⟨s, faults⟩ : World AccountStore AccountError)
        (login.user.callsBefore + 1) ∧
      ¬Faulty.ThrowsAt (⟨s, faults⟩ : World AccountStore AccountError)
        (login.user.callsBefore + 2) ∧
      NoneOutlasts keys subject s
        (s.now + seconds (AuthApplicationService.sessionTtlSeconds login.rememberMe))
  | _, _ => True

theorem sessionIndex_step {step : IndexStep} (h : Covered keys subject s)
    (hstep : (sessionIndex keys subject).step s step = some t)
    (hkeeps : KeepsIndex keys subject s step t) : Covered keys subject t := by
  cases step with
  | login login faults =>
    simp only [sessionIndex] at hstep
    split at hstep
    next hsubject =>
      obtain rfl := Option.some.inj hstep
      obtain ⟨hclient, hadd, hexpire, hnone⟩ := hkeeps
      rcases hrun : login.run keys ⟨s, faults⟩ with ⟨r, w'⟩
      have hclient' : (login.ctx.withKeys keys).redisClient = true := hclient
      rcases login_cases hclient' hadd hexpire hrun with hsame | ⟨employee, hstored⟩
      · exact h.of_cache hsame
      · exact h.withSession rfl hsubject hnone hstored
    · cases hstep
  | revokeAllSessions ctx faults =>
    obtain rfl := Option.some.inj hstep
    exact h.revoke
  | pass time =>
    obtain rfl := Option.some.inj hstep
    exact fun later hle => h later (Nat.le_trans (Nat.le_add_right _ _) hle)

theorem covered_init (h : (sessionIndex keys subject).init s) : Covered keys subject s :=
  fun _ hle sessionId hsession => absurd (HasSession.of_later hle hsession) (h sessionId)

/-- In a run whose logins all keep the index, every live session of the user is in it, and a
    revocation that succeeds leaves none. -/
theorem live_sessions_indexed (keys : CacheKeyBuilder) (subject : String × Uuid)
    {start s : AccountStore} {steps : List IndexStep}
    (hinit : (sessionIndex keys subject).init start)
    (hrun : (sessionIndex keys subject).execute start steps = some s)
    (hkeeps : (sessionIndex keys subject).Along (KeepsIndex keys subject) start steps) :
    Indexed keys subject s ∧
      ∀ (ctx : AccountContext) (faults : List (Option AccountError)) (u : Unit)
        (w' : World AccountStore AccountError), ctx.redisClient = true →
        SessionApplicationService.revokeAllSessions (ctx.withKeys keys) subject.1 subject.2
          ⟨s, faults⟩ = (.ok u, w') →
        ∀ sessionId, ¬w'.state.HasSession subject (keys.buildSession sessionId) := by
  have hcovered : Covered keys subject s :=
    System.Along.invariant (fun s i t hs hst hq => sessionIndex_step hs hst hq)
      (covered_init hinit) hrun hkeeps
  refine ⟨hcovered.indexed, fun ctx faults u w' hclient hrevoke sessionId => ?_⟩
  have hremoves := revokeAllSessions_removes hrevoke
  rw [if_pos (show (ctx.withKeys keys).redisClient = true from hclient)] at hremoves
  rintro ⟨session, hsession, hmine⟩
  rw [hremoves] at hsession
  split at hsession
  · cases hsession
  next hkept =>
    exact hkept (List.mem_map_of_mem (hcovered.indexed sessionId ⟨session, hsession, hmine⟩))

-- ============================================================================
-- A long and a short session
-- ============================================================================

def rememberedLogin : SessionLogin :=
  { sampleLogin with sessionId := "0d4c9a52-0000-4000-8000-000000000002", rememberMe := true }

/-- A login for thirty days, one for seven days, and seven days pass. -/
def longThenShort : List IndexStep :=
  [.login rememberedLogin [], .login sampleLogin [], .pass (seconds 604800)]

theorem sampleAccountStore_noSession :
    (sessionIndex sampleKeys ("acme", sampleUserId)).init sampleAccountStore := by
  rintro sessionId ⟨session, hnone, -⟩
  cases hnone

/-- A login for seven days alone keeps the index. -/
theorem live_sessions_indexed_sample :
    Indexed sampleKeys ("acme", sampleUserId) loggedInStore ∧
      ∀ (ctx : AccountContext) (faults : List (Option AccountError)) (u : Unit)
        (w' : World AccountStore AccountError), ctx.redisClient = true →
        SessionApplicationService.revokeAllSessions (ctx.withKeys sampleKeys) "acme" sampleUserId
          ⟨loggedInStore, faults⟩ = (.ok u, w') →
        ∀ sessionId,
          ¬w'.state.HasSession ("acme", sampleUserId) (sampleKeys.buildSession sessionId) :=
  have hrun : (sessionIndex sampleKeys ("acme", sampleUserId)).execute sampleAccountStore
      [.login sampleLogin []] = some loggedInStore := rfl
  live_sessions_indexed sampleKeys ("acme", sampleUserId) sampleAccountStore_noSession hrun
    (fun _ _ => ⟨⟨rfl, by decide, by decide, fun _ _ _ ⟨_, hnone, _⟩ => nomatch hnone⟩, trivial⟩)

/-- The index is gone, the session for thirty days is not. -/
theorem not_live_sessions_indexed :
    ¬∀ (keys : CacheKeyBuilder) (subject : String × Uuid) (start s : AccountStore)
        (steps : List IndexStep), (sessionIndex keys subject).init start →
        (sessionIndex keys subject).execute start steps = some s → Indexed keys subject s := by
  intro h
  rcases hrun : (sessionIndex sampleKeys ("acme", sampleUserId)).execute sampleAccountStore
    longThenShort with _ | s
  · cases hrun
  · have hindexed := h sampleKeys ("acme", sampleUserId) sampleAccountStore s longThenShort
      sampleAccountStore_noSession hrun rememberedLogin.sessionId
    obtain rfl := Option.some.inj hrun
    have hmem := hindexed ⟨_, rfl, rfl⟩
    exact absurd hmem (by decide +kernel)

end AccessService.Accounts
