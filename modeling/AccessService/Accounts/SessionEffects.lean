/-
  AccessService.Accounts.SessionEffects

  What a login, a logout and the revocations do to the sessions in the cache and to the
  indexes of their ids.
-/

import AccessService.Accounts.AccountEffects

namespace AccessService.Accounts

open AccessService.Lib AccessService.Pg AccessService.Persistence
open AccessService.Authorization (Timestamp)

variable {w w' : World AccountStore AccountError} {ctx : AccountContext}

-- ============================================================================
-- Sessions and indexes
-- ============================================================================

def AccountStore.session (s : AccountStore) (sessionKey : String) : Option AuthContext :=
  s.redis.sessions.get s.now sessionKey

def AccountStore.indexed (s : AccountStore) (index : String) : List String :=
  s.redis.members s.now index

/-- The clock and the cache. -/
def cacheOf (s : AccountStore) : Timestamp × Redis := (s.now, s.redis)

theorem session_of_cache {s s' : AccountStore} (h : cacheOf s' = cacheOf s) :
    s'.session = s.session := by
  obtain ⟨hnow, hredis⟩ := Prod.mk.inj h
  funext k
  rw [AccountStore.session, AccountStore.session, hnow, hredis]

theorem indexed_of_cache {s s' : AccountStore} (h : cacheOf s' = cacheOf s) :
    s'.indexed = s.indexed := by
  obtain ⟨hnow, hredis⟩ := Prod.mk.inj h
  funext k
  rw [AccountStore.indexed, AccountStore.indexed, hnow, hredis]

theorem mem_added {sessionId id : String} {sessionIds : Option (List String)} :
    id ∈ Redis.added sessionId sessionIds ↔ id ∈ sessionIds.getD [] ∨ id = sessionId := by
  unfold Redis.added
  split
  next hmem =>
    refine (or_iff_left_of_imp ?_).symm
    rintro rfl
    exact hmem
  · rw [List.mem_append, List.mem_singleton]

theorem members_add {now : Timestamp} {redis : Redis} {index index' sessionId id : String} :
    id ∈ (redis.add now index sessionId).members now index' ↔
      id ∈ redis.members now index' ∨ (index' = index ∧ id = sessionId) := by
  unfold Redis.members Redis.add
  rw [Expiring.get_update]
  split
  next heq =>
    rw [Option.getD_some, mem_added, heq, and_iff_right rfl]
  next hne => exact (or_iff_left fun h => hne h.1).symm

theorem members_remove {now : Timestamp} {redis : Redis} {index index' sessionId id : String} :
    id ∈ (redis.remove now index sessionId).members now index' ↔
      id ∈ redis.members now index' ∧ ¬(index' = index ∧ id = sessionId) := by
  have hkept : index' = index → (id ∈ (redis.members now index).filter (· ≠ sessionId) ↔
      id ∈ redis.members now index' ∧ ¬(index' = index ∧ id = sessionId)) := by
    rintro rfl
    simp
  unfold Redis.remove
  split
  next hempty =>
    show id ∈ ((redis.userSessions.erase index).get now index').getD [] ↔ _
    rw [Expiring.get_erase]
    split
    next heq =>
      rw [← hkept heq, hempty, Option.getD_none]
    next hne => exact (and_iff_left fun h => hne h.1).symm
  · show id ∈ ((redis.userSessions.update now index _).get now index').getD [] ↔ _
    rw [Expiring.get_update]
    split
    next heq => rw [Option.getD_some, hkept heq]
    next hne => exact (and_iff_left fun h => hne h.1).symm

theorem sessions_remove {now : Timestamp} {redis : Redis} {index sessionId : String} :
    (redis.remove now index sessionId).sessions = redis.sessions := by
  unfold Redis.remove
  split <;> rfl

-- ============================================================================
-- Calls that leave the cache alone
-- ============================================================================

theorem readDb_cache {α : Type} {f : AccountDatabase → α} : Faulty.Leaves cacheOf (readDb f) :=
  Faulty.leaves_read _

theorem writeDb_cache {f : AccountDatabase → Option AccountDatabase} :
    Faulty.Leaves cacheOf (writeDb f) :=
  writeDb_leaves fun _ _ _ => rfl

theorem clock_cache : Faulty.Leaves cacheOf clock := fun _ => rfl

theorem required_cache {α : Type} {f : AccountDatabase → Option α} :
    Faulty.Leaves cacheOf (required (readDb f)) :=
  required_leaves

theorem log_cache {tenantCode eventType : String} {userId : Option Uuid} :
    Faulty.Leaves cacheOf (SecurityEventService.log tenantCode userId eventType) :=
  writeDb_cache

theorem setPassword_cache {userId : Uuid} {hashed : FreshCredential} :
    Faulty.Leaves cacheOf (InvitationApplicationService.setPassword ctx userId hashed) := by
  refine readDb_cache.bind fun credential => ?_
  cases credential with
  | none => exact clock_cache.bind fun _ => writeDb_cache
  | some existing => exact clock_cache.bind fun _ => writeDb_cache

theorem increment_cache {condition : UserRow → Bool} :
    Faulty.Leaves cacheOf (UserRepository.increment condition) := by
  refine Faulty.leaves_call fun s n s' h => ?_
  split at h
  · obtain ⟨-, rfl⟩ := Prod.mk.inj (Except.ok.inj h)
    rfl
  · split at h
    · cases h
    · obtain ⟨-, rfl⟩ := Prod.mk.inj (Except.ok.inj h)
      rfl

theorem update_cache {id : Uuid} {change : UserUpdate} :
    Faulty.Leaves cacheOf (UserRepository.update id change) := by
  unfold UserRepository.update UserRepository.overwrite
  exact writeDb_cache

theorem findSessionEmployee_cache {user : UserRow} :
    Faulty.Leaves cacheOf (AuthApplicationService.findSessionEmployee ctx user) := by
  unfold AuthApplicationService.findSessionEmployee
  split
  · exact Faulty.leaves_pure _
  · exact readDb_cache.bind fun _ => Faulty.leaves_pure _

-- ============================================================================
-- A login
-- ============================================================================

theorem seconds_pos {rememberMe : Bool} :
    0 < seconds (AuthApplicationService.sessionTtlSeconds rememberMe) := by
  cases rememberMe <;> decide

/-- The session is stored, and with a Redis client its id is in the index without the hash
    tag; other sessions and indexes are the same. -/
structure StoresSession (ctx : AccountContext) (user : UserRow) (sessionId : String)
    (s s' : AccountStore) : Prop where
  stored : (s'.session (ctx.keys.buildSession sessionId)).isSome = true
  others : ∀ k, k ≠ ctx.keys.buildSession sessionId → s'.session k = s.session k
  indexed : ∀ index id, id ∈ s'.indexed index ↔ id ∈ s.indexed index ∨
    (ctx.redisClient = true ∧
      index = ctx.keys.buildUserSessions user.tenantCode user.id false ∧ id = sessionId)

theorem storeSession_ok {user : UserRow} {sessionId : String} {employee : Option SessionEmployee}
    {rememberMe : Bool} {u : Unit}
    (h : AuthApplicationService.storeSession ctx user sessionId employee rememberMe w =
      (.ok u, w')) :
    StoresSession ctx user sessionId w.state w'.state := by
  obtain ⟨u₁, w₁, hset, hrest⟩ := Faulty.bind_ok.mp h
  have hstate₁ := writeRedis_ok hset
  have hsession : ∀ k, w₁.state.session k = if k = ctx.keys.buildSession sessionId then
      some ⟨sessionId, user.id, user.tenantCode, employee⟩ else w.state.session k := by
    intro k
    rw [AccountStore.session, AccountStore.session, hstate₁]
    split
    next heq =>
      rw [heq]
      exact Expiring.get_set_ttl seconds_pos
    next hne => exact Expiring.get_set_other hne
  have hindexed : w₁.state.indexed = w.state.indexed := by
    funext index
    rw [AccountStore.indexed, AccountStore.indexed, hstate₁]
    rfl
  have hstored : (w₁.state.session (ctx.keys.buildSession sessionId)).isSome = true := by
    rw [hsession, if_pos rfl]
    rfl
  have hothers : ∀ k, k ≠ ctx.keys.buildSession sessionId →
      w₁.state.session k = w.state.session k := fun k hk => by rw [hsession, if_neg hk]
  rcases Faulty.when_ok hrest with ⟨hclient, hindex⟩ | ⟨hclient, rfl⟩
  · obtain ⟨u₂, w₂, hadd, hexpire⟩ := Faulty.bind_ok.mp hindex
    have hstate₂ := writeRedis_ok hadd
    have hstate₃ := writeRedis_ok hexpire
    have hsame : w'.state.session = w₁.state.session := by
      funext k
      rw [AccountStore.session, AccountStore.session, hstate₃, hstate₂]
      rfl
    rw [← hsame] at hstored hothers
    refine ⟨hstored, hothers, fun index id => ?_⟩
    have hkept : w'.state.indexed index = w₂.state.indexed index := by
      rw [AccountStore.indexed, AccountStore.indexed, hstate₃]
      exact congrArg (Option.getD · []) (Expiring.get_expire seconds_pos)
    rw [hkept, ← hindexed, AccountStore.indexed, hstate₂]
    exact members_add.trans (or_congr_right (and_iff_right hclient).symm)
  · refine ⟨hstored, hothers, fun index id => ?_⟩
    rw [hindexed]
    exact (or_iff_left fun h => hclient h.1).symm

theorem storeSessionAndLogSuccess_ok {user : UserRow} {sessionId : String} {rememberMe : Bool}
    {u : Unit}
    (h : AuthApplicationService.storeSessionAndLogSuccess ctx user sessionId rememberMe w =
      (.ok u, w')) :
    StoresSession ctx user sessionId w.state w'.state := by
  obtain ⟨employee, w₁, hemployee, hrest⟩ := Faulty.bind_ok.mp h
  obtain ⟨u₂, w₂, hstore, hlog⟩ := Faulty.bind_ok.mp hrest
  have hcache₁ := findSessionEmployee_cache.ok hemployee
  have hcache₂ := log_cache.ok hlog
  obtain ⟨hstored, hothers, hindexed⟩ := storeSession_ok (Faulty.tryCatch_throw_ok hstore)
  rw [session_of_cache hcache₁] at hothers
  rw [indexed_of_cache hcache₁] at hindexed
  refine ⟨?_, ?_, ?_⟩
  · rwa [session_of_cache hcache₂]
  · rwa [session_of_cache hcache₂]
  · rwa [indexed_of_cache hcache₂]

-- ============================================================================
-- Revocations
-- ============================================================================

/-- The sessions with the ids are gone, the others are the same. -/
def Removes (ctx : AccountContext) (s s' : AccountStore) (sessionIds : List String) : Prop :=
  ∀ k, s'.session k = if k ∈ sessionIds.map ctx.keys.buildSession then none else s.session k

theorem Removes.of_session {s₀ s s' s₁ : AccountStore} {sessionIds : List String}
    (h : Removes ctx s s' sessionIds) (hpre : s.session = s₀.session)
    (hpost : s₁.session = s'.session) : Removes ctx s₀ s₁ sessionIds := by
  intro k
  rw [hpost, h k, hpre]

theorem removes_none {s : AccountStore} : Removes ctx s s [] := fun _ => rfl

theorem deleteIndexed_removes {index : String} {u : Unit}
    (h : deleteIndexed ctx index w = (.ok u, w')) :
    Removes ctx w.state w'.state (w.state.indexed index) := by
  obtain ⟨sessionIds, w₁, hread, hrest⟩ := Faulty.bind_ok.mp h
  obtain ⟨hval, hstate₁⟩ : sessionIds = w.state.indexed index ∧ w₁.state = w.state :=
    Faulty.read_ok hread
  subst hval
  rcases Faulty.when_ok hrest with ⟨-, hdelete⟩ | ⟨hempty, rfl⟩
  · have hstate₂ := writeRedis_ok hdelete
    rw [hstate₁] at hstate₂
    intro k
    rw [AccountStore.session, AccountStore.session, hstate₂]
    exact Expiring.get_eraseAll
  · rw [not_not.mp hempty, hstate₁]
    exact removes_none

theorem revokeAllSessions_removes {tenantCode : String} {userId : Uuid} {u : Unit}
    (h : SessionApplicationService.revokeAllSessions ctx tenantCode userId w = (.ok u, w')) :
    Removes ctx w.state w'.state
      (if ctx.redisClient then w.state.indexed (ctx.keys.buildUserSessions tenantCode userId false)
      else []) := by
  rcases Faulty.when_ok h with ⟨hclient, hdelete⟩ | ⟨hclient, rfl⟩
  · rw [if_pos hclient]
    exact deleteIndexed_removes hdelete
  · rw [if_neg hclient]
    exact removes_none

theorem deleteChallengeOf_session {userId : Uuid} {key : String} :
    Faulty.Leaves AccountStore.session
      (InvitationApplicationService.deleteChallengeOf ctx userId key) := by
  refine (Faulty.leaves_read _).bind fun challenge => ?_
  cases challenge with
  | none => exact Faulty.leaves_pure ()
  | some challenge => exact Faulty.leaves_when (Faulty.leaves_write fun _ => rfl)

theorem revokeSessionsAndChallenges_removes {tenantCode : String} {userId : Uuid} {u : Unit}
    (h : InvitationApplicationService.revokeSessionsAndChallenges ctx tenantCode userId w =
      (.ok u, w')) :
    ctx.redisClient = true ∧ Removes ctx w.state w'.state
      (w.state.indexed (ctx.keys.buildUserSessions tenantCode userId false)) := by
  unfold InvitationApplicationService.revokeSessionsAndChallenges at h
  split at h
  next hclient =>
    obtain ⟨u₁, w₁, hdelete, hrest⟩ := Faulty.bind_ok.mp (Faulty.tryCatch_throw_ok h)
    have hkept : Faulty.Leaves AccountStore.session (do
        let challengeKeys ← (Faulty.read fun s => s.redis.mfaChallenges.keys s.now :
          AccountService (List String))
        Faulty.forEach (InvitationApplicationService.deleteChallengeOf ctx userId)
          challengeKeys) :=
      (Faulty.leaves_read _).bind fun keys =>
        Faulty.leaves_forEach (fun _ => deleteChallengeOf_session) keys
    exact ⟨hclient, (deleteIndexed_removes hdelete).of_session rfl (hkept.ok hrest)⟩
  · exact absurd h Faulty.throw_ok

theorem acceptInvitation_removes {fresh : FreshCredential} {token : String} {userId : Uuid}
    (h : InvitationApplicationService.acceptInvitation ctx fresh token w = (.ok userId, w')) :
    ∃ invitation user,
      InvitationRepository.invitationWithToken w.state.db (ctx.hashToken token) =
        some invitation ∧
      UserRepository.userWithId w.state.db invitation.userId = some user ∧
      ctx.redisClient = true ∧ Removes ctx w.state w'.state
        (w.state.indexed (ctx.keys.buildUserSessions user.tenantCode user.id false)) := by
  obtain ⟨invitation, w₁, hfind, hrest⟩ := Faulty.bind_ok.mp (runInTransaction_ok.mp h)
  obtain ⟨hinvitation, hstate₁⟩ := readDb_ok (required_ok.mp hfind)
  obtain ⟨now, w₂, hclock, hrest⟩ := Faulty.bind_ok.mp hrest
  obtain ⟨rfl, rfl⟩ := clock_ok hclock
  split at hrest
  · exact absurd hrest Faulty.throw_ok
  · obtain ⟨user, w₃, huser, hrest⟩ := Faulty.bind_ok.mp hrest
    obtain ⟨hsome, hstate₃⟩ := readDb_ok (required_ok.mp huser)
    obtain ⟨hashed, w₄, hhash, hrest⟩ := Faulty.bind_ok.mp hrest
    obtain ⟨u₅, w₅, hpassword, hrest⟩ := Faulty.bind_ok.mp hrest
    obtain ⟨acceptedAt, w₆, hclock, hrest⟩ := Faulty.bind_ok.mp hrest
    obtain ⟨u₇, w₇, hupdate, hrest⟩ := Faulty.bind_ok.mp hrest
    obtain ⟨u₈, w₈, hactivate, hrest⟩ := Faulty.bind_ok.mp hrest
    obtain ⟨u₉, w₉, hlog, hrest⟩ := Faulty.bind_ok.mp hrest
    obtain ⟨u', w'', hrevoke, hpure⟩ := Faulty.bind_ok.mp hrest
    obtain ⟨-, rfl⟩ := Faulty.pure_ok.mp hpure
    have hcache : cacheOf w₉.state = cacheOf w.state :=
      calc cacheOf w₉.state = cacheOf w₈.state := log_cache.ok hlog
        _ = cacheOf w₇.state := update_cache.ok hactivate
        _ = cacheOf w₆.state := writeDb_cache.ok hupdate
        _ = cacheOf w₅.state := clock_cache.ok hclock
        _ = cacheOf w₄.state := setPassword_cache.ok hpassword
        _ = cacheOf w₃.state := (Faulty.leaves_read _).ok hhash
        _ = cacheOf w.state := congrArg cacheOf (hstate₃.trans hstate₁)
    obtain ⟨hclient, hremoves⟩ := revokeSessionsAndChallenges_removes hrevoke
    rw [hstate₁] at hsome
    rw [indexed_of_cache hcache] at hremoves
    exact ⟨invitation, user, hinvitation.symm, hsome.symm, hclient,
      hremoves.of_session (session_of_cache hcache) rfl⟩

theorem deleteOneByOne_removes {index : String} {sessionIds : List String} {u : Unit}
    (h : MfaAdminApplicationService.deleteOneByOne ctx index sessionIds w = (.ok u, w')) :
    Removes ctx w.state w'.state sessionIds := by
  obtain ⟨u₁, w₁, heach, hindex⟩ := Faulty.bind_ok.mp h
  have hstate := writeRedis_ok hindex
  have hsession : w'.state.session = w₁.state.session := by
    funext k
    rw [AccountStore.session, AccountStore.session, hstate]
  suffices hloop : ∀ (sessionIds : List String) (w w₁ : World AccountStore AccountError),
      Faulty.forEach (fun sessionId => MfaAdminApplicationService.deleteSession
        (ctx.keys.buildSession sessionId)) sessionIds w = (.ok u₁, w₁) →
      Removes ctx w.state w₁.state sessionIds from
    (hloop sessionIds w w₁ heach).of_session rfl hsession
  clear hindex hstate hsession heach h
  intro sessionIds
  induction sessionIds with
  | nil =>
    intro w w₁ hnil
    obtain ⟨-, rfl⟩ := Faulty.pure_ok.mp hnil
    exact removes_none
  | cons sessionId sessionIds ih =>
    intro w w₁ hcons k
    obtain ⟨u₂, w₂, hdelete, hrest⟩ := Faulty.bind_ok.mp hcons
    have hstate₂ := writeRedis_ok hdelete
    rw [ih w₂ w₁ hrest k, AccountStore.session, hstate₂]
    show (if k ∈ _ then none else (w.state.redis.sessions.erase _).get w.state.now k) = _
    rw [Expiring.get_erase]
    by_cases hk : k = ctx.keys.buildSession sessionId
    · rw [if_pos hk, ite_self, if_pos (hk ▸ List.mem_cons_self)]
    · rw [if_neg hk, List.map_cons]
      simp only [List.mem_cons, hk, false_or]
      rfl

theorem resetUserMfa_removes {targetUserId : Uuid} {n : Nat}
    (h : MfaAdminApplicationService.resetUserMfa ctx targetUserId w = (.ok n, w')) :
    Removes ctx w.state w'.state
      (if ctx.redisClient then
        w.state.indexed (ctx.keys.buildUserSessions ctx.tenantCode targetUserId false)
      else []) := by
  obtain ⟨u₁, w₁, hdisable, hrest⟩ := Faulty.bind_ok.mp (runInTransaction_ok.mp h)
  obtain ⟨affected, w₂, hincrement, hrest⟩ := Faulty.bind_ok.mp hrest
  split at hrest
  · exact absurd hrest Faulty.throw_ok
  · obtain ⟨u₃, w₃, hlog, hrest⟩ := Faulty.bind_ok.mp hrest
    have hcache : cacheOf w₃.state = cacheOf w.state :=
      calc cacheOf w₃.state = cacheOf w₂.state := log_cache.ok hlog
        _ = cacheOf w₁.state := increment_cache.ok hincrement
        _ = cacheOf w.state := writeDb_cache.ok hdisable
    split at hrest
    next hclient =>
      rw [if_pos hclient, ← indexed_of_cache hcache]
      obtain ⟨sessionIds, w₄, hread, hrest⟩ := Faulty.bind_ok.mp hrest
      obtain ⟨rfl, hstate₄⟩ := Faulty.read_ok hread
      obtain ⟨u₅, w₅, hdelete, hpure⟩ := Faulty.bind_ok.mp hrest
      obtain ⟨-, rfl⟩ := Faulty.pure_ok.mp hpure
      rcases Faulty.when_ok hdelete with ⟨-, hdelete⟩ | ⟨hempty, rfl⟩
      · refine (deleteOneByOne_removes hdelete).of_session ?_ rfl
        rw [hstate₄, session_of_cache hcache]
      · have hnone : w₃.state.indexed
            (ctx.keys.buildUserSessions ctx.tenantCode targetUserId false) = [] :=
          not_not.mp hempty
        rw [hnone]
        refine removes_none.of_session ?_ rfl
        rw [hstate₄, session_of_cache hcache]
    next hclient =>
      obtain ⟨-, rfl⟩ := Faulty.pure_ok.mp hrest
      rw [if_neg hclient]
      exact removes_none.of_session (session_of_cache hcache) rfl

theorem revokeAllUserSessions_removes {tenantCode : String} {targetUserId : Uuid} {n : Nat}
    (h : SessionService.revokeAllUserSessions ctx tenantCode targetUserId w = (.ok n, w')) :
    Removes ctx w.state w'.state
      (w.state.indexed (ctx.keys.buildUserSessions tenantCode targetUserId true)) := by
  obtain ⟨u₁, w₁, hupdate, hpurge⟩ := Faulty.bind_ok.mp h
  obtain ⟨n₂, w₂, hincrement, hlog⟩ := Faulty.bind_ok.mp (runInTransaction_ok.mp hupdate)
  have hlogged : cacheOf w₁.state = cacheOf w₂.state := by
    split at hlog
    · exact absurd hlog Faulty.throw_ok
    · exact log_cache.ok hlog
  have hcache := hlogged.trans (increment_cache.ok hincrement)
  have hcall := Faulty.call_ok (Faulty.tryCatch_throw_ok hpurge)
  obtain ⟨-, hstate⟩ := Prod.mk.inj (Except.ok.inj hcall)
  rw [← indexed_of_cache hcache]
  refine Removes.of_session (s := w₁.state) ?_ (session_of_cache hcache) rfl
  intro k
  rw [AccountStore.session, AccountStore.session, ← hstate]
  have hkeys : (fun id => ctx.keys.buildSession "" ++ id) = ctx.keys.buildSession := by
    funext id
    exact (ctx.keys.session_prefix id).symm
  show (w₁.state.redis.sessions.eraseAll (List.map
    (fun id => ctx.keys.buildSession "" ++ id) _)).get w₁.state.now k = _
  rw [hkeys, Expiring.get_eraseAll]
  rfl

-- ============================================================================
-- A logout
-- ============================================================================

/-- The session goes, and its id from the index with the hash tag; nothing else does. -/
theorem logoutCurrentSession_ok {tenantCode sessionId : String} {userId : Uuid} {n : Nat}
    (h : SessionService.logoutCurrentSession ctx tenantCode userId sessionId w = (.ok n, w')) :
    Removes ctx w.state w'.state [sessionId] ∧
      ∀ index id, id ∈ w'.state.indexed index ↔ id ∈ w.state.indexed index ∧
        ¬(index = ctx.keys.buildUserSessions tenantCode userId true ∧ id = sessionId) := by
  obtain ⟨revoked, w₁, hdelete, hrest⟩ := Faulty.bind_ok.mp (Faulty.tryCatch_throw_ok h)
  obtain ⟨u₂, w₂, hlog, hpure⟩ := Faulty.bind_ok.mp hrest
  obtain ⟨-, rfl⟩ := Faulty.pure_ok.mp hpure
  obtain ⟨u₃, w₃, hwrite, hpure⟩ := Faulty.bind_ok.mp hdelete
  obtain ⟨-, rfl⟩ := Faulty.pure_ok.mp hpure
  have hcache : cacheOf w₂.state = cacheOf w₃.state := log_cache.ok (runInTransaction_ok.mp hlog)
  have hstate := writeRedis_ok hwrite
  rw [Removes, session_of_cache hcache, indexed_of_cache hcache]
  constructor
  · intro k
    have hsessions : w₃.state.redis.sessions =
        w.state.redis.sessions.erase (ctx.keys.buildSession sessionId) := by
      rw [hstate]
      exact sessions_remove
    rw [AccountStore.session, AccountStore.session, hsessions, hstate, Expiring.get_erase,
      List.map_singleton]
    simp only [List.mem_singleton]
  · intro index id
    rw [AccountStore.indexed, AccountStore.indexed, hstate]
    exact members_remove

end AccessService.Accounts
