/-
  AccessService.Authorization.UserAuthorizationCache

  `user-authorization-cache.service.ts`: a user's profile in the cache.  A cache
  call that fails is logged and forgotten.
-/

import AccessService.UserGroups.EffectiveRoleMeaning

namespace AccessService.Authorization

open AccessService.Lib AccessService.Pg AccessService.Persistence AccessService.UserGroups

/-- `this.cacheService.set(key, payload)` -/
def Store.setProfile (s : Store) (key : UserKey) (profile : UserAuthorizationProfile) : Store :=
  { s with profiles := fun key' => if key' = key then some profile else s.profiles key' }

def Store.incrVersion (s : Store) (key : UserKey) : Store :=
  { s with
    authzVersions := fun key' => if key' = key then s.authzVersions key + 1
      else s.authzVersions key' }

namespace UserAuthorizationCacheService

/-- INCR of `GenerateUserAuthzVersionKey`. -/
def incr (key : UserKey) : Service Nat :=
  .call fun s => .ok (s.authzVersions key + 1, Store.incrVersion s key)

/-- The version of the next profile: 1 where Redis cannot tell. -/
def nextVersion (ctx : Context) (key : UserKey) : Service Nat :=
  if ctx.redisClient then .tryCatch (incr key) fun _ => pure 1 else pure 1

/-- A row, as a role of the profile. -/
def profileRole (row : UserEffectiveRole) : EffectiveUserRole where
  roleId := row.roleId
  sourceGroupId := row.sourceGroupId
  scope := ⟨row.scopeType, orNull (row.scopeEntityId.map Uuid.text)⟩

def rolesToCache (ctx : Context) (userId : Uuid)
    (explicitRoles : Option (List EffectiveUserRole)) : Service (List EffectiveUserRole) :=
  match explicitRoles with
  | some roles => pure roles
  | none => do
    let dbRows ← UserEffectiveRoleRepository.findRows ctx userId
    pure (dbRows.map fun row => profileRole row.2)

def syncUserCache (ctx : Context) (tenantCode : String) (userId : Uuid)
    (explicitRoles : Option (List EffectiveUserRole)) : Service UserAuthorizationProfile := do
  let roles ← rolesToCache ctx userId explicitRoles
  let version ← nextVersion ctx (tenantCode, userId)
  let payload : UserAuthorizationProfile := ⟨version, roles⟩
  .tryCatch (.write fun s => Store.setProfile s (tenantCode, userId) payload) fun _ => pure ()
  pure payload

def recoverUserCacheOnMiss (ctx : Context) (tenantCode : String) (userId : Uuid) :
    Service UserAuthorizationProfile :=
  syncUserCache ctx tenantCode userId none

def getUserAuthorizationProfile (ctx : Context) (tenantCode : String) (userId : Uuid) :
    Service UserAuthorizationProfile := do
  let data ← .tryCatch (.read fun s => s.profiles (tenantCode, userId)) fun _ => pure none
  match data with
  | some profile => pure profile
  | none => recoverUserCacheOnMiss ctx tenantCode userId

-- ============================================================================
-- What it leaves
-- ============================================================================

/-- The stores differ at most in the user's version counter and profile; a new
    profile lists the roles. -/
def Cached (key : UserKey) (roles : List EffectiveUserRole) (s s' : Store) : Prop :=
  s'.db = s.db ∧ (∀ key', key' ≠ key → s'.profiles key' = s.profiles key') ∧
    (s'.profiles key = s.profiles key ∨
      ∃ version, s'.profiles key = some ⟨version, roles⟩)

theorem nextVersion_leaves (ctx : Context) (key : UserKey) :
    Faulty.Leaves (fun s : Store => (s.db, s.profiles)) (nextVersion ctx key) := by
  unfold nextVersion
  split
  · refine Faulty.leaves_tryCatch (Faulty.leaves_call fun s _ s' hcall => ?_) fun _ =>
      Faulty.leaves_pure 1
    obtain rfl := (Prod.mk.inj (Except.ok.inj hcall)).2
    rfl
  · exact Faulty.leaves_pure 1

theorem nextVersion_state {ctx : Context} {key : UserKey} {w w' : World Store Failure}
    {version : Nat} (h : nextVersion ctx key w = (.ok version, w')) :
    w'.state.db = w.state.db ∧ w'.state.profiles = w.state.profiles :=
  Prod.mk.inj ((nextVersion_leaves ctx key).ok h)

theorem setProfile_state {key : UserKey} {profile : UserAuthorizationProfile}
    {w w' : World Store Failure} {u : Unit}
    (h : Faulty.tryCatch (.write fun s => Store.setProfile s key profile) (fun _ => pure ()) w =
      (.ok u, w')) :
    w'.state = w.state ∨ w'.state = Store.setProfile w.state key profile := by
  have htriple : Faulty.Triple (fun s => s = w.state)
      (.tryCatch (.write fun s => Store.setProfile s key profile) fun _ => pure () :
        Service Unit)
      (fun _ s => s = w.state ∨ s = Store.setProfile w.state key profile)
      (fun _ => False) := by
    refine Faulty.Triple.tryCatch (F := fun s => s = w.state) ?_ fun _ =>
      Faulty.triple_pure fun _ hs => .inl hs
    refine Faulty.triple_write (fun _ hs => hs) fun s hs => ?_
    rw [hs]
    exact .inr rfl
  exact htriple.of_ok rfl h

/-- The cache is all that changes. -/
theorem syncUserCache_leaves (ctx : Context) (tenantCode : String) (userId : Uuid)
    (roles : Option (List EffectiveUserRole)) :
    Faulty.Leaves Store.db (syncUserCache ctx tenantCode userId roles) := by
  have hroles : Faulty.Leaves Store.db (rolesToCache ctx userId roles) := by
    unfold rolesToCache
    split
    · exact Faulty.leaves_pure _
    · exact (leaves_readDb _).bind fun rows => Faulty.leaves_pure _
  refine hroles.bind fun roles => ((nextVersion_leaves ctx _).comp Prod.fst).bind fun version => ?_
  refine (Faulty.leaves_tryCatch ?_ fun _ => Faulty.leaves_pure ()).bind fun _ =>
    Faulty.leaves_pure _
  exact Faulty.leaves_write fun _ => rfl

theorem syncUserCache_explicit {ctx : Context} {tenantCode : String} {userId : Uuid}
    {roles : List EffectiveUserRole} {w w' : World Store Failure}
    {profile : UserAuthorizationProfile}
    (h : syncUserCache ctx tenantCode userId (some roles) w = (.ok profile, w')) :
    Cached (tenantCode, userId) roles w.state w'.state := by
  simp only [syncUserCache, rolesToCache, Faulty.bind_ok, Faulty.pure_ok] at h
  obtain ⟨_, _, ⟨rfl, rfl⟩, version, w₁, hversion, u, w₂, hset, -, rfl⟩ := h
  obtain ⟨hdb, hprofiles⟩ := nextVersion_state hversion
  rcases setProfile_state hset with hstate | hstate
  · rw [Cached, hstate, hdb, hprofiles]
    exact ⟨rfl, fun _ _ => rfl, .inl rfl⟩
  · rw [Cached, hstate]
    refine ⟨hdb, fun key' hkey => ?_, .inr ⟨version, if_pos rfl⟩⟩
    rw [← hprofiles]
    exact if_neg hkey

/-- The write of the profile runs into something: it is the second call, after the
    one to the version counter where there is a client for that. -/
def ProfileWriteFails (ctx : Context) (w : World Store Failure) : Prop :=
  Faulty.ThrowsAt w (if ctx.redisClient then 1 else 0)

theorem nextVersion_throwsAt {ctx : Context} {key : UserKey} {w w' : World Store Failure}
    {version : Nat} (h : nextVersion ctx key w = (.ok version, w')) :
    Faulty.ThrowsAt w' 0 ↔ ProfileWriteFails ctx w := by
  unfold nextVersion at h
  unfold ProfileWriteFails
  split at h
  next hclient =>
    rw [if_pos hclient]
    have htail : w'.faults = w.faults.tail := by
      by_cases hthrows : Faulty.ThrowsAt w 0
      · obtain ⟨e, he⟩ := Faulty.call_throws (f := fun s : Store =>
          .ok (s.authzVersions key + 1, Store.incrVersion s key)) hthrows
        rw [Faulty.tryCatch, incr, he] at h
        rw [← (Faulty.pure_ok.mp h).2]
        rfl
      · rw [Faulty.tryCatch, incr, Faulty.call_runs hthrows rfl] at h
        rw [← (Prod.mk.inj h).2]
        rfl
    simp only [Faulty.ThrowsAt, htail, List.getElem?_tail]
  next hclient =>
    rw [if_neg hclient, (Faulty.pure_ok.mp h).2]

/-- The profile is the new one exactly when its write gets through. -/
theorem syncUserCache_profile {ctx : Context} {tenantCode : String} {userId : Uuid}
    {roles : List EffectiveUserRole} {w w' : World Store Failure}
    {profile : UserAuthorizationProfile}
    (h : syncUserCache ctx tenantCode userId (some roles) w = (.ok profile, w')) :
    (ProfileWriteFails ctx w ∧
        w'.state.profiles (tenantCode, userId) = w.state.profiles (tenantCode, userId)) ∨
      (¬ProfileWriteFails ctx w ∧
        ∃ version, w'.state.profiles (tenantCode, userId) = some ⟨version, roles⟩) := by
  simp only [syncUserCache, rolesToCache, Faulty.bind_ok, Faulty.pure_ok] at h
  obtain ⟨_, _, ⟨rfl, rfl⟩, version, w₁, hversion, u, w₂, hset, -, rfl⟩ := h
  rw [← nextVersion_throwsAt hversion, ← (nextVersion_state hversion).2]
  by_cases hthrows : Faulty.ThrowsAt w₁ 0
  · refine .inl ⟨hthrows, ?_⟩
    obtain ⟨e, he⟩ := Faulty.call_throws (f := fun s : Store =>
      .ok ((), Store.setProfile s (tenantCode, userId) ⟨version, roles⟩)) hthrows
    rw [Faulty.tryCatch, Faulty.write, he] at hset
    rw [← (Faulty.pure_ok.mp hset).2]
    rfl
  · refine .inr ⟨hthrows, version, ?_⟩
    rw [Faulty.tryCatch, Faulty.write, Faulty.call_runs hthrows rfl] at hset
    rw [← (Prod.mk.inj hset).2]
    exact if_pos rfl

/-- A profile that is read is the cached one, or made of the rows. -/
theorem getUserAuthorizationProfile_ok {ctx : Context} {tenantCode : String} {userId : Uuid}
    {w w' : World Store Failure} {profile : UserAuthorizationProfile}
    (h : getUserAuthorizationProfile ctx tenantCode userId w = (.ok profile, w')) :
    w.state.profiles (tenantCode, userId) = some profile ∨
      profile.roles = (effectiveRolesOf w.state.db ctx.tenantCode userId).map
        fun row => profileRole row.2 := by
  obtain ⟨data, w₁, hget, hrest⟩ := Faulty.bind_ok.mp h
  have hdata : w₁.state = w.state ∧
      (data = none ∨ data = w.state.profiles (tenantCode, userId)) := by
    rcases Faulty.tryCatch_pure_ok hget with hread | ⟨e, hread, rfl⟩
    · obtain ⟨rfl, hstate⟩ := Faulty.read_ok hread
      exact ⟨hstate, .inr rfl⟩
    · have hstate := (Faulty.reads_read (fun s => s.profiles (tenantCode, userId)) w).1
      rw [hread] at hstate
      exact ⟨hstate, .inl rfl⟩
  obtain ⟨hstate, hdata⟩ := hdata
  cases data with
  | some profile' =>
    obtain ⟨rfl, -⟩ := Faulty.pure_ok.mp hrest
    exact .inl (hdata.resolve_left (Option.some_ne_none _)).symm
  | none =>
    simp only [recoverUserCacheOnMiss, syncUserCache, rolesToCache, Faulty.bind_ok,
      Faulty.pure_ok] at hrest
    obtain ⟨roles, w₂, ⟨rows, w₃, hrows, rfl, rfl⟩, version, w₄, -, u, w₅, -, rfl, -⟩ := hrest
    rw [((reads_readDb _).ok hrows).1, hstate]
    exact .inr rfl

theorem nextVersion_keepsQuiet (ctx : Context) (key : UserKey) :
    Faulty.KeepsQuiet (nextVersion ctx key) := by
  unfold nextVersion
  split
  · exact Faulty.keepsQuiet_tryCatch (Faulty.keepsQuiet_call _) fun _ => Faulty.keepsQuiet_pure 1
  · exact Faulty.keepsQuiet_pure 1

/-- Where no call runs into anything, the profile is written. -/
theorem syncUserCache_written {ctx : Context} {tenantCode : String} {userId : Uuid}
    {roles : List EffectiveUserRole} {w w' : World Store Failure}
    {profile : UserAuthorizationProfile} (hquiet : Faulty.Quiet w)
    (h : syncUserCache ctx tenantCode userId (some roles) w = (.ok profile, w')) :
    ∃ version, w'.state.profiles (tenantCode, userId) = some ⟨version, roles⟩ := by
  simp only [syncUserCache, rolesToCache, Faulty.bind_ok, Faulty.pure_ok] at h
  obtain ⟨_, _, ⟨rfl, rfl⟩, version, w₁, hversion, u, w₂, hset, -, rfl⟩ := h
  have hquiet₁ := (nextVersion_keepsQuiet ctx _).ok hquiet hversion
  rw [Faulty.tryCatch, Faulty.write, Faulty.call_quiet hquiet₁] at hset
  obtain ⟨-, rfl⟩ := Prod.mk.inj hset
  exact ⟨version, if_pos rfl⟩

end UserAuthorizationCacheService

end AccessService.Authorization
