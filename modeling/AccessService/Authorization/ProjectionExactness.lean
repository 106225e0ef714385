/-
  AccessService.Authorization.ProjectionExactness

  A recomputation leaves a user with exactly what the memberships grant, and
  nothing to do for the next one, when nothing is granted, or when no two rows of
  the user's agree on the four fields and every granted scope entity is a UUID as
  the database prints it.

  The unique constraint is meant to keep equal rows out, but it does not see rows
  without a scope entity, and the map of the current rows has one row for each
  key: of two equal rows at most one is deleted.
-/

import AccessService.Authorization.EffectiveRoleProjection

namespace AccessService.Authorization

open AccessService.Lib AccessService.Pg AccessService.Persistence AccessService.UserGroups
open EffectiveRoleProjectionService

variable {ctx : Context} {userId : Uuid}

/-- The projection of the user's memberships in `s` is what `s'` holds. -/
structure ExactProjection (ctx : Context) (userId : Uuid) (s s' : Store) : Prop where
  persisted_granted :
    persisted s'.db ctx.tenantCode userId = granted s.db ctx.tenantCode userId
  distinct : RowsDistinct s'.db ctx.tenantCode userId
  cached :
    s'.profiles (ctx.tenantCode, userId) = s.profiles (ctx.tenantCode, userId) ∨
      ∃ profile, s'.profiles (ctx.tenantCode, userId) = some profile ∧
        listed profile.roles = granted s.db ctx.tenantCode userId
  others : OthersKept ctx.tenantCode userId s.db s'.db
  /-- A second run that returns, whatever its cache calls run into. -/
  again : ∀ (faults : List (Option Failure)) (result : RecomputeResult)
    (w'' : World Store Failure),
    recomputeUserEffectiveRoles ctx ctx.tenantCode userId ⟨s', faults⟩ = (.ok result, w'') →
      result.inserted = 0 ∧ result.deleted = 0 ∧ w''.state.db = s'.db

/-- The rows and the grants that a recomputation can tell apart. -/
def Projectable (db : Database) (tenantCode : String) (userId : Uuid) : Prop :=
  granted db tenantCode userId = ∅ ∨
    (RowsDistinct db tenantCode userId ∧ ∀ e ∈ granted db tenantCode userId, e.Canonical)

-- ============================================================================
-- The grants a recomputation reads
-- ============================================================================

theorem targets_eq_granted (db : Database) (tenantCode : String) (userId : Uuid) :
    {e | e ∈ (targetsOf db tenantCode userId).map UserEffectiveRoleRepository.syncedEntry} =
      granted db tenantCode userId := by
  rw [targetsOf_synced, membershipGrants_eq_granted]

theorem targets_nil_iff (db : Database) (tenantCode : String) (userId : Uuid) :
    targetsOf db tenantCode userId = [] ↔ granted db tenantCode userId = ∅ := by
  rw [← targets_eq_granted, Set.eq_empty_iff_forall_notMem]
  constructor
  · intro hnil e he
    rw [hnil] at he
    exact absurd he List.not_mem_nil
  · intro hempty
    rw [List.eq_nil_iff_forall_not_mem]
    intro t ht
    exact hempty _ (List.mem_map_of_mem ht)

-- ============================================================================
-- One run
-- ============================================================================

section Run

variable {w w' : World Store Failure} {result : RecomputeResult}

/-- What a run that returned did to the rows and to the cache. -/
theorem recompute_effect
    (h : recomputeUserEffectiveRoles ctx ctx.tenantCode userId w = (.ok result, w')) :
    (granted w'.state.db ctx.tenantCode userId = granted w.state.db ctx.tenantCode userId) ∧
    OthersKept ctx.tenantCode userId w.state.db w'.state.db ∧
    (∀ key, key ≠ (ctx.tenantCode, userId) → w'.state.profiles key = w.state.profiles key) ∧
    (w'.state.profiles (ctx.tenantCode, userId) = w.state.profiles (ctx.tenantCode, userId) ∨
      ∃ profile, w'.state.profiles (ctx.tenantCode, userId) = some profile ∧
        listed profile.roles = granted w.state.db ctx.tenantCode userId) := by
  obtain ⟨w₁, w₂, diff, hstate, -, hpersist, ⟨p, hcache⟩, -, -⟩ := recompute_ok h
  obtain ⟨hdb, hothers', hprofile⟩ := UserAuthorizationCacheService.syncUserCache_explicit hcache
  obtain ⟨hframe, hothers⟩ := persistRoles_frame hpersist
  have hprofiles : w₂.state.profiles = w.state.profiles := by rw [hframe.profiles, hstate]
  rw [hstate] at hothers
  refine ⟨?_, by rw [hdb]; exact hothers, ?_, ?_⟩
  · rw [hdb, hframe.granted, hstate]
  · intro key hkey
    rw [hothers' key hkey, hprofiles]
  · rcases hprofile with hsame | ⟨version, hnew⟩
    · exact .inl (hsame.trans (congrFun hprofiles _))
    · refine .inr ⟨_, hnew, ?_⟩
      rw [listed_memoryRoles, targets_eq_granted]

/-- Where no call runs into anything, the cache gets what is granted. -/
theorem recompute_written (hquiet : Faulty.Quiet w)
    (h : recomputeUserEffectiveRoles ctx ctx.tenantCode userId w = (.ok result, w')) :
    ∃ profile, w'.state.profiles (ctx.tenantCode, userId) = some profile ∧
      listed profile.roles = granted w.state.db ctx.tenantCode userId := by
  obtain ⟨w₁, w₂, diff, -, hquiet₁, hpersist, ⟨p, hcache⟩, -, -⟩ := recompute_ok h
  have hquiet₂ := (persistRoles_keepsQuiet ctx userId _).ok (hquiet₁ hquiet) hpersist
  obtain ⟨version, hwritten⟩ :=
    UserAuthorizationCacheService.syncUserCache_written hquiet₂ hcache
  exact ⟨_, hwritten, by rw [listed_memoryRoles, targets_eq_granted]⟩

theorem recompute_persisted_iff
    (h : recomputeUserEffectiveRoles ctx ctx.tenantCode userId w = (.ok result, w')) :
    persisted w'.state.db ctx.tenantCode userId = granted w.state.db ctx.tenantCode userId ↔
      granted w.state.db ctx.tenantCode userId = ∅ ∨
        ((∀ e ∈ granted w.state.db ctx.tenantCode userId, e.Canonical) ∧
          NoStaleTwins w.state.db ctx.tenantCode userId
            (granted w.state.db ctx.tenantCode userId)) := by
  obtain ⟨w₁, w₂, diff, hstate, -, hpersist, ⟨p, hcache⟩, -, -⟩ := recompute_ok h
  have hdb := (UserAuthorizationCacheService.syncUserCache_explicit hcache).1
  have hiff := persistRoles_persisted_iff hpersist
  rw [hstate, targets_eq_granted, targets_nil_iff] at hiff
  rw [hdb, hiff]
  refine or_congr_right (and_congr_left fun _ => ?_)
  rw [← targets_eq_granted]
  rfl

theorem recompute_distinct
    (h : recomputeUserEffectiveRoles ctx ctx.tenantCode userId w = (.ok result, w'))
    (hdb : Projectable w.state.db ctx.tenantCode userId) :
    RowsDistinct w'.state.db ctx.tenantCode userId := by
  obtain ⟨w₁, w₂, diff, hstate, -, hpersist, ⟨p, hcache⟩, -, -⟩ := recompute_ok h
  have hdb' := (UserAuthorizationCacheService.syncUserCache_explicit hcache).1
  rw [hdb']
  refine persistRoles_distinct hpersist ?_
  rw [targets_nil_iff, hstate]
  refine hdb.imp_right fun ⟨hdistinct, hcanonical⟩ => ⟨fun e he => ?_, hdistinct⟩
  exact hcanonical e (targets_eq_granted .. ▸ he)

theorem recompute_distinct_before
    (h : recomputeUserEffectiveRoles ctx ctx.tenantCode userId w = (.ok result, w'))
    (hsome : granted w.state.db ctx.tenantCode userId ≠ ∅)
    (hpersisted :
      persisted w'.state.db ctx.tenantCode userId = granted w.state.db ctx.tenantCode userId)
    (hdistinct : RowsDistinct w'.state.db ctx.tenantCode userId) :
    RowsDistinct w.state.db ctx.tenantCode userId := by
  obtain ⟨w₁, w₂, diff, hstate, -, hpersist, ⟨p, hcache⟩, -, -⟩ := recompute_ok h
  have hdb := (UserAuthorizationCacheService.syncUserCache_explicit hcache).1
  rw [hdb] at hpersisted hdistinct
  rw [← hstate]
  refine persistRoles_distinct_before hpersist ?_ ?_ hdistinct
  · rw [Ne, targets_nil_iff]
    exact hsome
  · rw [targets_eq_granted]
    exact hpersisted

/-- Where the user has what is granted, a run changes no row. -/
theorem recompute_same
    (h : recomputeUserEffectiveRoles ctx ctx.tenantCode userId w = (.ok result, w'))
    (hpersisted :
      persisted w.state.db ctx.tenantCode userId = granted w.state.db ctx.tenantCode userId) :
    result.inserted = 0 ∧ result.deleted = 0 ∧ w'.state.db = w.state.db := by
  obtain ⟨w₁, w₂, diff, hstate, -, hpersist, ⟨p, hcache⟩, hinserted, hdeleted⟩ := recompute_ok h
  have hdb := (UserAuthorizationCacheService.syncUserCache_explicit hcache).1
  have hsame := persistRoles_same hpersist
  rw [hstate, targets_eq_granted] at hsame
  obtain ⟨rfl, hstate'⟩ := hsame hpersisted
  exact ⟨hinserted, hdeleted, by rw [hdb, hstate']⟩

theorem exactProjection_iff
    (h : recomputeUserEffectiveRoles ctx ctx.tenantCode userId w = (.ok result, w')) :
    ExactProjection ctx userId w.state w'.state ↔
      Projectable w.state.db ctx.tenantCode userId := by
  constructor
  · intro hexact
    by_cases hsome : granted w.state.db ctx.tenantCode userId = ∅
    · exact .inl hsome
    · refine .inr ⟨recompute_distinct_before h hsome hexact.persisted_granted hexact.distinct,
        fun e he => ?_⟩
      rw [← hexact.persisted_granted] at he
      exact canonical_of_persisted he
  · intro hdb
    have hpersisted := (recompute_persisted_iff h).mpr
      (hdb.imp_right fun ⟨hdistinct, hcanonical⟩ => ⟨hcanonical, hdistinct.noStaleTwins _⟩)
    obtain ⟨hgranted, hothers, -, hcached⟩ := recompute_effect h
    refine ⟨hpersisted, recompute_distinct h hdb, hcached, hothers, ?_⟩
    intro faults result' w'' hagain
    exact recompute_same (w := ⟨w'.state, faults⟩) hagain (hpersisted.trans hgranted.symm)

end Run

-- ============================================================================
-- Two instances
-- ============================================================================

/-- A new member of the group, without rows. -/
def newMember : World Store Failure where
  state := { db := sampleDatabase true .empty }
  faults := []

/-- The grant stored twice: it has no scope entity, so the constraint let both in. -/
def twinTable : Table UserEffectiveRole where
  rows := [(0, sampleEffectiveRole), (1, sampleEffectiveRole)]
  nextId := 2
  fresh := by decide
  nodup := by decide

def twinRows : World Store Failure where
  state := { db := sampleDatabase true twinTable }
  faults := []

/-- The world after a recomputation for the user. -/
def projected (w : World Store Failure) : World Store Failure :=
  (recomputeUserEffectiveRoles acme acme.tenantCode sampleUserId w).2

theorem newMember_runs :
    recomputeUserEffectiveRoles acme acme.tenantCode sampleUserId newMember =
      (.ok ⟨1, 0, 1⟩, projected newMember) :=
  Prod.ext (by decide +kernel) rfl

theorem exactProjection_iff_newMember :
    ExactProjection acme sampleUserId newMember.state (projected newMember).state ↔
      Projectable newMember.state.db "acme" sampleUserId :=
  exactProjection_iff newMember_runs

theorem not_exactProjection :
    ∃ (w w' : World Store Failure) (result : RecomputeResult),
      recomputeUserEffectiveRoles acme acme.tenantCode sampleUserId w = (.ok result, w') ∧
        ¬ExactProjection acme sampleUserId w.state w'.state := by
  refine ⟨twinRows, projected twinRows, ⟨0, 0, 1⟩, Prod.ext (by decide +kernel) rfl, ?_⟩
  intro hexact
  have hrows : effectiveRolesOf (projected twinRows).state.db acme.tenantCode sampleUserId =
      [(0, sampleEffectiveRole), (1, sampleEffectiveRole)] := by decide +kernel
  have hdistinct := hexact.distinct
  rw [RowsDistinct, hrows] at hdistinct
  have hsame := hdistinct _ List.mem_cons_self _
    (List.mem_cons_of_mem _ List.mem_cons_self) rfl
  exact absurd (congrArg Prod.fst hsame) (by decide)

end AccessService.Authorization
