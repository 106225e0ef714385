/-
  AccessService.Authorization.CacheCoherence

  The cached profiles under runs of the operations that change effective roles:
  `recomputeUserEffectiveRoles`, which writes the cache, and the two operations of
  the membership reconciler, which do not.

  Whatever the order of the executions, a profile that lists the persisted roles
  goes on doing so as long as each execution either writes the cache itself or
  changes no roles of a user with a profile (`cache_coherent`).
-/

import AccessService.Authorization.ProjectionExactness
import AccessService.Lib.Transition
import AccessService.UserGroups.MembershipReconciler

namespace AccessService.Authorization

open AccessService.Lib AccessService.Lib.Transition AccessService.Pg
open AccessService.Persistence AccessService.UserGroups
open EffectiveRoleProjectionService MembershipReconciler

-- ============================================================================
-- Executions
-- ============================================================================

inductive RoleOperation where
  | recomputeUserEffectiveRoles (userId : Uuid)
  | reconcileSingleUser (userId : Uuid) (targetMatchingGroupIds : List Uuid)
  | reconcileGroupPopulation (groupId : Uuid) (matchedEmployeeIds : List Uuid)
      (groupVersion : Nat)

/-- An operation for a tenant, with what its calls run into. -/
structure Execution where
  tenantCode : String
  operation : RoleOperation
  faults : List (Option Failure) := []

def RoleOperation.run (ctx : Context) : RoleOperation → Service Unit
  | .recomputeUserEffectiveRoles userId => do
    let _ ← EffectiveRoleProjectionService.recomputeUserEffectiveRoles ctx ctx.tenantCode userId
    pure ()
  | .reconcileSingleUser userId groupIds => do
    let _ ← MembershipReconciler.reconcileSingleUser ctx ctx.tenantCode userId groupIds
    pure ()
  | .reconcileGroupPopulation groupId matched version => do
    let _ ← MembershipReconciler.reconcileGroupPopulation ctx groupId matched version
    pure ()

/-- The context of a request of the tenant. -/
def contextFor (ctx : Context) (tenantCode : String) : Context :=
  { ctx with tenantCode := tenantCode }

/-- A profile in the cache lists the user's persisted roles. -/
def Coherent (s : Store) : Prop :=
  ∀ (key : UserKey) (profile : UserAuthorizationProfile), s.profiles key = some profile →
    listed profile.roles = persisted s.db key.1 key.2

/-- One execution after another, each of which returns. -/
def roleOperations (ctx : Context) : System Store Execution where
  init := Coherent
  step s x :=
    match x.operation.run (contextFor ctx x.tenantCode) ⟨s, x.faults⟩ with
    | (.ok _, w) => some w.state
    | (.error _, _) => none

-- ============================================================================
-- Executions that keep the cache in line
-- ============================================================================

/-- The grants that a recomputation stores as they are. -/
def Storable (db : Database) (tenantCode : String) (userId : Uuid) : Prop :=
  granted db tenantCode userId = ∅ ∨
    ((∀ e ∈ granted db tenantCode userId, e.Canonical) ∧
      NoStaleTwins db tenantCode userId (granted db tenantCode userId))

/-- The execution writes the cache, or changes no roles of a user with a profile. -/
def CacheFollows (s : Store) (x : Execution) : Prop :=
  match x.operation with
  | .recomputeUserEffectiveRoles userId =>
    persisted s.db x.tenantCode userId = granted s.db x.tenantCode userId ∨
      (Storable s.db x.tenantCode userId ∧
        (s.profiles (x.tenantCode, userId) = none ∨ ∀ fault ∈ x.faults, fault = none))
  | .reconcileSingleUser userId groupIds =>
    s.profiles (x.tenantCode, userId) = none ∨
      {id | id ∈ groupIds} = groupsOf s.db x.tenantCode userId ∨
      persisted s.db x.tenantCode userId = grantedBy s.db x.tenantCode {id | id ∈ groupIds}
  | .reconcileGroupPopulation groupId matched _ =>
    ∀ userId, ¬(userId ∈ matched ↔ groupId ∈ groupsOf s.db x.tenantCode userId) →
      s.profiles (x.tenantCode, userId) = none ∨
        s.db.group x.tenantCode groupId = none ∨
        persisted s.db x.tenantCode userId = grantedBy s.db x.tenantCode
          (groupsAfter s.db x.tenantCode groupId matched userId)

/-- The profiles are the same, and so are the roles of every user with one. -/
theorem Coherent.of_same {s s' : Store} (h : Coherent s) (hprofiles : s'.profiles = s.profiles)
    (hpersisted : ∀ key : UserKey, s.profiles key ≠ none →
      persisted s'.db key.1 key.2 = persisted s.db key.1 key.2) : Coherent s' := by
  intro key profile hprofile
  rw [hprofiles] at hprofile
  have hsome : s.profiles key ≠ none := by
    rw [hprofile]
    exact Option.some_ne_none profile
  rw [hpersisted key hsome]
  exact h key profile hprofile

section Step

variable (ctx : Context) {s : Store} {faults : List (Option Failure)}
  {w' : World Store Failure}

theorem coherent_recompute {userId : Uuid} {result : RecomputeResult} (hs : Coherent s)
    (hfollows : CacheFollows s ⟨ctx.tenantCode, .recomputeUserEffectiveRoles userId, faults⟩)
    (h : recomputeUserEffectiveRoles ctx ctx.tenantCode userId ⟨s, faults⟩ = (.ok result, w')) :
    Coherent w'.state := by
  obtain ⟨-, hothers, hprofiles, hcached⟩ := recompute_effect h
  intro key profile hprofile
  by_cases hkey : key = (ctx.tenantCode, userId)
  · subst hkey
    show listed profile.roles = persisted w'.state.db ctx.tenantCode userId
    rcases hfollows with hsame | ⟨hstorable, hcache⟩
    · -- the user has what is granted: no row changes
      have hdb := (recompute_same h hsame).2.2
      rw [hdb]
      rcases hcached with hkept | ⟨profile', hwritten, hlisted⟩
      · exact hs _ profile (hkept ▸ hprofile)
      · obtain rfl := Option.some.inj (hwritten.symm.trans hprofile)
        exact hlisted.trans hsame.symm
    · rw [(recompute_persisted_iff h).mpr hstorable]
      have hwritten : ∃ profile', w'.state.profiles (ctx.tenantCode, userId) = some profile' ∧
          listed profile'.roles = granted s.db ctx.tenantCode userId := by
        rcases hcache with hnone | hquiet
        · refine hcached.resolve_left fun hkept => ?_
          exact Option.some_ne_none profile (hprofile.symm.trans (hkept.trans hnone))
        · exact recompute_written (w := ⟨s, faults⟩) hquiet h
      obtain ⟨profile', hprofile', hlisted⟩ := hwritten
      obtain rfl := Option.some.inj (hprofile'.symm.trans hprofile)
      exact hlisted
  · rw [hprofiles key hkey] at hprofile
    have hother : ¬(key.1 = ctx.tenantCode ∧ key.2 = userId) :=
      fun hsame => hkey (Prod.ext hsame.1 hsame.2)
    rw [hothers.persisted_eq hother]
    exact hs key profile hprofile

theorem coherent_reconcileSingleUser {userId : Uuid} {groupIds : List Uuid}
    {result : SingleUserReconciliationResult} (hs : Coherent s)
    (hfollows : CacheFollows s ⟨ctx.tenantCode, .reconcileSingleUser userId groupIds, faults⟩)
    (h : reconcileSingleUser ctx ctx.tenantCode userId groupIds ⟨s, faults⟩ = (.ok result, w')) :
    Coherent w'.state := by
  obtain ⟨hprofiles, hpersisted⟩ := reconcileSingleUser_effect h
  refine hs.of_same hprofiles fun key hsome => hpersisted key.1 key.2 fun ⟨htenant, huser⟩ => ?_
  refine hfollows.resolve_left fun hnone => hsome ?_
  rw [← hnone, ← htenant, ← huser]

theorem coherent_reconcileGroupPopulation {groupId : Uuid} {matched : List Uuid} {version : Nat}
    {result : GroupPopulationReconciliationResult} (hs : Coherent s)
    (hfollows : CacheFollows s
      ⟨ctx.tenantCode, .reconcileGroupPopulation groupId matched version, faults⟩)
    (h : reconcileGroupPopulation ctx groupId matched version ⟨s, faults⟩ = (.ok result, w')) :
    Coherent w'.state := by
  obtain ⟨hprofiles, hpersisted⟩ := reconcileGroupPopulation_effect h
  refine hs.of_same hprofiles fun key hsome => hpersisted key.1 key.2 fun ⟨htenant, hchanges⟩ => ?_
  refine (hfollows key.2 hchanges).resolve_left fun hnone => hsome ?_
  rw [← hnone, ← htenant]

end Step

/-- One execution that follows the cache keeps every profile in line. -/
theorem coherent_step {ctx : Context} {s s' : Store} {x : Execution} (hs : Coherent s)
    (hfollows : CacheFollows s x) (h : (roleOperations ctx).step s x = some s') :
    Coherent s' := by
  obtain ⟨tenantCode, operation, faults⟩ := x
  simp only [roleOperations] at h
  split at h
  next w' hrun =>
    cases h
    cases operation with
    | recomputeUserEffectiveRoles userId =>
      obtain ⟨result, w₁, hfirst, hlast⟩ := Faulty.bind_ok.mp hrun
      obtain ⟨-, rfl⟩ := Faulty.pure_ok.mp hlast
      exact coherent_recompute (contextFor ctx tenantCode) hs hfollows hfirst
    | reconcileSingleUser userId groupIds =>
      obtain ⟨result, w₁, hfirst, hlast⟩ := Faulty.bind_ok.mp hrun
      obtain ⟨-, rfl⟩ := Faulty.pure_ok.mp hlast
      exact coherent_reconcileSingleUser (contextFor ctx tenantCode) hs hfollows hfirst
    | reconcileGroupPopulation groupId matched version =>
      obtain ⟨result, w₁, hfirst, hlast⟩ := Faulty.bind_ok.mp hrun
      obtain ⟨-, rfl⟩ := Faulty.pure_ok.mp hlast
      exact coherent_reconcileGroupPopulation (contextFor ctx tenantCode) hs hfollows
        hfirst
  · cases h

/-- Through executions that follow the cache, in any order, every profile stays in
    line. -/
theorem cache_coherent {ctx : Context} {s : Store}
    (h : (roleOperations ctx).Reachable CacheFollows s) : Coherent s :=
  h.invariant Coherent (fun _ hs => hs) fun _ _ _ _ hs hfollows hstep =>
    coherent_step hs hfollows hstep

-- ============================================================================
-- Two runs
-- ============================================================================

/-- The user has the group's role, in the table and in the cache. -/
def cachedMember : Store where
  db := sampleDatabase true
    (Table.empty.insert sampleEffectiveRole)
  profiles key :=
    if key = ("acme", sampleUserId) then
      some ⟨1, [⟨sampleRoleId, sampleGroupId, ⟨.SELF, none⟩⟩]⟩
    else none

theorem cachedMember_coherent : Coherent cachedMember := by
  intro key profile hprofile
  simp only [cachedMember] at hprofile
  split at hprofile
  next hkey =>
    cases hprofile
    subst hkey
    have hrows : effectiveRolesOf cachedMember.db "acme" sampleUserId =
        [(0, sampleEffectiveRole)] := by decide
    ext e
    simp only [listed, persisted, hrows, List.mem_singleton, exists_eq_left]
    exact eq_comm
  · cases hprofile

def recomputeExecution : Execution where
  tenantCode := "acme"
  operation := .recomputeUserEffectiveRoles sampleUserId

theorem recomputeExecution_follows : CacheFollows cachedMember recomputeExecution := by
  refine .inr ⟨.inr ⟨?_, ?_⟩, .inr nofun⟩
  · intro e he
    rw [← membershipGrants_eq_granted] at he
    have hgrants : membershipGrants cachedMember.db "acme" sampleUserId =
        [⟨sampleRoleId, sampleGroupId, .SELF, none⟩] := by decide
    rw [show recomputeExecution.tenantCode = "acme" from rfl, hgrants] at he
    obtain rfl := List.mem_singleton.mp he
    exact nofun
  · intro r hr r' hr' _ _
    have hrows : effectiveRolesOf cachedMember.db "acme" sampleUserId =
        [(0, sampleEffectiveRole)] := by decide
    rw [show recomputeExecution.tenantCode = "acme" from rfl, hrows] at hr hr'
    rw [List.mem_singleton.mp hr, List.mem_singleton.mp hr']

theorem cache_coherent_sample :
    ∃ s, (roleOperations acme).step cachedMember recomputeExecution = some s ∧ Coherent s := by
  have hruns : ((roleOperations acme).step cachedMember recomputeExecution).isSome = true := by
    decide +kernel
  obtain ⟨s, hs⟩ := Option.isSome_iff_exists.mp hruns
  exact ⟨s, hs, cache_coherent ⟨cachedMember, cachedMember_coherent,
    .single ⟨recomputeExecution, recomputeExecution_follows, hs⟩⟩⟩

/-- The user's only membership goes. -/
def removeExecution : Execution where
  tenantCode := "acme"
  operation := .reconcileSingleUser sampleUserId []

/-- The role is revoked and stays in the cached profile. -/
theorem not_cache_coherent :
    ∃ s, (roleOperations acme).Reachable Always s ∧ ¬Coherent s := by
  have hruns : ((roleOperations acme).step cachedMember removeExecution).any (fun s =>
      s.profiles ("acme", sampleUserId) =
          some ⟨1, [⟨sampleRoleId, sampleGroupId, ⟨.SELF, none⟩⟩]⟩ ∧
        effectiveRolesOf s.db "acme" sampleUserId = []) = true := by
    decide +kernel
  obtain ⟨s, hs, hstale⟩ := (Option.any_eq_true _ _).mp hruns
  obtain ⟨hprofile, hrows⟩ := of_decide_eq_true hstale
  refine ⟨s, ⟨cachedMember, cachedMember_coherent, .single ⟨removeExecution, trivial, hs⟩⟩, ?_⟩
  intro hcoherent
  have hlisted : (⟨sampleRoleId, sampleGroupId, .SELF, none⟩ : UserEffectiveRoleEntry) ∈
      persisted s.db "acme" sampleUserId := by
    rw [← hcoherent _ _ hprofile]
    exact ⟨_, List.mem_singleton_self _, rfl⟩
  obtain ⟨r, hr, -⟩ := hlisted
  rw [hrows] at hr
  exact absurd hr List.not_mem_nil

end AccessService.Authorization
