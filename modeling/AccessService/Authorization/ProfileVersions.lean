/-
  AccessService.Authorization.ProfileVersions

  Overlapping calls of `syncUserCache` for one user.  A call takes its version
  with an atomic INCR, or takes 1 when the INCR fails, and writes the profile
  later with a SET; other calls may take their steps in between.

  The cached version only goes forward exactly when no call writes after a call
  with a higher version has written (`versions_forward_iff`).  Nothing in the code
  sees to that: a SET is unconditional.
-/

import AccessService.Authorization.UserAuthorizationCache
import AccessService.Lib.Rows
import AccessService.Lib.Transition

namespace AccessService.Authorization

open AccessService.Lib AccessService.Lib.Transition AccessService.Pg AccessService.Persistence

-- ============================================================================
-- The steps
-- ============================================================================

inductive CacheCallPhase where
  | started
  | versioned (version : Nat)
  | returned (version : Nat)
  deriving DecidableEq

/-- One call of `syncUserCache`, with the roles it will write. -/
structure CacheCall where
  roles : List EffectiveUserRole
  phase : CacheCallPhase
  deriving DecidableEq

/-- The user's keys in Redis, and the calls. -/
structure UserCache where
  counter : Nat
  profile : Option UserAuthorizationProfile
  calls : List CacheCall
  deriving DecidableEq

inductive CacheStep where
  | start (roles : List EffectiveUserRole)
  | incr (call : Nat)
  /-- The INCR fails, or there is no client: the version is 1. -/
  | incrFails (call : Nat)
  | set (call : Nat)
  deriving DecidableEq

namespace UserCache

def setPhase (s : UserCache) (call : Nat) (roles : List EffectiveUserRole)
    (phase : CacheCallPhase) : List CacheCall :=
  s.calls.set call ⟨roles, phase⟩

def step (s : UserCache) : CacheStep → Option UserCache
  | .start roles => some { s with calls := s.calls ++ [⟨roles, .started⟩] }
  | .incr call =>
    match s.calls[call]? with
    | some ⟨roles, .started⟩ =>
      some { s with
        counter := s.counter + 1
        calls := s.setPhase call roles (.versioned (s.counter + 1)) }
    | _ => none
  | .incrFails call =>
    match s.calls[call]? with
    | some ⟨roles, .started⟩ => some { s with calls := s.setPhase call roles (.versioned 1) }
    | _ => none
  | .set call =>
    match s.calls[call]? with
    | some ⟨roles, .versioned version⟩ =>
      some { s with
        profile := some ⟨version, roles⟩
        calls := s.setPhase call roles (.returned version) }
    | _ => none

end UserCache

/-- The user's cache before any call. -/
def userCache : System UserCache CacheStep where
  init s := s.profile = none ∧ s.calls = []
  step := UserCache.step

namespace UserCache

/-- The cached version does not go back. -/
def Forward (s : UserCache) (_ : CacheStep) (t : UserCache) : Prop :=
  ∀ profile, s.profile = some profile →
    ∃ profile', t.profile = some profile' ∧ profile.version ≤ profile'.version

/-- A call writes only while no call with a higher version has written. -/
def InOrder (s : UserCache) (step : CacheStep) (_ : UserCache) : Prop :=
  ∀ call roles version, step = .set call → s.calls[call]? = some ⟨roles, .versioned version⟩ →
    ∀ other ∈ s.calls, ∀ version', other.phase = .returned version' → version' ≤ version

def AllReturned (s : UserCache) : Prop :=
  ∀ call ∈ s.calls, ∃ version, call.phase = .returned version

/-- The profile is that of a call with the highest version. -/
def HighestCached (s : UserCache) : Prop :=
  s.calls ≠ [] → ∃ call ∈ s.calls, ∃ version, call.phase = .returned version ∧
    s.profile = some ⟨version, call.roles⟩ ∧
    ∀ other ∈ s.calls, ∀ version', other.phase = .returned version' → version' ≤ version

-- ============================================================================
-- The invariant
-- ============================================================================

/-- The profile is that of a call that has written and has the highest version of
    those; there is none before the first write. -/
structure NewestCached (s : UserCache) : Prop where
  written : ∀ call ∈ s.calls, ∀ version, call.phase = .returned version →
    ∃ profile, s.profile = some profile ∧ version ≤ profile.version
  source : ∀ profile, s.profile = some profile →
    ∃ call ∈ s.calls, call = ⟨profile.roles, .returned profile.version⟩

theorem NewestCached.initial {s : UserCache} (h : userCache.init s) : NewestCached s := by
  obtain ⟨hprofile, hcalls⟩ := h
  constructor
  · intro call hcall
    rw [hcalls] at hcall
    exact absurd hcall List.not_mem_nil
  · intro profile hsome
    rw [hprofile] at hsome
    cases hsome

/-- The steps before the write: the profile stays, and so do the calls that have
    written. -/
theorem NewestCached.of_same {s t : UserCache} (h : NewestCached s)
    (hprofile : t.profile = s.profile)
    (hcalls : ∀ call version, call.phase = .returned version →
      (call ∈ t.calls ↔ call ∈ s.calls)) : NewestCached t := by
  constructor
  · intro call hcall version hphase
    rw [hprofile]
    exact h.written call ((hcalls call version hphase).mp hcall) version hphase
  · intro profile hsome
    rw [hprofile] at hsome
    obtain ⟨call, hcall, hsource⟩ := h.source profile hsome
    refine ⟨call, (hcalls call profile.version ?_).mpr hcall, hsource⟩
    rw [hsource]

-- ============================================================================
-- One step
-- ============================================================================

/-- What a step does: it opens a call, gives one its version, or writes its profile. -/
theorem step_cases {s t : UserCache} {a : CacheStep} (h : s.step a = some t) :
    (∃ roles, a = .start roles ∧ t = { s with calls := s.calls ++ [⟨roles, .started⟩] }) ∨
    (∃ call roles version counter, (∀ c, a ≠ .set c) ∧ s.calls[call]? = some ⟨roles, .started⟩ ∧
      t = { s with counter := counter, calls := s.setPhase call roles (.versioned version) }) ∨
    (∃ call roles version, a = .set call ∧ s.calls[call]? = some ⟨roles, .versioned version⟩ ∧
      t = { s with
        profile := some ⟨version, roles⟩
        calls := s.setPhase call roles (.returned version) }) := by
  cases a with
  | start roles => exact .inl ⟨roles, rfl, (Option.some.inj h).symm⟩
  | incr call =>
    simp only [step] at h
    split at h
    next roles hcall => exact .inr (.inl ⟨call, roles, _, _, nofun, hcall, (Option.some.inj h).symm⟩)
    · cases h
  | incrFails call =>
    simp only [step] at h
    split at h
    next roles hcall => exact .inr (.inl ⟨call, roles, _, _, nofun, hcall, (Option.some.inj h).symm⟩)
    · cases h
  | set call =>
    simp only [step] at h
    split at h
    next roles version hcall =>
      exact .inr (.inr ⟨call, roles, version, rfl, hcall, (Option.some.inj h).symm⟩)
    · cases h

/-- A step that writes nothing keeps the invariant and the version. -/
theorem newest_forward_of_quiet {s t : UserCache} {a : CacheStep} (hs : NewestCached s)
    (hprofile : t.profile = s.profile)
    (hcalls : ∀ call version, call.phase = .returned version →
      (call ∈ t.calls ↔ call ∈ s.calls)) : NewestCached t ∧ Forward s a t := by
  refine ⟨hs.of_same hprofile hcalls, fun profile hsome => ⟨profile, ?_, Nat.le_refl _⟩⟩
  rw [hprofile, hsome]

theorem step_quiet {s t : UserCache} {a : CacheStep} (hs : NewestCached s)
    (h : s.step a = some t) (hset : ∀ call, a ≠ .set call) : NewestCached t ∧ Forward s a t := by
  rcases step_cases h with ⟨roles, -, rfl⟩ | ⟨call, roles, version, counter, -, hcall, rfl⟩ |
    ⟨call, -, -, rfl, -⟩
  · refine newest_forward_of_quiet hs rfl fun other version hphase => ?_
    rw [List.mem_append, List.mem_singleton, or_iff_left]
    rintro rfl
    cases hphase
  · refine newest_forward_of_quiet hs rfl fun other version' hphase => ?_
    have hne : other ≠ ⟨roles, .started⟩ := by
      rintro rfl
      cases hphase
    rw [setPhase, Rows.mem_set_row hcall hne, or_iff_right]
    rintro rfl
    cases hphase
  · exact absurd rfl (hset call)

/-- A write goes forward exactly when it is in order. -/
theorem forward_iff_inOrder {s t : UserCache} {a : CacheStep} (hs : NewestCached s)
    (h : s.step a = some t) : Forward s a t ↔ InOrder s a t := by
  rcases step_cases h with ⟨roles, rfl, -⟩ | ⟨call, roles, version, counter, hset, hcall, -⟩ |
    ⟨call, roles, version, rfl, hcall, rfl⟩
  · exact iff_of_true (step_quiet hs h nofun).2 nofun
  · refine iff_of_true (step_quiet hs h hset).2 fun c _ _ ha => ?_
    exact absurd ha (hset c)
  · constructor
    · intro hforward call' roles' version' ha hcall' other hother v hphase
      obtain rfl := CacheStep.set.inj ha
      have hsame := Option.some.inj (hcall.symm.trans hcall')
      obtain ⟨-, hversion⟩ := CacheCall.mk.inj hsame
      obtain rfl := CacheCallPhase.versioned.inj hversion
      obtain ⟨profile, hprofile, hle⟩ := hs.written other hother v hphase
      obtain ⟨profile', hprofile', hle'⟩ := hforward profile hprofile
      obtain rfl := Option.some.inj hprofile'
      exact hle.trans hle'
    · intro horder profile hprofile
      obtain ⟨source, hsource, hphase⟩ := hs.source profile hprofile
      refine ⟨_, rfl, horder call roles version rfl hcall source hsource profile.version ?_⟩
      rw [hphase]

/-- A write in order leaves the newest profile in the cache. -/
theorem newestCached_step {s t : UserCache} {a : CacheStep} (hs : NewestCached s)
    (h : s.step a = some t) (horder : InOrder s a t) : NewestCached t := by
  rcases step_cases h with ⟨roles, rfl, -⟩ | ⟨call, roles, version, counter, hset, -, -⟩ |
    ⟨call, roles, version, rfl, hcall, rfl⟩
  · exact (step_quiet hs h nofun).1
  · exact (step_quiet hs h hset).1
  · have hmem : ∀ other v, other.phase = .returned v →
        (other ∈ s.setPhase call roles (.returned version) ↔
          other = ⟨roles, .returned version⟩ ∨ other ∈ s.calls) := by
      intro other v hphase
      refine Rows.mem_set_row hcall ?_
      rintro rfl
      cases hphase
    constructor
    · intro other hother v hphase
      refine ⟨_, rfl, ?_⟩
      rcases (hmem other v hphase).mp hother with rfl | hold
      · exact Nat.le_of_eq (CacheCallPhase.returned.inj hphase).symm
      · exact horder call roles version rfl hcall other hold v hphase
    · intro profile hprofile
      obtain rfl := Option.some.inj hprofile
      exact ⟨_, (hmem _ version rfl).mpr (.inl rfl), rfl⟩

theorem NewestCached.highest {s : UserCache} (h : NewestCached s) (hreturned : s.AllReturned) :
    s.HighestCached := by
  intro hne
  obtain ⟨call, hcall⟩ := List.exists_mem_of_ne_nil _ hne
  obtain ⟨version, hphase⟩ := hreturned call hcall
  obtain ⟨profile, hprofile, -⟩ := h.written call hcall version hphase
  obtain ⟨source, hsource, rfl⟩ := h.source profile hprofile
  refine ⟨_, hsource, profile.version, rfl, hprofile, fun other hother v hv => ?_⟩
  obtain ⟨profile', hprofile', hle⟩ := h.written other hother v hv
  obtain rfl := Option.some.inj (hprofile.symm.trans hprofile')
  exact hle

-- ============================================================================
-- Runs
-- ============================================================================

/-- In any run of calls for one user, the cached version never goes back, and the
    roles of a call with the highest version stand in the cache when all calls have
    returned, exactly when every write is in order. -/
theorem versions_forward_iff {s t : UserCache} {steps : List CacheStep}
    (hs : userCache.init s) (h : userCache.execute s steps = some t) :
    (userCache.Along Forward s steps ∧ (t.AllReturned → t.HighestCached)) ↔
      userCache.Along InOrder s steps := by
  have hnewest := NewestCached.initial hs
  have hiff : userCache.Along Forward s steps ↔ userCache.Along InOrder s steps :=
    System.along_iff (I := NewestCached) (fun _ _ _ hs h => forward_iff_inOrder hs h)
      (fun _ _ _ hs h horder => newestCached_step hs h horder) hnewest h
  rw [hiff, and_iff_left_of_imp]
  intro horder
  have hlast : NewestCached t :=
    System.Along.invariant (I := NewestCached) (Q := InOrder)
      (fun _ _ _ hs h horder => newestCached_step hs h horder) hnewest h horder
  exact hlast.highest

-- ============================================================================
-- The steps are those of the service
-- ============================================================================

/-- The user's part of a store. -/
def ofStore (s : Store) (key : UserKey) (calls : List CacheCall) : UserCache :=
  ⟨s.authzVersions key, s.profiles key, calls⟩

/-- What the INCR of a call runs into. -/
def incrStep (ctx : Context) (w : World Store Failure) : CacheStep :=
  match ctx.redisClient, w.faults with
  | true, some _ :: _ => .incrFails 0
  | true, _ => .incr 0
  | false, _ => .incrFails 0

/-- The version and the counter are those of the step. -/
theorem nextVersion_step {ctx : Context} {key : UserKey} {roles : List EffectiveUserRole}
    {w w₁ : World Store Failure} {version : Nat}
    (h : UserAuthorizationCacheService.nextVersion ctx key w = (.ok version, w₁)) :
    (ofStore w.state key [⟨roles, .started⟩]).step (incrStep ctx w) =
      some (ofStore w₁.state key [⟨roles, .versioned version⟩]) := by
  unfold UserAuthorizationCacheService.nextVersion at h
  unfold incrStep
  cases hclient : ctx.redisClient with
  | false =>
    rw [hclient] at h
    obtain ⟨rfl, rfl⟩ := Faulty.pure_ok.mp h
    rfl
  | true =>
    rw [hclient, if_pos rfl] at h
    obtain ⟨state, faults⟩ := w
    rcases faults with _ | ⟨_ | e, faults⟩ <;> obtain ⟨hvalue, rfl⟩ := Prod.mk.inj h <;>
      obtain rfl := Except.ok.inj hvalue
    · simp [step, ofStore, setPhase, Store.incrVersion]
    · simp [step, ofStore, setPhase, Store.incrVersion]
    · rfl

/-- A call that runs alone, with a SET that succeeds, takes the three steps. -/
theorem syncUserCache_steps {ctx : Context} {tenantCode : String} {userId : Uuid}
    {roles : List EffectiveUserRole} {w w₁ w' : World Store Failure} {version : Nat}
    (hversion :
      UserAuthorizationCacheService.nextVersion ctx (tenantCode, userId) w = (.ok version, w₁))
    (hset : Faulty.Quiet w₁)
    (h : UserAuthorizationCacheService.syncUserCache ctx tenantCode userId (some roles) w =
      (.ok ⟨version, roles⟩, w')) :
    userCache.execute (ofStore w.state (tenantCode, userId) [])
        [.start roles, incrStep ctx w, .set 0] =
      some (ofStore w'.state (tenantCode, userId) [⟨roles, .returned version⟩]) := by
  have hstate : w'.state = Store.setProfile w₁.state (tenantCode, userId) ⟨version, roles⟩ := by
    simp only [UserAuthorizationCacheService.syncUserCache,
      UserAuthorizationCacheService.rolesToCache, Faulty.bind_ok, Faulty.pure_ok] at h
    obtain ⟨_, _, ⟨rfl, rfl⟩, version', w₂, hversion', u, w₃, hwrite, -, rfl⟩ := h
    obtain ⟨hvalue, rfl⟩ := Prod.mk.inj (hversion.symm.trans hversion')
    obtain rfl := Except.ok.inj hvalue
    rw [Faulty.tryCatch, Faulty.write, Faulty.call_quiet hset] at hwrite
    obtain ⟨-, rfl⟩ := Prod.mk.inj hwrite
    rfl
  have hstep : userCache.step (ofStore w.state (tenantCode, userId) [⟨roles, .started⟩])
      (incrStep ctx w) = some (ofStore w₁.state (tenantCode, userId)
        [⟨roles, .versioned version⟩]) := nextVersion_step hversion
  refine System.execute_cons.mpr ⟨_, rfl, System.execute_cons.mpr ⟨_, hstep, ?_⟩⟩
  refine System.execute_cons.mpr ⟨_, rfl, ?_⟩
  rw [hstate]
  simp only [System.execute, ofStore, Store.setProfile, if_pos, setPhase, List.set_cons_zero]

-- ============================================================================
-- Two runs
-- ============================================================================

/-- One grant, and none. -/
def sampleRoles : List EffectiveUserRole :=
  [⟨sampleRoleId, sampleGroupId, ⟨.SELF, none⟩⟩]

def noCalls : UserCache := ⟨0, none, []⟩

/-- Two calls, one after the other. -/
def orderlySteps : List CacheStep :=
  [.start sampleRoles, .incr 0, .set 0, .start [], .incr 1, .set 1]

/-- The first call, which still has the role, writes after the second. -/
def overtakenSteps : List CacheStep :=
  [.start sampleRoles, .incr 0, .start [], .incr 1, .set 1, .set 0]

theorem versions_forward_iff_orderly :
    ∃ t, userCache.execute noCalls orderlySteps = some t ∧
      ((userCache.Along Forward noCalls orderlySteps ∧ (t.AllReturned → t.HighestCached)) ↔
        userCache.Along InOrder noCalls orderlySteps) := by
  have hruns : (userCache.execute noCalls orderlySteps).isSome = true := by decide
  obtain ⟨t, ht⟩ := Option.isSome_iff_exists.mp hruns
  exact ⟨t, ht, versions_forward_iff ⟨rfl, rfl⟩ ht⟩

/-- The slow call takes the version back, and the user gets the revoked role back. -/
theorem not_versions_forward :
    ∃ s t steps, userCache.init s ∧ userCache.execute s steps = some t ∧ t.AllReturned ∧
      ¬userCache.Along Forward s steps ∧ ¬t.HighestCached := by
  refine ⟨noCalls, ⟨2, some ⟨1, sampleRoles⟩, [⟨sampleRoles, .returned 1⟩, ⟨[], .returned 2⟩]⟩,
    overtakenSteps, ⟨rfl, rfl⟩, by decide, ?_, ?_, ?_⟩
  · intro call hcall
    rcases List.mem_cons.mp hcall with rfl | hcall
    · exact ⟨1, rfl⟩
    · rw [List.mem_singleton.mp hcall]
      exact ⟨2, rfl⟩
  · intro hforward
    obtain ⟨-, hforward⟩ := (System.along_cons rfl).mp hforward
    obtain ⟨-, hforward⟩ := (System.along_cons rfl).mp hforward
    obtain ⟨-, hforward⟩ := (System.along_cons rfl).mp hforward
    obtain ⟨-, hforward⟩ := (System.along_cons rfl).mp hforward
    obtain ⟨-, hforward⟩ := (System.along_cons rfl).mp hforward
    obtain ⟨hlast, -⟩ := (System.along_cons rfl).mp hforward
    obtain ⟨profile, hprofile, hle⟩ := hlast ⟨2, []⟩ rfl
    obtain rfl := Option.some.inj hprofile
    exact absurd hle (by decide)
  · intro hhighest
    obtain ⟨call, -, version, -, hprofile, hmax⟩ := hhighest (List.cons_ne_nil _ _)
    obtain ⟨rfl, -⟩ := UserAuthorizationProfile.mk.inj (Option.some.inj hprofile)
    have hle := hmax ⟨[], .returned 2⟩ (List.mem_cons_of_mem _ (List.mem_singleton_self _)) 2 rfl
    exact absurd hle (by decide)

end UserCache

end AccessService.Authorization
