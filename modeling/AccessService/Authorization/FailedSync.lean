/-
  AccessService.Authorization.FailedSync

  What a failed job leaves of its source's projection version.  `executeJob` writes it in its
  last transaction, which an exception undoes, but also where it has reconciled the group's
  memberships, before the batch loop: a job of a group with a rule that throws after that
  leaves the group as synchronized (`failed_sync_stays_dirty_iff`).
-/

import AccessService.Authorization.AuthorizationSync
import AccessService.UserGroups.ReconcilerAtomicity

namespace AccessService.Authorization

open AccessService.Lib AccessService.Pg AccessService.Persistence AccessService.UserGroups

namespace AuthorizationReconciliationWorker

open AuthorizationSyncJobRepository AuthorizationSyncService

variable {ctx : WorkerContext} {tenantCode : String} {id : JobId} {job : AuthorizationSyncJob}
  {w w' : World Store Failure}

-- ============================================================================
-- The membership reconciliation
-- ============================================================================

/-- A reconciliation that throws has not come to its last write, the group's version. -/
theorem reconcileGroupPopulation_throws (ctx : Context) (groupId : Uuid) (matched : List Uuid)
    (version : Nat) (sources : Keyed UserGroup UserGroup.id × Keyed Role Role.id) :
    Faulty.Triple (fun s => Store.sources s = sources)
      (MembershipReconciler.reconcileGroupPopulation ctx groupId matched version)
      (fun _ _ => True) fun s => Store.sources s = sources := by
  rw [MembershipReconciler.reconcileGroupPopulation_eq]
  have hmembers : Faulty.Leaves Store.sources
      (Faulty.call fun s : Store => .ok (s.db.membersOf ctx.tenantCode groupId, s) :
        Service (List Uuid)) :=
    Faulty.leaves_read fun s : Store => s.db.membersOf ctx.tenantCode groupId
  refine hmembers.triple.bind fun members => ?_
  rw [MembershipReconciler.applyGroupPopulation_eq]
  refine (UserGroupMembershipRepository.batchInsert_leaves (fun _ _ => rfl) ctx groupId
    _).triple.bind fun _ => ?_
  refine (UserGroupMembershipRepository.batchDelete_leaves (fun _ _ => rfl) ctx groupId
    _).triple.bind fun _ => ?_
  refine (leaves_readDb (g := Store.sources) _).triple.bind fun group => ?_
  refine Faulty.Triple.bind (Q := fun _ _ => True) ?_ fun _ => Faulty.triple_pure fun _ h => h
  unfold Faulty.when
  split
  · have hloop := Faulty.leaves_forEach (g := Store.sources) fun userId =>
      (MembershipReconciler.reconcileAffected_leaves ctx userId).comp fun basis =>
        (basis.2.2.1, basis.2.2.2.1)
    refine (hloop _).triple.bind fun _ => ?_
    rw [UserGroupRepository.updateProjectionVersion, writeDb]
    exact Faulty.triple_write (fun _ hs => hs) fun _ _ => trivial
  · exact Faulty.triple_pure fun _ _ => trivial

/-- One that returns has set the version of its group. -/
theorem reconcileGroupPopulation_group {ctx : Context} {groupId : Uuid} {matched : List Uuid}
    {version : Nat} {result : GroupPopulationReconciliationResult}
    (h : MembershipReconciler.reconcileGroupPopulation ctx groupId matched version w =
      (.ok result, w')) :
    w'.state.db.group ctx.tenantCode groupId = (w.state.db.group ctx.tenantCode groupId).map
      fun g => { g with projectionVersion := version } := by
  obtain ⟨w₁, ⟨table, hnow, -⟩, ⟨hnone, hstate⟩ | ⟨-, w₂, u, hloop, hupdate⟩⟩ :=
    MembershipReconciler.reconcileGroupPopulation_ok h
  · rw [hstate, hnow, hnone]
    exact hnone
  · have hbasis := (Faulty.leaves_forEach
      (MembershipReconciler.reconcileAffected_leaves ctx) _).ok hloop
    have hgroup : w₁.state.db.group = w.state.db.group := by rw [hnow]; rfl
    rw [UserGroupRepository.updateProjectionVersion_ok hupdate, group_of_basis hbasis, hgroup]

-- ============================================================================
-- The job
-- ============================================================================

theorem leaves_sources {α : Type} {x : Service α} (h : Faulty.Leaves Store.basis x) :
    Faulty.Leaves Store.sources x :=
  h.comp fun basis => (basis.2.2.1, basis.2.2.2.1)

theorem reconcileMemberships_throws (ctx : WorkerContext) (job : AuthorizationSyncJob)
    (sources : Keyed UserGroup UserGroup.id × Keyed Role Role.id) :
    Faulty.Triple (fun s => Store.sources s = sources) (reconcileMemberships ctx job)
      (fun _ _ => True) fun s => Store.sources s = sources := by
  unfold reconcileMemberships
  split
  · exact Faulty.triple_pure fun _ _ => trivial
  · refine (leaves_readDb (g := Store.sources) _).triple.bind fun group => ?_
    split
    · exact Faulty.triple_pure fun _ _ => trivial
    next rule _ =>
      have hmatch := (EmployeeReferenceRepository.reads_getMatchedEmployeeIds ctx.toContext
        (UserGroupMatchingEngine.buildMatchingQuery job.tenantCode rule)).leaves (g := Store.sources)
      refine hmatch.triple.bind fun matched => ?_
      exact (reconcileGroupPopulation_throws ctx.toContext job.source.sourceId matched
        job.sourceVersion sources).bind fun _ => Faulty.triple_pure fun _ h => h

/-- Where the job throws before the batch loop, no source has changed. -/
theorem prepareJob_throws (ctx : WorkerContext) (id : JobId) (job : AuthorizationSyncJob)
    (sources : Keyed UserGroup UserGroup.id × Keyed Role Role.id) :
    Faulty.Triple (fun s => Store.sources s = sources) (prepareJob ctx id job)
      (fun _ _ => True) fun s => Store.sources s = sources := by
  refine (leaves_readDb (g := Store.sources) _).triple.bind fun total => ?_
  refine (leaves_sources (update_leaves id _)).triple.bind fun _ => ?_
  exact (reconcileMemberships_throws ctx job sources).bind fun _ => Faulty.triple_pure fun _ h => h

/-- Up to the batch loop a job changes no source, or sets the version of its group. -/
theorem prepareJob_ok {total : Nat} (h : prepareJob ctx id job w = (.ok total, w')) :
    (¬ReconcilesGroup w.state.db ctx.tenantCode job ∧ w'.state.sources = w.state.sources) ∨
      (ReconcilesGroup w.state.db ctx.tenantCode job ∧
        w'.state.db.group ctx.tenantCode job.source.sourceId =
          (w.state.db.group ctx.tenantCode job.source.sourceId).map
            fun g => { g with projectionVersion := job.sourceVersion }) := by
  rcases prepareJob_cases h with
    ⟨hnot, hbasis⟩ | ⟨g, rule, w₁, result, htype, hg, hrule, hbasis, hpopulation⟩
  · exact .inl ⟨hnot, congrArg (fun basis => (basis.2.2.1, basis.2.2.2.1)) hbasis⟩
  · refine .inr ⟨⟨htype, g, rule, hg, hrule⟩, ?_⟩
    rw [reconcileGroupPopulation_group hpopulation, group_of_basis hbasis]

/-- The batch loop and the last transaction, where they throw, add nothing to that. -/
theorem executeJob_error {e : Failure} (h : executeJob ctx id job w = (.error e, w')) :
    (Faulty.Throws (prepareJob ctx id job) w ∧ w'.state.sources = w.state.sources) ∨
      ∃ total w₁, prepareJob ctx id job w = (.ok total, w₁) ∧
        w'.state.sources = w₁.state.sources := by
  rcases Faulty.bind_cases h with ⟨e', hprepare, -⟩ | ⟨total, w₁, hprepare, hrest⟩
  · exact .inl ⟨⟨e', w', hprepare⟩, (prepareJob_throws ctx id job _).of_error rfl hprepare⟩
  · refine .inr ⟨total, w₁, hprepare, ?_⟩
    have hbatches := leaves_sources (processBatches_leaves ctx id job total total 0)
    rcases Faulty.bind_cases hrest with ⟨e', hloop, -⟩ | ⟨processed, w₂, hloop, hfinal⟩
    · exact hbatches.ok hloop
    · rw [Store.sources, runInTransaction_error hfinal]
      exact hbatches.ok hloop

-- ============================================================================
-- The worker
-- ============================================================================

/-- A run of `processNextJob` in which `executeJob` throws: from `w₀` it takes the lock and
    claims the job, the job starts in `w` and has thrown in `w₁`. -/
structure FailedRun (ctx : WorkerContext) (tenantCode : String) (w₀ : World Store Failure)
    (id : JobId) (job : AuthorizationSyncJob) (w w₁ : World Store Failure) : Prop where
  claims : ∃ locked, acquireLock ctx.toContext (workerLockId tenantCode) w₀ = (.ok true, locked) ∧
    claimNextPendingJob ctx tenantCode locked = (.ok (some (id, job)), w)
  throws : ∃ e, executeJob ctx id job w = (.error e, w₁)

theorem claimNextPendingJob_sources (ctx : WorkerContext) (tenantCode : String) :
    Faulty.Leaves Store.sources (claimNextPendingJob ctx tenantCode) := by
  refine (Faulty.leaves_read _).bind fun pending => ?_
  split
  · exact Faulty.leaves_pure _
  · refine (leaves_sources (update_leaves _ _)).bind fun _ => ?_
    exact (Faulty.leaves_modify fun _ => rfl).bind fun _ => Faulty.leaves_pure _

namespace FailedRun

variable {w₀ w₁ : World Store Failure}

theorem claim_sources (h : FailedRun ctx tenantCode w₀ id job w w₁) :
    w.state.sources = w₀.state.sources := by
  obtain ⟨locked, hlock, hclaim⟩ := h.claims
  have hlocked : Faulty.Leaves Store.sources
      (acquireLock ctx.toContext (workerLockId tenantCode)) := Faulty.leaves_modify fun _ => rfl
  exact ((claimNextPendingJob_sources ctx tenantCode).ok hclaim).trans (hlocked.ok hlock)

/-- Marking the job FAILED and releasing the lock change no source. -/
theorem end_sources (h : FailedRun ctx tenantCode w₀ id job w w₁) :
    (processNextJob ctx tenantCode w₀).2.state.sources = w₁.state.sources := by
  obtain ⟨locked, hlock, hclaim⟩ := h.claims
  obtain ⟨e, hthrows⟩ := h.throws
  have hrelease : Faulty.Leaves Store.sources
      (releaseLock ctx.toContext (workerLockId tenantCode)) := Faulty.leaves_modify fun _ => rfl
  have hfailure : Faulty.Leaves Store.sources (handleJobFailure id job) := by
    refine leaves_runInTransaction (f := fun db => (db.groups, db.roles)) ?_
    exact (leaves_sources (update_leaves id _)).bind fun _ => Faulty.leaves_write fun _ => rfl
  have hrun : processNextJob ctx tenantCode w₀ = Faulty.tryFinally
      (processClaimedJob ctx tenantCode) (releaseLock ctx.toContext (workerLockId tenantCode))
      locked := by
    rw [processNextJob, Faulty.bind_runs hlock, if_pos rfl]
  rw [hrun, Faulty.tryFinally_state, hrelease, processClaimedJob, Faulty.bind_runs hclaim]
  have hcaught : ∀ r w₂, Faulty.tryCatch (executeJob ctx id job) (fun _ => handleJobFailure id job) w =
      (r, w₂) → w₂.state.sources = w₁.state.sources := by
    intro r w₂ hcatch
    rw [Faulty.tryCatch, hthrows] at hcatch
    exact hfailure.ok hcatch
  exact Faulty.bind_state (P := fun s => Store.sources s = w₁.state.sources)
    (fun e w₂ he => hcaught _ w₂ he) fun _ w₂ hok => hcaught _ w₂ hok

end FailedRun

theorem versionsOf_sources {s s' : Store} (h : s'.sources = s.sources) :
    versionsOf s'.db = versionsOf s.db := by
  obtain ⟨hgroups, hroles⟩ := Prod.mk.inj h
  funext tenantCode source
  simp only [versionsOf, Database.group, Database.role, hgroups, hroles]

-- ============================================================================
-- Staying dirty
-- ============================================================================

/-- The projection version is what it was, and unless the job was for a version that the
    source does not have yet, requests that follow are answered with a job. -/
structure StaysDirty (tenantCode : String) (job : AuthorizationSyncJob) (before after : Store) :
    Prop where
  projection : (versionsOf after.db tenantCode job.source).map SourceVersions.projectionVersion =
    (versionsOf before.db tenantCode job.source).map SourceVersions.projectionVersion
  requeued : ∀ (ctx : Context) (versions : SourceVersions), ctx.tenantCode = tenantCode →
    versionsOf after.db tenantCode job.source = some versions →
    job.sourceVersion ≤ versions.sourceVersion →
    (∀ params : EnqueueParams, params.tenantCode = tenantCode → params.source = job.source →
      params.ignoreValidateSource = false →
      Requeues ctx job.source versions.sourceVersion after (enqueueSyncJob ctx params)) ∧
    (tenantCode ≠ "" → ∀ userId,
      Requeues ctx job.source versions.sourceVersion after (retryFailedSync ctx userId job.source))

/-- A source whose rows have not changed is as dirty as before. -/
theorem staysDirty_of_sources {before after : Store} {versions : SourceVersions}
    (hsame : after.sources = before.sources)
    (hversions : versionsOf before.db tenantCode job.source = some versions)
    (hdirty : versions.projectionVersion < job.sourceVersion) :
    StaysDirty tenantCode job before after := by
  rw [← versionsOf_sources hsame] at hversions
  refine ⟨by rw [versionsOf_sources hsame], fun ctx versions' htenant hafter hreached => ?_⟩
  subst htenant
  obtain rfl := Option.some.inj (hversions.symm.trans hafter)
  have hbehind : versions.projectionVersion < versions.sourceVersion :=
    Nat.lt_of_lt_of_le hdirty hreached
  refine ⟨fun params htenant hsource hvalidates => ?_, fun htenant userId => ?_⟩
  · rw [← hsource] at hafter ⊢
    exact enqueueSyncJob_requeues htenant hvalidates hafter hbehind
  · exact retryFailedSync_requeues htenant hafter hbehind

/-- A job that throws leaves its dirty source dirty exactly if it is not about a group with
    a rule, or the call that throws comes before the batch loop. -/
theorem failed_sync_stays_dirty_iff {w₀ w₁ : World Store Failure} {versions : SourceVersions}
    (hrun : FailedRun ctx tenantCode w₀ id job w w₁)
    (hversions : versionsOf w₀.state.db ctx.tenantCode job.source = some versions)
    (hdirty : versions.projectionVersion < job.sourceVersion) :
    StaysDirty ctx.tenantCode job w₀.state (processNextJob ctx tenantCode w₀).2.state ↔
      ¬ReconcilesGroup w₀.state.db ctx.tenantCode job ∨ Faulty.Throws (prepareJob ctx id job) w := by
  obtain ⟨e, hthrows⟩ := hrun.throws
  have hstart := hrun.claim_sources
  have hend := hrun.end_sources
  have hgroup : w.state.db.group = w₀.state.db.group := by
    funext tenantCode id
    rw [Database.group, (Prod.mk.inj hstart).1]
    rfl
  rcases executeJob_error hthrows with ⟨hprepare, hsame⟩ | ⟨total, w₂, hprepare, hsame⟩
  · refine iff_of_true ?_ (.inr hprepare)
    exact staysDirty_of_sources (hend.trans (hsame.trans hstart)) hversions hdirty
  · have hruns : ¬Faulty.Throws (prepareJob ctx id job) w := by
      rintro ⟨e', w', hthrown⟩
      rw [hprepare] at hthrown
      cases hthrown
    rcases prepareJob_ok hprepare with ⟨hnot, hkept⟩ | ⟨hreconciles, hadvanced⟩
    · rw [ReconcilesGroup, hgroup] at hnot
      refine iff_of_true ?_ (.inl hnot)
      exact staysDirty_of_sources (hend.trans (hsame.trans (hkept.trans hstart))) hversions hdirty
    · -- the group has the version of the job
      rw [ReconcilesGroup, hgroup] at hreconciles
      refine iff_of_false (fun hstays => ?_) fun hcond =>
        hcond.elim (fun hnot => hnot hreconciles) hruns
      have hprojection := hstays.projection
      obtain ⟨htype, g, rule, hg, hrule⟩ := hreconciles
      rw [hgroup, hg, Option.map_some] at hadvanced
      rw [versionsOf_sources (hend.trans hsame), hversions, versionsOf, htype] at hprojection
      simp only [hadvanced, Option.map_some, Option.some.injEq] at hprojection
      exact absurd hprojection.symm hdirty.ne

-- ============================================================================
-- A group's job that loses its connection
-- ============================================================================

def groupJob : AuthorizationSyncJob where
  tenantCode := "acme"
  source := ⟨.USER_GROUP, sampleGroupId⟩
  sourceVersion := 1
  triggerType := .MANUAL
  priority := .STANDARD
  createdBy := none
  createdAt := 0
  updatedAt := 0

def startedJob : AuthorizationSyncJob :=
  { groupJob with status := .PROCESSING, startedAt := some 0 }

/-- The job is PENDING, and the call after the next `calls` throws. -/
def losesConnection (calls : Nat) : World Store Failure where
  state := { db := { sampleDatabase false .empty with jobs := [groupJob] } }
  faults := List.replicate calls none ++ [some connectionLost]

def lockedAfter (calls : Nat) : World Store Failure :=
  (acquireLock acme (workerLockId "acme") (losesConnection calls)).2

def claimedAfter (calls : Nat) : World Store Failure :=
  (claimNextPendingJob acmeWorker "acme" (lockedAfter calls)).2

def thrownAfter (calls : Nat) : World Store Failure :=
  (executeJob acmeWorker 0 startedJob (claimedAfter calls)).2

/-- The read of the group's members throws. -/
theorem failedRun_reading :
    FailedRun acmeWorker "acme" (losesConnection 6) 0 startedJob (claimedAfter 6)
      (thrownAfter 6) where
  claims := ⟨lockedAfter 6, Prod.ext (by decide +kernel) rfl, Prod.ext (by decide +kernel) rfl⟩
  throws := ⟨connectionLost, Prod.ext (by decide +kernel) rfl⟩

theorem failed_sync_stays_dirty_reading :
    StaysDirty "acme" startedJob (losesConnection 6).state
      (processNextJob acmeWorker "acme" (losesConnection 6)).2.state := by
  have hversions : versionsOf (losesConnection 6).state.db "acme" startedJob.source = some ⟨1, 0⟩ := by
    decide +kernel
  have hthrows : Faulty.Throws (prepareJob acmeWorker 0 startedJob) (claimedAfter 6) :=
    ⟨connectionLost, (prepareJob acmeWorker 0 startedJob (claimedAfter 6)).2,
      Prod.ext (by decide +kernel) rfl⟩
  exact (failed_sync_stays_dirty_iff failedRun_reading hversions (by decide)).mpr (.inr hthrows)

/-- The first page query of the batch loop throws. -/
theorem failedRun_batching :
    FailedRun acmeWorker "acme" (losesConnection 15) 0 startedJob (claimedAfter 15)
      (thrownAfter 15) where
  claims := ⟨lockedAfter 15, Prod.ext (by decide +kernel) rfl, Prod.ext (by decide +kernel) rfl⟩
  throws := ⟨connectionLost, Prod.ext (by decide +kernel) rfl⟩

/-- The group passes for synchronized, and nobody's roles have been recomputed. -/
theorem not_failed_sync_stays_dirty :
    ¬∀ (ctx : WorkerContext) (tenantCode : String) (w₀ w w₁ : World Store Failure) (id : JobId)
      (job : AuthorizationSyncJob) (versions : SourceVersions),
      FailedRun ctx tenantCode w₀ id job w w₁ →
      versionsOf w₀.state.db ctx.tenantCode job.source = some versions →
      versions.projectionVersion < job.sourceVersion →
      StaysDirty ctx.tenantCode job w₀.state (processNextJob ctx tenantCode w₀).2.state := by
  intro h
  have hstays := h _ _ _ _ _ _ _ ⟨1, 0⟩ failedRun_batching (by decide +kernel) (by decide)
  have hprojection : (versionsOf (processNextJob acmeWorker "acme" (losesConnection 15)).2.state.db
      "acme" startedJob.source).map SourceVersions.projectionVersion = some 1 := by
    decide +kernel
  have hbefore : (versionsOf (losesConnection 15).state.db "acme" startedJob.source).map
      SourceVersions.projectionVersion = some 0 := by
    decide +kernel
  have hsame := hprojection.symm.trans (hstays.projection.trans hbefore)
  exact absurd hsame (by decide)

end AuthorizationReconciliationWorker

end AccessService.Authorization
