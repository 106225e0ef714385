/-
  AccessService.Authorization.JobRuns

  What a run of the worker does where no call runs into anything: the job that comes first
  is claimed, runs, and ends COMPLETED or FAILED with its one event (`executeJob_ends`).
  Every other row of the job table, and every lock, is as before, and no source but the
  job's is told another projection version.
-/

import AccessService.Authorization.JobCompletion
import AccessService.Lib.Undisturbed

namespace AccessService.Persistence

theorem Database.role_eq_some {db : Database} {tenantCode : String} {id : Pg.Uuid} {r : Role} :
    db.role tenantCode id = some r ↔ r ∈ db.roles.rows ∧ r.tenantCode = tenantCode ∧ r.id = id :=
  Lib.Keyed.find?_and_key

end AccessService.Persistence

namespace AccessService.Authorization

open AccessService.Lib AccessService.Pg AccessService.Persistence AccessService.UserGroups

-- ============================================================================
-- The jobs and the locks
-- ============================================================================

/-- What the computation of effective roles has nothing to do with. -/
def queueOf (s : Store) : JobTable × SessionLocks × Timestamp := (s.db.jobs, s.locks, s.now)

theorem steady_readDb {α τ : Type} {g : Store → τ} (f : Database → α) :
    Faulty.Steady g (readDb f : Service α) :=
  Faulty.steady_read _

theorem steady_writeDb {τ : Type} {g : Store → τ} (f : Database → Database)
    (h : ∀ s, g { s with db := f s.db } = g s) : Faulty.Steady g (writeDb f) :=
  Faulty.steady_write h

theorem syncRows_steady (ctx : Context) (userId : Uuid) (targets : List UserEffectiveRoleEntry) :
    Faulty.Steady queueOf (UserGroups.UserEffectiveRoleRepository.syncRows ctx userId targets) := by
  refine (steady_readDb _).bind fun rows => (Faulty.steady_when ?_).bind fun _ =>
    (Faulty.steady_when ?_).bind fun _ => Faulty.steady_pure _
  · unfold UserGroups.UserEffectiveRoleRepository.deleteByTenantAndIds
    split
    · exact Faulty.steady_pure ()
    · exact Faulty.steady_write fun _ => rfl
  · refine Faulty.steady_call fun s a s' hf => ?_
    split at hf
    · obtain ⟨-, rfl⟩ := Prod.mk.inj (Except.ok.inj hf)
      rfl
    · cases hf

theorem collectGrants_steady {α δ : Type} (ctx : Context) (groupId : α → Uuid)
    (entry : α → UserGroup → UserGroupRole → δ) (as : List α) :
    Faulty.Steady queueOf (.collect (fun a => grantsOf ctx (groupId a) (entry a)) as) where
  quiet := Faulty.keepsQuiet_collect (fun a => grantsOf_keepsQuiet ctx (groupId a) (entry a)) as
  leaves := (reads_collect_grants ctx groupId entry as).leaves

theorem syncUserCache_steady (ctx : Context) (tenantCode : String) (userId : Uuid)
    (roles : List EffectiveUserRole) :
    Faulty.Steady queueOf
      (UserAuthorizationCacheService.syncUserCache ctx tenantCode userId (some roles)) := by
  refine (Faulty.steady_pure roles).bind fun roles => Faulty.Steady.bind ?_ fun version => ?_
  · unfold UserAuthorizationCacheService.nextVersion
    split
    · refine Faulty.steady_tryCatch (Faulty.steady_call fun s _ s' hf => ?_) fun _ =>
        Faulty.steady_pure 1
      obtain rfl := (Prod.mk.inj (Except.ok.inj hf)).2
      rfl
    · exact Faulty.steady_pure 1
  · refine (Faulty.steady_tryCatch ?_ fun _ => Faulty.steady_pure ()).bind fun _ =>
      Faulty.steady_pure _
    exact Faulty.steady_write fun _ => rfl

theorem recompute_steady (ctx : Context) (tenantCode : String) (userId : Uuid) :
    Faulty.Steady queueOf
      (EffectiveRoleProjectionService.recomputeUserEffectiveRoles ctx tenantCode userId) := by
  refine (steady_readDb _).bind fun memberships =>
    (collectGrants_steady ctx UserGroupMembership.groupId _ memberships).bind fun targets => ?_
  refine Faulty.Steady.bind ?_ fun diff =>
    (syncUserCache_steady ctx tenantCode userId _).bind fun _ => Faulty.steady_pure _
  unfold EffectiveRoleProjectionService.persistRoles
  split
  · refine (Faulty.steady_call fun s n s' hf => ?_).bind fun n => Faulty.steady_pure _
    obtain rfl := (Prod.mk.inj (Except.ok.inj hf)).2
    rfl
  · exact syncRows_steady ctx userId _

theorem reconcileAffected_steady (ctx : Context) (userId : Uuid) :
    Faulty.Steady queueOf (MembershipReconciler.reconcileAffected ctx userId) :=
  (steady_readDb _).bind fun memberships =>
    (collectGrants_steady ctx UserGroupMembership.groupId _ memberships).bind fun targets =>
      (syncRows_steady ctx userId targets).bind fun _ => Faulty.steady_pure ()

theorem reconcileGroupPopulation_steady (ctx : Context) (groupId : Uuid) (matched : List Uuid)
    (version : Nat) :
    Faulty.Steady queueOf
      (MembershipReconciler.reconcileGroupPopulation ctx groupId matched version) := by
  have hinsert : ∀ userIds, Faulty.Steady queueOf
      (UserGroupMembershipRepository.batchInsert ctx groupId userIds) := by
    refine fun userIds => ⟨?_, UserGroupMembershipRepository.batchInsert_leaves
      (fun _ _ => rfl) ctx groupId userIds⟩
    unfold UserGroupMembershipRepository.batchInsert
    split
    · exact Faulty.keepsQuiet_pure ()
    · exact Faulty.keepsQuiet_call _
  have hdelete : ∀ userIds, Faulty.Steady queueOf
      (UserGroupMembershipRepository.batchDelete ctx groupId userIds) := by
    refine fun userIds => ⟨?_, UserGroupMembershipRepository.batchDelete_leaves
      (fun _ _ => rfl) ctx groupId userIds⟩
    unfold UserGroupMembershipRepository.batchDelete
    split
    · exact Faulty.keepsQuiet_pure ()
    · exact Faulty.keepsQuiet_call _
  refine (steady_readDb _).bind fun members => ?_
  refine (Faulty.steady_when (hinsert _)).bind fun _ =>
    (Faulty.steady_when (hdelete _)).bind fun _ => ?_
  refine (steady_readDb _).bind fun group => (Faulty.steady_when ?_).bind fun _ =>
    Faulty.steady_pure _
  exact (Faulty.steady_forEach (reconcileAffected_steady ctx) _).bind fun _ =>
    steady_writeDb _ fun _ => rfl

-- ============================================================================
-- The other jobs
-- ============================================================================

namespace AuthorizationSyncJob

/-- The columns that no run of the worker writes. -/
def request (job : AuthorizationSyncJob) : AuthorizationSyncJob :=
  { job with
    status := .PENDING, totalUsers := none, processedUsers := 0, startedAt := none, updatedAt := 0 }

section Request

variable (now : Timestamp) (n : Nat) (total : Option Nat) (job : AuthorizationSyncJob)

theorem claimed_request : (job.claimed now).request = job.request := rfl
theorem progressed_request : (job.progressed now n total).request = job.request := rfl
theorem completed_request : (job.completed now n).request = job.request := rfl
theorem failed_request : (job.failed now).request = job.request := rfl

end Request

end AuthorizationSyncJob

namespace JobTable

theorem unique_nil : InFlightUnique [] := fun _ _ _ _ hi => absurd hi (by simp)

/-- The table, with no more of row `id` than what was asked for. -/
def besides (jobs : JobTable) (id : JobId) : JobTable :=
  List.modify jobs id AuthorizationSyncJob.request

theorem getElem?_besides (jobs : JobTable) (id i : JobId) :
    (besides jobs id)[i]? =
      if i = id then (jobs[i]?).map AuthorizationSyncJob.request else jobs[i]? := by
  rw [besides, List.getElem?_modify]
  by_cases hi : i = id
  · simp only [hi, if_true]
    rfl
  · simp only [if_neg hi, if_neg (Ne.symm hi), Option.map_eq_map, Option.map_id']

theorem update_besides {jobs jobs' : JobTable} {id : JobId}
    {f : AuthorizationSyncJob → AuthorizationSyncJob} (hf : ∀ job, (f job).request = job.request)
    (h : update jobs id f = some jobs') : besides jobs' id = besides jobs id := by
  refine List.ext_getElem? fun i => ?_
  rw [getElem?_besides, getElem?_besides]
  by_cases hi : i = id
  · rw [if_pos hi, if_pos hi, hi]
    rcases hjob : jobs[id]? with _ | job
    · simp only [update, hjob] at h
      rw [← Option.some.inj h, hjob]
    · rw [update_row hjob h, Option.map_some, Option.map_some, hf]
  · rw [if_neg hi, if_neg hi, update_other h hi]

theorem besides_other {jobs jobs' : JobTable} {id i : JobId}
    (h : besides jobs' id = besides jobs id) (hi : i ≠ id) : jobs'[i]? = jobs[i]? := by
  have hrow : (besides jobs' id)[i]? = (besides jobs id)[i]? := by rw [h]
  rwa [getElem?_besides, getElem?_besides, if_neg hi, if_neg hi] at hrow

theorem besides_row {jobs jobs' : JobTable} {id : JobId} {job : AuthorizationSyncJob}
    (h : besides jobs' id = besides jobs id) (hjob : jobs[id]? = some job) :
    ∃ job' : AuthorizationSyncJob, jobs'[id]? = some job' ∧ job'.request = job.request := by
  have hrow : (besides jobs' id)[id]? = (besides jobs id)[id]? := by rw [h]
  rw [getElem?_besides, getElem?_besides, if_pos rfl, if_pos rfl, hjob] at hrow
  exact Option.map_eq_some_iff.mp hrow

end JobTable

-- ============================================================================
-- What the sources are told
-- ============================================================================

open AuthorizationSyncService

/-- The source of the tenant has the projection version now, all else is as before. -/
def Tells (tenantCode : String) (source : SourceRef) (version : Nat) (db db' : Database) : Prop :=
  ∀ tenantCode' source', versionsOf db' tenantCode' source' =
    if tenantCode' = tenantCode ∧ source' = source then
      (versionsOf db tenantCode' source').map fun v => { v with projectionVersion := version }
    else versionsOf db tenantCode' source'

theorem tells_group (ctx : Context) (id : Uuid) (version : Nat) (db : Database) :
    Tells ctx.tenantCode ⟨.USER_GROUP, id⟩ version db { db with
      groups := db.groups.update
        (UserGroupRepository.withProjectionVersion ctx.tenantCode id version)
        (UserGroupRepository.withProjectionVersion_id ctx.tenantCode id version) } := by
  rintro tenantCode' ⟨type, id'⟩
  cases type with
  | ROLE =>
    rw [if_neg (by rintro ⟨-, h⟩; cases h)]
    rfl
  | USER_GROUP =>
    have hfind : (db.groups.update _ (UserGroupRepository.withProjectionVersion_id ctx.tenantCode
        id version)).rows.find? (fun g => g.tenantCode = tenantCode' && g.id = id') =
          (db.group tenantCode' id').map
            (UserGroupRepository.withProjectionVersion ctx.tenantCode id version) := by
      refine Keyed.find?_update (UserGroupRepository.withProjectionVersion_id _ _ _) fun g => ?_
      unfold UserGroupRepository.withProjectionVersion
      split <;> rfl
    simp only [versionsOf, SourceRef.mk.injEq, true_and]
    rw [Database.group, hfind]
    rcases hfound : db.group tenantCode' id' with _ | g
    · split <;> rfl
    · obtain ⟨-, htenant, hid⟩ := Database.group_eq_some.mp hfound
      simp only [Option.map_some, UserGroupRepository.withProjectionVersion, htenant, hid]
      split <;> rfl

theorem tells_role (tenantCode : String) (id : Uuid) (version : Nat) (db : Database) :
    Tells tenantCode ⟨.ROLE, id⟩ version db { db with
      roles := db.roles.update (RoleRepository.withProjectionVersion tenantCode id version)
        (RoleRepository.withProjectionVersion_id tenantCode id version) } := by
  rintro tenantCode' ⟨type, id'⟩
  cases type with
  | USER_GROUP =>
    rw [if_neg (by rintro ⟨-, h⟩; cases h)]
    rfl
  | ROLE =>
    have hfind : (db.roles.update _ (RoleRepository.withProjectionVersion_id tenantCode
        id version)).rows.find? (fun r => r.tenantCode = tenantCode' && r.id = id') =
          (db.role tenantCode' id').map
            (RoleRepository.withProjectionVersion tenantCode id version) := by
      refine Keyed.find?_update (RoleRepository.withProjectionVersion_id _ _ _) fun r => ?_
      unfold RoleRepository.withProjectionVersion
      split <;> rfl
    simp only [versionsOf, SourceRef.mk.injEq, true_and]
    rw [Database.role, hfind]
    rcases hfound : db.role tenantCode' id' with _ | r
    · split <;> rfl
    · obtain ⟨-, htenant, hid⟩ := Database.role_eq_some.mp hfound
      simp only [Option.map_some, RoleRepository.withProjectionVersion, htenant, hid]
      split <;> rfl

/-- Each source has the versions it had before, or is the one and has been told. -/
def ToldAtMost (tenantCode : String) (source : SourceRef) (version : Nat)
    (before : String → SourceRef → Option SourceVersions) (s : Store) : Prop :=
  ∀ tenantCode' source', versionsOf s.db tenantCode' source' = before tenantCode' source' ∨
    (tenantCode' = tenantCode ∧ source' = source ∧ versionsOf s.db tenantCode' source' =
      (before tenantCode' source').map fun v => { v with projectionVersion := version })

section ToldAtMost

variable {tenantCode : String} {source : SourceRef} {version : Nat}
  {before : String → SourceRef → Option SourceVersions}

theorem ToldAtMost.tells {s : Store} {db : Database}
    (h : ToldAtMost tenantCode source version before s)
    (htells : Tells tenantCode source version s.db db) :
    ToldAtMost tenantCode source version before { s with db := db } := by
  intro tenantCode' source'
  rw [htells tenantCode' source']
  split
  next hsame =>
    refine .inr ⟨hsame.1, hsame.2, ?_⟩
    rcases h tenantCode' source' with hkept | ⟨-, -, htold⟩
    · rw [hkept]
    · rw [htold, Option.map_map]
      rfl
  · exact h tenantCode' source'

theorem preserves_of_sources {α : Type} {x : Service α} (h : Faulty.Leaves Store.sources x) :
    Faulty.Preserves (ToldAtMost tenantCode source version before) x :=
  h.preserves fun s s' hsame htold => by
    rw [ToldAtMost, AuthorizationReconciliationWorker.versionsOf_sources hsame]
    exact htold

theorem preserves_readDb {α : Type} {P : Store → Prop} (f : Database → α) :
    Faulty.Preserves P (readDb f : Service α) :=
  (reads_readDb f).preserves

end ToldAtMost

-- ============================================================================
-- A run of a job
-- ============================================================================

namespace AuthorizationReconciliationWorker

open AuthorizationSyncJobRepository

variable {ctx : WorkerContext} {tenantCode : String} {id : JobId} {job : AuthorizationSyncJob}
  {w w' : World Store Failure}

/-- What a run of job `id` leaves alone. -/
def others (id : JobId) (s : Store) : JobTable × SessionLocks := (s.db.jobs.besides id, s.locks)

theorem steady_others {α : Type} {x : Service α} (h : Faulty.Steady queueOf x) :
    Faulty.Steady (others id) x :=
  h.comp fun queue => (queue.1.besides id, queue.2.1)

theorem update_steady {f : Timestamp → AuthorizationSyncJob → AuthorizationSyncJob}
    (hf : ∀ now job, (f now job).request = job.request) :
    Faulty.Steady (others id) (AuthorizationSyncJobRepository.update id f) := by
  refine Faulty.steady_call fun s a s' hcall => ?_
  split at hcall
  next jobs hjobs =>
    obtain ⟨-, rfl⟩ := Prod.mk.inj (Except.ok.inj hcall)
    exact congrArg (·, s.locks) (JobTable.update_besides (hf s.now) hjobs)
  · cases hcall

theorem prepareJob_steady (ctx : WorkerContext) (id : JobId) (job : AuthorizationSyncJob) :
    Faulty.Steady (others id) (prepareJob ctx id job) := by
  refine (steady_readDb _).bind fun total =>
    (update_steady fun now => AuthorizationSyncJob.progressed_request now _ _).bind fun _ =>
      Faulty.Steady.bind ?_ fun _ => Faulty.steady_pure _
  unfold reconcileMemberships
  split
  · exact Faulty.steady_pure ()
  · refine (steady_readDb _).bind fun group => ?_
    split
    · exact Faulty.steady_pure ()
    next rule _ =>
      have hmatch : Faulty.Steady (others id) (EmployeeReferenceRepository.getMatchedEmployeeIds
          ctx.toContext (UserGroupMatchingEngine.buildMatchingQuery job.tenantCode rule)) :=
        ⟨Faulty.keepsQuiet_call _,
          (EmployeeReferenceRepository.reads_getMatchedEmployeeIds ctx.toContext _).leaves⟩
      exact hmatch.bind fun matched =>
        (steady_others (reconcileGroupPopulation_steady ctx.toContext _ matched _)).bind fun _ =>
          Faulty.steady_pure ()

theorem processBatches_steady (ctx : WorkerContext) (id : JobId) (job : AuthorizationSyncJob)
    (total fuel processed : Nat) :
    Faulty.Steady (others id) (processBatches ctx id job total fuel processed) := by
  induction fuel generalizing processed with
  | zero => exact Faulty.steady_pure _
  | succ fuel ih =>
    have hbody : ∀ user, Faulty.Steady (others id) (recomputeUser ctx job user) := fun user =>
      (steady_others (recompute_steady ctx.toContext job.tenantCode user.id)).bind fun _ =>
        Faulty.steady_pure ()
    rw [processBatches]
    split
    · refine (steady_readDb _).bind fun users => ?_
      split
      · exact Faulty.steady_pure _
      · exact (Faulty.steady_forEach hbody users).bind fun _ =>
          (update_steady fun now => AuthorizationSyncJob.progressed_request now _ _).bind fun _ =>
            ih _
    · exact Faulty.steady_pure _

theorem endJob_steady {f : Timestamp → AuthorizationSyncJob → AuthorizationSyncJob}
    (hf : ∀ now job, (f now job).request = job.request) (event : OutboxEvent) :
    Faulty.Steady (others id) (endJob id f event) :=
  (update_steady hf).bind fun _ => steady_writeDb _ fun _ => rfl

/-- What of the jobs a transaction rolls back is as it was. -/
theorem steady_runInTransaction {body : Service Unit} (h : Faulty.Steady (others id) body) :
    Faulty.Steady (others id) (runInTransaction body) :=
  Faulty.steady_transaction h fun s _ hkept =>
    congrArg (s.db.jobs.besides id, ·) (congrArg Prod.snd hkept)

theorem finalizeJob_steady (processed : Nat) :
    Faulty.Steady (others id) (finalizeJob ctx id job processed) := by
  rw [finalizeJob_eq]
  refine steady_runInTransaction (Faulty.Steady.bind ?_ fun _ =>
    endJob_steady (fun now => AuthorizationSyncJob.completed_request now _) _)
  unfold advanceProjection
  split
  · exact steady_writeDb _ fun _ => rfl
  · exact Faulty.steady_tryCatch (steady_writeDb _ fun _ => rfl) fun _ => Faulty.steady_pure ()

theorem handleJobFailure_steady : Faulty.Steady (others id) (handleJobFailure id job) := by
  rw [handleJobFailure_eq]
  exact steady_runInTransaction (endJob_steady AuthorizationSyncJob.failed_request _)

theorem executeJob_steady : Faulty.Steady (others id) (executeJob ctx id job) :=
  (prepareJob_steady ctx id job).bind fun total =>
    (processBatches_steady ctx id job total total 0).bind fun _ => finalizeJob_steady _

-- ============================================================================
-- What a job tells the sources
-- ============================================================================

section Told

variable {before : String → SourceRef → Option SourceVersions}

theorem updateProjectionVersion_told (ctx : Context) {source : SourceRef} (version : Nat)
    (htype : source.sourceType = .USER_GROUP) :
    Faulty.Preserves (ToldAtMost ctx.tenantCode source version before)
      (UserGroupRepository.updateProjectionVersion ctx source.sourceId version) := by
  have htells := fun s : Store => tells_group ctx source.sourceId version s.db
  obtain ⟨type, groupId⟩ := source
  obtain rfl : type = .USER_GROUP := htype
  exact Faulty.preserves_write fun s hs => hs.tells (htells s)

theorem reconcileGroupPopulation_told (ctx : Context) {source : SourceRef} (matched : List Uuid)
    (version : Nat) (htype : source.sourceType = .USER_GROUP) :
    Faulty.Preserves (ToldAtMost ctx.tenantCode source version before)
      (MembershipReconciler.reconcileGroupPopulation ctx source.sourceId matched version) := by
  have hloop := Faulty.leaves_forEach (g := Store.sources) fun userId =>
    (MembershipReconciler.reconcileAffected_leaves ctx userId).comp fun basis =>
      (basis.2.2.1, basis.2.2.2.1)
  refine (preserves_readDb _).bind fun members => ?_
  refine (Faulty.preserves_when (preserves_of_sources
    (UserGroupMembershipRepository.batchInsert_leaves (fun _ _ => rfl) ctx _ _))).bind fun _ => ?_
  refine (Faulty.preserves_when (preserves_of_sources
    (UserGroupMembershipRepository.batchDelete_leaves (fun _ _ => rfl) ctx _ _))).bind fun _ => ?_
  refine (preserves_readDb _).bind fun group => ?_
  refine (Faulty.preserves_when ?_).bind fun _ => Faulty.preserves_pure _
  exact (preserves_of_sources (hloop _)).bind fun _ =>
    updateProjectionVersion_told ctx version htype

theorem prepareJob_told (ctx : WorkerContext) (id : JobId) (job : AuthorizationSyncJob) :
    Faulty.Preserves (ToldAtMost ctx.tenantCode job.source job.sourceVersion before)
      (prepareJob ctx id job) := by
  refine (preserves_readDb _).bind fun total =>
    (preserves_of_sources (leaves_sources (update_leaves id _))).bind fun _ => ?_
  refine Faulty.Preserves.bind ?_ fun _ => Faulty.preserves_pure _
  unfold reconcileMemberships
  split
  · exact Faulty.preserves_pure ()
  next htype =>
    refine (preserves_readDb _).bind fun group => ?_
    split
    · exact Faulty.preserves_pure ()
    next rule _ =>
      have hmatch := EmployeeReferenceRepository.reads_getMatchedEmployeeIds ctx.toContext
        (UserGroupMatchingEngine.buildMatchingQuery job.tenantCode rule)
      exact hmatch.preserves.bind fun matched =>
        (reconcileGroupPopulation_told ctx.toContext matched job.sourceVersion htype).bind fun _ =>
          Faulty.preserves_pure ()

theorem advanceProjection_told (htenant : job.tenantCode = ctx.tenantCode) :
    Faulty.Preserves (ToldAtMost ctx.tenantCode job.source job.sourceVersion before)
      (advanceProjection ctx job) := by
  unfold advanceProjection
  split
  next htype => exact updateProjectionVersion_told ctx.toContext job.sourceVersion htype
  next htype =>
    refine Faulty.preserves_tryCatch ?_ fun _ => Faulty.preserves_pure ()
    have htells := fun s : Store =>
      tells_role job.tenantCode job.source.sourceId job.sourceVersion s.db
    have hsource : (⟨.ROLE, job.source.sourceId⟩ : SourceRef) = job.source := by rw [← htype]
    simp only [hsource, htenant] at htells
    rw [RoleRepository.updateProjectionVersion, writeDb, htenant]
    exact Faulty.preserves_write fun s hs => hs.tells (htells s)

theorem endJob_told {source : SourceRef} {version : Nat}
    (f : Timestamp → AuthorizationSyncJob → AuthorizationSyncJob) (event : OutboxEvent) :
    Faulty.Preserves (ToldAtMost tenantCode source version before) (endJob id f event) :=
  (preserves_of_sources (leaves_sources (update_leaves id f))).bind fun _ =>
    preserves_of_sources (Faulty.leaves_write fun _ => rfl)

theorem preserves_runInTransaction {source : SourceRef} {version : Nat} {body : Service Unit}
    (h : Faulty.Preserves (ToldAtMost tenantCode source version before) body) :
    Faulty.Preserves (ToldAtMost tenantCode source version before) (runInTransaction body) :=
  Faulty.preserves_transaction h fun _ _ hs => hs

/-- A job tells no other source, and its own nothing but its version. -/
theorem executeJob_told (htenant : job.tenantCode = ctx.tenantCode) :
    Faulty.Preserves (ToldAtMost ctx.tenantCode job.source job.sourceVersion before)
      (executeJob ctx id job) := by
  refine (prepareJob_told ctx id job).bind fun total => ?_
  have hbatches := leaves_sources (processBatches_leaves ctx id job total total 0)
  refine (preserves_of_sources hbatches).bind fun processed => ?_
  rw [finalizeJob_eq]
  exact preserves_runInTransaction ((advanceProjection_told htenant).bind fun _ => endJob_told _ _)

theorem handleJobFailure_told {source : SourceRef} {version : Nat} :
    Faulty.Preserves (ToldAtMost tenantCode source version before) (handleJobFailure id job) := by
  rw [handleJobFailure_eq]
  exact preserves_runInTransaction (endJob_told _ _)

end Told

-- ============================================================================
-- The end of a job
-- ============================================================================

/-- The event that goes with a final status. -/
def finalEvent : SyncJobStatus → Option SyncEventType
  | .COMPLETED => some .AUTHORIZATION_SYNC_COMPLETED
  | .FAILED => some .AUTHORIZATION_SYNC_FAILED
  | .PENDING | .PROCESSING => none

/-- A job that throws has written no event. -/
theorem executeJob_throws {e : Failure} (h : executeJob ctx id job w = (.error e, w')) :
    ledger w'.state = ledger w.state := by
  rcases Faulty.bind_cases h with ⟨e', hprepare, -⟩ | ⟨total, w₁, hprepare, hrest⟩
  · exact (prepareJob_ledger ctx id job).ok hprepare
  · rw [← (prepareJob_ledger ctx id job).ok hprepare]
    rcases Faulty.bind_cases hrest with ⟨e', hbatches, -⟩ | ⟨processed, w₂, hbatches, hfinal⟩
    · exact (processBatches_ledger ctx id job total total 0).ok hbatches
    · rw [← (processBatches_ledger ctx id job total total 0).ok hbatches, ledger, ledger,
        runInTransaction_error hfinal]

/-- What a run of a job has done when it has ended. -/
structure Ended (ctx : WorkerContext) (id : JobId) (job : AuthorizationSyncJob)
    (type : SyncEventType) (s s' : Store) : Prop where
  others : others id s' = others id s
  outbox : s'.db.outbox = s.db.outbox ++ [.sync (.ofJob type id job)]
  status : (s'.db.jobs.statusOf id).bind finalEvent = some type
  told : ToldAtMost ctx.tenantCode job.source job.sourceVersion (versionsOf s.db) s'
  completed : type = .AUTHORIZATION_SYNC_COMPLETED →
    ∀ versions, versionsOf s'.db ctx.tenantCode job.source = some versions →
      versions.projectionVersion = job.sourceVersion

/-- A job that has thrown is marked FAILED. -/
theorem handleJobFailure_ends {s : Store} (hquiet : Faulty.Quiet w)
    (hrow : id < w.state.db.jobs.length) (hothers : others id w.state = others id s)
    (houtbox : w.state.db.outbox = s.db.outbox)
    (htold : ToldAtMost ctx.tenantCode job.source job.sourceVersion (versionsOf s.db) w.state) :
    ∃ w', handleJobFailure id job w = (.ok (), w') ∧ Faulty.Quiet w' ∧
      Ended ctx id job .AUTHORIZATION_SYNC_FAILED s w'.state := by
  have hmarked : ∀ now job, (AuthorizationSyncJob.failed now job).status = .FAILED :=
    fun _ _ => rfl
  obtain ⟨w', hend⟩ : ∃ w', endJob id AuthorizationSyncJob.failed
      (.sync (.ofJob .AUTHORIZATION_SYNC_FAILED id job)) w = (.ok (), w') :=
    (endJob_runs_iff fun _ _ => rfl).mpr ⟨hquiet.not_throwsAt 0, hquiet.not_throwsAt 1⟩
  have hfailure : handleJobFailure id job w = (.ok (), w') := by
    rw [handleJobFailure_eq, runInTransaction, Faulty.transaction_ok]
    exact hend
  obtain ⟨hquiet', hothers'⟩ := handleJobFailure_steady.ok hquiet hfailure
  obtain ⟨hstatus, hevent, -⟩ := endJob_ok hrow hmarked hend
  have htold' : ToldAtMost ctx.tenantCode job.source job.sourceVersion (versionsOf s.db)
      (handleJobFailure id job w).2.state := handleJobFailure_told w htold
  rw [hfailure] at htold'
  exact ⟨w', hfailure, hquiet', {
    others := hothers'.trans hothers
    outbox := houtbox ▸ hevent
    status := by rw [hstatus]; rfl
    told := htold'
    completed := by rintro ⟨⟩ }⟩

theorem sourceTenant_eq (htenant : job.tenantCode = ctx.tenantCode) :
    sourceTenant ctx job = ctx.tenantCode := by
  unfold sourceTenant
  split
  · rfl
  · exact htenant

/-- An undisturbed run of a job, with what follows a failure, ends it. -/
theorem executeJob_ends (ctx : WorkerContext) (job : AuthorizationSyncJob)
    (hquiet : Faulty.Quiet w) (hrow : id < w.state.db.jobs.length)
    (htenant : job.tenantCode = ctx.tenantCode) :
    ∃ type w', Faulty.tryCatch (executeJob ctx id job) (fun _ => handleJobFailure id job) w =
        (.ok (), w') ∧ Faulty.Quiet w' ∧ Ended ctx id job type w.state w'.state ∧
      ∀ w₁, executeJob ctx id job w = (.ok (), w₁) →
        type = .AUTHORIZATION_SYNC_COMPLETED ∧ w' = w₁ := by
  have htold : ToldAtMost ctx.tenantCode job.source job.sourceVersion (versionsOf w.state.db)
      (executeJob ctx id job w).2.state := executeJob_told htenant w fun _ _ => .inl rfl
  rcases hexecute : executeJob ctx id job w with ⟨e | u, w₁⟩
  · rw [hexecute] at htold
    obtain ⟨hquiet₁, hothers⟩ := executeJob_steady.ok hquiet hexecute
    obtain ⟨hlength, houtbox⟩ := Prod.mk.inj (executeJob_throws hexecute)
    obtain ⟨w₂, hfailure, hquiet₂, hended⟩ :=
      handleJobFailure_ends hquiet₁ (hlength.symm ▸ hrow) hothers houtbox htold
    refine ⟨.AUTHORIZATION_SYNC_FAILED, w₂, ?_, hquiet₂, hended, fun _ hok => by cases hok⟩
    rw [Faulty.tryCatch, hexecute]
    exact hfailure
  · rw [hexecute] at htold
    obtain ⟨hquiet₁, hothers⟩ := executeJob_steady.ok hquiet hexecute
    obtain ⟨total, w₂, hprepare, hrest⟩ := Faulty.bind_ok.mp hexecute
    obtain ⟨processed, w₃, hbatches, hfinal⟩ := Faulty.bind_ok.mp hrest
    have hquiet₂ := ((prepareJob_steady ctx id job).ok hquiet hprepare).1
    have hquiet₃ := ((processBatches_steady ctx id job total total 0).ok hquiet₂ hbatches).1
    obtain ⟨hlength, houtbox⟩ := Prod.mk.inj
      (((processBatches_ledger ctx id job total total 0).ok hbatches).trans
        ((prepareJob_ledger ctx id job).ok hprepare))
    have hcommits : Commits job w₃ :=
      ⟨fun _ => hquiet₃.not_throwsAt 0, hquiet₃.not_throwsAt 1, hquiet₃.not_throwsAt 2⟩
    obtain ⟨w₄, hfinal₄, hstatus, hevent, -, hprojected⟩ := finalizeJob_commits ctx processed
      (hlength.symm ▸ hrow) hcommits
    obtain rfl : w₁ = w₄ := (Prod.mk.inj (hfinal.symm.trans hfinal₄)).2
    have hversions := hprojected (hquiet₃.not_throwsAt 0)
    rw [sourceVersions, sourceTenant_eq htenant] at hversions
    have hended : Ended ctx id job .AUTHORIZATION_SYNC_COMPLETED w.state w₁.state := by
      refine ⟨hothers, houtbox ▸ hevent, by rw [hstatus]; rfl, htold, fun _ versions hsome => ?_⟩
      rw [hversions] at hsome
      obtain ⟨-, -, rfl⟩ := Option.map_eq_some_iff.mp hsome
      rfl
    exact ⟨.AUTHORIZATION_SYNC_COMPLETED, w₁, by rw [Faulty.tryCatch, hexecute], hquiet₁, hended,
      fun w₂ hok => ⟨rfl, (Prod.mk.inj hok).2⟩⟩

-- ============================================================================
-- A run of the worker
-- ============================================================================

/-- Nothing else is in flight with the key of a job in flight, so a write that keeps the key
    is no violation. -/
theorem inFlight_update {jobs : JobTable} {f : AuthorizationSyncJob → AuthorizationSyncJob}
    (hunique : jobs.InFlightUnique) (hjob : jobs[id]? = some job)
    (hflight : job.status.inFlight = true) (hkey : (f job).key = job.key) :
    jobs.update id f = some (jobs.set id (f job)) := by
  have hfree : JobTable.conflicts jobs id (f job) = false := by
    refine JobTable.conflicts_eq_false.mpr fun _ i other hother hne hother' hsame => hne ?_
    exact hunique i id other job hother hjob hother' hflight (hsame.trans hkey)
  rw [JobTable.update, hjob]
  exact if_neg (by rw [hfree]; exact Bool.false_ne_true)

theorem claimed_update {jobs : JobTable} (now : Timestamp) (hunique : jobs.InFlightUnique)
    (hjob : jobs[id]? = some job) (hpending : job.status = .PENDING) :
    jobs.update id (AuthorizationSyncJob.claimed now) = some (jobs.set id (job.claimed now)) :=
  inFlight_update hunique hjob (by rw [hpending]; rfl) rfl

theorem update_runs {f : Timestamp → AuthorizationSyncJob → AuthorizationSyncJob} {jobs : JobTable}
    (hquiet : Faulty.Quiet w) (h : w.state.db.jobs.update id (f w.state.now) = some jobs) :
    AuthorizationSyncJobRepository.update id f w = (.ok (), Faulty.afterCall w
      { w.state with db := { w.state.db with jobs := jobs } }) :=
  (hquiet.call_runs (by rw [h])).1

/-- An undisturbed claim takes the job that comes first, if there is one. -/
theorem claim_runs (ctx : WorkerContext) (tenantCode : String) (hquiet : Faulty.Quiet w)
    (hunique : w.state.db.jobs.InFlightUnique) :
    (w.state.db.jobs.hasPending tenantCode = false ∧ ∃ w', Faulty.Quiet w' ∧
        w'.state = w.state ∧ claimNextPendingJob ctx tenantCode w = (.ok none, w')) ∨
      ∃ id job w', w.state.db.jobs[id]? = some job ∧ job.status = .PENDING ∧
        w.state.db.jobs.isNextPending tenantCode id = true ∧ Faulty.Quiet w' ∧
        w'.state = { w.state with db := { w.state.db with
          jobs := w.state.db.jobs.set id (job.claimed w.state.now) } } ∧
        claimNextPendingJob ctx tenantCode w = (.ok (some (id, { job with
          status := .PROCESSING, startedAt := some w.state.now })), w') := by
  have hread := hquiet.read_runs fun s : Store =>
    (ctx.nextPending s.db.jobs tenantCode).bind fun id => (s.db.jobs[id]?).map fun job => (id, job)
  have hquiet₁ := hquiet.afterCall w.state
  rcases hnext : ctx.nextPending w.state.db.jobs tenantCode with _ | id
  · rw [hnext] at hread
    exact .inl ⟨ctx.nextPending_none hnext, _, hquiet₁, rfl, Faulty.bind_runs hread⟩
  · have hfirst := ctx.nextPending_some hnext
    obtain ⟨job, hjob, hpending, -⟩ := JobTable.isNextPending_job hfirst
    simp only [AuthorizationSyncJob.pendingFor, Bool.and_eq_true, decide_eq_true_eq] at hpending
    rw [hnext, Option.bind_some, hjob, Option.map_some] at hread
    have hclaimed := claimed_update w.state.now hunique hjob hpending.2
    have hupdate := update_runs (f := AuthorizationSyncJob.claimed) hquiet₁ hclaimed
    refine .inr ⟨id, job, _, hjob, hpending.2, hfirst, hquiet₁.afterCall _, rfl, ?_⟩
    exact (Faulty.bind_runs hread).trans (Faulty.bind_runs hupdate)

/-- A lock that is taken and given back is free as before. -/
theorem locks_given_back {locks : SessionLocks} {lockId : String} {session : Session}
    (hfree : locks lockId = none) :
    (locks.set lockId (some ⟨session, 0⟩)).set lockId none = locks := by
  funext k
  by_cases hk : k = lockId
  · rw [hk, AdvisoryLock.Locks.set_self, hfree]
  · rw [AdvisoryLock.Locks.set_of_ne _ _ hk, AdvisoryLock.Locks.set_of_ne _ _ hk]

/-- Under a free lock the worker runs, and gives the lock back. -/
theorem processNextJob_runs {session : Session} {b : Bool} {locked : World Store Failure}
    (hsession : ctx.session = some session)
    (hfree : w.state.locks (workerLockId tenantCode) = none)
    (hlocked : locked = { w with state := { w.state with
      locks := w.state.locks.set (workerLockId tenantCode) (some ⟨session, 0⟩) } })
    (hrun : processClaimedJob ctx tenantCode locked = (.ok b, w'))
    (hkept : w'.state.locks =
      w.state.locks.set (workerLockId tenantCode) (some ⟨session, 0⟩)) :
    processNextJob ctx tenantCode w =
      (.ok b, { w' with state := { w'.state with locks := w.state.locks } }) := by
  have hacquire : acquireLock ctx.toContext (workerLockId tenantCode) w = (.ok true, locked) := by
    rw [hlocked]
    simp only [acquireLock, Faulty.modify, DistributedLockAdapter.acquireLock, hsession,
      AdvisoryLock.Locks.tryLock, hfree]
  have hrelease : releaseLock ctx.toContext (workerLockId tenantCode) w' =
      (.ok (), { w' with state := { w'.state with locks := w.state.locks } }) := by
    have hheld : w'.state.locks (workerLockId tenantCode) = some ⟨session, 0⟩ := by
      rw [hkept, AdvisoryLock.Locks.set_self]
    simp only [releaseLock, Faulty.modify, DistributedLockAdapter.releaseLock, hsession,
      AdvisoryLock.Locks.unlock_once hheld]
    rw [hkept, locks_given_back hfree]
  rw [processNextJob, Faulty.bind_runs hacquire, if_pos rfl, Faulty.tryFinally, hrun]
  simp only [hrelease]

end AuthorizationReconciliationWorker

end AccessService.Authorization
