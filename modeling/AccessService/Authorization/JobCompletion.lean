/-
  AccessService.Authorization.JobCompletion

  Whether a job ends all at once: COMPLETED, with its event and the source's projection
  version, or FAILED, with its event and nothing else.  The last transaction undoes what
  it has written when one of its calls throws, but the update of a role's projection
  version may throw without the transaction noticing: the job completes, and the role is
  as dirty as before (`all_or_nothing_iff`).
-/

import AccessService.Authorization.FailedSync

namespace AccessService.Authorization

open AccessService.Lib AccessService.Pg AccessService.Persistence AccessService.UserGroups

namespace RoleRepository

/-- The role, if there is one, has the version afterwards. -/
theorem updateProjectionVersion_ok {tenantCode : String} {id : Uuid} {projectionVersion : Nat}
    {w w' : World Store Failure} {u : Unit}
    (h : updateProjectionVersion tenantCode id projectionVersion w = (.ok u, w')) :
    w'.state.db.role tenantCode id = (w.state.db.role tenantCode id).map fun r =>
      { r with projectionVersion := projectionVersion } := by
  have hupdated : w'.state.db.role tenantCode id =
      (w.state.db.role tenantCode id).map
        (withProjectionVersion tenantCode id projectionVersion) := by
    rw [writeDb_ok h]
    refine Keyed.find?_update (withProjectionVersion_id _ _ _) fun r => ?_
    unfold withProjectionVersion
    split <;> rfl
  rw [hupdated]
  rcases hfound : w.state.db.role tenantCode id with _ | r
  · rfl
  · have hkey := List.find?_some hfound
    simp only [Bool.and_eq_true, decide_eq_true_eq] at hkey
    rw [Option.map_some, Option.map_some, withProjectionVersion, if_pos hkey]

end RoleRepository

namespace AuthorizationReconciliationWorker

open AuthorizationSyncJobRepository AuthorizationSyncService

variable {ctx : WorkerContext} {tenantCode : String} {id : JobId} {job : AuthorizationSyncJob}
  {w w' : World Store Failure}

-- ============================================================================
-- Before the last transaction
-- ============================================================================

/-- How many jobs there are, and the outbox. -/
def ledger (s : Store) : Nat × List OutboxEvent := (s.db.jobs.length, s.db.outbox)

theorem leaves_ledger {α : Type} {x : Service α} (h : Faulty.Leaves Store.tables x) :
    Faulty.Leaves ledger x :=
  h.comp fun db => (db.jobs.length, db.outbox)

theorem update_ledger (id : JobId) (f : Timestamp → AuthorizationSyncJob → AuthorizationSyncJob) :
    Faulty.Leaves ledger (AuthorizationSyncJobRepository.update id f) := by
  refine Faulty.leaves_call fun s a s' hf => ?_
  split at hf
  next hupdate =>
    obtain ⟨-, rfl⟩ := Prod.mk.inj (Except.ok.inj hf)
    exact congrArg (·, s.db.outbox) (JobTable.update_length hupdate)
  · cases hf

theorem reconcileGroupPopulation_ledger (ctx : Context) (groupId : Uuid) (matched : List Uuid)
    (version : Nat) :
    Faulty.Leaves ledger
      (MembershipReconciler.reconcileGroupPopulation ctx groupId matched version) := by
  have hloop := Faulty.leaves_forEach fun userId =>
    leaves_ledger (MembershipReconciler.reconcileAffected_leavesTables ctx userId)
  refine (leaves_readDb _).bind fun members => ?_
  refine (Faulty.leaves_when (UserGroupMembershipRepository.batchInsert_leaves
    (fun _ _ => rfl) ctx groupId _)).bind fun _ => ?_
  refine (Faulty.leaves_when (UserGroupMembershipRepository.batchDelete_leaves
    (fun _ _ => rfl) ctx groupId _)).bind fun _ => ?_
  refine (leaves_readDb _).bind fun group => ?_
  refine (Faulty.leaves_when ?_).bind fun _ => Faulty.leaves_pure _
  exact (hloop _).bind fun _ => Faulty.leaves_write fun _ => rfl

theorem prepareJob_ledger (ctx : WorkerContext) (id : JobId) (job : AuthorizationSyncJob) :
    Faulty.Leaves ledger (prepareJob ctx id job) := by
  refine (leaves_readDb _).bind fun total => (update_ledger id _).bind fun _ => ?_
  refine Faulty.Leaves.bind ?_ fun _ => Faulty.leaves_pure _
  unfold reconcileMemberships
  split
  · exact Faulty.leaves_pure ()
  · refine (leaves_readDb _).bind fun group => ?_
    split
    · exact Faulty.leaves_pure ()
    next rule _ =>
      have hmatch := (EmployeeReferenceRepository.reads_getMatchedEmployeeIds ctx.toContext
        (UserGroupMatchingEngine.buildMatchingQuery job.tenantCode rule)).leaves (g := ledger)
      refine hmatch.bind fun matched => ?_
      exact (reconcileGroupPopulation_ledger ctx.toContext _ matched _).bind fun _ =>
        Faulty.leaves_pure ()

theorem processBatches_ledger (ctx : WorkerContext) (id : JobId) (job : AuthorizationSyncJob)
    (total fuel processed : Nat) :
    Faulty.Leaves ledger (processBatches ctx id job total fuel processed) := by
  induction fuel generalizing processed with
  | zero => exact Faulty.leaves_pure _
  | succ fuel ih =>
    have hbody : ∀ user, Faulty.Leaves ledger (recomputeUser ctx job user) := fun user =>
      (leaves_ledger (EffectiveRoleProjectionService.recompute_leavesTables ctx.toContext
        job.tenantCode user.id)).bind fun _ => Faulty.leaves_pure ()
    rw [processBatches]
    split
    · refine (leaves_readDb _).bind fun users => ?_
      split
      · exact Faulty.leaves_pure _
      · exact (Faulty.leaves_forEach hbody users).bind fun _ =>
          (update_ledger id _).bind fun _ => ih _
    · exact Faulty.leaves_pure _

/-- A job that is claimed is a PENDING row of the tenant. -/
theorem claimNextPendingJob_some
    (h : claimNextPendingJob ctx tenantCode w = (.ok (some (id, job)), w')) :
    id < w.state.db.jobs.length ∧ job.tenantCode = tenantCode ∧
      ledger w'.state = ledger w.state := by
  obtain ⟨pending, w₁, hread, hrest⟩ := Faulty.bind_ok.mp h
  obtain ⟨hpending, hstate⟩ := Faulty.read_ok hread
  rcases pending with _ | ⟨id', job'⟩
  · exact absurd (Faulty.pure_ok.mp hrest).1 nofun
  · obtain ⟨u, w₂, hupdate, hreturn⟩ := Faulty.bind_ok.mp hrest
    obtain ⟨now, w₃, hnow, hpair⟩ := Faulty.bind_ok.mp hreturn
    obtain ⟨hsome, rfl⟩ := Faulty.pure_ok.mp hpair
    obtain ⟨rfl, rfl⟩ := Prod.mk.inj (Option.some.inj hsome)
    obtain ⟨next, hnext, hrow⟩ := Option.bind_eq_some_iff.mp hpending.symm
    obtain ⟨row, hjob, hsame⟩ := Option.map_eq_some_iff.mp hrow
    obtain ⟨rfl, rfl⟩ := Prod.mk.inj hsame
    obtain ⟨row', hjob', hpendingFor, -⟩ := JobTable.isNextPending_job (ctx.nextPending_some hnext)
    obtain rfl := Option.some.inj (hjob.symm.trans hjob')
    simp only [AuthorizationSyncJob.pendingFor, Bool.and_eq_true, decide_eq_true_eq] at hpendingFor
    refine ⟨(List.getElem?_eq_some_iff.mp hjob).1, hpendingFor.1, ?_⟩
    obtain ⟨-, rfl⟩ := Faulty.modify_ok hnow
    rw [← hstate]
    exact (update_ledger _ _).ok hupdate

-- ============================================================================
-- A final status with its event
-- ============================================================================

/-- The two writes that both transactions end with. -/
def endJob (id : JobId) (f : Timestamp → AuthorizationSyncJob → AuthorizationSyncJob)
    (event : OutboxEvent) : Service Unit := do
  AuthorizationSyncJobRepository.update id f
  OutboxEventRepository.create event

section EndJob

variable {f : Timestamp → AuthorizationSyncJob → AuthorizationSyncJob} {event : OutboxEvent}

/-- A final status never violates the index of the jobs in flight. -/
theorem update_final (hfinal : ∀ now job, (f now job).status.inFlight = false) (jobs : JobTable)
    (id : JobId) (now : Timestamp) : ∃ jobs', jobs.update id (f now) = some jobs' := by
  unfold JobTable.update
  split
  · exact ⟨_, rfl⟩
  next row _ =>
    have hfree : JobTable.conflicts jobs id (f now row) = false := by
      rw [JobTable.conflicts, hfinal, Bool.false_and]
    exact ⟨_, if_neg (by rw [hfree]; exact Bool.false_ne_true)⟩

theorem create_runs_iff :
    (∃ w', OutboxEventRepository.create event w = (.ok (), w')) ↔ ¬Faulty.ThrowsAt w 0 := by
  constructor
  · rintro ⟨w', hrun⟩ hthrows
    obtain ⟨e, hthrown⟩ :=
      writeDb_throws (fun db => { db with outbox := db.outbox ++ [event] }) hthrows
    cases hthrown.symm.trans hrun
  · exact fun h => ⟨_, writeDb_returns _ h⟩

theorem endJob_runs_iff (hfinal : ∀ now job, (f now job).status.inFlight = false) :
    (∃ w', endJob id f event w = (.ok (), w')) ↔
      ¬Faulty.ThrowsAt w 0 ∧ ¬Faulty.ThrowsAt w 1 := by
  obtain ⟨jobs', hjobs⟩ := update_final hfinal w.state.db.jobs id w.state.now
  unfold endJob AuthorizationSyncJobRepository.update
  by_cases hfirst : Faulty.ThrowsAt w 0
  · refine iff_of_false ?_ fun h => h.1 hfirst
    rintro ⟨w', hrun⟩
    obtain ⟨e, hthrown⟩ := Faulty.call_bind_throws hfirst
    cases hthrown.symm.trans hrun
  · rw [Faulty.call_bind_runs hfirst (by rw [hjobs]), create_runs_iff, Faulty.throwsAt_afterCall]
    exact (and_iff_right hfirst).symm

/-- The job has the status, and the event is the last of the outbox. -/
theorem endJob_ok {u : Unit} {status : SyncJobStatus} (hrow : id < w.state.db.jobs.length)
    (hstatus : ∀ now job, (f now job).status = status)
    (h : endJob id f event w = (.ok u, w')) :
    w'.state.db.jobs.statusOf id = some status ∧
      w'.state.db.outbox = w.state.db.outbox ++ [event] ∧ w'.state.sources = w.state.sources := by
  obtain ⟨u₁, w₁, hupdate, hcreate⟩ := Faulty.bind_ok.mp h
  have hlast := writeDb_ok hcreate
  have hcall := Faulty.call_ok hupdate
  split at hcall
  next jobs hjobs =>
    have hstate := (Prod.mk.inj (Except.ok.inj hcall)).2
    have hrow' : w.state.db.jobs[id]? = some w.state.db.jobs[id] := List.getElem?_eq_getElem hrow
    rw [hlast, ← hstate]
    refine ⟨?_, rfl, rfl⟩
    show JobTable.statusOf jobs id = _
    rw [JobTable.statusOf_update hrow' hjobs, if_pos rfl, hstatus]
  · cases hcall

end EndJob

theorem finalizeJob_eq (processed : Nat) :
    finalizeJob ctx id job processed = runInTransaction (advanceProjection ctx job >>= fun _ =>
      endJob id (fun now => AuthorizationSyncJob.completed now processed)
        (.sync (.ofJob .AUTHORIZATION_SYNC_COMPLETED id job))) := rfl

theorem handleJobFailure_eq : handleJobFailure id job = runInTransaction
    (endJob id AuthorizationSyncJob.failed (.sync (.ofJob .AUTHORIZATION_SYNC_FAILED id job))) :=
  rfl

-- ============================================================================
-- The last transaction
-- ============================================================================

/-- The tenant whose row is told the projection version: the request's for a group, the
    job's for a role. -/
def sourceTenant (ctx : WorkerContext) (job : AuthorizationSyncJob) : String :=
  match job.source.sourceType with
  | .USER_GROUP => ctx.tenantCode
  | .ROLE => job.tenantCode

/-- The row of the job's source, as far as its versions go. -/
def sourceVersions (ctx : WorkerContext) (job : AuthorizationSyncJob) (s : Store) :
    Option SourceVersions :=
  versionsOf s.db (sourceTenant ctx job) job.source

theorem sourceVersions_of_sources {s s' : Store} (h : s'.sources = s.sources) :
    sourceVersions ctx job s' = sourceVersions ctx job s := by
  rw [sourceVersions, sourceVersions, versionsOf_sources h]

/-- The update throws for a group, or it returns: it has been made, or it has thrown for a
    role and nothing has happened. -/
theorem advanceProjection_cases (ctx : WorkerContext) (job : AuthorizationSyncJob)
    (w : World Store Failure) :
    (job.source.sourceType = .USER_GROUP ∧ Faulty.ThrowsAt w 0 ∧
        ∃ e w₁, advanceProjection ctx job w = (.error e, w₁)) ∨
      ((job.source.sourceType = .USER_GROUP → ¬Faulty.ThrowsAt w 0) ∧
        ∃ w₁, advanceProjection ctx job w = (.ok (), w₁) ∧ w₁.faults = w.faults.tail ∧
          w₁.state.db.jobs = w.state.db.jobs ∧ w₁.state.db.outbox = w.state.db.outbox ∧
          (Faulty.ThrowsAt w 0 → sourceVersions ctx job w₁.state =
            sourceVersions ctx job w.state) ∧
          (¬Faulty.ThrowsAt w 0 → sourceVersions ctx job w₁.state =
            (sourceVersions ctx job w.state).map fun versions =>
              { versions with projectionVersion := job.sourceVersion })) := by
  cases htype : job.source.sourceType with
  | USER_GROUP =>
    simp only [advanceProjection, htype]
    by_cases hthrows : Faulty.ThrowsAt w 0
    · obtain ⟨e, he⟩ := writeDb_throws _ hthrows
      exact .inl ⟨trivial, hthrows, e, _, he⟩
    · obtain ⟨w₁, hrun, hfaults, hjobs, houtbox⟩ : ∃ w₁,
          UserGroupRepository.updateProjectionVersion ctx.toContext job.source.sourceId
            job.sourceVersion w = (.ok (), w₁) ∧ w₁.faults = w.faults.tail ∧
          w₁.state.db.jobs = w.state.db.jobs ∧ w₁.state.db.outbox = w.state.db.outbox :=
        ⟨_, writeDb_returns _ hthrows, rfl, rfl, rfl⟩
      refine .inr ⟨fun _ => hthrows, w₁, hrun, hfaults, hjobs, houtbox,
        fun h => absurd h hthrows, fun _ => ?_⟩
      have hgroup := UserGroupRepository.updateProjectionVersion_ok hrun
      simp only [sourceVersions, sourceTenant, versionsOf, htype, hgroup, Option.map_map]
      rfl
  | ROLE =>
    simp only [advanceProjection, htype]
    have hrole : SyncSourceType.ROLE = .USER_GROUP → ¬Faulty.ThrowsAt w 0 := by
      intro hgroup
      cases hgroup
    by_cases hthrows : Faulty.ThrowsAt w 0
    · obtain ⟨e, he⟩ : ∃ e, RoleRepository.updateProjectionVersion job.tenantCode
          job.source.sourceId job.sourceVersion w = (.error e, Faulty.afterCall w w.state) :=
        writeDb_throws _ hthrows
      refine .inr ⟨hrole, Faulty.afterCall w w.state, ?_, rfl, rfl, rfl, fun _ => rfl,
        fun h => absurd hthrows h⟩
      rw [Faulty.tryCatch, he]
      rfl
    · obtain ⟨w₁, hrun, hfaults, hjobs, houtbox⟩ : ∃ w₁,
          RoleRepository.updateProjectionVersion job.tenantCode job.source.sourceId
            job.sourceVersion w = (.ok (), w₁) ∧ w₁.faults = w.faults.tail ∧
          w₁.state.db.jobs = w.state.db.jobs ∧ w₁.state.db.outbox = w.state.db.outbox :=
        ⟨_, writeDb_returns _ hthrows, rfl, rfl, rfl⟩
      refine .inr ⟨hrole, w₁, ?_, hfaults, hjobs, houtbox, fun h => absurd h hthrows, fun _ => ?_⟩
      · rw [Faulty.tryCatch, hrun]
      · have hupdated := RoleRepository.updateProjectionVersion_ok hrun
        simp only [sourceVersions, sourceTenant, versionsOf, htype, hupdated, Option.map_map]
        rfl

/-- What of the transaction's three calls throws does not undo it: none of them but the
    first, for a role. -/
def Commits (job : AuthorizationSyncJob) (w : World Store Failure) : Prop :=
  (job.source.sourceType = .USER_GROUP → ¬Faulty.ThrowsAt w 0) ∧
    ¬Faulty.ThrowsAt w 1 ∧ ¬Faulty.ThrowsAt w 2

/-- A transaction that commits has completed the job, and told the source unless the first
    call has thrown. -/
theorem finalizeJob_commits (ctx : WorkerContext) (processed : Nat)
    (hrow : id < w.state.db.jobs.length)
    (hcommits : Commits job w) :
    ∃ w', finalizeJob ctx id job processed w = (.ok (), w') ∧
      w'.state.db.jobs.statusOf id = some .COMPLETED ∧
      w'.state.db.outbox = w.state.db.outbox ++
        [.sync (.ofJob .AUTHORIZATION_SYNC_COMPLETED id job)] ∧
      (Faulty.ThrowsAt w 0 → sourceVersions ctx job w'.state = sourceVersions ctx job w.state) ∧
      (¬Faulty.ThrowsAt w 0 → sourceVersions ctx job w'.state =
        (sourceVersions ctx job w.state).map fun versions =>
          { versions with projectionVersion := job.sourceVersion }) := by
  rw [finalizeJob_eq, runInTransaction]
  rcases advanceProjection_cases ctx job w with
    ⟨htype, hthrows, -⟩ | ⟨-, w₁, hrun, hfaults, hjobs, houtbox, hkept, htold⟩
  · exact absurd hthrows (hcommits.1 htype)
  · have hnext : ∀ i, Faulty.ThrowsAt w₁ i ↔ Faulty.ThrowsAt w (i + 1) := by
      intro i
      rw [Faulty.ThrowsAt, Faulty.ThrowsAt, hfaults, List.getElem?_tail]
    obtain ⟨w', hend⟩ : ∃ w', endJob id (fun now => .completed now processed)
        (.sync (.ofJob .AUTHORIZATION_SYNC_COMPLETED id job)) w₁ = (.ok (), w') :=
      (endJob_runs_iff fun _ _ => rfl).mpr
        ⟨mt (hnext 0).mp hcommits.2.1, mt (hnext 1).mp hcommits.2.2⟩
    have hcompleted : ∀ now job, (AuthorizationSyncJob.completed now processed job).status =
        .COMPLETED := fun _ _ => rfl
    rw [← hjobs] at hrow
    obtain ⟨hstatus, hevent, hsources⟩ := endJob_ok hrow hcompleted hend
    refine ⟨w', ?_, hstatus, by rw [hevent, houtbox], ?_⟩
    · rw [Faulty.transaction_ok, Faulty.bind_runs hrun]
      exact hend
    · rw [sourceVersions_of_sources hsources]
      exact ⟨hkept, htold⟩

/-- Any other transaction throws and leaves the tables as they were. -/
theorem finalizeJob_aborts (ctx : WorkerContext) (id : JobId) (processed : Nat)
    (haborts : ¬Commits job w) :
    ∃ e w', finalizeJob ctx id job processed w = (.error e, w') ∧ w'.state.db = w.state.db := by
  rcases hrun : finalizeJob ctx id job processed w with ⟨e | u, w'⟩
  · exact ⟨e, w', rfl, runInTransaction_error hrun⟩
  · refine absurd ?_ haborts
    rw [finalizeJob_eq, runInTransaction, Faulty.transaction_ok, Faulty.bind_ok] at hrun
    obtain ⟨u₁, w₁, hadvance, hend⟩ := hrun
    rcases advanceProjection_cases ctx job w with
      ⟨-, -, e, w₂, hthrown⟩ | ⟨hgroup, w₂, hrun, hfaults, -⟩
    · cases hthrown.symm.trans hadvance
    · obtain rfl := (Prod.mk.inj (hrun.symm.trans hadvance)).2
      obtain ⟨hfirst, hsecond⟩ := (endJob_runs_iff fun _ _ => rfl).mp ⟨w', hend⟩
      rw [Faulty.ThrowsAt, hfaults, List.getElem?_tail] at hfirst hsecond
      exact ⟨hgroup, hfirst, hsecond⟩

-- ============================================================================
-- The run
-- ============================================================================

/-- A run of `processNextJob` that comes to the last transaction: from `w₀` it takes the
    lock and claims the job, and the transaction starts in `w`. -/
structure FinalRun (ctx : WorkerContext) (tenantCode : String) (w₀ : World Store Failure)
    (id : JobId) (job : AuthorizationSyncJob) (processed : Nat) (w : World Store Failure) :
    Prop where
  comes : ∃ locked claimed total prepared,
    acquireLock ctx.toContext (workerLockId tenantCode) w₀ = (.ok true, locked) ∧
    claimNextPendingJob ctx tenantCode locked = (.ok (some (id, job)), claimed) ∧
    prepareJob ctx id job claimed = (.ok total, prepared) ∧
    processBatches ctx id job total total 0 prepared = (.ok processed, w)

/-- If the last transaction throws, the one of `handleJobFailure` does not. -/
def FailureRecorded (ctx : WorkerContext) (id : JobId) (job : AuthorizationSyncJob)
    (processed : Nat) (w : World Store Failure) : Prop :=
  ∀ e w₁, finalizeJob ctx id job processed w = (.error e, w₁) →
    ∃ w₂, handleJobFailure id job w₁ = (.ok (), w₂)

/-- The outbox has got an event of the type about the job. -/
def Reported (type : SyncEventType) (id : JobId) (before after : Store) : Prop :=
  ∃ event, .sync event ∈ after.db.outbox.drop before.db.outbox.length ∧ event.type = type ∧
    event.jobId = id

/-- The job is COMPLETED exactly with its event, and the source knows the version then;
    otherwise it is FAILED with its event. -/
structure AllOrNothing (ctx : WorkerContext) (id : JobId) (job : AuthorizationSyncJob)
    (before after : Store) : Prop where
  completed : after.db.jobs.statusOf id = some .COMPLETED ↔
    Reported .AUTHORIZATION_SYNC_COMPLETED id before after
  projected : after.db.jobs.statusOf id = some .COMPLETED →
    (sourceVersions ctx job after).map SourceVersions.projectionVersion = some job.sourceVersion
  failed : after.db.jobs.statusOf id ≠ some .COMPLETED →
    after.db.jobs.statusOf id = some .FAILED ∧
      ¬Reported .AUTHORIZATION_SYNC_COMPLETED id before after ∧
      Reported .AUTHORIZATION_SYNC_FAILED id before after

theorem reported_concat {type type' : SyncEventType} {before after : Store}
    (h : after.db.outbox = before.db.outbox ++ [.sync (.ofJob type' id job)]) :
    Reported type id before after ↔ type' = type := by
  rw [Reported, h, List.drop_left]
  constructor
  · rintro ⟨event, hmem, htype, -⟩
    obtain rfl := OutboxEvent.sync.inj (List.mem_singleton.mp hmem)
    exact htype
  · rintro rfl
    exact ⟨_, List.mem_singleton_self _, rfl, rfl⟩

theorem allOrNothing_of_completed {before after : Store}
    (hstatus : after.db.jobs.statusOf id = some .COMPLETED)
    (hevent : after.db.outbox = before.db.outbox ++
      [.sync (.ofJob .AUTHORIZATION_SYNC_COMPLETED id job)]) :
    AllOrNothing ctx id job before after ↔
      (sourceVersions ctx job after).map SourceVersions.projectionVersion =
        some job.sourceVersion := by
  refine ⟨fun h => h.projected hstatus, fun hprojected => ⟨?_, fun _ => hprojected, ?_⟩⟩
  · exact iff_of_true hstatus ((reported_concat hevent).mpr rfl)
  · exact fun hnot => absurd hstatus hnot

theorem allOrNothing_of_failed {before after : Store}
    (hstatus : after.db.jobs.statusOf id = some .FAILED)
    (hevent : after.db.outbox = before.db.outbox ++
      [.sync (.ofJob .AUTHORIZATION_SYNC_FAILED id job)]) :
    AllOrNothing ctx id job before after := by
  have hnot : after.db.jobs.statusOf id ≠ some .COMPLETED := by
    rw [hstatus]
    nofun
  have hunreported : ¬Reported .AUTHORIZATION_SYNC_COMPLETED id before after := by
    rw [reported_concat hevent]
    nofun
  exact ⟨iff_of_false hnot hunreported, fun h => absurd h hnot, fun _ =>
    ⟨hstatus, hunreported, (reported_concat hevent).mpr rfl⟩⟩

namespace FinalRun

variable {w₀ : World Store Failure} {processed : Nat}

theorem row (h : FinalRun ctx tenantCode w₀ id job processed w) :
    id < w.state.db.jobs.length ∧ w.state.db.outbox = w₀.state.db.outbox := by
  obtain ⟨locked, claimed, total, prepared, hlock, hclaim, hprepare, hbatches⟩ := h.comes
  have hlocked : Faulty.Leaves ledger (acquireLock ctx.toContext (workerLockId tenantCode)) :=
    Faulty.leaves_modify fun _ => rfl
  obtain ⟨hrow, -, hclaimed⟩ := claimNextPendingJob_some hclaim
  have hrest : ledger w.state = ledger claimed.state :=
    ((processBatches_ledger ctx id job total total 0).ok hbatches).trans
      ((prepareJob_ledger ctx id job).ok hprepare)
  obtain ⟨hlength, houtbox⟩ := Prod.mk.inj (hrest.trans hclaimed)
  refine ⟨hlength ▸ hrow, houtbox.trans (congrArg Prod.snd (hlocked.ok hlock))⟩

/-- The row of the source is there when the transaction starts; a role's is as it was. -/
theorem source (h : FinalRun ctx tenantCode w₀ id job processed w) {versions : SourceVersions}
    (hsource : sourceVersions ctx job w₀.state = some versions) :
    ∃ versions', sourceVersions ctx job w.state = some versions' ∧
      (job.source.sourceType = .ROLE → versions' = versions) := by
  obtain ⟨locked, claimed, total, prepared, hlock, hclaim, hprepare, hbatches⟩ := h.comes
  have hlocked : Faulty.Leaves Store.sources
      (acquireLock ctx.toContext (workerLockId tenantCode)) := Faulty.leaves_modify fun _ => rfl
  have hclaimed : claimed.state.sources = w₀.state.sources :=
    ((claimNextPendingJob_sources ctx tenantCode).ok hclaim).trans (hlocked.ok hlock)
  have hloop := (leaves_sources (processBatches_leaves ctx id job total total 0)).ok hbatches
  rw [← sourceVersions_of_sources hclaimed] at hsource
  rw [sourceVersions_of_sources hloop]
  rcases prepareJob_ok hprepare with ⟨-, hkept⟩ | ⟨⟨htype, -⟩, hadvanced⟩
  · rw [sourceVersions_of_sources hkept]
    exact ⟨versions, hsource, fun _ => rfl⟩
  · simp only [sourceVersions, sourceTenant, versionsOf, htype, hadvanced] at hsource ⊢
    obtain ⟨g, hg, -⟩ := Option.map_eq_some_iff.mp hsource
    rw [hg]
    refine ⟨_, rfl, fun hrole => ?_⟩
    cases hrole

/-- How the run ends, from how the transaction does. -/
theorem ends (h : FinalRun ctx tenantCode w₀ id job processed w)
    (hrecorded : FailureRecorded ctx id job processed w) :
    ∃ w₁ w', processNextJob ctx tenantCode w₀ = (.ok true, w') ∧ w'.state.db = w₁.state.db ∧
      (finalizeJob ctx id job processed w = (.ok (), w₁) ∨
        ∃ e w₂, finalizeJob ctx id job processed w = (.error e, w₂) ∧
          handleJobFailure id job w₂ = (.ok (), w₁)) := by
  obtain ⟨locked, claimed, total, prepared, hlock, hclaim, hprepare, hbatches⟩ := h.comes
  have hexecute : executeJob ctx id job claimed = finalizeJob ctx id job processed w := by
    rw [executeJob, Faulty.bind_runs hprepare, Faulty.bind_runs hbatches]
  have hcaught : ∃ w₁, Faulty.tryCatch (executeJob ctx id job)
      (fun _ => handleJobFailure id job) claimed = (.ok (), w₁) ∧
        (finalizeJob ctx id job processed w = (.ok (), w₁) ∨
          ∃ e w₂, finalizeJob ctx id job processed w = (.error e, w₂) ∧
            handleJobFailure id job w₂ = (.ok (), w₁)) := by
    rw [Faulty.tryCatch, hexecute]
    rcases hfinal : finalizeJob ctx id job processed w with ⟨e | u, w₂⟩
    · obtain ⟨w₁, hfailure⟩ := hrecorded e w₂ hfinal
      exact ⟨w₁, hfailure, .inr ⟨e, w₂, rfl, hfailure⟩⟩
    · exact ⟨w₂, rfl, .inl rfl⟩
  obtain ⟨w₁, hcatch, hends⟩ := hcaught
  have hclaimed : processClaimedJob ctx tenantCode locked = (.ok true, w₁) := by
    rw [processClaimedJob, Faulty.bind_runs hclaim]
    exact Faulty.bind_runs hcatch
  refine ⟨w₁, (releaseLock ctx.toContext (workerLockId tenantCode) w₁).2, ?_, rfl, hends⟩
  rw [processNextJob, Faulty.bind_runs hlock, if_pos rfl, Faulty.tryFinally, hclaimed]
  rfl

end FinalRun

/-- In a run that comes to the last transaction, the job ends all at once exactly unless
    the job is a role's, the update of the role is what throws and the role has not had
    the version already. -/
theorem all_or_nothing_iff {w₀ : World Store Failure} {processed : Nat}
    {versions : SourceVersions} (hrun : FinalRun ctx tenantCode w₀ id job processed w)
    (hsource : sourceVersions ctx job w₀.state = some versions)
    (hrecorded : FailureRecorded ctx id job processed w) :
    ∃ w', processNextJob ctx tenantCode w₀ = (.ok true, w') ∧
      (AllOrNothing ctx id job w₀.state w'.state ↔
        (job.source.sourceType = .ROLE → Faulty.ThrowsAt w 0 →
          Faulty.ThrowsAt w 1 ∨ Faulty.ThrowsAt w 2 ∨
            versions.projectionVersion = job.sourceVersion)) := by
  obtain ⟨hrow, houtbox⟩ := hrun.row
  obtain ⟨versions', hsource', hrole⟩ := hrun.source hsource
  obtain ⟨w₁, w', hnext, hdb, hends⟩ := hrun.ends hrecorded
  refine ⟨w', hnext, ?_⟩
  have hversions : sourceVersions ctx job w'.state = sourceVersions ctx job w₁.state := by
    rw [sourceVersions, sourceVersions, hdb]
  by_cases hcommits : Commits job w
  · obtain ⟨w₂, hfinal, hstatus, hevent, hkept, htold⟩ := finalizeJob_commits ctx processed hrow
      hcommits
    obtain rfl : w₁ = w₂ := by
      rcases hends with hok | ⟨e, w₃, hthrown, -⟩
      · exact (Prod.mk.inj (hok.symm.trans hfinal)).2
      · cases hthrown.symm.trans hfinal
    rw [← hdb] at hstatus hevent
    rw [houtbox] at hevent
    rw [allOrNothing_of_completed hstatus hevent, hversions]
    by_cases hthrows : Faulty.ThrowsAt w 0
    · have htype : job.source.sourceType = .ROLE := by
        cases htype : job.source.sourceType with
        | USER_GROUP => exact absurd hthrows (hcommits.1 htype)
        | ROLE => rfl
      rw [hkept hthrows, hsource', hrole htype, Option.map_some, Option.some_inj]
      constructor
      · exact fun hsame _ _ => .inr (.inr hsame)
      · intro h
        rcases h htype hthrows with h₁ | h₂ | hsame
        · exact absurd h₁ hcommits.2.1
        · exact absurd h₂ hcommits.2.2
        · exact hsame
    · rw [htold hthrows, hsource']
      exact iff_of_true rfl fun _ h => absurd h hthrows
  · obtain ⟨e, w₂, hfinal, hback⟩ := finalizeJob_aborts ctx id processed hcommits
    have hfailed : handleJobFailure id job w₂ = (.ok (), w₁) := by
      rcases hends with hok | ⟨e', w₃, hthrown, hfailed⟩
      · cases hok.symm.trans hfinal
      · obtain ⟨-, rfl⟩ := Prod.mk.inj (hthrown.symm.trans hfinal)
        exact hfailed
    rw [handleJobFailure_eq, runInTransaction, Faulty.transaction_ok] at hfailed
    rw [← hback] at hrow
    have hmarked : ∀ now job, (AuthorizationSyncJob.failed now job).status = .FAILED :=
      fun _ _ => rfl
    obtain ⟨hstatus, hevent, -⟩ := endJob_ok hrow hmarked hfailed
    rw [← hdb] at hstatus hevent
    rw [hback, houtbox] at hevent
    refine iff_of_true (allOrNothing_of_failed hstatus hevent) fun htype hthrows => ?_
    by_contra hnot
    push Not at hnot
    refine hcommits ⟨fun hgroup => ?_, hnot.1, hnot.2.1⟩
    cases htype.symm.trans hgroup

-- ============================================================================
-- A role's job that loses its connection
-- ============================================================================

def roleJob : AuthorizationSyncJob := { groupJob with source := ⟨.ROLE, sampleRoleId⟩ }

def startedRoleJob : AuthorizationSyncJob :=
  { roleJob with status := .PROCESSING, startedAt := some 0 }

/-- The job is PENDING, and the call after the next `calls` throws. -/
def roleLosesConnection (calls : Nat) : World Store Failure where
  state := { db := { sampleDatabase true .empty with jobs := [roleJob] } }
  faults := List.replicate calls none ++ [some connectionLost]

def roleLocked (calls : Nat) : World Store Failure :=
  (acquireLock acme (workerLockId "acme") (roleLosesConnection calls)).2

def roleClaimed (calls : Nat) : World Store Failure :=
  (claimNextPendingJob acmeWorker "acme" (roleLocked calls)).2

def rolePrepared (calls : Nat) : World Store Failure :=
  (prepareJob acmeWorker 0 startedRoleJob (roleClaimed calls)).2

/-- The last transaction starts here. -/
def roleRecomputed (calls : Nat) : World Store Failure :=
  (processBatches acmeWorker 0 startedRoleJob 1 1 0 (rolePrepared calls)).2

/-- The update of the role throws. -/
theorem finalRun_updating :
    FinalRun acmeWorker "acme" (roleLosesConnection 13) 0 startedRoleJob 1 (roleRecomputed 13) where
  comes := ⟨roleLocked 13, roleClaimed 13, 1, rolePrepared 13, Prod.ext (by decide +kernel) rfl,
    Prod.ext (by decide +kernel) rfl, Prod.ext (by decide +kernel) rfl,
    Prod.ext (by decide +kernel) rfl⟩

/-- The write of the status throws. -/
theorem finalRun_completing :
    FinalRun acmeWorker "acme" (roleLosesConnection 14) 0 startedRoleJob 1 (roleRecomputed 14) where
  comes := ⟨roleLocked 14, roleClaimed 14, 1, rolePrepared 14, Prod.ext (by decide +kernel) rfl,
    Prod.ext (by decide +kernel) rfl, Prod.ext (by decide +kernel) rfl,
    Prod.ext (by decide +kernel) rfl⟩

theorem all_or_nothing_completing :
    ∃ w', processNextJob acmeWorker "acme" (roleLosesConnection 14) = (.ok true, w') ∧
      AllOrNothing acmeWorker 0 startedRoleJob (roleLosesConnection 14).state w'.state := by
  have hsource : sourceVersions acmeWorker startedRoleJob (roleLosesConnection 14).state =
      some ⟨1, 0⟩ := by
    decide +kernel
  have hrecorded : FailureRecorded acmeWorker 0 startedRoleJob 1 (roleRecomputed 14) := by
    have hruns : (handleJobFailure 0 startedRoleJob
        (finalizeJob acmeWorker 0 startedRoleJob 1 (roleRecomputed 14)).2).1 = .ok () := by
      decide +kernel
    intro e w₁ hthrown
    rw [hthrown] at hruns
    exact ⟨_, Faulty.run_eq hruns⟩
  obtain ⟨w', hnext, hiff⟩ := all_or_nothing_iff finalRun_completing hsource hrecorded
  refine ⟨w', hnext, hiff.mpr fun _ hthrows => ?_⟩
  have hquiet : ¬Faulty.ThrowsAt (roleRecomputed 14) 0 := by decide +kernel
  exact absurd hthrows hquiet

/-- The job is COMPLETED, and the role's projection version is what it was. -/
theorem not_all_or_nothing :
    ¬∀ (ctx : WorkerContext) (tenantCode : String) (w₀ w : World Store Failure) (id : JobId)
      (job : AuthorizationSyncJob) (processed : Nat) (versions : SourceVersions),
      FinalRun ctx tenantCode w₀ id job processed w →
      sourceVersions ctx job w₀.state = some versions →
      FailureRecorded ctx id job processed w →
      AllOrNothing ctx id job w₀.state (processNextJob ctx tenantCode w₀).2.state := by
  intro h
  have hsource : sourceVersions acmeWorker startedRoleJob (roleLosesConnection 13).state =
      some ⟨1, 0⟩ := by
    decide +kernel
  have hcompletes : (finalizeJob acmeWorker 0 startedRoleJob 1 (roleRecomputed 13)).1 = .ok () := by
    decide +kernel
  have hrecorded : FailureRecorded acmeWorker 0 startedRoleJob 1 (roleRecomputed 13) := by
    intro e w₁ hthrown
    rw [hthrown] at hcompletes
    cases hcompletes
  have hends := h _ _ _ _ _ _ _ _ finalRun_updating hsource hrecorded
  have hstatus : (processNextJob acmeWorker "acme"
      (roleLosesConnection 13)).2.state.db.jobs.statusOf 0 = some .COMPLETED := by
    decide +kernel
  have hkept : (sourceVersions acmeWorker startedRoleJob
      (processNextJob acmeWorker "acme" (roleLosesConnection 13)).2.state).map
        SourceVersions.projectionVersion = some 0 := by
    decide +kernel
  cases hkept.symm.trans (hends.projected hstatus)

end AuthorizationReconciliationWorker

end AccessService.Authorization
