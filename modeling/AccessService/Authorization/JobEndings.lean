/-
  AccessService.Authorization.JobEndings

  What a deployment whose programs run one at a time records of its jobs: each has been
  requested once, ends at most once, with the one event that says how, and is never written
  again.  No failing call changes that, nor does an event that is delivered again, nor the
  watchdog, which takes up a job three times at most.
-/

import AccessService.Authorization.QueueRefinement

namespace AccessService.Authorization

open AccessService.Lib AccessService.Lib.Transition AccessService.Pg AccessService.Persistence
open AccessService.UserGroups
open SyncQueue (maxRetries newJob)

-- ============================================================================
-- The record
-- ============================================================================

/-- A job with this status has been told about with this event. -/
def SyncEventType.tells : SyncEventType → SyncJobStatus → Bool
  | .AUTHORIZATION_SYNC_REQUESTED, _ => true
  | .AUTHORIZATION_SYNC_COMPLETED, status => status = .COMPLETED
  | .AUTHORIZATION_SYNC_FAILED, status => status = .FAILED

/-- How many events of the type there are about the job. -/
def timesTold (events : List SyncEvent) (type : SyncEventType) (id : JobId) : Nat :=
  events.countP fun event => event.type = type && event.jobId = id

/-- Of each job the events tell what its row says, once. -/
structure Recorded (jobs : JobTable) (events : List SyncEvent) : Prop where
  told : ∀ type id, timesTold events type id = if (jobs.statusOf id).any type.tells then 1 else 0
  retries : ∀ job ∈ jobs, job.retryCount ≤ maxRetries

/-- The rows of the jobs that have ended stay. -/
def KeepsEnded (jobs jobs' : JobTable) : Prop :=
  ∀ (id : JobId) (job : AuthorizationSyncJob), jobs[id]? = some job →
    job.status.terminal = true → jobs'[id]? = some job

section Record

variable {jobs₀ jobs jobs' : JobTable} {events : List SyncEvent} {id : JobId}
  {f : AuthorizationSyncJob → AuthorizationSyncJob} {row : AuthorizationSyncJob}
  {event : SyncEvent}

theorem timesTold_concat (type : SyncEventType) (id : JobId) :
    timesTold (events ++ [event]) type id =
      timesTold events type id + if event.type = type ∧ event.jobId = id then 1 else 0 := by
  simp only [timesTold, List.countP_append, List.countP_singleton, Bool.and_eq_true,
    decide_eq_true_eq]

/-- A job in flight has only been requested. -/
theorem tells_inFlight {status : SyncJobStatus} (h : status.inFlight = true)
    (type : SyncEventType) : type.tells status = decide (type = .AUTHORIZATION_SYNC_REQUESTED) := by
  cases type <;> cases status <;> first | rfl | cases h

theorem KeepsEnded.refl : KeepsEnded jobs jobs := fun _ _ h _ => h

theorem KeepsEnded.trans (h : KeepsEnded jobs₀ jobs) (h' : KeepsEnded jobs jobs') :
    KeepsEnded jobs₀ jobs' :=
  fun id job hjob hended => h' id job (h id job hjob hended) hended

/-- A job in flight is written. -/
theorem KeepsEnded.update (h : KeepsEnded jobs₀ jobs) (hrow : jobs[id]? = some row)
    (hopen : row.status.inFlight = true) (hjobs : jobs.update id f = some jobs') :
    KeepsEnded jobs₀ jobs' := by
  intro i job hjob hended
  have hkept := h i job hjob hended
  by_cases hi : i = id
  · rw [hi] at hkept
    obtain rfl := Option.some.inj (hrow.symm.trans hkept)
    rw [SyncJobStatus.terminal, hopen] at hended
    cases hended
  · rw [JobTable.update_other hjobs hi]
    exact hkept

theorem KeepsEnded.insert {job : AuthorizationSyncJob} (h : KeepsEnded jobs₀ jobs)
    (hjobs : jobs.insert job = some jobs') : KeepsEnded jobs₀ jobs' := by
  obtain ⟨rfl, -⟩ := JobTable.insert_eq_some hjobs
  intro i row hrow hended
  have hkept := h i row hrow hended
  rw [List.getElem?_append_left (List.getElem?_eq_some_iff.mp hkept).1]
  exact hkept

theorem retries_update (h : ∀ job ∈ jobs, job.retryCount ≤ maxRetries)
    (hf : ∀ job : AuthorizationSyncJob, job.retryCount ≤ maxRetries →
      (f job).retryCount ≤ maxRetries) (hrow : jobs[id]? = some row)
    (hjobs : jobs.update id f = some jobs') : ∀ job ∈ jobs', job.retryCount ≤ maxRetries := by
  obtain ⟨rfl, -⟩ := JobTable.update_eq_some hrow hjobs
  intro job hmem
  rcases List.mem_or_eq_of_mem_set hmem with hmem | rfl
  · exact h job hmem
  · exact hf row (h row (List.mem_of_getElem? hrow))

/-- A job in flight goes on. -/
theorem Recorded.update (h : Recorded jobs events) (hrow : jobs[id]? = some row)
    (hopen : row.status.inFlight = true) (hopen' : (f row).status.inFlight = true)
    (hretries : ∀ job : AuthorizationSyncJob, job.retryCount ≤ maxRetries →
      (f job).retryCount ≤ maxRetries)
    (hjobs : jobs.update id f = some jobs') : Recorded jobs' events := by
  refine ⟨fun type i => ?_, retries_update h.retries hretries hrow hjobs⟩
  rw [h.told, JobTable.statusOf_update hrow hjobs]
  by_cases hi : i = id
  · rw [if_pos hi, hi, JobTable.statusOf, hrow, Option.map_some, Option.any_some, Option.any_some,
      tells_inFlight hopen, tells_inFlight hopen']
  · rw [if_neg hi]

/-- A job in flight ends, with the event. -/
theorem Recorded.close (h : Recorded jobs events) (hrow : jobs[id]? = some row)
    (hopen : row.status.inFlight = true) (hid : event.jobId = id)
    (htells : ∀ type, type.tells (f row).status = true ↔
      type = .AUTHORIZATION_SYNC_REQUESTED ∨ type = event.type)
    (hends : event.type ≠ .AUTHORIZATION_SYNC_REQUESTED)
    (hretries : ∀ job : AuthorizationSyncJob, job.retryCount ≤ maxRetries →
      (f job).retryCount ≤ maxRetries)
    (hjobs : jobs.update id f = some jobs') : Recorded jobs' (events ++ [event]) := by
  refine ⟨fun type i => ?_, retries_update h.retries hretries hrow hjobs⟩
  rw [timesTold_concat, h.told, JobTable.statusOf_update hrow hjobs]
  by_cases hi : i = id
  · rw [if_pos hi, hi, JobTable.statusOf, hrow, Option.map_some, Option.any_some, Option.any_some,
      tells_inFlight hopen, hid]
    simp only [htells, decide_eq_true_eq, and_true]
    by_cases hrequested : type = .AUTHORIZATION_SYNC_REQUESTED
    · rw [hrequested, if_pos rfl, if_neg hends, if_pos (.inl rfl)]
    · simp only [hrequested, if_false, false_or, Nat.zero_add, eq_comm]
  · have hother : ¬(event.type = type ∧ event.jobId = i) := fun hboth => hi (hboth.2.symm.trans hid)
    rw [if_neg hi, if_neg hother, Nat.add_zero]

/-- A new job comes with the event that requests it. -/
theorem Recorded.insert {job : AuthorizationSyncJob} (h : Recorded jobs events)
    (hopen : job.status.inFlight = true) (hretries : job.retryCount ≤ maxRetries)
    (htype : event.type = .AUTHORIZATION_SYNC_REQUESTED) (hid : event.jobId = jobs.length)
    (hjobs : jobs.insert job = some jobs') : Recorded jobs' (events ++ [event]) := by
  refine ⟨fun type i => ?_, ?_⟩
  · rw [timesTold_concat, h.told, JobTable.statusOf_insert hjobs, htype, hid]
    by_cases hi : i = jobs.length
    · have hnone : jobs.statusOf i = none := by
        rw [hi, JobTable.statusOf, List.getElem?_eq_none (Nat.le_refl _)]
        rfl
      rw [if_pos hi, hnone, Option.any_none, Option.any_some, tells_inFlight hopen]
      simp only [Bool.false_eq_true, if_false, Nat.zero_add, hi, and_true]
      cases type <;> rfl
    · have hother : ¬(SyncEventType.AUTHORIZATION_SYNC_REQUESTED = type ∧ jobs.length = i) :=
        fun hboth => hi hboth.2.symm
      rw [if_neg hi, if_neg hother, Nat.add_zero]
  · obtain ⟨rfl, -⟩ := JobTable.insert_eq_some hjobs
    intro other hmem
    rcases List.mem_append.mp hmem with hmem | hmem
    · exact h.retries other hmem
    · rw [List.mem_singleton.mp hmem]
      exact hretries

end Record

-- ============================================================================
-- Of a store
-- ============================================================================

/-- The record is kept, and the jobs that had ended are as they were. -/
structure Keeps (jobs₀ : JobTable) (s : Store) : Prop where
  recorded : Recorded s.db.jobs (eventsOf s)
  ended : KeepsEnded jobs₀ s.db.jobs

/-- And this job has not ended. -/
structure Executes (jobs₀ : JobTable) (id : JobId) (s : Store) : Prop extends Keeps jobs₀ s where
  inFlight : ∃ row : AuthorizationSyncJob, s.db.jobs[id]? = some row ∧ row.status.inFlight = true

/-- All that the record is about. -/
def recordOf (s : Store) : JobTable × List OutboxEvent := (s.db.jobs, s.db.outbox)

section Keeps

variable {jobs₀ : JobTable} {id : JobId} {s s' : Store} {α : Type} {x : Service α}

theorem Keeps.congr (h : Keeps jobs₀ s) (hsame : recordOf s' = recordOf s) : Keeps jobs₀ s' := by
  obtain ⟨hjobs, houtbox⟩ := Prod.mk.inj hsame
  refine ⟨?_, hjobs ▸ h.ended⟩
  rw [eventsOf, hjobs, houtbox]
  exact h.recorded

theorem Executes.congr (h : Executes jobs₀ id s) (hsame : recordOf s' = recordOf s) :
    Executes jobs₀ id s' := by
  refine ⟨h.toKeeps.congr hsame, ?_⟩
  rw [(Prod.mk.inj hsame).1]
  exact h.inFlight

theorem leaves_record (h : Faulty.Leaves mirrored x) : Faulty.Leaves recordOf x :=
  h.comp fun all => (all.1.1, all.2.1)

/-- A program that leaves the record alone. -/
theorem keeps_of_leaves (h : Faulty.Leaves recordOf x) :
    Faulty.Triple (Keeps jobs₀) x (fun _ => Keeps jobs₀) (Keeps jobs₀) :=
  (h.preserves fun _ _ hsame hs => hs.congr hsame).triple

theorem executes_of_leaves (h : Faulty.Leaves recordOf x) :
    Faulty.Triple (Executes jobs₀ id) x (fun _ => Executes jobs₀ id) (Executes jobs₀ id) :=
  (h.preserves fun _ _ hsame hs => hs.congr hsame).triple

/-- A row written while its job is in flight. -/
theorem Keeps.update {f : AuthorizationSyncJob → AuthorizationSyncJob} {row : AuthorizationSyncJob}
    {jobs : JobTable} (h : Keeps jobs₀ s) (hjobs : s.db.jobs.update id f = some jobs)
    (hrow : s.db.jobs[id]? = some row) (hopen : row.status.inFlight = true)
    (hopen' : (f row).status.inFlight = true)
    (hretries : ∀ job : AuthorizationSyncJob, job.retryCount ≤ maxRetries →
      (f job).retryCount ≤ maxRetries) :
    Executes jobs₀ id { s with db := { s.db with jobs := jobs } } :=
  ⟨⟨h.recorded.update hrow hopen hopen' hretries hjobs, h.ended.update hrow hopen hjobs⟩, _,
    JobTable.update_row hrow hjobs, hopen'⟩

end Keeps

-- ============================================================================
-- The worker
-- ============================================================================

namespace AuthorizationReconciliationWorker

open AuthorizationSyncJobRepository

variable {jobs₀ : JobTable} {ctx : WorkerContext} {id : JobId} {job : AuthorizationSyncJob}

theorem claimNextPendingJob_keeps (ctx : WorkerContext) (tenantCode : String) :
    Faulty.Triple (Keeps jobs₀) (claimNextPendingJob ctx tenantCode)
      (fun claimed s => match claimed with
        | none => Keeps jobs₀ s
        | some (id, _) => Executes jobs₀ id s)
      (Keeps jobs₀) := by
  have hread : Faulty.Triple (Keeps jobs₀) (.read (pendingJob ctx tenantCode) : Service _)
      (fun found s => found = pendingJob ctx tenantCode s ∧ Keeps jobs₀ s) (Keeps jobs₀) :=
    Faulty.triple_read (fun s hs => hs) fun s hs => ⟨rfl, hs⟩
  refine hread.bind fun found => ?_
  rcases found with _ | ⟨id, job⟩
  · exact Faulty.triple_pure fun s hs => hs.2
  · have hclaim : Faulty.Triple
        (fun s => some (id, job) = pendingJob ctx tenantCode s ∧ Keeps jobs₀ s)
        (AuthorizationSyncJobRepository.update id AuthorizationSyncJob.claimed)
        (fun _ => Executes jobs₀ id) (Keeps jobs₀) := by
      refine Faulty.triple_call (fun s hs => hs.2) fun s u s' hs hcall => ?_
      obtain ⟨hfound, hkeeps⟩ := hs
      obtain ⟨next, hnext, hrow⟩ := Option.bind_eq_some_iff.mp hfound.symm
      obtain ⟨row, hjob, hsame⟩ := Option.map_eq_some_iff.mp hrow
      obtain ⟨rfl, rfl⟩ := Prod.mk.inj hsame
      split at hcall
      next jobs hjobs =>
        obtain ⟨-, rfl⟩ := Prod.mk.inj (Except.ok.inj hcall)
        refine hkeeps.update hjobs hjob ?_ rfl fun _ h => h
        obtain ⟨row', hrow', hpending, -⟩ :=
          JobTable.isNextPending_job (ctx.nextPending_some hnext)
        obtain rfl := Option.some.inj (hjob.symm.trans hrow')
        simp only [AuthorizationSyncJob.pendingFor, Bool.and_eq_true, decide_eq_true_eq] at hpending
        rw [hpending.2]
        rfl
      · cases hcall
    exact hclaim.bind fun _ w hw => hw

theorem updateProgress_executes (processed : Nat) (total : Option Nat) :
    Faulty.Triple (Executes jobs₀ id) (updateProgress id processed total)
      (fun _ => Executes jobs₀ id) (Executes jobs₀ id) := by
  unfold updateProgress AuthorizationSyncJobRepository.update
  refine Faulty.triple_call (fun s hs => hs) fun s u s' hs hcall => ?_
  obtain ⟨row, hrow, hopen⟩ := hs.inFlight
  split at hcall
  next jobs hjobs =>
    obtain ⟨-, rfl⟩ := Prod.mk.inj (Except.ok.inj hcall)
    exact hs.toKeeps.update hjobs hrow hopen hopen fun _ h => h
  · cases hcall

theorem processBatches_executes (ctx : WorkerContext) (total fuel processed : Nat) :
    Faulty.Triple (Executes jobs₀ id) (processBatches ctx id job total fuel processed)
      (fun _ => Executes jobs₀ id) (Executes jobs₀ id) := by
  induction fuel generalizing processed with
  | zero => exact Faulty.triple_pure fun _ hs => hs
  | succ fuel ih =>
    rw [processBatches]
    split
    · refine (executes_of_leaves (leaves_readDb _)).bind fun users => ?_
      split
      · exact Faulty.triple_pure fun _ hs => hs
      · have hbody : ∀ user, Faulty.Leaves mirrored (recomputeUser ctx job user) := fun user =>
          (recompute_mirrored ctx.toContext job.tenantCode user.id).bind fun _ =>
            Faulty.leaves_pure ()
        exact (executes_of_leaves (leaves_record (Faulty.leaves_forEach hbody users))).bind fun _ =>
          (updateProgress_executes _ _).bind fun _ => ih _
    · exact Faulty.triple_pure fun _ hs => hs

theorem reconcileGroupPopulation_record (ctx : Context) (groupId : Uuid) (matched : List Uuid)
    (version : Nat) : Faulty.Leaves recordOf
      (MembershipReconciler.reconcileGroupPopulation ctx groupId matched version) := by
  refine (leaves_readDb _).bind fun members => ?_
  refine (Faulty.leaves_when (UserGroupMembershipRepository.batchInsert_leaves
    (fun _ _ => rfl) ctx groupId _)).bind fun _ => ?_
  refine (Faulty.leaves_when (UserGroupMembershipRepository.batchDelete_leaves
    (fun _ _ => rfl) ctx groupId _)).bind fun _ => ?_
  refine (leaves_readDb _).bind fun group => ?_
  refine (Faulty.leaves_when ?_).bind fun _ => Faulty.leaves_pure _
  refine (Faulty.leaves_forEach (fun userId => leaves_record
    (reconcileAffected_mirrored ctx userId)) _).bind fun _ => ?_
  unfold UserGroupRepository.updateProjectionVersion writeDb
  exact Faulty.leaves_write fun _ => rfl

theorem reconcileMemberships_record (ctx : WorkerContext) (job : AuthorizationSyncJob) :
    Faulty.Leaves recordOf (reconcileMemberships ctx job) := by
  unfold reconcileMemberships
  split
  · exact Faulty.leaves_pure ()
  · refine (leaves_readDb _).bind fun group => ?_
    split
    · exact Faulty.leaves_pure ()
    · exact (EmployeeReferenceRepository.reads_getMatchedEmployeeIds ctx.toContext _).leaves.bind
        fun matched => (reconcileGroupPopulation_record _ _ _ _).bind fun _ => Faulty.leaves_pure ()

theorem prepareJob_executes (ctx : WorkerContext) :
    Faulty.Triple (Executes jobs₀ id) (prepareJob ctx id job) (fun _ => Executes jobs₀ id)
      (Executes jobs₀ id) :=
  (executes_of_leaves (leaves_readDb _)).bind fun _ => (updateProgress_executes _ _).bind fun _ =>
    (executes_of_leaves (reconcileMemberships_record ctx job)).bind fun _ =>
      Faulty.triple_pure fun _ hs => hs

/-- A write that ends a job, and the type of the event that tells it. -/
structure EndsWith (f : Timestamp → AuthorizationSyncJob → AuthorizationSyncJob)
    (type : SyncEventType) : Prop where
  tells : ∀ now row (told : SyncEventType), told.tells (f now row).status = true ↔
    told = .AUTHORIZATION_SYNC_REQUESTED ∨ told = type
  ends : type ≠ .AUTHORIZATION_SYNC_REQUESTED
  retries : ∀ now row, (f now row).retryCount = row.retryCount

theorem failed_endsWith : EndsWith AuthorizationSyncJob.failed .AUTHORIZATION_SYNC_FAILED where
  tells _ _ told := by
    rw [AuthorizationSyncJob.failed_status]
    cases told <;> decide
  ends := by decide
  retries _ _ := rfl

theorem completed_endsWith (processed : Nat) : EndsWith
    (fun now => AuthorizationSyncJob.completed now processed) .AUTHORIZATION_SYNC_COMPLETED where
  tells _ _ told := by
    rw [AuthorizationSyncJob.completed_status]
    cases told <;> decide
  ends := by decide
  retries _ _ := rfl

theorem endJob_keeps {f : Timestamp → AuthorizationSyncJob → AuthorizationSyncJob}
    {type : SyncEventType} {w w' : World Store Failure} {u : Unit} (hends : EndsWith f type)
    (hw : Executes jobs₀ id w.state)
    (hrun : endJob id f (.sync (.ofJob type id job)) w = (.ok u, w')) : Keeps jobs₀ w'.state := by
  obtain ⟨u₁, w₁, hupdate, hcreate⟩ := Faulty.bind_ok.mp hrun
  obtain ⟨row, hrow, hopen⟩ := hw.inFlight
  have hcall := Faulty.call_ok hupdate
  split at hcall
  next jobs hjobs =>
    have hstate := (Prod.mk.inj (Except.ok.inj hcall)).2
    rw [writeDb_ok hcreate, ← hstate]
    refine ⟨?_, hw.ended.update hrow hopen hjobs⟩
    show Recorded jobs ((w.state.db.outbox ++ [OutboxEvent.sync _]).filterMap syncEvent)
    rw [List.filterMap_append]
    exact hw.recorded.close hrow hopen rfl (hends.tells _ row) hends.ends
      (fun job h => (hends.retries _ job).trans_le h) hjobs
  · cases hcall

/-- A transaction that throws has left the tables as they were. -/
theorem transaction_executes {body : Service Unit}
    (hbody : ∀ w u w', Executes jobs₀ id w.state → body w = (.ok u, w') → Keeps jobs₀ w'.state) :
    Faulty.Triple (Executes jobs₀ id) (runInTransaction body) (fun _ => Keeps jobs₀)
      (Executes jobs₀ id) := by
  have hnothing : Faulty.Leaves (fun _ : Store => ()) body := fun _ => rfl
  exact hnothing.transaction (Faulty.triple_of_ok hbody) fun s s' hs _ => hs.congr rfl

theorem handleJobFailure_keeps (id : JobId) (job : AuthorizationSyncJob) :
    Faulty.Triple (Executes jobs₀ id) (handleJobFailure id job) (fun _ => Keeps jobs₀)
      (Executes jobs₀ id) := by
  rw [handleJobFailure_eq]
  exact transaction_executes fun w u w' hw hrun => endJob_keeps failed_endsWith hw hrun

theorem finalizeJob_keeps (ctx : WorkerContext) (processed : Nat) :
    Faulty.Triple (Executes jobs₀ id) (finalizeJob ctx id job processed) (fun _ => Keeps jobs₀)
      (Executes jobs₀ id) := by
  rw [finalizeJob_eq]
  refine transaction_executes fun w u w' hw hrun => ?_
  obtain ⟨u₁, w₁, hadvance, hend⟩ := Faulty.bind_ok.mp hrun
  have hleaves : Faulty.Leaves recordOf (advanceProjection ctx job) := by
    unfold advanceProjection UserGroupRepository.updateProjectionVersion
      RoleRepository.updateProjectionVersion writeDb
    split
    · exact Faulty.leaves_write fun _ => rfl
    · exact Faulty.leaves_tryCatch (Faulty.leaves_write fun _ => rfl) fun _ => Faulty.leaves_pure ()
  exact endJob_keeps (completed_endsWith processed) (hw.congr (hleaves.ok hadvance)) hend

theorem executeJob_keeps (ctx : WorkerContext) :
    Faulty.Triple (Executes jobs₀ id) (executeJob ctx id job) (fun _ => Keeps jobs₀)
      (Executes jobs₀ id) :=
  (prepareJob_executes ctx).bind fun total => (processBatches_executes ctx total total 0).bind
    fun processed => finalizeJob_keeps ctx processed

theorem processNextJob_keeps (ctx : WorkerContext) (tenantCode : String) :
    Faulty.Triple (Keeps jobs₀) (processNextJob ctx tenantCode) (fun _ => Keeps jobs₀)
      (Keeps jobs₀) := by
  have hclaimed : Faulty.Triple (Keeps jobs₀) (processClaimedJob ctx tenantCode)
      (fun _ => Keeps jobs₀) (Keeps jobs₀) := by
    refine (claimNextPendingJob_keeps ctx tenantCode).bind fun claimed => ?_
    rcases claimed with _ | ⟨id, job⟩
    · exact Faulty.triple_pure fun _ hs => hs
    · have hfailure : Faulty.Triple (Executes jobs₀ id) (handleJobFailure id job)
          (fun _ => Keeps jobs₀) (Keeps jobs₀) :=
        (handleJobFailure_keeps id job).mono (fun _ hs => hs) (fun _ _ hs => hs)
          fun _ hs => hs.toKeeps
      exact ((executeJob_keeps ctx).tryCatch fun _ => hfailure).bind fun _ =>
        Faulty.triple_pure fun _ hs => hs
  have hacquire : Faulty.Leaves recordOf (acquireLock ctx.toContext (workerLockId tenantCode)) :=
    Faulty.leaves_modify fun _ => rfl
  have hrelease : Faulty.Leaves recordOf (releaseLock ctx.toContext (workerLockId tenantCode)) :=
    Faulty.leaves_modify fun _ => rfl
  refine (keeps_of_leaves hacquire).bind fun acquired => ?_
  split
  · exact hclaimed.tryFinally (fun _ => keeps_of_leaves hrelease) (keeps_of_leaves hrelease)
  · exact Faulty.triple_pure fun _ hs => hs

end AuthorizationReconciliationWorker

-- ============================================================================
-- The callers
-- ============================================================================

namespace AuthorizationSyncService

variable {jobs₀ : JobTable} {ctx : Context} {params : EnqueueParams} {version : Nat}

theorem createSyncJobTransactional_keeps :
    Faulty.Triple (Keeps jobs₀) (createSyncJobTransactional params version) (fun _ => Keeps jobs₀)
      (Keeps jobs₀) := by
  unfold createSyncJobTransactional runInTransaction
  refine Faulty.Leaves.transaction (g := fun _ : Store => ()) (fun _ => rfl)
    (Faulty.triple_of_ok fun w answer w' hw hrun => ?_) fun s s' hs _ => hs.congr rfl
  obtain ⟨created, w₁, hcreate, hrest⟩ := Faulty.bind_ok.mp hrun
  obtain ⟨u, w₂, hevent, hanswer⟩ := Faulty.bind_ok.mp hrest
  obtain ⟨rfl, rfl⟩ := Faulty.pure_ok.mp hanswer
  have hcall := Faulty.call_ok hcreate
  simp only at hcall
  split at hcall
  next jobs hjobs =>
    obtain ⟨rfl, hstate⟩ := Prod.mk.inj (Except.ok.inj hcall)
    rw [writeDb_ok hevent, ← hstate]
    refine ⟨?_, hw.ended.insert hjobs⟩
    show Recorded jobs ((w.state.db.outbox ++ [OutboxEvent.sync _]).filterMap syncEvent)
    rw [List.filterMap_append]
    exact hw.recorded.insert rfl (Nat.zero_le _) rfl rfl hjobs
  · cases hcall

theorem findInFlightJob_keeps (source : SourceRef) :
    Faulty.Triple (Keeps jobs₀) (findInFlightJob ctx source version) (fun _ => Keeps jobs₀)
      (Keeps jobs₀) :=
  keeps_of_leaves (leaves_readDb _)

theorem conflict_keeps (error : Failure) :
    Faulty.Triple (Keeps jobs₀) (handleInFlightConflict ctx params version error)
      (fun _ => Keeps jobs₀) (Keeps jobs₀) := by
  unfold handleInFlightConflict
  split
  · refine (findInFlightJob_keeps _).bind fun found => ?_
    cases found with
    | none => exact Faulty.triple_throw fun _ hs => hs
    | some existing => exact Faulty.triple_pure fun _ hs => hs
  · exact Faulty.triple_throw fun _ hs => hs

theorem enqueueAt_keeps (ctx : Context) (params : EnqueueParams) (version : Nat) :
    Faulty.Triple (Keeps jobs₀) (enqueueAt ctx params version) (fun _ => Keeps jobs₀)
      (Keeps jobs₀) := by
  refine (findInFlightJob_keeps _).bind fun found => ?_
  rcases found with _ | ⟨id, job⟩
  · exact createSyncJobTransactional_keeps.tryCatch fun error => conflict_keeps error
  · exact Faulty.triple_pure fun _ hs => hs

theorem resolve_keeps (ctx : Context) (source : SourceRef) :
    Faulty.Triple (Keeps jobs₀) (validateAndResolveSourceVersions ctx source)
      (fun _ => Keeps jobs₀) (Keeps jobs₀) := by
  have hleaves : Faulty.Leaves recordOf (validateAndResolveSourceVersions ctx source) := by
    unfold validateAndResolveSourceVersions
    split
    · refine (leaves_readDb _).bind fun group => ?_
      cases group with
      | none => exact Faulty.leaves_throw _
      | some _ => exact Faulty.leaves_pure _
    · refine (leaves_readDb _).bind fun role => ?_
      cases role with
      | none => exact Faulty.leaves_throw _
      | some _ => exact Faulty.leaves_pure _
  exact keeps_of_leaves hleaves

theorem enqueueSyncJob_keeps (ctx : Context) (params : EnqueueParams) :
    Faulty.Triple (Keeps jobs₀) (enqueueSyncJob ctx params) (fun _ => Keeps jobs₀)
      (Keeps jobs₀) := by
  unfold enqueueSyncJob
  split
  · exact enqueueAt_keeps ctx params _
  · refine (resolve_keeps ctx params.source).bind fun versions => ?_
    split
    · exact Faulty.triple_pure fun _ hs => hs
    · exact enqueueAt_keeps ctx params _

end AuthorizationSyncService

-- ============================================================================
-- The watchdog
-- ============================================================================

namespace SyncJobWatchdogService

open AuthorizationSyncJobRepository AuthorizationReconciliationWorker

variable {jobs₀ : JobTable} {ctx : WatchdogContext} {id : JobId} {job : AuthorizationSyncJob}
  {rest : List (JobId × AuthorizationSyncJob)} {s : Store}

/-- The jobs of the list, each listed once, have not ended. -/
structure Lists (jobs₀ : JobTable) (rest : List (JobId × AuthorizationSyncJob)) (s : Store) :
    Prop extends Keeps jobs₀ s where
  once : (rest.map Prod.fst).Nodup
  inFlight : ∀ listed ∈ rest, ∃ row : AuthorizationSyncJob,
    s.db.jobs[listed.1]? = some row ∧ row.status.inFlight = true

theorem Lists.executes (h : Lists jobs₀ ((id, job) :: rest) s) : Executes jobs₀ id s :=
  ⟨h.toKeeps, h.inFlight (id, job) List.mem_cons_self⟩

/-- The first job of the list has been written. -/
theorem Lists.next {s' : Store} (h : Lists jobs₀ ((id, job) :: rest) s) (hkeeps : Keeps jobs₀ s')
    (hothers : ∀ i ≠ id, s'.db.jobs[i]? = s.db.jobs[i]?) : Lists jobs₀ rest s' := by
  obtain ⟨hnew, honce⟩ := List.nodup_cons.mp h.once
  refine ⟨hkeeps, honce, fun listed hmem => ?_⟩
  have hne : listed.1 ≠ id := by
    intro heq
    have hmem' : listed.1 ∈ rest.map Prod.fst := List.mem_map_of_mem hmem
    rw [heq] at hmem'
    exact hnew hmem'
  rw [hothers listed.1 hne]
  exact h.inFlight listed (List.mem_cons_of_mem _ hmem)

theorem reclaim_keeps (hretry : job.retryCount + 1 ≤ maxRetries) :
    Faulty.Triple (Lists jobs₀ ((id, job) :: rest)) (reclaimStuckJob id (job.retryCount + 1))
      (fun _ => Lists jobs₀ rest) (Keeps jobs₀) := by
  unfold reclaimStuckJob AuthorizationSyncJobRepository.update
  refine Faulty.triple_call (fun s hs => hs.toKeeps) fun s u s' hs hcall => ?_
  obtain ⟨row, hrow, hopen⟩ := hs.executes.inFlight
  split at hcall
  next jobs hjobs =>
    obtain ⟨-, rfl⟩ := Prod.mk.inj (Except.ok.inj hcall)
    have hexecutes := hs.toKeeps.update hjobs hrow hopen rfl fun _ _ => hretry
    exact hs.next hexecutes.toKeeps fun i hi => JobTable.update_other hjobs hi
  · cases hcall

theorem endJob_others {f : Timestamp → AuthorizationSyncJob → AuthorizationSyncJob}
    {event : OutboxEvent} {w w' : World Store Failure} {u : Unit}
    (hrun : endJob id f event w = (.ok u, w')) (i : JobId) (hi : i ≠ id) :
    w'.state.db.jobs[i]? = w.state.db.jobs[i]? := by
  obtain ⟨u₁, w₁, hupdate, hcreate⟩ := Faulty.bind_ok.mp hrun
  have hcall := Faulty.call_ok hupdate
  split at hcall
  next jobs hjobs =>
    rw [writeDb_ok hcreate, ← (Prod.mk.inj (Except.ok.inj hcall)).2]
    exact JobTable.update_other hjobs hi
  · cases hcall

theorem markFailed_keeps :
    Faulty.Triple (Lists jobs₀ ((id, job) :: rest)) (handleJobFailure id job)
      (fun _ => Lists jobs₀ rest) (Keeps jobs₀) := by
  rw [handleJobFailure_eq, runInTransaction]
  refine Faulty.Leaves.transaction (g := fun _ : Store => ()) (fun _ => rfl)
    (Faulty.triple_of_ok fun w u w' hw hend => ?_) fun s s' hs _ => hs.toKeeps.congr rfl
  exact hw.next (endJob_keeps failed_endsWith hw.executes hend) fun i hi =>
    endJob_others hend i hi

theorem recoverAll_keeps (rest : List (JobId × AuthorizationSyncJob)) (recoveredCount : Nat) :
    Faulty.Triple (Lists jobs₀ rest) (recoverAll rest recoveredCount) (fun _ => Keeps jobs₀)
      (Keeps jobs₀) := by
  induction rest generalizing recoveredCount with
  | nil => exact Faulty.triple_pure fun _ hs => Lists.toKeeps hs
  | cons listed rest ih =>
    obtain ⟨id, job⟩ := listed
    have hrecover : Faulty.Triple (Lists jobs₀ ((id, job) :: rest)) (recover id job)
        (fun _ => Lists jobs₀ rest) (Keeps jobs₀) := by
      by_cases hretry : job.retryCount + 1 ≤ maxRetries
      · rw [recover, if_pos hretry]
        exact reclaim_keeps hretry
      · rw [recover, if_neg hretry]
        exact markFailed_keeps
    exact hrecover.bind fun _ => ih _

theorem isStuckList_nodup {queue : SyncQueue} {ids : List JobId}
    (h : queue.isStuckList ids = true) : ids.Nodup := by
  simp only [SyncQueue.isStuckList, Bool.and_eq_true, List.isPerm_iff] at h
  exact h.1.nodup_iff.mpr (List.nodup_range.filter _)

theorem isStuckList_inFlight {queue : SyncQueue} {ids : List JobId} {id : JobId}
    (h : queue.isStuckList ids = true) (hmem : id ∈ ids) :
    ∃ row : AuthorizationSyncJob, queue.jobs[id]? = some row ∧ row.status.inFlight = true := by
  simp only [SyncQueue.isStuckList, Bool.and_eq_true, List.isPerm_iff] at h
  have hstuck := (List.mem_filter.mp (h.1.mem_iff.mp hmem)).2
  obtain ⟨row, hrow, hprocessing⟩ := (Option.any_eq_true _ _).mp hstuck
  simp only [SyncQueue.isStuck, Bool.and_eq_true, decide_eq_true_eq] at hprocessing
  refine ⟨row, hrow, ?_⟩
  rw [hprocessing.1]
  rfl

/-- What the list query returns. -/
theorem lists_scanned (hs : Keeps jobs₀ s) :
    Lists jobs₀ ((ctx.stuckJobs s.db.jobs s.now).filterMap fun id =>
      (s.db.jobs[id]?).map fun job => (id, job)) s := by
  have hlist := ctx.stuckJobs_isStuckList
    { SyncQueue.empty fun _ => none with now := s.now, jobs := s.db.jobs }
  refine ⟨hs, ?_, fun listed hmem => ?_⟩
  · rw [List.map_filterMap]
    refine (isStuckList_nodup hlist).filterMap fun i i' j hj hj' => ?_
    rw [Option.map_map] at hj hj'
    obtain ⟨row, -, hi⟩ := Option.map_eq_some_iff.mp hj
    obtain ⟨row', -, hi'⟩ := Option.map_eq_some_iff.mp hj'
    exact hi.trans hi'.symm
  · obtain ⟨id, hid, hfound⟩ := List.mem_filterMap.mp hmem
    obtain ⟨row, -, rfl⟩ := Option.map_eq_some_iff.mp hfound
    exact isStuckList_inFlight hlist hid

theorem checkAndReclaimStuckJobs_keeps (ctx : WatchdogContext) :
    Faulty.Triple (Keeps jobs₀) (checkAndReclaimStuckJobs ctx) (fun _ => Keeps jobs₀)
      (Keeps jobs₀) := by
  have hread : Faulty.Triple (Keeps jobs₀) (findStuckProcessingJobs ctx)
      (fun stuckJobs s => Lists jobs₀ stuckJobs s) (Keeps jobs₀) :=
    Faulty.triple_read (fun _ hs => hs) fun _ hs => lists_scanned hs
  exact hread.bind fun stuckJobs => recoverAll_keeps stuckJobs 0

end SyncJobWatchdogService

-- ============================================================================
-- The deployment
-- ============================================================================

namespace Deployment

variable {jobs₀ : JobTable} {d d' : Deployment} {op : Operation}

/-- However a program ends. -/
theorem keeps_after {α : Type} {x : Service α} {w : World Store Failure}
    (h : Faulty.Triple (Keeps jobs₀) x (fun _ => Keeps jobs₀) (Keeps jobs₀))
    (hw : Keeps jobs₀ w.state) : Keeps jobs₀ (x w).2.state := by
  have hends := h w hw
  rcases hx : x w with ⟨e | a, w'⟩
  · rw [hx] at hends
    exact hends
  · rw [hx] at hends
    exact hends

theorem handle_keeps (ctx : WorkerContext)
    (payload : Option AuthorizationSyncRequestedPayload) :
    Faulty.Triple (Keeps jobs₀) (AuthorizationHandler.handleAuthorizationSyncRequested ctx payload)
      (fun _ => Keeps jobs₀) (Keeps jobs₀) := by
  rw [AuthorizationHandler.handleAuthorizationSyncRequested]
  cases tenantAsked payload with
  | none => exact Faulty.triple_pure fun _ hs => hs
  | some tenantCode =>
    exact (AuthorizationReconciliationWorker.processNextJob_keeps _ tenantCode).bind fun _ =>
      Faulty.triple_pure fun _ hs => hs

theorem step_keeps (h : Keeps jobs₀ d.store) (hstep : d.step op = some d') :
    Keeps jobs₀ d'.store := by
  cases op with
  | tick _ =>
    obtain rfl := Option.some.inj hstep
    exact h.congr rfl
  | deliver event ctx faults =>
    simp only [step] at hstep
    split at hstep
    · cases hstep
    next e _ =>
      split at hstep
      · obtain rfl := Option.some.inj hstep
        rw [handled_store]
        exact keeps_after (handle_keeps ctx (some ⟨some e.tenantCode⟩)) h
      · cases hstep
  | enqueue ctx params faults =>
    simp only [step] at hstep
    split at hstep
    · obtain rfl := Option.some.inj hstep
      exact keeps_after (AuthorizationSyncService.enqueueSyncJob_keeps ctx params) h
    · cases hstep
  | watchdog ctx faults =>
    obtain rfl := Option.some.inj hstep
    exact keeps_after (SyncJobWatchdogService.checkAndReclaimStuckJobs_keeps ctx) h
  | editGroup id configuration =>
    obtain rfl := Option.some.inj hstep
    exact h.congr rfl
  | editRole id =>
    obtain rfl := Option.some.inj hstep
    exact h.congr rfl
  | elsewhere other =>
    obtain rfl := Option.some.inj hstep
    refine ⟨?_, h.ended⟩
    rw [eventsOf_aside]
    exact h.recorded

theorem initial_keeps (h : Initial d) : Keeps d.store.db.jobs d.store := by
  refine ⟨⟨fun type id => ?_, fun job hmem => ?_⟩, .refl⟩
  · rw [eventsOf, h.outbox, h.jobs]
    rfl
  · rw [h.jobs] at hmem
    cases hmem

/-- What a deployment records of its jobs is right at any time, whatever has failed: each job
    has been requested once, is told to have COMPLETED or FAILED just when its row says so,
    and once, and has been reclaimed three times at most.  A job that has ended is not
    written again. -/
theorem jobs_end_once (h : system.Reachable Always d) :
    (∀ type id, timesTold (eventsOf d.store) type id =
        if (d.store.db.jobs.statusOf id).any type.tells then 1 else 0) ∧
      (∀ job ∈ d.store.db.jobs, job.retryCount ≤ maxRetries) ∧
      ∀ d', system.Steps Always d d' → KeepsEnded d.store.db.jobs d'.store.db.jobs := by
  have hkeeps : Recorded d.store.db.jobs (eventsOf d.store) := by
    refine h.invariant (fun d => Recorded d.store.db.jobs (eventsOf d.store))
      (fun d hinit => (initial_keeps hinit).recorded) fun d op d' _ hrecorded _ hstep => ?_
    exact (step_keeps ⟨hrecorded, .refl⟩ hstep).recorded
  refine ⟨hkeeps.told, hkeeps.retries, fun d' hsteps => ?_⟩
  have hkept : Keeps d.store.db.jobs d'.store := by
    refine hsteps.preserves (fun d' => Keeps d.store.db.jobs d'.store) ?_ h ⟨hkeeps, .refl⟩
    exact fun _ _ _ _ hs _ hstep => step_keeps hs hstep
  exact hkept.ended

/-- The sample's job has completed, once. -/
theorem jobs_end_once_sample :
    timesTold (eventsOf deliveredOnce.store) .AUTHORIZATION_SYNC_COMPLETED 0 = 1 ∧
      timesTold (eventsOf deliveredOnce.store) .AUTHORIZATION_SYNC_FAILED 0 = 0 := by
  have hstatus : deliveredOnce.store.db.jobs.statusOf 0 = some .COMPLETED := by decide +kernel
  have htold := (jobs_end_once deliveredOnce_reachable.always).1
  rw [htold, htold, hstatus]
  decide

end Deployment

end AccessService.Authorization
