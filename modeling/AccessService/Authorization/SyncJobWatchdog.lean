/-
  AccessService.Authorization.SyncJobWatchdog

  `SyncJobWatchdogService`: the jobs that have been PROCESSING for too long become PENDING
  again, and FAILED once they have been reclaimed three times.  A run of it, whatever query
  of it fails, is a run of one watchdog of the synchronization queue.
-/

import AccessService.Authorization.WorkerSimulation

namespace AccessService.Authorization

open AccessService.Lib AccessService.Lib.Transition AccessService.Pg AccessService.Persistence
open SyncQueue (maxRetries)

-- ============================================================================
-- The service
-- ============================================================================

/-- What the database decides of `findStuckProcessingJobs`: the order of the jobs that have
    been updated at the same time. -/
structure WatchdogContext where
  stuckJobs : JobTable → Timestamp → List JobId
  stuckJobs_isStuckList : ∀ queue : SyncQueue,
    queue.isStuckList (stuckJobs queue.jobs queue.now) = true

namespace AuthorizationSyncJobRepository

def findStuckProcessingJobs (ctx : WatchdogContext) :
    Service (List (JobId × AuthorizationSyncJob)) :=
  .read fun s => (ctx.stuckJobs s.db.jobs s.now).filterMap fun id =>
    (s.db.jobs[id]?).map fun job => (id, job)

def reclaimStuckJob (id : JobId) (nextRetryCount : Nat) : Service Unit :=
  update id fun now => AuthorizationSyncJob.reclaimed now nextRetryCount

end AuthorizationSyncJobRepository

namespace SyncJobWatchdogService

open AuthorizationSyncJobRepository

/-- A round of the loop. -/
def recover (id : JobId) (job : AuthorizationSyncJob) : Service Unit :=
  let nextRetryCount := job.retryCount + 1
  if nextRetryCount ≤ maxRetries then reclaimStuckJob id nextRetryCount
  else
    runInTransaction do
      markFailed id
      OutboxEventRepository.create (.sync (.ofJob .AUTHORIZATION_SYNC_FAILED id job))

def recoverAll : List (JobId × AuthorizationSyncJob) → Nat → Service Nat
  | [], recoveredCount => pure recoveredCount
  | (id, job) :: rest, recoveredCount => do
    recover id job
    recoverAll rest (recoveredCount + 1)

def checkAndReclaimStuckJobs (ctx : WatchdogContext) : Service Nat := do
  let stuckJobs ← findStuckProcessingJobs ctx
  recoverAll stuckJobs 0

end SyncJobWatchdogService

-- ============================================================================
-- Where a run stands
-- ============================================================================

/-- The queue has what is in the store, and these events are in flight. -/
structure Carries (inFlight : List EventId) (s : Store) (queue : SyncQueue) : Prop where
  mirrors : Mirrors s queue
  inFlight : queue.inFlight = inFlight

def StuckJob.ofRow (row : JobId × AuthorizationSyncJob) : StuckJob where
  id := row.1
  retryCount := row.2.retryCount

/-- What the event about the failure tells of the job. -/
abbrev failedEvent (row : JobId × AuthorizationSyncJob) : SyncEvent :=
  .ofJob .AUTHORIZATION_SYNC_FAILED row.1 row.2

/-- Watchdog `r` of the queue has the rest of the list, and of its jobs there is to tell what
    there was when the list was read. -/
structure Recovers (r : Nat) (inFlight : List EventId) (rest : List (JobId × AuthorizationSyncJob))
    (s : Store) (queue : SyncQueue) : Prop extends Carries inFlight s queue where
  list : queue.watchdogs[r]? = some (rest.map .ofRow)
  rows : ∀ listed ∈ rest, ∃ row : AuthorizationSyncJob,
    s.db.jobs[listed.1]? = some row ∧ failedEvent (listed.1, row) = failedEvent listed

section Steps

variable {queue queue' : SyncQueue} {r : Nat} {inFlight : List EventId} {id : JobId}
  {job : AuthorizationSyncJob} {rest : List (JobId × AuthorizationSyncJob)} {s s' : Store}

theorem Recovers.step (h : Recovers r inFlight ((id, job) :: rest) s queue) :
    SyncQueue.system.step queue (.watchdog r) =
      queue.watchdogStep r ⟨id, job.retryCount⟩ (rest.map .ofRow) := by
  show SyncQueue.step queue (.watchdog r) = _
  simp only [SyncQueue.step, h.list]
  rfl

/-- A write of a job that leaves what there is to tell of it. -/
theorem failedEvent_update {jobs jobs' : JobTable} {i : JobId}
    {f : AuthorizationSyncJob → AuthorizationSyncJob}
    (hf : ∀ row, failedEvent (id, f row) = failedEvent (id, row))
    (hjobs : jobs.update id f = some jobs') {row : AuthorizationSyncJob}
    (hrow : jobs[i]? = some row) :
    ∃ row', jobs'[i]? = some row' ∧ failedEvent (i, row') = failedEvent (i, row) := by
  by_cases hi : i = id
  · rw [hi] at hrow ⊢
    exact ⟨f row, JobTable.update_row hrow hjobs, hf row⟩
  · exact ⟨row, (JobTable.update_other hjobs hi).trans hrow, rfl⟩

theorem Recovers.next {jobs : JobTable} {f : AuthorizationSyncJob → AuthorizationSyncJob}
    (h : Recovers r inFlight ((id, job) :: rest) s queue)
    (hjobs : s.db.jobs.update id f = some jobs)
    (hf : ∀ row, failedEvent (id, f row) = failedEvent (id, row)) (hs' : s'.db.jobs = jobs)
    (hmirrors : Mirrors s' queue') (hinFlight : queue'.inFlight = queue.inFlight)
    (hlist : queue'.watchdogs = queue.watchdogs.set r (rest.map .ofRow)) :
    Recovers r inFlight rest s' queue' := by
  refine ⟨⟨hmirrors, hinFlight.trans h.inFlight⟩, ?_, fun listed hmem => ?_⟩
  · rw [hlist]
    exact Rows.getElem?_set_self h.list
  · obtain ⟨row, hrow, hevent⟩ := h.rows listed (List.mem_cons_of_mem _ hmem)
    obtain ⟨row', hrow', hevent'⟩ := failedEvent_update hf hjobs hrow
    rw [hs']
    exact ⟨row', hrow', hevent'.trans hevent⟩

theorem Carries.congr (h : Carries inFlight s queue) (hsame : mirrored s' = mirrored s) :
    Carries inFlight s' queue :=
  { h with mirrors := h.mirrors.congr hsame }

end Steps

namespace SyncJobWatchdogService

open AuthorizationSyncJobRepository AuthorizationReconciliationWorker

variable {ctx : WatchdogContext} {queue : SyncQueue} {r : Nat} {inFlight : List EventId}
  {id : JobId} {job : AuthorizationSyncJob} {rest : List (JobId × AuthorizationSyncJob)}

/-- The watchdog has this list before it. -/
def Watches (queue : SyncQueue) (r : Nat) (inFlight : List EventId)
    (rest : List (JobId × AuthorizationSyncJob)) : Store → Prop :=
  SyncQueue.system.Tracks queue (Recovers r inFlight rest)

/-- Its run has ended. -/
def Stopped (queue : SyncQueue) (inFlight : List EventId) : Store → Prop :=
  SyncQueue.system.Tracks queue (Carries inFlight)

theorem Watches.stopped {s : Store} (hs : Watches queue r inFlight rest s) :
    Stopped queue inFlight s :=
  hs.mono fun _ h => h.toCarries

theorem reclaim_follows (hretry : job.retryCount + 1 ≤ maxRetries) :
    Faulty.Triple (Watches queue r inFlight ((id, job) :: rest))
      (reclaimStuckJob id (job.retryCount + 1)) (fun _ => Watches queue r inFlight rest)
      (Stopped queue inFlight) := by
  unfold reclaimStuckJob AuthorizationSyncJobRepository.update
  refine Faulty.triple_call (fun s hs => hs.stopped) fun s u s' hs hcall => ?_
  split at hcall
  next jobs hjobs =>
    obtain ⟨-, rfl⟩ := Prod.mk.inj (Except.ok.inj hcall)
    refine hs.step fun queue' h => ?_
    have hnext : Recovers r inFlight rest { s with db := { s.db with jobs := jobs } }
        { queue' with jobs := jobs, watchdogs := queue'.watchdogs.set r (rest.map .ofRow) } := by
      have hmirrors := h.mirrors.update jobs
      exact h.next hjobs (fun _ => rfl) rfl ⟨hmirrors.now, rfl, hmirrors.outbox, hmirrors.locks,
        hmirrors.sources⟩ rfl rfl
    refine ⟨_, _, h.step.trans ?_, hnext⟩
    simp only [SyncQueue.watchdogStep, if_pos hretry, h.mirrors.jobs, h.mirrors.now, hjobs]
  · cases hcall

theorem markFailed_follows (hretry : ¬job.retryCount + 1 ≤ maxRetries) :
    Faulty.Triple (Watches queue r inFlight ((id, job) :: rest))
      (handleJobFailure id job) (fun _ => Watches queue r inFlight rest)
      (Stopped queue inFlight) := by
  rw [handleJobFailure_eq, runInTransaction]
  refine (leaves_endJob id _ _).transaction (Faulty.triple_of_ok
    fun w u w' hw hend => ?_) fun s s' hs hsame => ?_
  · refine hw.step fun queue' h => ?_
    obtain ⟨⟨jobs, hjobs, hmirrors⟩, -⟩ := endJob_mirrors h.mirrors hend
    obtain ⟨row, hrow, hevent⟩ := h.rows (id, job) List.mem_cons_self
    have hnext : Recovers r inFlight rest w'.state
        ({ queue' with jobs := jobs, watchdogs := queue'.watchdogs.set r (rest.map .ofRow) }.append
          (failedEvent (id, job))) :=
      h.next hjobs (fun _ => rfl) hmirrors.jobs.symm ⟨hmirrors.now, hmirrors.jobs,
        hmirrors.outbox, hmirrors.locks, hmirrors.sources⟩ rfl rfl
    refine ⟨_, _, h.step.trans ?_, hnext⟩
    simp only [SyncQueue.watchdogStep, if_neg hretry, h.mirrors.jobs, h.mirrors.now, hjobs, hrow]
    rw [← hevent]
  · exact hs.stopped.mono fun queue' h => h.congr (mirrored_rollback hsame)

theorem recoverAll_follows (rest : List (JobId × AuthorizationSyncJob)) (recoveredCount : Nat) :
    Faulty.Triple (Watches queue r inFlight rest) (recoverAll rest recoveredCount)
      (fun _ => Stopped queue inFlight) (Stopped queue inFlight) := by
  induction rest generalizing recoveredCount with
  | nil => exact Faulty.triple_pure fun _ hs => Watches.stopped hs
  | cons listed rest ih =>
    obtain ⟨id, job⟩ := listed
    have hrecover : Faulty.Triple (Watches queue r inFlight ((id, job) :: rest)) (recover id job)
        (fun _ => Watches queue r inFlight rest) (Stopped queue inFlight) := by
      by_cases hretry : job.retryCount + 1 ≤ maxRetries
      · rw [recover, if_pos hretry]
        exact reclaim_follows hretry
      · rw [recover, if_neg hretry]
        exact markFailed_follows hretry
    exact hrecover.bind fun _ => ih _

/-- The list is that of a new watchdog of the queue. -/
theorem scanned {s : Store} {queue' : SyncQueue} (h : Carries inFlight s queue')
    {stuckJobs : List (JobId × AuthorizationSyncJob)}
    (hstuck : stuckJobs = (ctx.stuckJobs s.db.jobs s.now).filterMap fun id =>
      (s.db.jobs[id]?).map fun job => (id, job)) :
    ∃ i queue'', SyncQueue.system.step queue' i = some queue'' ∧
      Recovers queue'.watchdogs.length inFlight stuckJobs s queue'' := by
  have hlist := ctx.stuckJobs_isStuckList queue'
  refine ⟨.watchdogScan (ctx.stuckJobs queue'.jobs queue'.now), _, if_pos hlist,
    ⟨⟨h.mirrors.now, h.mirrors.jobs, h.mirrors.outbox, h.mirrors.locks, h.mirrors.sources⟩,
      h.inFlight⟩, ?_, fun listed hmem => ?_⟩
  · rw [List.getElem?_concat_length, SyncQueue.stuckJobs, hstuck, List.map_filterMap,
      h.mirrors.jobs, h.mirrors.now]
    simp only [Option.map_map]
    rfl
  · rw [hstuck] at hmem
    obtain ⟨id, -, hfound⟩ := List.mem_filterMap.mp hmem
    obtain ⟨row, hrow, rfl⟩ := Option.map_eq_some_iff.mp hfound
    exact ⟨row, hrow, rfl⟩

/-- A run of the watchdog is a run of one of the queue. -/
theorem checkAndReclaimStuckJobs_follows (ctx : WatchdogContext) :
    Faulty.Triple (Stopped queue inFlight) (checkAndReclaimStuckJobs ctx)
      (fun _ => Stopped queue inFlight) (Stopped queue inFlight) := by
  have hread : Faulty.Triple (Stopped queue inFlight) (findStuckProcessingJobs ctx)
      (fun stuckJobs s => stuckJobs = ((ctx.stuckJobs s.db.jobs s.now).filterMap fun id =>
        (s.db.jobs[id]?).map fun job => (id, job)) ∧ Stopped queue inFlight s)
      (Stopped queue inFlight) :=
    Faulty.triple_read (fun _ hs => hs) fun _ hs => ⟨rfl, hs⟩
  refine hread.bind fun stuckJobs => ?_
  rintro w ⟨hstuck, queue', hsteps, h⟩
  obtain ⟨i, queue'', hi, hrecovers⟩ := scanned h hstuck
  exact recoverAll_follows stuckJobs 0 w
    ⟨queue'', hsteps.tail ⟨i, trivial, hi⟩, hrecovers⟩

end SyncJobWatchdogService

end AccessService.Authorization
