/-
  AccessService.Authorization.StuckJobRecovery

  What an undisturbed run of `SyncJobWatchdogService` does: each job that has been PROCESSING
  for too long is PENDING again, or FAILED with the one event about it, and nothing else has
  changed (`watchdog_recovers`).  So whatever the workers that are gone have left behind, a
  run of the watchdog and as many messages as jobs then wait end every job
  (`every_job_ends`).
-/

import Mathlib.Data.List.Count
import AccessService.Authorization.JobEndings
import AccessService.Authorization.QueueDraining

namespace AccessService.Authorization

open AccessService.Lib AccessService.Pg AccessService.Persistence
open SyncQueue (maxRetries)

-- ============================================================================
-- What is recovered
-- ============================================================================

/-- The queue as far as the list query looks at it. -/
def watched (s : Store) : SyncQueue :=
  { SyncQueue.empty fun _ => none with now := s.now, jobs := s.db.jobs }

/-- What the watchdog makes of a stuck job. -/
def AuthorizationSyncJob.recovered (now : Timestamp) (job : AuthorizationSyncJob) :
    AuthorizationSyncJob :=
  if job.retryCount + 1 ≤ maxRetries then job.reclaimed now (job.retryCount + 1)
  else job.failed now

/-- It has tried often enough. -/
def isGivenUp (row : JobId × AuthorizationSyncJob) : Bool := !(row.2.retryCount + 1 ≤ maxRetries)

/-- The events about the jobs that are given up. -/
def givenUp (stuck : List (JobId × AuthorizationSyncJob)) : List SyncEvent :=
  (stuck.filter isGivenUp).map failedEvent

theorem givenUp_of_le {id : JobId} {job : AuthorizationSyncJob}
    (h : job.retryCount + 1 ≤ maxRetries) : givenUp [(id, job)] = [] := by
  simp [givenUp, isGivenUp, h]

theorem givenUp_of_not_le {id : JobId} {job : AuthorizationSyncJob}
    (h : ¬job.retryCount + 1 ≤ maxRetries) : givenUp [(id, job)] = [failedEvent (id, job)] := by
  simp [givenUp, isGivenUp, h]

/-- The store without the jobs and the outbox. -/
def besidesQueue (s : Store) : Store := { s with db := { s.db with jobs := [], outbox := [] } }

/-- The listed jobs are there, PROCESSING, and each is listed once. -/
structure Stuck (stuck : List (JobId × AuthorizationSyncJob)) (s : Store) : Prop where
  once : (stuck.map Prod.fst).Nodup
  job : ∀ row ∈ stuck, s.db.jobs[row.1]? = some row.2
  processing : ∀ row ∈ stuck, row.2.status = .PROCESSING

/-- Between two states the listed jobs have been recovered, and nothing else has happened. -/
structure Recovered (stuck : List (JobId × AuthorizationSyncJob)) (s s' : Store) : Prop where
  frame : besidesQueue s' = besidesQueue s
  outbox : s'.db.outbox = s.db.outbox ++ (givenUp stuck).map .sync
  listed : ∀ row ∈ stuck, s'.db.jobs[row.1]? = some (row.2.recovered s.now)
  others : ∀ id ∉ stuck.map Prod.fst, s'.db.jobs[id]? = s.db.jobs[id]?

namespace Recovered

variable {stuck : List (JobId × AuthorizationSyncJob)} {id : JobId} {job : AuthorizationSyncJob}
  {s s₁ s' : Store}

theorem now (h : Recovered stuck s s') : s'.now = s.now := by
  show (besidesQueue s').now = (besidesQueue s).now
  rw [h.frame]

theorem locks (h : Recovered stuck s s') : s'.locks = s.locks := by
  show (besidesQueue s').locks = (besidesQueue s).locks
  rw [h.frame]

theorem nil : Recovered [] s s where
  frame := rfl
  outbox := (List.append_nil _).symm
  listed _ hmem := absurd hmem List.not_mem_nil
  others _ _ := rfl

theorem one (hjob : s.db.jobs[id]? = some job) (hframe : besidesQueue s' = besidesQueue s)
    (hjobs : s'.db.jobs = s.db.jobs.set id (job.recovered s.now))
    (houtbox : s'.db.outbox = s.db.outbox ++ (givenUp [(id, job)]).map .sync) :
    Recovered [(id, job)] s s' where
  frame := hframe
  outbox := houtbox
  listed row hmem := by
    obtain rfl := List.mem_singleton.mp hmem
    rw [hjobs]
    exact Lib.Rows.getElem?_set_self hjob
  others i hi := by
    rw [List.map_singleton, List.mem_singleton] at hi
    rw [hjobs]
    exact Lib.Rows.getElem?_set_ne hi

/-- One job first, then the others. -/
theorem cons (hnew : id ∉ stuck.map Prod.fst) (hone : Recovered [(id, job)] s s₁)
    (hrest : Recovered stuck s₁ s') : Recovered ((id, job) :: stuck) s s' where
  frame := hrest.frame.trans hone.frame
  outbox := by
    have hevents : givenUp ((id, job) :: stuck) = givenUp [(id, job)] ++ givenUp stuck := by
      rw [givenUp, givenUp, givenUp, ← List.map_append, ← List.filter_append]
      rfl
    rw [hrest.outbox, hone.outbox, hevents, List.map_append, List.append_assoc]
  listed row hmem := by
    rcases List.mem_cons.mp hmem with rfl | hmem
    · rw [hrest.others id hnew]
      exact hone.listed _ (List.mem_singleton_self _)
    · rw [hrest.listed row hmem, hone.now]
  others i hi := by
    rw [List.map_cons, List.mem_cons, not_or] at hi
    rw [hrest.others i hi.2]
    exact hone.others i (by rw [List.map_singleton, List.mem_singleton]; exact hi.1)

/-- The table, row by row. -/
theorem jobs (h : Recovered stuck s s')
    (hstuck : ∀ id job, (id, job) ∈ stuck ↔
      s.db.jobs[id]? = some job ∧ (watched s).isStuck job = true) :
    s'.db.jobs = s.db.jobs.map fun job =>
      if (watched s).isStuck job = true then job.recovered s.now else job := by
  refine List.ext_getElem? fun i => ?_
  rw [List.getElem?_map]
  by_cases hi : i ∈ stuck.map Prod.fst
  · obtain ⟨row, hrow, rfl⟩ := List.mem_map.mp hi
    obtain ⟨hjob, hlate⟩ := (hstuck row.1 row.2).mp hrow
    rw [h.listed row hrow, hjob, Option.map_some, if_pos hlate]
  · rw [h.others i hi]
    rcases hjob : s.db.jobs[i]? with _ | job
    · rfl
    · have hlate : ¬(watched s).isStuck job = true := fun hlate =>
        hi (List.mem_map.mpr ⟨(i, job), (hstuck i job).mpr ⟨hjob, hlate⟩, rfl⟩)
      rw [Option.map_some, if_neg hlate]

theorem eq_of_nil (h : Recovered [] s s') : s' = s := by
  have hjobs : s'.db.jobs = s.db.jobs := List.ext_getElem? fun i => h.others i List.not_mem_nil
  have houtbox : s'.db.outbox = s.db.outbox := h.outbox.trans (List.append_nil _)
  calc s' = { besidesQueue s' with db := { (besidesQueue s').db with
          jobs := s'.db.jobs, outbox := s'.db.outbox } } := rfl
    _ = { besidesQueue s with db := { (besidesQueue s).db with
          jobs := s.db.jobs, outbox := s.db.outbox } } := by rw [h.frame, hjobs, houtbox]
    _ = s := rfl

end Recovered

/-- A recovered job is not stuck. -/
theorem not_isStuck_recovered (s : Store) (job : AuthorizationSyncJob) (now : Timestamp) :
    (watched s).isStuck (job.recovered now) = false := by
  rw [AuthorizationSyncJob.recovered]
  split <;> rfl

/-- The rest of the list, once its first job has been recovered. -/
theorem Stuck.next {stuck : List (JobId × AuthorizationSyncJob)} {id : JobId}
    {job : AuthorizationSyncJob} {s s₁ : Store} (h : Stuck ((id, job) :: stuck) s)
    (hone : Recovered [(id, job)] s s₁) : id ∉ stuck.map Prod.fst ∧ Stuck stuck s₁ := by
  obtain ⟨hnew, honce⟩ := List.nodup_cons.mp h.once
  refine ⟨hnew, honce, fun row hmem => ?_, fun row hmem =>
    h.processing row (List.mem_cons_of_mem _ hmem)⟩
  have hne : row.1 ∉ [(id, job)].map Prod.fst := by
    rw [List.map_singleton, List.mem_singleton]
    intro heq
    have hmem' : row.1 ∈ stuck.map Prod.fst := List.mem_map_of_mem hmem
    rw [heq] at hmem'
    exact hnew hmem'
  rw [hone.others row.1 hne]
  exact h.job row (List.mem_cons_of_mem _ hmem)

-- ============================================================================
-- A run of the watchdog
-- ============================================================================

namespace SyncJobWatchdogService

open AuthorizationSyncJobRepository AuthorizationReconciliationWorker

variable {ctx : WatchdogContext} {id : JobId} {job : AuthorizationSyncJob}
  {stuck : List (JobId × AuthorizationSyncJob)} {w : World Store Failure}

theorem recover_runs (hquiet : Faulty.Quiet w) (hunique : w.state.db.jobs.InFlightUnique)
    (hjob : w.state.db.jobs[id]? = some job) (hprocessing : job.status = .PROCESSING) :
    ∃ w', recover id job w = (.ok (), w') ∧ Faulty.Quiet w' ∧
      w'.state.db.jobs.InFlightUnique ∧ Recovered [(id, job)] w.state w'.state := by
  have hflight : job.status.inFlight = true := by rw [hprocessing]; rfl
  by_cases hretry : job.retryCount + 1 ≤ maxRetries
  · have hjobs := inFlight_update
      (f := AuthorizationSyncJob.reclaimed w.state.now (job.retryCount + 1)) hunique hjob
      hflight rfl
    have hrun := update_runs
      (f := fun now => AuthorizationSyncJob.reclaimed now (job.retryCount + 1)) hquiet hjobs
    rw [recover, if_pos hretry, reclaimStuckJob]
    refine ⟨_, hrun, hquiet.afterCall _, JobTable.update_unique hjobs hunique, ?_⟩
    refine .one hjob rfl ?_ ?_
    · rw [AuthorizationSyncJob.recovered, if_pos hretry]
      rfl
    · rw [givenUp_of_le hretry]
      exact (List.append_nil _).symm
  · have hjobs := inFlight_update (f := AuthorizationSyncJob.failed w.state.now) hunique hjob
      hflight rfl
    have hupdate := update_runs (f := AuthorizationSyncJob.failed) hquiet hjobs
    have hquiet₁ := hquiet.afterCall { w.state with db := { w.state.db with
      jobs := w.state.db.jobs.set id (job.failed w.state.now) } }
    have hcreate := (hquiet₁.call_runs (f := fun s : Store => .ok ((), { s with db := { s.db with
      outbox := s.db.outbox ++ [.sync (failedEvent (id, job))] } })) rfl).1
    rw [recover, if_neg hretry, runInTransaction]
    refine ⟨_, Faulty.transaction_ok.mpr ((Faulty.bind_runs hupdate).trans hcreate),
      hquiet₁.afterCall _, JobTable.update_unique hjobs hunique, ?_⟩
    refine .one hjob rfl ?_ ?_
    · rw [AuthorizationSyncJob.recovered, if_neg hretry]
      rfl
    · rw [givenUp_of_not_le hretry]
      rfl

theorem recoverAll_runs (n : Nat) (hquiet : Faulty.Quiet w)
    (hunique : w.state.db.jobs.InFlightUnique) (hstuck : Stuck stuck w.state) :
    ∃ w', recoverAll stuck n w = (.ok (n + stuck.length), w') ∧ Faulty.Quiet w' ∧
      w'.state.db.jobs.InFlightUnique ∧ Recovered stuck w.state w'.state := by
  induction stuck generalizing n w with
  | nil => exact ⟨w, rfl, hquiet, hunique, .nil⟩
  | cons row stuck ih =>
    obtain ⟨id, job⟩ := row
    obtain ⟨w₁, hrun, hquiet₁, hunique₁, hone⟩ := recover_runs hquiet hunique
      (hstuck.job (id, job) List.mem_cons_self) (hstuck.processing (id, job) List.mem_cons_self)
    obtain ⟨hnew, hstuck₁⟩ := hstuck.next hone
    obtain ⟨w', hrest, hquiet', hunique', hrecovered⟩ := ih (n + 1) hquiet₁ hunique₁ hstuck₁
    refine ⟨w', ?_, hquiet', hunique', hone.cons hnew hrecovered⟩
    rw [recoverAll, Faulty.bind_runs hrun, hrest, List.length_cons, Nat.add_assoc,
      Nat.add_comm 1]

/-- The list query returns the jobs that are stuck. -/
theorem scanned_stuck (ctx : WatchdogContext) (s : Store) :
    ∃ stuck : List (JobId × AuthorizationSyncJob),
      stuck = ((ctx.stuckJobs s.db.jobs s.now).filterMap fun id =>
        (s.db.jobs[id]?).map fun job => (id, job)) ∧ Stuck stuck s ∧
      ∀ id job, (id, job) ∈ stuck ↔
        s.db.jobs[id]? = some job ∧ (watched s).isStuck job = true := by
  have hlist := ctx.stuckJobs_isStuckList (watched s)
  have hmem : ∀ id job, (id, job) ∈ ((ctx.stuckJobs s.db.jobs s.now).filterMap fun id =>
      (s.db.jobs[id]?).map fun job => (id, job)) ↔
        s.db.jobs[id]? = some job ∧ (watched s).isStuck job = true := by
    intro id job
    have hids : id ∈ ctx.stuckJobs s.db.jobs s.now ↔
        id < s.db.jobs.length ∧ (s.db.jobs[id]?).any (watched s).isStuck = true := by
      have hperm := hlist
      simp only [SyncQueue.isStuckList, Bool.and_eq_true, List.isPerm_iff] at hperm
      refine hperm.1.mem_iff.trans ?_
      rw [List.mem_filter, List.mem_range]
      rfl
    constructor
    · intro hrow
      obtain ⟨i, hi, hfound⟩ := List.mem_filterMap.mp hrow
      obtain ⟨row, hrow', heq⟩ := Option.map_eq_some_iff.mp hfound
      obtain ⟨rfl, rfl⟩ := Prod.mk.inj heq
      obtain ⟨-, hany⟩ : _ ∧ (s.db.jobs[i]?).any (watched s).isStuck = true := hids.mp hi
      rw [hrow'] at hany
      exact ⟨hrow', hany⟩
    · rintro ⟨hjob, hstuck⟩
      refine List.mem_filterMap.mpr ⟨id, hids.mpr ⟨?_, ?_⟩, ?_⟩
      · exact (List.getElem?_eq_some_iff.mp hjob).1
      · rw [hjob]
        exact hstuck
      · rw [hjob, Option.map_some]
  refine ⟨_, rfl, ⟨?_, fun row hrow => ((hmem row.1 row.2).mp hrow).1, fun row hrow => ?_⟩, hmem⟩
  · rw [List.map_filterMap]
    refine (isStuckList_nodup hlist).filterMap fun i i' j hj hj' => ?_
    rw [Option.map_map] at hj hj'
    obtain ⟨row, -, hi⟩ := Option.map_eq_some_iff.mp hj
    obtain ⟨row', -, hi'⟩ := Option.map_eq_some_iff.mp hj'
    exact hi.trans hi'.symm
  · have hprocessing := ((hmem row.1 row.2).mp hrow).2
    simp only [SyncQueue.isStuck, Bool.and_eq_true, decide_eq_true_eq] at hprocessing
    exact hprocessing.1

/-- An undisturbed run recovers the jobs that are stuck. -/
theorem checkAndReclaimStuckJobs_runs (ctx : WatchdogContext) (hquiet : Faulty.Quiet w)
    (hunique : w.state.db.jobs.InFlightUnique) :
    ∃ stuck w', checkAndReclaimStuckJobs ctx w = (.ok stuck.length, w') ∧ Faulty.Quiet w' ∧
      w'.state.db.jobs.InFlightUnique ∧ Stuck stuck w.state ∧
      Recovered stuck w.state w'.state ∧ ∀ id job, (id, job) ∈ stuck ↔
        w.state.db.jobs[id]? = some job ∧ (watched w.state).isStuck job = true := by
  obtain ⟨stuck, hscanned, hstuck, hmem⟩ := scanned_stuck ctx w.state
  have hread : findStuckProcessingJobs ctx w = (.ok stuck, Faulty.afterCall w w.state) := by
    rw [hscanned]
    exact hquiet.read_runs _
  obtain ⟨w', hrun, hquiet', hunique', hrecovered⟩ :=
    recoverAll_runs 0 (hquiet.afterCall w.state) hunique hstuck
  refine ⟨stuck, w', ?_, hquiet', hunique', hstuck, hrecovered, hmem⟩
  rw [Nat.zero_add] at hrun
  exact (Faulty.bind_runs hread).trans hrun

/-- An undisturbed run of the watchdog, whatever order the database lists the jobs in: each
    job that has been PROCESSING for more than ten minutes is PENDING again with one more
    retry, or FAILED after the third, the latter with one event each; all else is as before,
    and a run after it finds nothing. -/
theorem watchdog_recovers (ctx : WatchdogContext) (w : World Store Failure)
    (hquiet : Faulty.Quiet w) (hunique : w.state.db.jobs.InFlightUnique) :
    ∃ stuck w', checkAndReclaimStuckJobs ctx w = (.ok stuck.length, w') ∧
      (stuck.map Prod.fst).Nodup ∧ (∀ id job, (id, job) ∈ stuck ↔
        w.state.db.jobs[id]? = some job ∧ (watched w.state).isStuck job = true) ∧
      besidesQueue w'.state = besidesQueue w.state ∧
      w'.state.db.jobs = (w.state.db.jobs.map fun job =>
        if (watched w.state).isStuck job = true then job.recovered w.state.now else job) ∧
      w'.state.db.outbox = w.state.db.outbox ++ (givenUp stuck).map .sync ∧
      ∀ ctx' : WatchdogContext, ∃ w'',
        checkAndReclaimStuckJobs ctx' w' = (.ok 0, w'') ∧ w''.state = w'.state := by
  obtain ⟨stuck, w', hrun, hquiet', hunique', hstuck, hrecovered, hmem⟩ :=
    checkAndReclaimStuckJobs_runs ctx hquiet hunique
  refine ⟨stuck, w', hrun, hstuck.once, hmem, hrecovered.frame, hrecovered.jobs hmem,
    hrecovered.outbox, fun ctx' => ?_⟩
  obtain ⟨again, w'', hrun', -, -, -, hrecovered', hmem'⟩ :=
    checkAndReclaimStuckJobs_runs ctx' hquiet' hunique'
  have hlate : (watched w'.state).isStuck = (watched w.state).isStuck := by
    funext job
    show (decide _ && decide (_ < w'.state.now)) = (decide _ && decide (_ < w.state.now))
    rw [hrecovered.now]
  have hnone : again = [] := by
    refine List.eq_nil_iff_forall_not_mem.mpr fun row hrow => ?_
    obtain ⟨hjob, hrow'⟩ := (hmem' row.1 row.2).mp hrow
    rw [hrecovered.jobs hmem, List.getElem?_map] at hjob
    obtain ⟨job, -, hmade⟩ := Option.map_eq_some_iff.mp hjob
    rw [← hmade] at hrow'
    split at hrow'
    · rw [not_isStuck_recovered] at hrow'
      cases hrow'
    next hnot =>
      rw [hlate] at hrow'
      exact hnot hrow'
  rw [hnone] at hrun' hrecovered'
  exact ⟨w'', hrun', hrecovered'.eq_of_nil⟩

/-- A group's job has been PROCESSING for a millisecond too long, a role's job has not. -/
def lateAndPunctual : World Store Failure :=
  .calm { now := 600001, db := { sampleDatabase true .empty with
    jobs := [startedJob, { startedRoleJob with updatedAt := 1 }] } }

theorem lateAndPunctual_unique : lateAndPunctual.state.db.jobs.InFlightUnique := by
  have hfirst : JobTable.insert [] startedJob = some [startedJob] := by decide
  have hsecond : JobTable.insert [startedJob] { startedRoleJob with updatedAt := 1 } =
      some lateAndPunctual.state.db.jobs := by decide
  exact JobTable.insert_unique hsecond (JobTable.insert_unique hfirst JobTable.unique_nil)

def updatedAtOf (jobs : JobTable) (id : JobId) : Timestamp :=
  ((jobs[id]?).map AuthorizationSyncJob.updatedAt).getD 0

/-- The stuck jobs as a sort by their last update lists them. -/
def listOldestFirst (jobs : JobTable) (now : Timestamp) : List JobId :=
  let queue : SyncQueue := { SyncQueue.empty fun _ => none with now := now, jobs := jobs }
  ((List.range jobs.length).filter fun id => (jobs[id]?).any queue.isStuck).mergeSort
    fun i j => updatedAtOf jobs i ≤ updatedAtOf jobs j

theorem listOldestFirst_isStuckList (queue : SyncQueue) :
    queue.isStuckList (listOldestFirst queue.jobs queue.now) = true := by
  have htrans : ∀ i j k : JobId, decide (updatedAtOf queue.jobs i ≤ updatedAtOf queue.jobs j) →
      decide (updatedAtOf queue.jobs j ≤ updatedAtOf queue.jobs k) →
      decide (updatedAtOf queue.jobs i ≤ updatedAtOf queue.jobs k) := by
    simp only [decide_eq_true_eq]
    exact fun _ _ _ => Nat.le_trans
  have htotal : ∀ i j : JobId, decide (updatedAtOf queue.jobs i ≤ updatedAtOf queue.jobs j) ||
      decide (updatedAtOf queue.jobs j ≤ updatedAtOf queue.jobs i) := by
    simp only [Bool.or_eq_true, decide_eq_true_eq]
    exact fun _ _ => Nat.le_total _ _
  simp only [SyncQueue.isStuckList, Bool.and_eq_true, List.isPerm_iff, decide_eq_true_eq]
  refine ⟨List.mergeSort_perm _ _, ?_⟩
  have hsorted := List.pairwise_mergeSort htrans htotal
    ((List.range queue.jobs.length).filter fun id => (queue.jobs[id]?).any queue.isStuck)
  refine List.Pairwise.filterMap _ (fun i j hij a ha b hb => ?_) hsorted
  have hle : updatedAtOf queue.jobs i ≤ updatedAtOf queue.jobs j := of_decide_eq_true hij
  rw [updatedAtOf, updatedAtOf, ha, hb] at hle
  exact hle

def oldestFirst : WatchdogContext := ⟨listOldestFirst, listOldestFirst_isStuckList⟩

/-- A job that is late, and one that is not. -/
theorem watchdog_recovers_late :
    ∃ w', (∃ n, checkAndReclaimStuckJobs oldestFirst lateAndPunctual = (.ok n, w')) ∧
      w'.state.db.jobs = [{ groupJob with retryCount := 1, updatedAt := 600001 },
        { startedRoleJob with updatedAt := 1 }] := by
  have hquiet : Faulty.Quiet lateAndPunctual := fun _ hmem => absurd hmem List.not_mem_nil
  obtain ⟨stuck, w', hrun, -, -, -, hjobs, -⟩ :=
    watchdog_recovers oldestFirst lateAndPunctual hquiet lateAndPunctual_unique
  refine ⟨w', ⟨_, hrun⟩, hjobs.trans ?_⟩
  decide

end SyncJobWatchdogService

-- ============================================================================
-- What the workers that are gone have left behind
-- ============================================================================

namespace AuthorizationHandler

open AuthorizationReconciliationWorker SyncJobWatchdogService

/-- The job has ended, now with the event that says so, or before. -/
structure EndsOnce (ended : List SyncEvent) (id : JobId) (job job' : AuthorizationSyncJob) :
    Prop where
  terminal : job'.status.terminal = true
  told : job.status.inFlight = true → ∃ event ∈ ended,
    event = .ofJob event.type id job ∧ finalEvent job'.status = some event.type
  before : job.status.inFlight = false → job' = job

theorem terminal_of_finalEvent {status : SyncJobStatus} {type : SyncEventType}
    (h : finalEvent status = some type) : status.terminal = true := by
  cases status with
  | COMPLETED | FAILED => rfl
  | PENDING | PROCESSING => cases h

section Drained

variable {s s' : Store} {ended : List SyncEvent} {id : JobId} {job : AuthorizationSyncJob}

/-- Where nothing waits any more, a job that was PENDING has ended. -/
theorem ended_of_pending (h : Drained s s' ended) (hjob : s.db.jobs[id]? = some job)
    (hpending : job.status = .PENDING) (hnone : pendingCount s'.db.jobs job.tenantCode = 0) :
    ∃ event ∈ ended, ∃ job' : AuthorizationSyncJob, s'.db.jobs[id]? = some job' ∧
      event = .ofJob event.type id job ∧ finalEvent job'.status = some event.type := by
  by_cases hmem : id ∈ ended.map SyncEvent.jobId
  · obtain ⟨event, hevent, rfl⟩ := List.mem_map.mp hmem
    obtain ⟨row, job', hrow, -, hjob', -, htells, hfinal⟩ := h.job event hevent
    obtain rfl := Option.some.inj (hjob.symm.trans hrow)
    exact ⟨event, hevent, job', hjob', htells, hfinal⟩
  · have hkept : s'.db.jobs[id]? = some job := (h.others id hmem).trans hjob
    have hwaits : job.pendingFor job.tenantCode = true := by
      rw [AuthorizationSyncJob.pendingFor, hpending]
      simp
    exact absurd hwaits (List.countP_eq_zero.mp hnone job (Lib.Rows.mem_of_row hkept))

/-- A job that was not PENDING is as it was. -/
theorem kept_of_not_pending (h : Drained s s' ended) (hjob : s.db.jobs[id]? = some job)
    (hnot : job.status ≠ .PENDING) :
    id ∉ ended.map SyncEvent.jobId ∧ s'.db.jobs[id]? = some job := by
  have hnew : id ∉ ended.map SyncEvent.jobId := by
    intro hmem
    obtain ⟨event, hevent, rfl⟩ := List.mem_map.mp hmem
    obtain ⟨row, -, hrow, hpending, -⟩ := h.job event hevent
    obtain rfl := Option.some.inj (hjob.symm.trans hrow)
    exact hnot hpending
  exact ⟨hnew, (h.others id hnew).trans hjob⟩

end Drained

section Recovered

variable {stuck : List (JobId × AuthorizationSyncJob)} {s s₁ s' : Store} {ended : List SyncEvent}
  {id : JobId} {job : AuthorizationSyncJob}

/-- The watchdog first, then messages until nothing waits: what becomes of a job. -/
theorem recovered_ends (hrecovered : Recovered stuck s s₁) (hdrained : Drained s₁ s' ended)
    (hstuck : ∀ id job, (id, job) ∈ stuck ↔
      s.db.jobs[id]? = some job ∧ (watched s).isStuck job = true)
    (hgone : ∀ job ∈ s.db.jobs, job.status = .PROCESSING → (watched s).isStuck job = true)
    (hjob : s.db.jobs[id]? = some job) (hnone : pendingCount s'.db.jobs job.tenantCode = 0) :
    ∃ job', s'.db.jobs[id]? = some job' ∧ EndsOnce (givenUp stuck ++ ended) id job job' := by
  by_cases hlate : (watched s).isStuck job = true
  · have hrow := (hstuck id job).mpr ⟨hjob, hlate⟩
    have hafter := hrecovered.listed _ hrow
    simp only [SyncQueue.isStuck, Bool.and_eq_true, decide_eq_true_eq] at hlate
    have hflight : ¬job.status.inFlight = false := by
      rw [hlate.1]
      exact Bool.noConfusion
    by_cases hretry : job.retryCount + 1 ≤ maxRetries
    · -- PENDING again: a message ends it
      rw [AuthorizationSyncJob.recovered, if_pos hretry] at hafter
      obtain ⟨event, hevent, job', hjob', htells, hfinal⟩ :=
        ended_of_pending hdrained hafter rfl hnone
      exact ⟨job', hjob', terminal_of_finalEvent hfinal,
        fun _ => ⟨event, List.mem_append_right _ hevent, htells, hfinal⟩,
        fun hnot => absurd hnot hflight⟩
    · -- FAILED by the watchdog
      rw [AuthorizationSyncJob.recovered, if_neg hretry] at hafter
      have hfailed : (job.failed s.now).status ≠ .PENDING := SyncJobStatus.noConfusion
      have hgiven : failedEvent (id, job) ∈ givenUp stuck := by
        refine List.mem_map_of_mem (List.mem_filter.mpr ⟨hrow, ?_⟩)
        simp [isGivenUp, hretry]
      exact ⟨_, (kept_of_not_pending hdrained hafter hfailed).2, rfl,
        fun _ => ⟨_, List.mem_append_left _ hgiven, rfl, rfl⟩, fun hnot => absurd hnot hflight⟩
  · have hnew : id ∉ stuck.map Prod.fst := by
      intro hmem
      obtain ⟨row, hrow, rfl⟩ := List.mem_map.mp hmem
      obtain ⟨hjob', hlate'⟩ := (hstuck row.1 row.2).mp hrow
      obtain rfl := Option.some.inj (hjob.symm.trans hjob')
      exact hlate hlate'
    have hafter := (hrecovered.others id hnew).trans hjob
    cases hstatus : job.status with
    | PENDING =>
      obtain ⟨event, hevent, job', hjob', htells, hfinal⟩ :=
        ended_of_pending hdrained hafter hstatus hnone
      refine ⟨job', hjob', terminal_of_finalEvent hfinal,
        fun _ => ⟨event, List.mem_append_right _ hevent, htells, hfinal⟩, fun hnot => ?_⟩
      rw [hstatus] at hnot
      cases hnot
    | PROCESSING => exact absurd (hgone job (Lib.Rows.mem_of_row hjob) hstatus) hlate
    | COMPLETED | FAILED =>
      have hnot : job.status ≠ .PENDING := by
        rw [hstatus]
        exact SyncJobStatus.noConfusion
      refine ⟨job, (kept_of_not_pending hdrained hafter hnot).2, ?_, fun hflight => ?_,
        fun _ => rfl⟩
      · rw [hstatus]
        rfl
      · rw [hstatus] at hflight
        cases hflight

/-- No job is told of twice. -/
theorem recovered_distinct (hrecovered : Recovered stuck s s₁) (hdrained : Drained s₁ s' ended)
    (hlisted : Stuck stuck s) : ((givenUp stuck ++ ended).map SyncEvent.jobId).Nodup := by
  have hids : (givenUp stuck).map SyncEvent.jobId = (stuck.filter isGivenUp).map Prod.fst := by
    rw [givenUp, List.map_map]
    rfl
  rw [List.map_append, hids, List.nodup_append]
  refine ⟨hlisted.once.sublist (List.filter_sublist.map _), hdrained.distinct, ?_⟩
  rintro id hgiven _ hended rfl
  obtain ⟨row, hrow, rfl⟩ := List.mem_map.mp hgiven
  obtain ⟨hmem, hretry⟩ := List.mem_filter.mp hrow
  have hafter := hrecovered.listed row hmem
  simp only [isGivenUp, Bool.not_eq_true', decide_eq_false_iff_not] at hretry
  rw [AuthorizationSyncJob.recovered, if_neg hretry] at hafter
  exact (kept_of_not_pending hdrained hafter SyncJobStatus.noConfusion).1 hended

/-- What is told of has been in flight. -/
theorem recovered_inFlight (hrecovered : Recovered stuck s s₁) (hdrained : Drained s₁ s' ended)
    (hlisted : Stuck stuck s) {event : SyncEvent} (hevent : event ∈ givenUp stuck ++ ended) :
    ∃ job : AuthorizationSyncJob, s.db.jobs[event.jobId]? = some job ∧
      job.status.inFlight = true := by
  have hprocessing : ∀ row ∈ stuck, ∃ job : AuthorizationSyncJob,
      s.db.jobs[row.1]? = some job ∧ job.status.inFlight = true := fun row hrow =>
    ⟨row.2, hlisted.job row hrow, by rw [hlisted.processing row hrow]; rfl⟩
  rcases List.mem_append.mp hevent with hgiven | hended
  · obtain ⟨row, hrow, rfl⟩ := List.mem_map.mp hgiven
    exact hprocessing row (List.mem_filter.mp hrow).1
  · by_cases hmem : event.jobId ∈ stuck.map Prod.fst
    · obtain ⟨row, hrow, heq⟩ := List.mem_map.mp hmem
      rw [← heq]
      exact hprocessing row hrow
    · obtain ⟨job, -, hjob, hpending, -⟩ := hdrained.job event hended
      rw [hrecovered.others _ hmem] at hjob
      exact ⟨job, hjob, by rw [hpending]; rfl⟩

end Recovered

/-- No job is lost, whatever the workers that are gone have left behind: where every job that
    is PROCESSING has been so for more than ten minutes, a run of the watchdog, and then at
    least as many messages of each tenant as its jobs that wait, in any order, end every job
    of a tenant, each that was in flight with the one event that says so. -/
theorem every_job_ends (ctx : WorkerContext) (watchdog : WatchdogContext) {session : Session}
    (hsession : ctx.session = some session) (w : World Store Failure) (hquiet : Faulty.Quiet w)
    (hunique : w.state.db.jobs.InFlightUnique)
    (hfree : ∀ tenantCode, w.state.locks (workerLockId tenantCode) = none)
    (hgone : ∀ job ∈ w.state.db.jobs, job.status = .PROCESSING →
      (watched w.state).isStuck job = true) :
    ∃ n w₁, checkAndReclaimStuckJobs watchdog w = (.ok n, w₁) ∧
      ∀ messages : List (Option AuthorizationSyncRequestedPayload),
        (∀ tenantCode ≠ "", pendingCount w₁.state.db.jobs tenantCode ≤
          (messages.map tenantAsked).count (some tenantCode)) →
        ∃ ended w', Faulty.forEach (handleAuthorizationSyncRequested ctx) messages w₁ =
            (.ok (), w') ∧
          w'.state.db.outbox = w.state.db.outbox ++ ended.map .sync ∧
          (ended.map SyncEvent.jobId).Nodup ∧
          (∀ event ∈ ended, ∃ job : AuthorizationSyncJob,
            w.state.db.jobs[event.jobId]? = some job ∧ job.status.inFlight = true) ∧
          ∀ (id : JobId) (job : AuthorizationSyncJob), w.state.db.jobs[id]? = some job →
            job.tenantCode ≠ "" →
            ∃ job', w'.state.db.jobs[id]? = some job' ∧ EndsOnce ended id job job' := by
  obtain ⟨stuck, w₁, hrun, hquiet₁, hunique₁, hlisted, hrecovered, hstuck⟩ :=
    checkAndReclaimStuckJobs_runs watchdog hquiet hunique
  rw [← hrecovered.locks] at hfree
  refine ⟨stuck.length, w₁, hrun, fun messages hmessages => ?_⟩
  obtain ⟨ended, w', hruns, hdrains, -, hcount⟩ :=
    messages_run ctx hsession messages w₁ hquiet₁ hunique₁ hfree
  have hdrained := hdrains.drained
  refine ⟨givenUp stuck ++ ended, w', hruns, ?_,
    recovered_distinct hrecovered hdrained hlisted,
    fun event hevent => recovered_inFlight hrecovered hdrained hlisted hevent,
    fun id job hjob hne => ?_⟩
  · rw [hdrained.outbox, hrecovered.outbox, List.map_append, List.append_assoc]
  · have hnone : pendingCount w'.state.db.jobs job.tenantCode = 0 := by
      rw [hcount]
      exact Nat.sub_eq_zero_of_le (hmessages _ hne)
    exact recovered_ends hrecovered hdrained hstuck hgone hjob hnone

/-- The workers of the group's job, and of a role's job that has been reclaimed three times,
    are gone; another of the role's jobs waits. -/
def abandoned : World Store Failure :=
  .calm { now := 600001, db := { sampleDatabase true .empty with
    jobs := [startedJob, { startedRoleJob with retryCount := 3 },
      { roleJob with sourceVersion := 2 }] } }

theorem abandoned_unique : abandoned.state.db.jobs.InFlightUnique := by
  have hfirst : JobTable.insert [] startedJob = some [startedJob] := by decide
  have hsecond : JobTable.insert [startedJob] { startedRoleJob with retryCount := 3 } =
      some [startedJob, { startedRoleJob with retryCount := 3 }] := by decide
  have hthird : JobTable.insert [startedJob, { startedRoleJob with retryCount := 3 }]
      { roleJob with sourceVersion := 2 } = some abandoned.state.db.jobs := by decide
  exact JobTable.insert_unique hthird (JobTable.insert_unique hsecond
    (JobTable.insert_unique hfirst JobTable.unique_nil))

/-- The watchdog fails the second job; of three messages two find a job. -/
theorem every_job_ends_abandoned :
    ∃ n w₁ ended w', checkAndReclaimStuckJobs oldestFirst abandoned = (.ok n, w₁) ∧
      Faulty.forEach (handleAuthorizationSyncRequested acmeWorker)
        (List.replicate 3 (some ⟨some "acme"⟩)) w₁ = (.ok (), w') ∧
      ∃ job', w'.state.db.jobs[1]? = some job' ∧
        EndsOnce ended 1 { startedRoleJob with retryCount := 3 } job' := by
  have hquiet : Faulty.Quiet abandoned := fun _ hmem => absurd hmem List.not_mem_nil
  have hgone : ∀ job ∈ abandoned.state.db.jobs, job.status = .PROCESSING →
      (watched abandoned.state).isStuck job = true := by decide
  obtain ⟨n, w₁, hrun, hends⟩ := every_job_ends acmeWorker oldestFirst rfl abandoned hquiet
    abandoned_unique (fun _ => rfl) hgone
  obtain ⟨stuck, w₂, hrun', -, -, -, hrecovered, hstuck⟩ :=
    checkAndReclaimStuckJobs_runs oldestFirst hquiet abandoned_unique
  obtain rfl : w₁ = w₂ := congrArg Prod.snd (hrun.symm.trans hrun')
  have htenants : w₁.state.db.jobs.map AuthorizationSyncJob.tenantCode =
      List.replicate 3 "acme" := by
    rw [hrecovered.jobs hstuck]
    decide
  have hdue : ∀ tenantCode ≠ "", pendingCount w₁.state.db.jobs tenantCode ≤
      ((List.replicate 3 (some ⟨some "acme"⟩)).map tenantAsked).count (some tenantCode) := by
    intro tenantCode _
    have hmine := pendingCount_le w₁.state.db.jobs tenantCode
    rw [htenants] at hmine
    refine hmine.trans (Nat.le_of_eq ?_)
    exact (List.count_map_of_injective (List.replicate 3 "acme") some
      (Option.some_injective _) _).symm
  obtain ⟨ended, w', hruns, -, -, -, hjobs⟩ := hends _ hdue
  exact ⟨n, w₁, ended, w', hrun, hruns, hjobs 1 _ rfl (by decide)⟩

end AuthorizationHandler

end AccessService.Authorization
