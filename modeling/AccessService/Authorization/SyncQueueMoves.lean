/-
  AccessService.Authorization.SyncQueueMoves

  What one step of the queue can do: one constructor for each outcome of each
  action, with the guard it passed and the state it leaves.  Every invariant of
  the queue is proved by cases on this relation.
-/

import AccessService.Authorization.SyncQueue

namespace AccessService.Authorization

open AccessService.Lib.Transition AccessService.Lib.AdvisoryLock AccessService.Lib.Rows

namespace SyncQueue

/-- The phases in which the worker executes a job, before it is in `finally`. -/
def executing? : WorkerPhase → Option JobId
  | .matching _ id | .batching _ id | .failing _ id => some id
  | _ => none

/-- The session of the lock query, between acquire and release. -/
def session? : WorkerPhase → Option Session
  | .locked x | .selected x _ | .matching x _ | .batching x _ | .failing x _
  | .releasing x _ => some x
  | _ => none

/-- The job that `claimNextPendingJob` has read and not yet updated. -/
def selected? : WorkerPhase → Option JobId
  | .selected _ id => some id
  | _ => none

/-- What worker `w` shows of itself, if there is such a worker. -/
def view {β : Type} (g : Worker → Option β) (workers : List Worker) (w : Nat) : Option β :=
  workers[w]?.bind g

theorem view_of_row {β : Type} {g : Worker → Option β} {workers : List Worker} {w : Nat}
    {worker : Worker} (hw : workers[w]? = some worker) : view g workers w = g worker := by
  simp [view, hw]

theorem view_ne_iff {β : Type} {g : Worker → Option β} {workers : List Worker} {b : β} :
    (∀ w, view g workers w ≠ some b) ↔ ∀ worker ∈ workers, g worker ≠ some b := by
  constructor
  · intro h worker hworker
    obtain ⟨w, hw⟩ := List.mem_iff_getElem?.mp hworker
    intro hg
    exact h w ((view_of_row hw).trans hg)
  · intro h w hview
    obtain ⟨worker, hw, hg⟩ := Option.bind_eq_some_iff.mp hview
    exact h worker (mem_of_row hw) hg

theorem view_set {β : Type} (g : Worker → Option β) {workers : List Worker} {w : Nat}
    {worker : Worker} (hw : workers[w]? = some worker) (new : Worker) (v : Nat) :
    view g (workers.set w new) v = if v = w then g new else view g workers v := by
  by_cases hv : v = w
  · subst hv
    simp [view, getElem?_set_self hw]
  · simp [view, getElem?_set_ne hv, hv]

theorem view_set_same {β : Type} (g : Worker → Option β) {workers : List Worker} {w : Nat}
    {worker new : Worker} (hw : workers[w]? = some worker) (hsame : g new = g worker) :
    view g (workers.set w new) = view g workers := by
  funext v
  rw [view_set g hw]
  split
  next hv => rw [hv, view_of_row hw, hsame]
  · rfl

/-- A worker that shows nothing (any more). -/
theorem view_drop {β : Type} {g : Worker → Option β} {workers : List Worker} {w : Nat}
    {worker new : Worker} (hw : workers[w]? = some worker) (hnone : g new = none) {v : Nat} {b : β}
    (hv : view g (workers.set w new) v = some b) : view g workers v = some b := by
  rw [view_set g hw] at hv
  split at hv
  · rw [hnone] at hv
    cases hv
  · exact hv

/-- What another worker shows. -/
theorem view_keep {β : Type} {g : Worker → Option β} {workers : List Worker} {w : Nat}
    {worker new : Worker} (hw : workers[w]? = some worker) {v : Nat} {b : β}
    (hb : g worker ≠ some b) (hv : view g workers v = some b) :
    view g (workers.set w new) v = some b := by
  rw [view_set g hw]
  split
  next hvw =>
    subst hvw
    rw [view_of_row hw] at hv
    exact absurd hv hb
  · exact hv

/-- A new worker that shows nothing. -/
theorem view_concat {β : Type} (g : Worker → Option β) {workers : List Worker} {new : Worker}
    (hnone : g new = none) : view g (workers ++ [new]) = view g workers := by
  funext v
  rcases Nat.lt_trichotomy v workers.length with hv | hv | hv
  · simp [view, List.getElem?_append_left hv]
  · subst hv
    simp [view, hnone]
  · have hout : (workers ++ [new])[v]? = none := List.getElem?_eq_none (by simp; omega)
    have hout' : workers[v]? = none := List.getElem?_eq_none (by omega)
    simp [view, hout, hout']

/-- The outcomes of a step. -/
inductive Move (s : SyncQueue) : Action → SyncQueue → Prop where
  | tick (ms : Nat) : Move s (.tick ms) { s with now := s.now + ms }
  | deliver {event : EventId} {e : SyncEvent} (he : s.outbox[event]? = some e)
      (hin : event ∈ s.inFlight) :
      Move s (.deliver event)
        { s with workers := s.workers ++ [{ event := event, tenantCode := e.tenantCode }] }
  | acquire {w : Nat} {worker : Worker} {x : Session} {locks : SessionLocks}
      (hw : s.workers[w]? = some worker) (hp : worker.phase = .starting)
      (hlock : DistributedLockAdapter.acquireLock s.locks (some x)
        (workerLockId worker.tenantCode) = (locks, true)) :
      Move s (.worker w (.acquire (some x)))
        ({ s with locks := locks }.setPhase w worker (.locked x))
  | refuse {w : Nat} {worker : Worker} {session : Option Session}
      (hw : s.workers[w]? = some worker) (hp : worker.phase = .starting)
      (hlock : (DistributedLockAdapter.acquireLock s.locks session
        (workerLockId worker.tenantCode)).2 = false) :
      Move s (.worker w (.acquire session)) (s.setPhase w worker (.returned false))
  | select {w : Nat} {worker : Worker} {x : Session} {id : JobId}
      (hw : s.workers[w]? = some worker) (hp : worker.phase = .locked x)
      (hnext : s.jobs.isNextPending worker.tenantCode id = true) :
      Move s (.worker w (.select (some id))) (s.setPhase w worker (.selected x id))
  | selectNone {w : Nat} {worker : Worker} {x : Session}
      (hw : s.workers[w]? = some worker) (hp : worker.phase = .locked x)
      (hnone : s.jobs.hasPending worker.tenantCode = false) :
      Move s (.worker w (.select none)) (s.setPhase w worker (.releasing x false))
  | claim {w : Nat} {worker : Worker} {x : Session} {id : JobId} {jobs : JobTable}
      {job : AuthorizationSyncJob}
      (hw : s.workers[w]? = some worker) (hp : worker.phase = .selected x id)
      (hjob : s.jobs[id]? = some job)
      (hjobs : s.jobs.update id (AuthorizationSyncJob.claimed s.now) = some jobs) :
      Move s (.worker w .claim) ({ s with jobs := jobs }.setPhase w worker (.matching x id))
  /-- The claim fails: nothing is written and the error goes out. -/
  | claimFails {w : Nat} {worker : Worker} {x : Session} {action : WorkerAction}
      (hw : s.workers[w]? = some worker)
      (hp : worker.phase = .locked x ∨ ∃ id, worker.phase = .selected x id) :
      Move s (.worker w action) (s.setPhase w worker (.releasing x true))
  | progress {w : Nat} {worker : Worker} {id : JobId} {jobs : JobTable} {n : Nat}
      {total : Option Nat} (hw : s.workers[w]? = some worker)
      (hp : executing? worker.phase = some id)
      (hjobs : s.jobs.update id (AuthorizationSyncJob.progressed s.now n total) = some jobs) :
      Move s (.worker w (.progress n total)) { s with jobs := jobs }
  /-- `reconcileGroupPopulation` writes the projection version. -/
  | project {w : Nat} {worker : Worker} {x : Session} {id : JobId}
      {job : AuthorizationSyncJob}
      (hw : s.workers[w]? = some worker) (hp : worker.phase = .matching x id)
      (hjob : s.jobs[id]? = some job) :
      Move s (.worker w .reconcile)
        ((s.updateProjectionVersion worker.tenantCode job.source job.sourceVersion).setPhase
          w worker (.batching x id))
  /-- No rule to reconcile, or an error inside `executeJob`. -/
  | executes {w : Nat} {worker : Worker} {x : Session} {id : JobId} {action : WorkerAction}
      {phase : WorkerPhase} (hw : s.workers[w]? = some worker)
      (hp : worker.phase = .matching x id ∨ worker.phase = .batching x id)
      (hphase : phase = .batching x id ∨ phase = .failing x id) :
      Move s (.worker w action) (s.setPhase w worker phase)
  | complete {w : Nat} {worker : Worker} {x : Session} {id : JobId} {jobs : JobTable}
      {job : AuthorizationSyncJob} {n : Nat} (tenantCode : String)
      (hw : s.workers[w]? = some worker) (hp : worker.phase = .batching x id)
      (hjob : s.jobs[id]? = some job)
      (hjobs : s.jobs.update id (AuthorizationSyncJob.completed s.now n) = some jobs) :
      Move s (.worker w (.complete n))
        (({ s.updateProjectionVersion tenantCode job.source job.sourceVersion with
            jobs := jobs }.append
          (.ofJob .AUTHORIZATION_SYNC_COMPLETED id job)).setPhase w worker (.releasing x false))
  | fail {w : Nat} {worker : Worker} {x : Session} {id : JobId} {jobs : JobTable}
      {job : AuthorizationSyncJob}
      (hw : s.workers[w]? = some worker) (hp : worker.phase = .failing x id)
      (hjob : s.jobs[id]? = some job)
      (hjobs : s.jobs.update id (AuthorizationSyncJob.failed s.now) = some jobs) :
      Move s (.worker w .fail)
        (({ s with jobs := jobs }.append
          (.ofJob .AUTHORIZATION_SYNC_FAILED id job)).setPhase w worker (.releasing x false))
  | failError {w : Nat} {worker : Worker} {x : Session} {id : JobId}
      (hw : s.workers[w]? = some worker) (hp : worker.phase = .failing x id) :
      Move s (.worker w .failError) (s.setPhase w worker (.releasing x true))
  | release {w : Nat} {worker : Worker} {x : Session} {threw : Bool} {session : Option Session}
      (hw : s.workers[w]? = some worker) (hp : worker.phase = .releasing x threw) :
      Move s (.worker w (.release session))
        ({ s with
            locks := (DistributedLockAdapter.releaseLock s.locks session
              (workerLockId worker.tenantCode)).1 }.setPhase w worker (.returned threw))
  | consume {w : Nat} {worker : Worker} (hw : s.workers[w]? = some worker)
      (hp : worker.phase = .returned false) :
      Move s (.worker w .consume)
        ({ s with inFlight := s.inFlight.erase worker.event }.setPhase w worker .done)
  | giveUp {w : Nat} {worker : Worker} (hw : s.workers[w]? = some worker)
      (hp : worker.phase = .returned true) :
      Move s (.worker w .consume) (s.setPhase w worker .done)
  | enqueue (params : EnqueueParams) :
      Move s (.enqueue params) { s with calls := s.calls ++ [{ params := params }] }
  | resolveIgnoring {c : Nat} {call : EnqueueCall} (hc : s.calls[c]? = some call)
      (hp : call.phase = .resolving) (hignore : call.params.ignoreValidateSource = true) :
      Move s (.call c .resolve)
        (s.setCall c call (.checking (call.params.sourceVersion.getD 1)))
  | resolve {c : Nat} {call : EnqueueCall} {row : SourceRow} (hc : s.calls[c]? = some call)
      (hp : call.phase = .resolving) (hrow : s.sources call.params.source = some row)
      (hdirty : row.projectionVersion < row.version) :
      Move s (.call c .resolve) (s.setCall c call (.checking row.version))
  | resolveNoOp {c : Nat} {call : EnqueueCall} (hc : s.calls[c]? = some call)
      (hp : call.phase = .resolving) :
      Move s (.call c .resolve) (s.setCall c call (.returned none))
  /-- A lookup finds a job in flight. -/
  | find {c : Nat} {call : EnqueueCall} {version : Nat} {id : JobId} {action : CallAction}
      (hc : s.calls[c]? = some call)
      (hp : call.phase = .checking version ∨ call.phase = .rereading version)
      (hfind : s.jobs.findInFlightJob call.params.tenantCode call.params.source version =
        some id) :
      Move s (.call c action) (s.setCall c call (.returned (some id)))
  | checkMiss {c : Nat} {call : EnqueueCall} {version : Nat} (hc : s.calls[c]? = some call)
      (hp : call.phase = .checking version) :
      Move s (.call c .check) (s.setCall c call (.inserting version))
  | insert {c : Nat} {call : EnqueueCall} {version : Nat} {jobs : JobTable}
      (hc : s.calls[c]? = some call) (hp : call.phase = .inserting version)
      (hjobs : s.jobs.insert (newJob call.params version s.now) = some jobs) :
      Move s (.call c .insert)
        (({ s with jobs := jobs, inFlight := s.inFlight ++ [s.outbox.length] }.append
          (.ofJob .AUTHORIZATION_SYNC_REQUESTED s.jobs.length
            (newJob call.params version s.now))).setCall c call
          (.returned (some s.jobs.length)))
  | insertConflict {c : Nat} {call : EnqueueCall} {version : Nat}
      (hc : s.calls[c]? = some call) (hp : call.phase = .inserting version)
      (hjobs : s.jobs.insert (newJob call.params version s.now) = none) :
      Move s (.call c .insert) (s.setCall c call (.rereading version))
  | rereadMiss {c : Nat} {call : EnqueueCall} {version : Nat} (hc : s.calls[c]? = some call)
      (hp : call.phase = .rereading version)
      (hfind : s.jobs.findInFlightJob call.params.tenantCode call.params.source version = none) :
      Move s (.call c .reread) (s.setCall c call .threw)
  | callFails {c : Nat} {call : EnqueueCall} {action : CallAction}
      (hc : s.calls[c]? = some call) (hp : ∀ id, call.phase ≠ .returned id)
      (haction : action = .resolve ∨ action = .dbError) :
      Move s (.call c action) (s.setCall c call .threw)
  | watchdogScan {ids : List JobId} (hids : s.isStuckList ids = true) :
      Move s (.watchdogScan ids) { s with watchdogs := s.watchdogs ++ [s.stuckJobs ids] }
  | reclaim {r : Nat} {stuck : StuckJob} {rest : List StuckJob} {jobs : JobTable}
      (hr : s.watchdogs[r]? = some (stuck :: rest)) (hretry : stuck.retryCount + 1 ≤ maxRetries)
      (hjobs : s.jobs.update stuck.id
        (AuthorizationSyncJob.reclaimed s.now (stuck.retryCount + 1)) = some jobs) :
      Move s (.watchdog r) { s with jobs := jobs, watchdogs := s.watchdogs.set r rest }
  | watchdogFail {r : Nat} {stuck : StuckJob} {rest : List StuckJob} {jobs : JobTable}
      {job : AuthorizationSyncJob} (hr : s.watchdogs[r]? = some (stuck :: rest))
      (hjob : s.jobs[stuck.id]? = some job)
      (hjobs : s.jobs.update stuck.id (AuthorizationSyncJob.failed s.now) = some jobs) :
      Move s (.watchdog r)
        ({ s with jobs := jobs, watchdogs := s.watchdogs.set r rest }.append
          (.ofJob .AUTHORIZATION_SYNC_FAILED stuck.id job))
  | watchdogAborts {r : Nat} {stuck : StuckJob} {rest : List StuckJob}
      (hr : s.watchdogs[r]? = some (stuck :: rest)) :
      Move s (.watchdog r) { s with watchdogs := s.watchdogs.set r [] }
  | editLoad {source : SourceRef} {row : SourceRow} (hrow : s.sources source = some row) :
      Move s (.editLoad source)
        { s with edits := s.edits ++ [{ source := source, loaded := row }] }
  | editSave {e : Nat} {edit : GroupEdit} {hasMatchingRule : Bool}
      (he : s.edits[e]? = some edit) (hsaved : edit.saved = false) :
      Move s (.editSave e hasMatchingRule)
        { s with
          sources := fun ref =>
            if ref = edit.source then
              some { edit.loaded with
                version := edit.loaded.version + 1, hasMatchingRule := hasMatchingRule }
            else s.sources ref
          edits := s.edits.set e { edit with saved := true } }
  | editRole {source : SourceRef} {row : SourceRow} (hrow : s.sources source = some row) :
      Move s (.editRole source)
        { s with
          sources := fun ref =>
            if ref = source then some { row with version := row.version + 1 }
            else s.sources ref }

theorem workerStep_move {s s' : SyncQueue} {w : Nat} {worker : Worker} {action : WorkerAction}
    (hw : s.workers[w]? = some worker)
    (h : s.workerStep w worker action worker.phase = some s') : Move s (.worker w action) s' := by
  generalize hp : worker.phase = phase at h
  unfold workerStep at h
  split at h
  · split at h
    next x hlock => cases h; exact .acquire hw hp hlock
    next hrefused =>
      cases h
      rename_i session _ _
      refine .refuse hw hp (eq_false_of_ne_true fun hacquired => ?_)
      cases session with
      | none => cases hacquired
      | some x => exact hrefused _ x (Prod.ext rfl hacquired) rfl
  · split at h
    next hnext => cases h; exact .select hw hp hnext
    · cases h
  · split at h
    · cases h
    next hnone => cases h; exact .selectNone hw hp (eq_false_of_ne_true hnone)
  · split at h
    next hjob hjobs => cases h; exact .claim hw hp hjob hjobs
    · cases h; exact .claimFails hw (.inr ⟨_, hp⟩)
  · cases h; exact .claimFails hw (.inl hp)
  · cases h; exact .claimFails hw (.inr ⟨_, hp⟩)
  · split at h
    next hjobs => cases h; exact .progress hw (by rw [hp]; rfl) hjobs
    · cases h; exact .executes hw (.inl hp) (.inr rfl)
  · split at h
    next hjobs => cases h; exact .progress hw (by rw [hp]; rfl) hjobs
    · cases h; exact .executes hw (.inr hp) (.inr rfl)
  · split at h
    · cases h
    next hjob =>
      simp only at h
      split at h
      · cases h; exact .project hw hp hjob
      · cases h; exact .executes hw (.inl hp) (.inl rfl)
  · cases h; exact .executes hw (.inl hp) (.inr rfl)
  · cases h; exact .executes hw (.inr hp) (.inr rfl)
  · split at h
    next hjob hjobs => cases h; exact .complete _ hw hp hjob hjobs
    · cases h
  · split at h
    next hjob hjobs => cases h; exact .fail hw hp hjob hjobs
    · cases h
  · cases h; exact .failError hw hp
  · cases h; exact .release hw hp
  next threw =>
    cases threw with
    | false => cases h; exact .consume hw hp
    | true => cases h; exact .giveUp hw hp
  · cases h

theorem callStep_move {s s' : SyncQueue} {c : Nat} {call : EnqueueCall} {action : CallAction}
    (hc : s.calls[c]? = some call)
    (h : s.callStep c call action call.phase = some s') : Move s (.call c action) s' := by
  generalize hp : call.phase = phase at h
  unfold callStep at h
  split at h
  · split at h
    next hignore => cases h; exact .resolveIgnoring hc hp hignore
    · split at h
      · cases h; exact .callFails hc (by simp [hp]) (.inl rfl)
      next row hrow =>
        split at h
        · cases h; exact .callFails hc (by simp [hp]) (.inl rfl)
        · split at h
          · cases h; exact .resolveNoOp hc hp
          next hdirty => cases h; exact .resolve hc hp hrow (Nat.lt_of_not_le hdirty)
  · split at h
    next hfind => cases h; exact .find hc (.inl hp) hfind
    · cases h; exact .checkMiss hc hp
  · simp only at h
    split at h
    next hjobs => cases h; exact .insert hc hp hjobs
    next hjobs => cases h; exact .insertConflict hc hp hjobs
  · split at h
    next hfind => cases h; exact .find hc (.inr hp) hfind
    next hfind => cases h; exact .rereadMiss hc hp hfind
  · cases h; exact .callFails hc (by simp [hp]) (.inr rfl)
  · cases h; exact .callFails hc (by simp [hp]) (.inr rfl)
  · cases h; exact .callFails hc (by simp [hp]) (.inr rfl)
  · cases h; exact .callFails hc (by simp [hp]) (.inr rfl)
  · cases h

/-- Every step is one of the moves. -/
theorem step_move {s s' : SyncQueue} {action : Action} (h : s.step action = some s') :
    Move s action s' := by
  cases action with
  | tick ms => cases h; exact .tick ms
  | deliver event =>
    simp only [step] at h
    split at h
    · cases h
    next he =>
      split at h
      next hin => cases h; exact .deliver he hin
      · cases h
  | worker w action =>
    simp only [step] at h
    split at h
    · cases h
    next hw => exact workerStep_move hw h
  | enqueue params => cases h; exact .enqueue params
  | call c action =>
    simp only [step] at h
    split at h
    · cases h
    next hc => exact callStep_move hc h
  | watchdogScan ids =>
    simp only [step] at h
    split at h
    next hids => cases h; exact .watchdogScan hids
    · cases h
  | watchdog r =>
    simp only [step] at h
    split at h
    next stuck rest hr =>
      simp only [watchdogStep] at h
      split at h
      next hretry =>
        split at h
        next hjobs => cases h; exact .reclaim hr hretry hjobs
        · cases h; exact .watchdogAborts hr
      · split at h
        next hjob hjobs => cases h; exact .watchdogFail hr hjob hjobs
        · cases h; exact .watchdogAborts hr
    · cases h
  | editLoad source =>
    simp only [step] at h
    split at h
    · cases h
    next hrow =>
      split at h
      · cases h; exact .editLoad hrow
      · cases h
  | editSave e hasMatchingRule =>
    simp only [step] at h
    split at h
    · cases h
    next he =>
      split at h
      · cases h
      next hsaved => cases h; exact .editSave he (eq_false_of_ne_true hsaved)
  | editRole source =>
    simp only [step] at h
    split at h
    · cases h
    next hrow =>
      split at h
      · cases h; exact .editRole hrow
      · cases h

-- ============================================================================
-- What every step does to the jobs
-- ============================================================================

/-- The job each worker executes. -/
abbrev runs : List Worker → Nat → Option JobId := view fun worker => executing? worker.phase

/-- The job table after a step: as it was, with a new job, or with one job
    overwritten under its key. -/
def JobsChange (jobs jobs' : JobTable) : Prop :=
  jobs' = jobs ∨ (∃ job, jobs.insert job = some jobs') ∨
    ∃ id f, (∀ job : AuthorizationSyncJob, (f job).key = job.key) ∧
      jobs.update id f = some jobs'

theorem JobsChange.updated {jobs jobs' : JobTable} {id : JobId}
    {f : AuthorizationSyncJob → AuthorizationSyncJob} (h : jobs.update id f = some jobs')
    (hf : ∀ job : AuthorizationSyncJob, (f job).key = job.key) : JobsChange jobs jobs' :=
  .inr (.inr ⟨id, f, hf, h⟩)

theorem move_jobs {s s' : SyncQueue} {action : Action} (h : Move s action s') :
    JobsChange s.jobs s'.jobs := by
  cases h with
  | insert hc hp hjobs => exact .inr (.inl ⟨_, hjobs⟩)
  | claim hw hp hjob hjobs => exact .updated hjobs fun _ => rfl
  | progress hw hp hjobs => exact .updated hjobs fun _ => rfl
  | complete tenantCode hw hp hjob hjobs => exact .updated hjobs fun _ => rfl
  | fail hw hp hjob hjobs => exact .updated hjobs fun _ => rfl
  | reclaim hr hretry hjobs => exact .updated hjobs fun _ => rfl
  | watchdogFail hr hjob hjobs => exact .updated hjobs fun _ => rfl
  | _ => exact .inl rfl

theorem move_unique {s s' : SyncQueue} {action : Action} (h : Move s action s')
    (hu : s.jobs.InFlightUnique) : s'.jobs.InFlightUnique := by
  rcases move_jobs h with heq | ⟨job, hjobs⟩ | ⟨id, f, -, hjobs⟩
  · rw [heq]
    exact hu
  · exact JobTable.insert_unique hjobs hu
  · exact JobTable.update_unique hjobs hu

/-- A job stays, with its key. -/
theorem move_key {s s' : SyncQueue} {action : Action} (h : Move s action s') {id : JobId}
    {job : AuthorizationSyncJob} (hjob : s.jobs[id]? = some job) :
    ∃ job', s'.jobs[id]? = some job' ∧ job'.key = job.key := by
  rcases move_jobs h with heq | ⟨new, hjobs⟩ | ⟨i, f, hf, hjobs⟩
  · exact ⟨job, by rw [heq]; exact hjob, rfl⟩
  · obtain ⟨heq, -⟩ := JobTable.insert_eq_some hjobs
    exact ⟨job, by rw [heq]; exact getElem?_concat.mpr (.inl hjob), rfl⟩
  · by_cases hi : id = i
    · subst hi
      exact ⟨f job, JobTable.update_row hjob hjobs, hf job⟩
    · exact ⟨job, by rw [JobTable.update_other hjobs hi]; exact hjob, rfl⟩

theorem steps_key {P : SyncQueue → Action → Prop} {s s' : SyncQueue}
    (h : system.Steps P s s') {id : JobId} {job : AuthorizationSyncJob}
    (hjob : s.jobs[id]? = some job) :
    ∃ job', s'.jobs[id]? = some job' ∧ job'.key = job.key := by
  induction h with
  | refl => exact ⟨job, hjob, rfl⟩
  | tail _ hnext ih =>
    obtain ⟨action, -, hstep⟩ := hnext
    obtain ⟨mid, hmid, hkey⟩ := ih
    obtain ⟨job', hjob', hkey'⟩ := move_key (step_move hstep) hmid
    exact ⟨job', hjob', hkey'.trans hkey⟩

/-- A job after the step is an old job or the one an enqueueing call inserts. -/
theorem move_job_origin {s s' : SyncQueue} {action : Action} (h : Move s action s') {id : JobId}
    {job' : AuthorizationSyncJob} (hjob' : s'.jobs[id]? = some job') :
    (∃ job, s.jobs[id]? = some job ∧ job'.key = job.key) ∨
      ∃ (c : Nat) (call : EnqueueCall) (version : Nat), s.calls[c]? = some call ∧
        call.phase = .inserting version ∧ job' = newJob call.params version s.now ∧
        id = s.jobs.length := by
  have hold : ∀ {i : JobId} {f : AuthorizationSyncJob → AuthorizationSyncJob} {jobs : JobTable},
      s.jobs.update i f = some jobs → (∀ job : AuthorizationSyncJob, (f job).key = job.key) →
      jobs[id]? = some job' → ∃ job, s.jobs[id]? = some job ∧ job'.key = job.key := by
    intro i f jobs hupdate hf hrow
    by_cases hi : id = i
    · subst hi
      cases hjob : s.jobs[id]? with
      | none =>
        have hlt := (List.getElem?_eq_some_iff.mp hrow).1
        rw [JobTable.update_length hupdate] at hlt
        have hout := List.getElem?_eq_none_iff.mp hjob
        exact absurd hlt (Nat.not_lt.mpr hout)
      | some job =>
        cases hrow.symm.trans (JobTable.update_row hjob hupdate)
        exact ⟨job, rfl, hf job⟩
    · rw [JobTable.update_other hupdate hi] at hrow
      exact ⟨job', hrow, rfl⟩
  cases h with
  | insert hc hp hjobs =>
    obtain ⟨heq, -⟩ := JobTable.insert_eq_some hjobs
    subst heq
    rcases getElem?_concat.mp hjob' with h | ⟨hid, rfl⟩
    · exact .inl ⟨job', h, rfl⟩
    · exact .inr ⟨_, _, _, hc, hp, rfl, hid⟩
  | claim hw hp hjob hjobs => exact .inl (hold hjobs (fun _ => rfl) hjob')
  | progress hw hp hjobs => exact .inl (hold hjobs (fun _ => rfl) hjob')
  | complete tenantCode hw hp hjob hjobs => exact .inl (hold hjobs (fun _ => rfl) hjob')
  | fail hw hp hjob hjobs => exact .inl (hold hjobs (fun _ => rfl) hjob')
  | reclaim hr hretry hjobs => exact .inl (hold hjobs (fun _ => rfl) hjob')
  | watchdogFail hr hjob hjobs => exact .inl (hold hjobs (fun _ => rfl) hjob')
  | _ => exact .inl ⟨job', hjob', rfl⟩

-- ============================================================================
-- What every step does to the outbox
-- ============================================================================

/-- The outbox after a step: as it was, with the requested event of a job that
    was inserted in the same step, or with an event about the end of a job. -/
theorem move_outbox {s s' : SyncQueue} {action : Action} (h : Move s action s') :
    (s'.outbox = s.outbox ∧ s'.jobs.length = s.jobs.length) ∨
      (∃ event, s'.outbox = s.outbox ++ [event] ∧
        event.type = .AUTHORIZATION_SYNC_REQUESTED ∧ event.jobId = s.jobs.length ∧
        s'.jobs.length = s.jobs.length + 1) ∨
      ∃ event, s'.outbox = s.outbox ++ [event] ∧
        event.type ≠ .AUTHORIZATION_SYNC_REQUESTED ∧ s'.jobs.length = s.jobs.length := by
  have hcompleted : SyncEventType.AUTHORIZATION_SYNC_COMPLETED ≠ .AUTHORIZATION_SYNC_REQUESTED :=
    by decide
  have hfailed : SyncEventType.AUTHORIZATION_SYNC_FAILED ≠ .AUTHORIZATION_SYNC_REQUESTED :=
    by decide
  cases h with
  | insert hc hp hjobs =>
    obtain ⟨rfl, -⟩ := JobTable.insert_eq_some hjobs
    exact .inr (.inl ⟨_, rfl, rfl, rfl, List.length_append⟩)
  | claim hw hp hjob hjobs => exact .inl ⟨rfl, JobTable.update_length hjobs⟩
  | progress hw hp hjobs => exact .inl ⟨rfl, JobTable.update_length hjobs⟩
  | complete tenantCode hw hp hjob hjobs =>
    exact .inr (.inr ⟨_, rfl, hcompleted, JobTable.update_length hjobs⟩)
  | fail hw hp hjob hjobs => exact .inr (.inr ⟨_, rfl, hfailed, JobTable.update_length hjobs⟩)
  | reclaim hr hretry hjobs => exact .inl ⟨rfl, JobTable.update_length hjobs⟩
  | watchdogFail hr hjob hjobs =>
    exact .inr (.inr ⟨_, rfl, hfailed, JobTable.update_length hjobs⟩)
  | _ => exact .inl ⟨rfl, rfl⟩

/-- An event stays in the outbox. -/
theorem move_event {s s' : SyncQueue} {action : Action} (h : Move s action s') {e : EventId}
    {event : SyncEvent} (he : s.outbox[e]? = some event) : s'.outbox[e]? = some event := by
  rcases move_outbox h with ⟨houtbox, -⟩ | ⟨new, houtbox, -⟩ | ⟨new, houtbox, -⟩
  · rw [houtbox]
    exact he
  · rw [houtbox]
    exact getElem?_concat.mpr (.inl he)
  · rw [houtbox]
    exact getElem?_concat.mpr (.inl he)

-- ============================================================================
-- What every step does to the executing workers
-- ============================================================================

theorem runs_drop {workers : List Worker} {w : Nat} {worker : Worker} {phase : WorkerPhase}
    (hw : workers[w]? = some worker) (hphase : executing? phase = none) {v : Nat} {id : JobId}
    (hv : runs (workers.set w { worker with phase := phase }) v = some id) :
    runs workers v = some id :=
  view_drop hw hphase hv

theorem runs_same {workers : List Worker} {w : Nat} {worker : Worker} {phase : WorkerPhase}
    (hw : workers[w]? = some worker) (hphase : executing? phase = executing? worker.phase) :
    runs (workers.set w { worker with phase := phase }) = runs workers :=
  view_set_same _ hw hphase

/-- A worker executes what it executed before, or what it has just claimed. -/
theorem move_runs {s s' : SyncQueue} {action : Action} (h : Move s action s') {v : Nat}
    {id : JobId} (hv : runs s'.workers v = some id) :
    runs s.workers v = some id ∨
      (action = .worker v .claim ∧ s'.sources = s.sources ∧
        ∃ worker x job, s.workers[v]? = some worker ∧ worker.phase = .selected x id ∧
          s.jobs[id]? = some job) := by
  cases h with
  | deliver he hin =>
    left
    change runs (s.workers ++ [_]) v = some id at hv
    rw [runs, view_concat _ rfl] at hv
    exact hv
  | @claim w worker x id' jobs job hw hp hjob hjobs =>
    change runs (s.workers.set w { worker with phase := .matching x id' }) v = some id at hv
    rw [runs, view_set _ hw] at hv
    split at hv
    next heq =>
      cases hv
      subst heq
      exact .inr ⟨rfl, rfl, worker, x, job, hw, hp, hjob⟩
    · exact .inl hv
  | acquire hw hp hlock => exact .inl (runs_drop hw rfl hv)
  | refuse hw hp hlock => exact .inl (runs_drop hw rfl hv)
  | select hw hp hnext => exact .inl (runs_drop hw rfl hv)
  | selectNone hw hp hnone => exact .inl (runs_drop hw rfl hv)
  | claimFails hw hp => exact .inl (runs_drop hw rfl hv)
  | project hw hp hjob =>
    left
    change runs (s.workers.set _ _) v = some id at hv
    rw [runs_same hw (by rw [hp]; rfl)] at hv
    exact hv
  | executes hw hp hphase =>
    left
    change runs (s.workers.set _ _) v = some id at hv
    rw [runs_same hw (by rcases hp with hp | hp <;> rcases hphase with rfl | rfl <;> rw [hp] <;> rfl)]
      at hv
    exact hv
  | complete tenantCode hw hp hjob hjobs => exact .inl (runs_drop hw rfl hv)
  | fail hw hp hjob hjobs => exact .inl (runs_drop hw rfl hv)
  | failError hw hp => exact .inl (runs_drop hw rfl hv)
  | release hw hp => exact .inl (runs_drop hw rfl hv)
  | consume hw hp => exact .inl (runs_drop hw rfl hv)
  | giveUp hw hp => exact .inl (runs_drop hw rfl hv)
  | _ => exact .inl hv

end SyncQueue

end AccessService.Authorization
