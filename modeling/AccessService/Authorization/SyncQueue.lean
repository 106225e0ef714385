/-
  AccessService.Authorization.SyncQueue

  The synchronization queue as a transition system: callers of
  `enqueueSyncJob`, the requested events in flight, the workers that handle
  them (`processNextJob`), runs of the watchdog and edits of the sources, each
  advancing one database query or transaction at a time.

  What a job does to memberships and effective roles is not part of this
  system; its writes to the job, to the source's projection version and to the
  outbox are.  Any of its calls may fail.
-/

import AccessService.Authorization.DistributedLock
import AccessService.Authorization.SyncJob
import AccessService.Lib.Transition

namespace AccessService.Authorization

open AccessService.Lib.Transition AccessService.Lib.AdvisoryLock

-- ============================================================================
-- Data
-- ============================================================================

/-- The versions of a user group or role.  `hasMatchingRule` is false for a role
    and for a group without a rule. -/
structure SourceRow where
  tenantCode : String
  version : Nat
  projectionVersion : Nat
  hasMatchingRule : Bool
  deriving DecidableEq

/-- Where a run of `processNextJob` stands.  The session is the one the lock
    query ran on; the code does not know it. -/
inductive WorkerPhase where
  | starting
  | locked (session : Session)
  /-- The select of `claimNextPendingJob` has returned the job. -/
  | selected (session : Session) (job : JobId)
  /-- `executeJob` before the membership reconciliation. -/
  | matching (session : Session) (job : JobId)
  /-- `executeJob` from the batch loop on. -/
  | batching (session : Session) (job : JobId)
  /-- `executeJob` has thrown; `handleJobFailure` comes next. -/
  | failing (session : Session) (job : JobId)
  /-- In `finally`; `threw` when an error is on its way out. -/
  | releasing (session : Session) (threw : Bool)
  | returned (threw : Bool)
  /-- The handler is done with the event. -/
  | done
  deriving DecidableEq

/-- One handling of a requested event. -/
structure Worker where
  event : EventId
  tenantCode : String
  phase : WorkerPhase := .starting
  deriving DecidableEq

structure EnqueueParams where
  tenantCode : String
  source : SourceRef
  sourceVersion : Option Nat := none
  triggerType : SyncTriggerType := .SCHEDULED
  priority : SyncJobPriority := .STANDARD
  createdBy : Option String := some "SYSTEM"
  ignoreValidateSource : Bool := false
  deriving DecidableEq

/-- Where a call of `enqueueSyncJob` stands; the version is the resolved one. -/
inductive CallPhase where
  | resolving
  | checking (sourceVersion : Nat)
  | inserting (sourceVersion : Nat)
  /-- The insert violated the unique index. -/
  | rereading (sourceVersion : Nat)
  /-- No job id: already synchronized. -/
  | returned (jobId : Option JobId)
  | threw
  deriving DecidableEq

structure EnqueueCall where
  params : EnqueueParams
  phase : CallPhase := .resolving
  deriving DecidableEq

/-- A job as the watchdog's list holds it. -/
structure StuckJob where
  id : JobId
  retryCount : Nat
  deriving DecidableEq

/-- An edit of a user group between its load and its save. -/
structure GroupEdit where
  source : SourceRef
  loaded : SourceRow
  saved : Bool := false
  deriving DecidableEq

structure SyncQueue where
  now : Timestamp
  jobs : JobTable
  outbox : List SyncEvent
  /-- The requested events that are not consumed yet. -/
  inFlight : List EventId
  sources : SourceRef → Option SourceRow
  locks : SessionLocks
  workers : List Worker
  calls : List EnqueueCall
  /-- The rest of each watchdog run's list. -/
  watchdogs : List (List StuckJob)
  edits : List GroupEdit

namespace SyncQueue

def setPhase (s : SyncQueue) (w : Nat) (worker : Worker) (phase : WorkerPhase) : SyncQueue :=
  { s with workers := s.workers.set w { worker with phase := phase } }

def setCall (s : SyncQueue) (c : Nat) (call : EnqueueCall) (phase : CallPhase) : SyncQueue :=
  { s with calls := s.calls.set c { call with phase := phase } }

/-- `updateProjectionVersion`: an update by tenant and id, whatever the row holds. -/
def updateProjectionVersion (s : SyncQueue) (tenantCode : String) (source : SourceRef)
    (projectionVersion : Nat) : SyncQueue :=
  { s with
    sources := fun ref =>
      if ref = source then
        (s.sources ref).map fun row =>
          if row.tenantCode = tenantCode then { row with projectionVersion := projectionVersion }
          else row
      else s.sources ref }

def append (s : SyncQueue) (event : SyncEvent) : SyncQueue :=
  { s with outbox := s.outbox ++ [event] }

-- ============================================================================
-- Workers
-- ============================================================================

inductive WorkerAction where
  /-- The lock query, on this session; none when the query fails. -/
  | acquire (session : Option Session)
  | select (job : Option JobId)
  | claim
  /-- `updateProgress`. -/
  | progress (processedUsers : Nat) (totalUsers : Option Nat)
  /-- Matching and `reconcileGroupPopulation`, for a group with a rule. -/
  | reconcile
  /-- A call of `executeJob` throws. -/
  | throw
  /-- The final transaction. -/
  | complete (processedUsers : Nat)
  /-- The transaction of `handleJobFailure`. -/
  | fail
  /-- That transaction fails. -/
  | failError
  /-- The select or the update of `claimNextPendingJob` fails. -/
  | claimError
  /-- The unlock query, likewise. -/
  | release (session : Option Session)
  /-- The handler returns; an event whose handling threw stays in flight. -/
  | consume
  deriving DecidableEq

/-- One step of worker `w`. -/
def workerStep (s : SyncQueue) (w : Nat) (worker : Worker) :
    WorkerAction → WorkerPhase → Option SyncQueue
  | .acquire session, .starting =>
    match DistributedLockAdapter.acquireLock s.locks session (workerLockId worker.tenantCode),
      session with
    | (locks, true), some x => some ({ s with locks := locks }.setPhase w worker (.locked x))
    | _, _ => some (s.setPhase w worker (.returned false))
  | .select (some id), .locked x =>
    if s.jobs.isNextPending worker.tenantCode id then
      some (s.setPhase w worker (.selected x id))
    else none
  | .select none, .locked x =>
    if s.jobs.hasPending worker.tenantCode then none
    else some (s.setPhase w worker (.releasing x false))
  | .claim, .selected x id =>
    match s.jobs[id]?, s.jobs.update id (AuthorizationSyncJob.claimed s.now) with
    | some _, some jobs => some ({ s with jobs := jobs }.setPhase w worker (.matching x id))
    | _, _ => some (s.setPhase w worker (.releasing x true))
  | .claimError, .locked x => some (s.setPhase w worker (.releasing x true))
  | .claimError, .selected x _ => some (s.setPhase w worker (.releasing x true))
  | .progress processed total, .matching x id =>
    match s.jobs.update id (AuthorizationSyncJob.progressed s.now processed total) with
    | some jobs => some { s with jobs := jobs }
    | none => some (s.setPhase w worker (.failing x id))
  | .progress processed total, .batching x id =>
    match s.jobs.update id (AuthorizationSyncJob.progressed s.now processed total) with
    | some jobs => some { s with jobs := jobs }
    | none => some (s.setPhase w worker (.failing x id))
  | .reconcile, .matching x id =>
    match s.jobs[id]? with
    | none => none
    | some job =>
      let reconciles := job.source.sourceType = .USER_GROUP ∧
        (s.sources job.source).any (·.hasMatchingRule)
      if reconciles then
        some ((s.updateProjectionVersion worker.tenantCode job.source job.sourceVersion).setPhase
          w worker (.batching x id))
      else some (s.setPhase w worker (.batching x id))
  | .throw, .matching x id => some (s.setPhase w worker (.failing x id))
  | .throw, .batching x id => some (s.setPhase w worker (.failing x id))
  | .complete processed, .batching x id =>
    match s.jobs[id]?, s.jobs.update id (AuthorizationSyncJob.completed s.now processed) with
    | some job, some jobs =>
      -- the group repository scopes by the handler's tenant, the role repository
      -- by the job's
      let tenantCode :=
        if job.source.sourceType = .USER_GROUP then worker.tenantCode else job.tenantCode
      let s' := s.updateProjectionVersion tenantCode job.source job.sourceVersion
      some (({ s' with jobs := jobs }.append
        (.ofJob .AUTHORIZATION_SYNC_COMPLETED id job)).setPhase w worker (.releasing x false))
    | _, _ => none
  | .fail, .failing x id =>
    match s.jobs[id]?, s.jobs.update id (AuthorizationSyncJob.failed s.now) with
    | some job, some jobs =>
      some (({ s with jobs := jobs }.append
        (.ofJob .AUTHORIZATION_SYNC_FAILED id job)).setPhase w worker (.releasing x false))
    | _, _ => none
  | .failError, .failing x _ => some (s.setPhase w worker (.releasing x true))
  | .release session, .releasing _ threw =>
    let locks :=
      (DistributedLockAdapter.releaseLock s.locks session (workerLockId worker.tenantCode)).1
    some ({ s with locks := locks }.setPhase w worker (.returned threw))
  | .consume, .returned threw =>
    let inFlight := if threw then s.inFlight else s.inFlight.erase worker.event
    some ({ s with inFlight := inFlight }.setPhase w worker .done)
  | _, _ => none

-- ============================================================================
-- Callers of enqueueSyncJob
-- ============================================================================

inductive CallAction where
  | resolve
  | check
  | insert
  | reread
  /-- A query fails, other than by the unique index. -/
  | dbError
  deriving DecidableEq

/-- The row `createSyncJobTransactional` inserts. -/
def newJob (params : EnqueueParams) (sourceVersion : Nat) (now : Timestamp) :
    AuthorizationSyncJob where
  tenantCode := params.tenantCode
  source := params.source
  sourceVersion := sourceVersion
  triggerType := params.triggerType
  priority := params.priority
  createdBy := params.createdBy
  createdAt := now
  updatedAt := now

/-- One step of call `c`. -/
def callStep (s : SyncQueue) (c : Nat) (call : EnqueueCall) :
    CallAction → CallPhase → Option SyncQueue
  | .resolve, .resolving =>
    if call.params.ignoreValidateSource then
      some (s.setCall c call (.checking (call.params.sourceVersion.getD 1)))
    else
      match s.sources call.params.source with
      | none => some (s.setCall c call .threw)
      | some row =>
        if row.tenantCode ≠ call.params.tenantCode then some (s.setCall c call .threw)
        else if row.version ≤ row.projectionVersion then some (s.setCall c call (.returned none))
        else some (s.setCall c call (.checking row.version))
  | .check, .checking version =>
    match s.jobs.findInFlightJob call.params.tenantCode call.params.source version with
    | some id => some (s.setCall c call (.returned (some id)))
    | none => some (s.setCall c call (.inserting version))
  | .insert, .inserting version =>
    let job := newJob call.params version s.now
    let id := s.jobs.length
    match s.jobs.insert job with
    | some jobs =>
      some (({ s with jobs := jobs, inFlight := s.inFlight ++ [s.outbox.length] }.append
        (.ofJob .AUTHORIZATION_SYNC_REQUESTED id job)).setCall c call (.returned (some id)))
    | none => some (s.setCall c call (.rereading version))
  | .reread, .rereading version =>
    match s.jobs.findInFlightJob call.params.tenantCode call.params.source version with
    | some id => some (s.setCall c call (.returned (some id)))
    | none => some (s.setCall c call .threw)
  | .dbError, .resolving => some (s.setCall c call .threw)
  | .dbError, .checking _ => some (s.setCall c call .threw)
  | .dbError, .inserting _ => some (s.setCall c call .threw)
  | .dbError, .rereading _ => some (s.setCall c call .threw)
  | _, _ => none

-- ============================================================================
-- The watchdog
-- ============================================================================

def maxRetries : Nat := 3

def timeoutMinutes : Nat := 10

/-- The filter of `findStuckProcessingJobs`. -/
def isStuck (s : SyncQueue) (job : AuthorizationSyncJob) : Bool :=
  job.status = .PROCESSING && job.updatedAt + timeoutMinutes * 60 * 1000 < s.now

/-- `ids` is what `findStuckProcessingJobs` may return: the stuck jobs, least
    recently updated first. -/
def isStuckList (s : SyncQueue) (ids : List JobId) : Bool :=
  ids.isPerm ((List.range s.jobs.length).filter fun id => (s.jobs[id]?).any s.isStuck) &&
    decide ((ids.filterMap (s.jobs[·]?)).Pairwise fun a b => a.updatedAt ≤ b.updatedAt)

def stuckJobs (s : SyncQueue) (ids : List JobId) : List StuckJob :=
  ids.filterMap fun id => (s.jobs[id]?).map fun job => ⟨id, job.retryCount⟩

/-- One round of the loop of `checkAndReclaimStuckJobs`.  An update that fails
    ends the run. -/
def watchdogStep (s : SyncQueue) (r : Nat) (stuck : StuckJob) (rest : List StuckJob) :
    Option SyncQueue :=
  let nextRetryCount := stuck.retryCount + 1
  if nextRetryCount ≤ maxRetries then
    match s.jobs.update stuck.id (AuthorizationSyncJob.reclaimed s.now nextRetryCount) with
    | some jobs => some { s with jobs := jobs, watchdogs := s.watchdogs.set r rest }
    | none => some { s with watchdogs := s.watchdogs.set r [] }
  else
    match s.jobs[stuck.id]?, s.jobs.update stuck.id (AuthorizationSyncJob.failed s.now) with
    | some job, some jobs =>
      some ({ s with jobs := jobs, watchdogs := s.watchdogs.set r rest }.append
        (.ofJob .AUTHORIZATION_SYNC_FAILED stuck.id job))
    | _, _ => some { s with watchdogs := s.watchdogs.set r [] }

-- ============================================================================
-- The system
-- ============================================================================

inductive Action where
  /-- Time passes. -/
  | tick (milliseconds : Nat)
  /-- The event is delivered (once more) and its handler called. -/
  | deliver (event : EventId)
  | worker (w : Nat) (action : WorkerAction)
  /-- `enqueueSyncJob` is called. -/
  | enqueue (params : EnqueueParams)
  | call (c : Nat) (action : CallAction)
  /-- `checkAndReclaimStuckJobs` reads its list. -/
  | watchdogScan (ids : List JobId)
  | watchdog (r : Nat)
  /-- A configuration change of a user group loads the entity. -/
  | editLoad (source : SourceRef)
  /-- It saves the entity with the next version, and with what it has loaded. -/
  | editSave (e : Nat) (hasMatchingRule : Bool)
  /-- A configuration change of a role, which reads and writes under a row lock. -/
  | editRole (source : SourceRef)
  deriving DecidableEq

def step (s : SyncQueue) : Action → Option SyncQueue
  | .tick milliseconds => some { s with now := s.now + milliseconds }
  | .deliver event =>
    match s.outbox[event]? with
    | none => none
    | some e =>
      if event ∈ s.inFlight then
        some { s with workers := s.workers ++ [{ event := event, tenantCode := e.tenantCode }] }
      else none
  | .worker w action =>
    match s.workers[w]? with
    | none => none
    | some worker => s.workerStep w worker action worker.phase
  | .enqueue params => some { s with calls := s.calls ++ [{ params := params }] }
  | .call c action =>
    match s.calls[c]? with
    | none => none
    | some call => s.callStep c call action call.phase
  | .watchdogScan ids =>
    if s.isStuckList ids then some { s with watchdogs := s.watchdogs ++ [s.stuckJobs ids] }
    else none
  | .watchdog r =>
    match s.watchdogs[r]? with
    | some (stuck :: rest) => s.watchdogStep r stuck rest
    | _ => none
  | .editLoad source =>
    match s.sources source with
    | none => none
    | some row =>
      if source.sourceType = .USER_GROUP then
        some { s with edits := s.edits ++ [{ source := source, loaded := row }] }
      else none
  | .editSave e hasMatchingRule =>
    match s.edits[e]? with
    | none => none
    | some edit =>
      if edit.saved then none
      else
        let row := { edit.loaded with
          version := edit.loaded.version + 1, hasMatchingRule := hasMatchingRule }
        some { s with
          sources := fun ref => if ref = edit.source then some row else s.sources ref
          edits := s.edits.set e { edit with saved := true } }
  | .editRole source =>
    match s.sources source with
    | none => none
    | some row =>
      if source.sourceType = .ROLE then
        some { s with
          sources := fun ref =>
            if ref = source then some { row with version := row.version + 1 }
            else s.sources ref }
      else none

/-- An empty queue over sources that are not ahead of their configuration. -/
structure Initial (s : SyncQueue) : Prop where
  jobs : s.jobs = []
  outbox : s.outbox = []
  inFlight : s.inFlight = []
  locks : s.locks = Locks.empty
  workers : s.workers = []
  calls : s.calls = []
  watchdogs : s.watchdogs = []
  edits : s.edits = []
  projected : ∀ ref row, s.sources ref = some row → row.projectionVersion ≤ row.version

def system : System SyncQueue Action where
  init := Initial
  step := step

/-- The empty queue over some sources. -/
def empty (sources : SourceRef → Option SourceRow) : SyncQueue where
  now := 0
  jobs := []
  outbox := []
  inFlight := []
  sources := sources
  locks := Locks.empty
  workers := []
  calls := []
  watchdogs := []
  edits := []

theorem initial_empty {sources : SourceRef → Option SourceRow}
    (h : ∀ ref row, sources ref = some row → row.projectionVersion ≤ row.version) :
    system.init (empty sources) :=
  ⟨rfl, rfl, rfl, rfl, rfl, rfl, rfl, rfl, h⟩

-- ============================================================================
-- A small instance: one dirty group of one tenant
-- ============================================================================

def sampleGroup : SourceRef where
  sourceType := .USER_GROUP
  sourceId := ⟨"9b1deb4d-0000-4000-8000-000000000001", by decide⟩

def sampleRow : SourceRow where
  tenantCode := "acme"
  version := 1
  projectionVersion := 0
  hasMatchingRule := true

def sampleQueue : SyncQueue :=
  empty fun ref => if ref = sampleGroup then some sampleRow else none

/-- One call of `enqueueSyncJob` from start to return, as call `c`. -/
def enqueueRun (c : Nat) (params : EnqueueParams) : List Action :=
  [.enqueue params, .call c .resolve, .call c .check, .call c .insert]

/-- One undisturbed handling of an event, as worker `w`, on one session. -/
def handleRun (event : EventId) (w : Nat) (session : Session) (id : JobId) : List Action :=
  [.deliver event, .worker w (.acquire (some session)), .worker w (.select (some id)),
    .worker w .claim, .worker w .reconcile, .worker w (.complete 0),
    .worker w (.release (some session)), .worker w .consume]

def sampleParams : EnqueueParams where
  tenantCode := "acme"
  source := sampleGroup

theorem initial_sampleQueue : system.init sampleQueue := by
  apply initial_empty
  intro ref row h
  split at h
  · cases h; decide
  · cases h

end SyncQueue

end AccessService.Authorization
