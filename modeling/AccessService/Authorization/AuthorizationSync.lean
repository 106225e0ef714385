/-
  AccessService.Authorization.AuthorizationSync

  `authorization-sync.service.ts`: a request to synchronize a source is answered at once when
  the source is up to date, with the job in flight for its version when there is one, and with
  a new job otherwise.  The callers of `SyncQueue` take the same steps one at a time.
-/

import AccessService.Authorization.ReconciliationWorker
import AccessService.Authorization.SyncQueue

namespace AccessService.Authorization

open AccessService.Lib AccessService.Pg AccessService.Persistence AccessService.UserGroups
open SyncQueue (newJob)

/-- `sync-job-response.dto.ts` -/
structure SyncJobResponseDto where
  jobId : Option JobId
  tenantCode : String
  source : SourceRef
  sourceVersion : Nat
  triggerType : SyncTriggerType
  status : SyncJobStatus
  processedUsers : Nat
  totalUsers : Option Nat
  isNoOp : Bool
  message : String
  startedAt : Option Timestamp := none
  createdBy : Option String := none
  deriving DecidableEq

namespace SyncJobResponseDto

def fromEntity (id : JobId) (job : AuthorizationSyncJob) (isNoOp : Bool) (message : String) :
    SyncJobResponseDto where
  jobId := some id
  tenantCode := job.tenantCode
  source := job.source
  sourceVersion := job.sourceVersion
  triggerType := job.triggerType
  status := job.status
  processedUsers := job.processedUsers
  totalUsers := job.totalUsers
  isNoOp := isNoOp
  message := message
  startedAt := job.startedAt
  createdBy := job.createdBy

def completedValue (tenantCode : String) (source : SourceRef) (sourceVersion : Nat)
    (triggerType : SyncTriggerType) : SyncJobResponseDto where
  jobId := none
  tenantCode := tenantCode
  source := source
  sourceVersion := sourceVersion
  triggerType := triggerType
  status := .COMPLETED
  processedUsers := 0
  totalUsers := some 0
  isNoOp := true
  message := "Configuration is already fully synchronized"

end SyncJobResponseDto

/-- What `findById` throws for a required row. -/
def recordNotFound (id : Uuid) : Failure where
  name := "NotFoundException"
  message := "Record not found with ID: " ++ id.text

namespace AuthorizationSyncService

structure SourceVersions where
  sourceVersion : Nat
  projectionVersion : Nat
  deriving DecidableEq

def alreadyInProgress : String := "Existing synchronization job already in progress"

def queuedSuccessfully : String := "Authorization synchronization job queued successfully"

def tenantCodeMissing : Failure where
  name := "Error"
  message := "Tenant code is missing from active RequestContext"

def noFailedSync : Failure where
  name := "BadRequestException"
  message := "No failed synchronization found for this entity"

-- ============================================================================
-- The service
-- ============================================================================

def validateAndResolveSourceVersions (ctx : Context) (source : SourceRef) :
    Service SourceVersions :=
  match source.sourceType with
  | .USER_GROUP => do
    let group ← UserGroupRepository.findById ctx source.sourceId
    match group with
    | none => .throw (recordNotFound source.sourceId)
    | some group => pure ⟨group.version, group.projectionVersion⟩
  | .ROLE => do
    let role ← RoleRepository.findById ctx source.sourceId
    match role with
    | none => .throw (recordNotFound source.sourceId)
    | some role => pure ⟨role.version, role.projectionVersion⟩

def inFlightJob (jobs : JobTable) (tenantCode : String) (source : SourceRef)
    (sourceVersion : Nat) : Option (JobId × AuthorizationSyncJob) :=
  (jobs.findInFlightJob tenantCode source sourceVersion).bind fun id =>
    (jobs[id]?).map fun job => (id, job)

def findInFlightJob (ctx : Context) (source : SourceRef) (sourceVersion : Nat) :
    Service (Option (JobId × AuthorizationSyncJob)) :=
  readDb fun db => inFlightJob db.jobs ctx.tenantCode source sourceVersion

def createJob (params : EnqueueParams) (sourceVersion : Nat) :
    Service (JobId × AuthorizationSyncJob) :=
  .call fun s =>
    let job := newJob params sourceVersion s.now
    match s.db.jobs.insert job with
    | some jobs => .ok ((s.db.jobs.length, job), { s with db := { s.db with jobs := jobs } })
    | none => .error uniqueViolation

def createSyncJobTransactional (params : EnqueueParams) (sourceVersion : Nat) :
    Service SyncJobResponseDto :=
  runInTransaction do
    let created ← createJob params sourceVersion
    OutboxEventRepository.create (.sync (.ofJob .AUTHORIZATION_SYNC_REQUESTED created.1 created.2))
    pure (.fromEntity created.1 created.2 false queuedSuccessfully)

def handleInFlightConflict (ctx : Context) (params : EnqueueParams) (sourceVersion : Nat)
    (error : Failure) : Service SyncJobResponseDto :=
  if error = uniqueViolation then do
    let existingJob ← findInFlightJob ctx params.source sourceVersion
    match existingJob with
    | some (id, job) => pure (.fromEntity id job false alreadyInProgress)
    | none => .throw error
  else .throw error

/-- `enqueueSyncJob` once the version is known. -/
def enqueueAt (ctx : Context) (params : EnqueueParams) (sourceVersion : Nat) :
    Service SyncJobResponseDto := do
  let inFlightJob ← findInFlightJob ctx params.source sourceVersion
  match inFlightJob with
  | some (id, job) => pure (.fromEntity id job false alreadyInProgress)
  | none =>
    .tryCatch (createSyncJobTransactional params sourceVersion)
      (handleInFlightConflict ctx params sourceVersion)

def enqueueSyncJob (ctx : Context) (params : EnqueueParams) : Service SyncJobResponseDto :=
  if params.ignoreValidateSource then enqueueAt ctx params (params.sourceVersion.getD 1)
  else do
    let versions ← validateAndResolveSourceVersions ctx params.source
    if versions.sourceVersion ≤ versions.projectionVersion then
      pure (.completedValue params.tenantCode params.source versions.sourceVersion
        params.triggerType)
    else enqueueAt ctx params versions.sourceVersion

/-- `userId` is the user of the request. -/
def retryFailedSync (ctx : Context) (userId : Option String) (source : SourceRef) :
    Service SyncJobResponseDto :=
  if ctx.tenantCode = "" then .throw tenantCodeMissing
  else do
    let versions ← validateAndResolveSourceVersions ctx source
    if versions.sourceVersion ≤ versions.projectionVersion then .throw noFailedSync
    else do
      let inFlightJob ← findInFlightJob ctx source versions.sourceVersion
      match inFlightJob with
      | some (id, job) => pure (.fromEntity id job false alreadyInProgress)
      | none =>
        enqueueSyncJob ctx {
          tenantCode := ctx.tenantCode
          source := source
          sourceVersion := some versions.sourceVersion
          triggerType := .MANUAL
          createdBy := some (userId.getD "SYSTEM")
          ignoreValidateSource := true }

-- ============================================================================
-- Undisturbed requests
-- ============================================================================

section Undisturbed

variable {ctx : Context} {source : SourceRef} {s : Store} {w : World Store Failure}

/-- The versions in the row of a source. -/
def versionsOf (db : Database) (tenantCode : String) (source : SourceRef) :
    Option SourceVersions :=
  match source.sourceType with
  | .USER_GROUP => (db.group tenantCode source.sourceId).map fun g => ⟨g.version, g.projectionVersion⟩
  | .ROLE => (db.role tenantCode source.sourceId).map fun r => ⟨r.version, r.projectionVersion⟩

/-- Undisturbed, the request is answered with a job in flight for the version: one that was
    there before, or a new one. -/
def Requeues (ctx : Context) (source : SourceRef) (sourceVersion : Nat) (s : Store)
    (request : Service SyncJobResponseDto) : Prop :=
  ∀ w : World Store Failure, w.state = s → Faulty.Quiet w → ∃ answer w' id job,
    request w = (.ok answer, w') ∧ answer.isNoOp = false ∧ answer.jobId = some id ∧
      w'.state.db.jobs[id]? = some job ∧ job.status.inFlight = true ∧
      job.key = (ctx.tenantCode, source, sourceVersion) ∧
      (id < s.db.jobs.length → s.db.jobs[id]? = some job)

theorem resolve_runs {versions : SourceVersions} (hquiet : Faulty.Quiet w)
    (hversions : versionsOf w.state.db ctx.tenantCode source = some versions) :
    validateAndResolveSourceVersions ctx source w =
      (.ok versions, Faulty.afterCall w w.state) := by
  obtain ⟨type, id⟩ := source
  cases type with
  | USER_GROUP =>
    obtain ⟨g, hg, rfl⟩ := Option.map_eq_some_iff.mp hversions
    have hfind := readDb_runs (fun db => db.group ctx.tenantCode id) hquiet
    rw [hg] at hfind
    exact Faulty.bind_runs hfind
  | ROLE =>
    obtain ⟨r, hr, rfl⟩ := Option.map_eq_some_iff.mp hversions
    have hfind := readDb_runs (fun db => db.role ctx.tenantCode id) hquiet
    rw [hr] at hfind
    exact Faulty.bind_runs hfind

theorem inFlightJob_some {jobs : JobTable} {tenantCode : String} {version id : Nat}
    {job : AuthorizationSyncJob} (h : inFlightJob jobs tenantCode source version = some (id, job)) :
    jobs[id]? = some job ∧ job.status.inFlight = true ∧
      job.key = (tenantCode, source, version) := by
  obtain ⟨id', hfound, hjob⟩ := Option.bind_eq_some_iff.mp h
  obtain ⟨job', hrow, hpair⟩ := Option.map_eq_some_iff.mp hjob
  obtain ⟨rfl, rfl⟩ := Prod.mk.inj hpair
  obtain ⟨other, hother, hflight, hkey⟩ := JobTable.findInFlightJob_eq_some hfound
  obtain rfl := Option.some.inj (hrow.symm.trans hother)
  exact ⟨hrow, hflight, hkey⟩

theorem inFlightJob_none {jobs : JobTable} {tenantCode : String} {version : Nat}
    (h : inFlightJob jobs tenantCode source version = none) :
    jobs.findInFlightJob tenantCode source version = none := by
  rcases hfound : jobs.findInFlightJob tenantCode source version with _ | id
  · rfl
  · obtain ⟨job, hrow, -⟩ := JobTable.findInFlightJob_eq_some hfound
    rw [inFlightJob, hfound, Option.bind_some, hrow] at h
    cases h

/-- With no job in flight for the version, the insert goes through. -/
theorem createJob_runs {params : EnqueueParams} {version : Nat} (hquiet : Faulty.Quiet w)
    (hnone : w.state.db.jobs.findInFlightJob params.tenantCode params.source version = none) :
    ∃ w₁, createJob params version w =
        (.ok (w.state.db.jobs.length, newJob params version w.state.now), w₁) ∧ Faulty.Quiet w₁ ∧
      w₁.state.db.jobs = w.state.db.jobs ++ [newJob params version w.state.now] := by
  obtain ⟨jobs, hjobs⟩ : ∃ jobs,
      w.state.db.jobs.insert (newJob params version w.state.now) = some jobs := by
    rw [← Option.ne_none_iff_exists']
    intro hconflict
    obtain ⟨id, winner, hrow, hflight, hkey⟩ := JobTable.winner_of_conflict hconflict
    rw [JobTable.findInFlightJob_eq_none hnone hrow hkey] at hflight
    cases hflight
  refine ⟨Faulty.afterCall w { w.state with db := { w.state.db with jobs := jobs } },
    Faulty.call_runs (hquiet.not_throwsAt 0) ?_, hquiet.afterCall _,
    (JobTable.insert_eq_some hjobs).1⟩
  simp only [hjobs]

theorem createEvent_runs (event : OutboxEvent) (hquiet : Faulty.Quiet w) :
    ∃ w', OutboxEventRepository.create event w = (.ok (), w') ∧
      w'.state.db.jobs = w.state.db.jobs :=
  ⟨_, writeDb_runs _ hquiet, rfl⟩

theorem createSyncJobTransactional_runs {params : EnqueueParams} {version : Nat}
    (hquiet : Faulty.Quiet w)
    (hnone : w.state.db.jobs.findInFlightJob params.tenantCode params.source version = none) :
    ∃ w', createSyncJobTransactional params version w =
        (.ok (.fromEntity w.state.db.jobs.length (newJob params version w.state.now) false
          queuedSuccessfully), w') ∧
      w'.state.db.jobs = w.state.db.jobs ++ [newJob params version w.state.now] := by
  obtain ⟨w₁, hcreate, hquiet₁, hjobs⟩ := createJob_runs hquiet hnone
  obtain ⟨w₂, hevent, hsame⟩ := createEvent_runs (.sync (.ofJob .AUTHORIZATION_SYNC_REQUESTED
    w.state.db.jobs.length (newJob params version w.state.now))) hquiet₁
  refine ⟨w₂, ?_, hsame.trans hjobs⟩
  rw [createSyncJobTransactional, runInTransaction, Faulty.transaction_ok, Faulty.bind_runs hcreate,
    Faulty.bind_runs hevent]
  rfl

/-- A request that looks for a job in flight answers with it, or goes on. -/
theorem findInFlightJob_requeues {version : Nat} {next : Service SyncJobResponseDto}
    (hnext : s.db.jobs.findInFlightJob ctx.tenantCode source version = none →
      Requeues ctx source version s next) :
    Requeues ctx source version s (findInFlightJob ctx source version >>= fun
      | some (id, job) => pure (.fromEntity id job false alreadyInProgress)
      | none => next) := by
  rintro w rfl hquiet
  have hfind := readDb_runs (fun db => inFlightJob db.jobs ctx.tenantCode source version) hquiet
  rw [findInFlightJob, Faulty.bind_runs hfind]
  rcases hfound : inFlightJob w.state.db.jobs ctx.tenantCode source version with _ | ⟨id, job⟩
  · exact hnext (inFlightJob_none hfound) _ rfl (hquiet.afterCall _)
  · obtain ⟨hrow, hflight, hkey⟩ := inFlightJob_some hfound
    exact ⟨.fromEntity id job false alreadyInProgress, Faulty.afterCall w w.state, id, job, rfl,
      rfl, rfl, hrow, hflight, hkey, fun _ => hrow⟩

theorem enqueueAt_requeues {params : EnqueueParams} (htenant : params.tenantCode = ctx.tenantCode)
    (version : Nat) (s : Store) :
    Requeues ctx params.source version s (enqueueAt ctx params version) := by
  refine findInFlightJob_requeues fun hnone => ?_
  rintro w rfl hquiet
  rw [← htenant] at hnone
  obtain ⟨w', hcreated, hjobs⟩ := createSyncJobTransactional_runs hquiet hnone
  refine ⟨.fromEntity w.state.db.jobs.length (newJob params version w.state.now) false
    queuedSuccessfully, w', w.state.db.jobs.length, newJob params version w.state.now, ?_, rfl,
    rfl, ?_, rfl, ?_, fun hlt => absurd hlt (Nat.lt_irrefl _)⟩
  · simp only [Faulty.tryCatch, hcreated]
  · rw [hjobs]
    exact List.getElem?_concat_length
  · rw [← htenant]
    rfl

/-- A request runs on once it has read. -/
theorem Requeues.after_read {version : Nat} {request next : Service SyncJobResponseDto}
    (h : Requeues ctx source version s next)
    (hread : ∀ w : World Store Failure, w.state = s → Faulty.Quiet w →
      request w = next (Faulty.afterCall w w.state)) :
    Requeues ctx source version s request := by
  intro w hw hquiet
  rw [hread w hw hquiet]
  exact h _ hw (hquiet.afterCall _)

/-- A request for a dirty source is not answered as already synchronized. -/
theorem enqueueSyncJob_requeues {params : EnqueueParams} {versions : SourceVersions}
    (htenant : params.tenantCode = ctx.tenantCode) (hvalidates : params.ignoreValidateSource = false)
    (hversions : versionsOf s.db ctx.tenantCode params.source = some versions)
    (hdirty : versions.projectionVersion < versions.sourceVersion) :
    Requeues ctx params.source versions.sourceVersion s (enqueueSyncJob ctx params) := by
  refine (enqueueAt_requeues htenant versions.sourceVersion s).after_read ?_
  rintro w rfl hquiet
  rw [enqueueSyncJob, hvalidates, if_neg Bool.false_ne_true,
    Faulty.bind_runs (resolve_runs hquiet hversions), if_neg (Nat.not_le.mpr hdirty)]

/-- Nor is a retry refused. -/
theorem retryFailedSync_requeues {userId : Option String} {versions : SourceVersions}
    (htenant : ctx.tenantCode ≠ "") (hversions : versionsOf s.db ctx.tenantCode source = some versions)
    (hdirty : versions.projectionVersion < versions.sourceVersion) :
    Requeues ctx source versions.sourceVersion s (retryFailedSync ctx userId source) := by
  have henqueue : Requeues ctx source versions.sourceVersion s (enqueueSyncJob ctx {
      tenantCode := ctx.tenantCode
      source := source
      sourceVersion := some versions.sourceVersion
      triggerType := .MANUAL
      createdBy := some (userId.getD "SYSTEM")
      ignoreValidateSource := true }) :=
    enqueueAt_requeues rfl versions.sourceVersion s
  refine (findInFlightJob_requeues fun _ => henqueue).after_read ?_
  rintro w rfl hquiet
  rw [retryFailedSync, if_neg htenant, Faulty.bind_runs (resolve_runs hquiet hversions),
    if_neg (Nat.not_le.mpr hdirty)]

end Undisturbed

end AuthorizationSyncService

end AccessService.Authorization
