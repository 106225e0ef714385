/-
  AccessService.Authorization.SyncStatusProjection

  `sync-status-projection.service.ts`: what is reported of the synchronization of a
  source, and of all sources of a tenant.  The status is computed from the versions of
  the source and from one of its jobs, the one that was created last.
-/

import AccessService.Authorization.AuthorizationSync
import Mathlib.Data.List.MinMax
import Mathlib.Data.List.Lex

namespace AccessService.Authorization

open AccessService.Lib AccessService.Pg AccessService.Persistence AccessService.UserGroups

-- ============================================================================
-- Jobs with their outcome
-- ============================================================================

/-- `error_details`, as far as it is shown. -/
structure ErrorDetails where
  code : Option String := none
  message : Option String := none
  deriving DecidableEq

/-- The columns of a job that only the projection reads. -/
structure JobOutcome where
  completedAt : Option Timestamp := none
  errorDetails : Option ErrorDetails := none
  deriving DecidableEq

structure JobRecord extends AuthorizationSyncJob, JobOutcome where
  id : JobId
  deriving DecidableEq

structure StatusStore where
  base : Store
  outcomes : JobId → JobOutcome := fun _ => {}

abbrev StatusReader (α : Type) : Type := Faulty StatusStore Failure α

namespace StatusStore

def records (s : StatusStore) : List JobRecord :=
  s.base.db.jobs.zipIdx.map fun (job, id) =>
    { toAuthorizationSyncJob := job, toJobOutcome := s.outcomes id, id := id }

/-- The jobs of a source. -/
def jobsOf (s : StatusStore) (tenantCode : String) (source : SourceRef) : List JobRecord :=
  s.records.filter fun job => job.tenantCode = tenantCode && job.source = source

end StatusStore

/-- What a request runs with, and what an ORDER BY leaves open: which row comes first among
    those with the greatest columns.  A descending order is by the columns as they stand. -/
structure StatusContext extends Context where
  first : (JobRecord → List Nat) → List JobRecord → Option JobRecord
  first_some : ∀ {columns rows row}, first columns rows = some row →
    row ∈ rows ∧ ∀ other ∈ rows, ¬columns row < columns other
  first_none : ∀ {columns rows}, first columns rows = none → rows = []

-- ============================================================================
-- The answers
-- ============================================================================

inductive SyncComputedStatus where
  | PENDING
  | PROCESSING
  | COMPLETED
  | FAILED
  deriving DecidableEq

inductive NextExpectedSyncMethod where
  | MANUAL_IN_FLIGHT
  | SCHEDULED_DAILY
  | NONE
  deriving DecidableEq

structure JobProgressDto where
  processed : Nat
  total : Nat
  deriving DecidableEq

structure JobErrorDetailDto where
  code : String
  message : String
  deriving DecidableEq

structure ActiveJobDetailDto where
  jobId : JobId
  triggerType : SyncTriggerType
  progress : JobProgressDto
  error : Option JobErrorDetailDto
  retryable : Bool
  deriving DecidableEq

structure ComputedStatus where
  status : SyncComputedStatus
  nextExpectedSyncMethod : NextExpectedSyncMethod
  activeJob : Option ActiveJobDetailDto
  deriving DecidableEq

structure SyncStatusResponseDto extends ComputedStatus where
  source : SourceRef
  lastSuccessfulSyncAt : Option Timestamp
  affectedUserCount : Nat
  deriving DecidableEq

structure SyncStatusSummaryResponseDto where
  tenantCode : String
  totalEntities : Nat
  completed : Nat
  pending : Nat
  processing : Nat
  failed : Nat
  evaluatedAt : Timestamp
  deriving DecidableEq

-- ============================================================================
-- The service
-- ============================================================================

namespace AuthorizationSyncJobRepository

/-- `ORDER BY created_at DESC` -/
def latestJob (ctx : StatusContext) (s : StatusStore) (source : SourceRef) : Option JobRecord :=
  ctx.first (fun job => [job.createdAt]) (s.jobsOf ctx.tenantCode source)

/-- A descending order puts the rows without a value first. -/
def completionColumns (job : JobRecord) : List Nat :=
  [if job.completedAt.isNone then 1 else 0, job.completedAt.getD 0, job.createdAt]

/-- `ORDER BY completed_at DESC, created_at DESC` -/
def latestCompletedJob (ctx : StatusContext) (s : StatusStore) (source : SourceRef) :
    Option JobRecord :=
  ctx.first completionColumns
    ((s.jobsOf ctx.tenantCode source).filter fun job => job.status = .COMPLETED)

def findLatestJobBySource (ctx : StatusContext) (source : SourceRef) :
    StatusReader (Option JobRecord) :=
  .read fun s => latestJob ctx s source

def findLatestCompletedJobBySource (ctx : StatusContext) (source : SourceRef) :
    StatusReader (Option JobRecord) :=
  .read fun s => latestCompletedJob ctx s source

end AuthorizationSyncJobRepository

namespace SyncStatusProjectionService

open AuthorizationSyncJobRepository AuthorizationSyncService

def groupNotFound (tenantCode : String) (sourceId : Uuid) : Failure where
  name := "NotFoundException"
  message := "User Group with id " ++ sourceId.text ++ " not found in tenant " ++ tenantCode

def validateAndResolveEntityVersions (ctx : Context) (source : SourceRef) :
    Service SourceVersions :=
  match source.sourceType with
  | .USER_GROUP => do
    let group ← UserGroupRepository.findById ctx source.sourceId
    match group with
    | none => .throw (groupNotFound ctx.tenantCode source.sourceId)
    | some group => pure ⟨group.version, group.projectionVersion⟩
  | .ROLE => do
    let role ← RoleRepository.findById ctx source.sourceId
    match role with
    | none => .throw (recordNotFound source.sourceId)
    | some role => pure ⟨role.version, role.projectionVersion⟩

def inFlightMethod (job : JobRecord) : NextExpectedSyncMethod :=
  if job.triggerType = .MANUAL then .MANUAL_IN_FLIGHT else .SCHEDULED_DAILY

def activeJobDetail (job : JobRecord) (error : Option JobErrorDetailDto) (retryable : Bool) :
    ActiveJobDetailDto where
  jobId := job.id
  triggerType := job.triggerType
  progress := ⟨job.processedUsers, job.totalUsers.getD 0⟩
  error := error
  retryable := retryable

/-- `value || fallback` -/
def orDefault (value : Option String) (fallback : String) : String :=
  (value.filter (· ≠ "")).getD fallback

def errorDetail (job : JobRecord) : JobErrorDetailDto where
  code := orDefault (job.errorDetails.bind ErrorDetails.code) "SYNC_ERROR"
  message := orDefault (job.errorDetails.bind ErrorDetails.message) "Synchronization failed"

/-- The last two branches: no job decides. -/
def versionStatus (versions : SourceVersions) : ComputedStatus :=
  if versions.sourceVersion > versions.projectionVersion then ⟨.PENDING, .SCHEDULED_DAILY, none⟩
  else ⟨.COMPLETED, .NONE, none⟩

def computeStatus (versions : SourceVersions) (latestJob : Option JobRecord) : ComputedStatus :=
  match latestJob with
  | none => versionStatus versions
  | some job =>
    match job.status with
    | .PROCESSING => ⟨.PROCESSING, inFlightMethod job, some (activeJobDetail job none false)⟩
    | .PENDING => ⟨.PENDING, inFlightMethod job, some (activeJobDetail job none false)⟩
    | .FAILED =>
      if versions.sourceVersion > versions.projectionVersion then
        ⟨.FAILED, .SCHEDULED_DAILY, some (activeJobDetail job (some (errorDetail job)) true)⟩
      else versionStatus versions
    | .COMPLETED => versionStatus versions

/-- The tables of the other services. -/
def onTables {α : Type} (x : Service α) : StatusReader α :=
  .zoom StatusStore.base (fun s base => { s with base := base }) x

def getEntitySyncStatus (ctx : StatusContext) (source : SourceRef) :
    StatusReader SyncStatusResponseDto := do
  let versions ← onTables (validateAndResolveEntityVersions ctx.toContext source)
  let latestJob ← findLatestJobBySource ctx source
  let latestCompletedJob ← findLatestCompletedJobBySource ctx source
  pure {
    toComputedStatus := computeStatus versions latestJob
    source := source
    lastSuccessfulSyncAt := latestCompletedJob.bind fun job => job.completedAt
    affectedUserCount := ((latestCompletedJob.or latestJob).map fun job =>
      job.processedUsers).getD 0 }

/-- An entity of the summary. -/
structure Entity where
  source : SourceRef
  versions : SourceVersions

def groupEntity (g : UserGroup) : Entity :=
  ⟨⟨.USER_GROUP, g.id⟩, ⟨g.version, g.projectionVersion⟩⟩

def roleEntity (r : Role) : Entity := ⟨⟨.ROLE, r.id⟩, ⟨r.version, r.projectionVersion⟩⟩

structure Counters where
  completed : Nat := 0
  pending : Nat := 0
  processing : Nat := 0
  failed : Nat := 0

def Counters.count (c : Counters) : SyncComputedStatus → Counters
  | .COMPLETED => { c with completed := c.completed + 1 }
  | .PENDING => { c with pending := c.pending + 1 }
  | .PROCESSING => { c with processing := c.processing + 1 }
  | .FAILED => { c with failed := c.failed + 1 }

/-- The loop over the entities. -/
def countAll (ctx : StatusContext) : List Entity → Counters → StatusReader Counters
  | [], counters => pure counters
  | entity :: entities, counters => do
    let latestJob ← findLatestJobBySource ctx entity.source
    countAll ctx entities (counters.count (computeStatus entity.versions latestJob).status)

def tenantRoles (db : Database) (tenantCode : String) : List Role :=
  db.roles.rows.filter fun r => r.tenantCode = tenantCode

/-- A list that cannot be read counts as empty. -/
def getTenantSummary (ctx : StatusContext) : StatusReader SyncStatusSummaryResponseDto := do
  let userGroups ← .tryCatch (onTables (UserGroupRepository.findActiveGroups ctx.toContext))
    fun _ => pure []
  let roles ← .tryCatch (onTables (readDb fun db => tenantRoles db ctx.tenantCode))
    fun _ => pure []
  let entities := userGroups.map groupEntity ++ roles.map roleEntity
  let counters ← countAll ctx entities {}
  let evaluatedAt ← .modify fun s => (s.base.now, s)
  pure {
    tenantCode := ctx.tenantCode
    totalEntities := entities.length
    completed := counters.completed
    pending := counters.pending
    processing := counters.processing
    failed := counters.failed
    evaluatedAt := evaluatedAt }

end SyncStatusProjectionService

end AccessService.Authorization
