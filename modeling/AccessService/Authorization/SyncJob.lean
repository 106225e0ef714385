/-
  AccessService.Authorization.SyncJob

  The table of synchronization jobs (`authorization-sync-job.entity.ts`) and
  the writes of its repository.  A row's id is its position.  Every write goes
  through the partial unique index `uq_authz_sync_jobs_in_flight`: a write that
  would put two jobs of one tenant, source and version in flight fails.
-/

import AccessService.Lib.Rows
import AccessService.Pg.Types
import Mathlib.Data.List.MinMax
import Mathlib.Data.Prod.Lex

namespace AccessService.Authorization

open AccessService.Pg AccessService.Lib.Rows

inductive SyncSourceType where
  | USER_GROUP
  | ROLE
  deriving DecidableEq

inductive SyncTriggerType where
  | MANUAL
  | SCHEDULED
  | SYSTEM
  deriving DecidableEq

inductive SyncJobPriority where
  | URGENT
  | STANDARD
  deriving DecidableEq

inductive SyncJobStatus where
  | PENDING
  | PROCESSING
  | COMPLETED
  | FAILED
  deriving DecidableEq

/-- The predicate of the partial unique index. -/
def SyncJobStatus.inFlight : SyncJobStatus → Bool
  | .PENDING | .PROCESSING => true
  | .COMPLETED | .FAILED => false

/-- COMPLETED or FAILED. -/
def SyncJobStatus.terminal (status : SyncJobStatus) : Bool := !status.inFlight

/-- What a job synchronizes: a user group or a role. -/
structure SourceRef where
  sourceType : SyncSourceType
  sourceId : Uuid
  deriving DecidableEq

/-- Milliseconds on the clock that the database and the service share. -/
abbrev Timestamp := Nat

structure AuthorizationSyncJob where
  tenantCode : String
  source : SourceRef
  sourceVersion : Nat
  triggerType : SyncTriggerType
  priority : SyncJobPriority
  status : SyncJobStatus := .PENDING
  totalUsers : Option Nat := none
  processedUsers : Nat := 0
  retryCount : Nat := 0
  startedAt : Option Timestamp := none
  createdBy : Option String
  createdAt : Timestamp
  updatedAt : Timestamp
  deriving DecidableEq

namespace AuthorizationSyncJob

/-- The columns of the unique index. -/
def key (job : AuthorizationSyncJob) : String × SourceRef × Nat :=
  (job.tenantCode, job.source, job.sourceVersion)

def pendingFor (tenantCode : String) (job : AuthorizationSyncJob) : Bool :=
  job.tenantCode = tenantCode && job.status = .PENDING

/-- `CASE job.priority WHEN 'URGENT' THEN 1 ELSE 2 END`. -/
def rank (job : AuthorizationSyncJob) : Nat :=
  match job.priority with
  | .URGENT => 1
  | .STANDARD => 2

/-- The claim order: by rank, then by creation. -/
def before (a b : AuthorizationSyncJob) : Bool :=
  a.rank < b.rank || (a.rank = b.rank && a.createdAt < b.createdAt)

end AuthorizationSyncJob

abbrev JobId := Nat

abbrev JobTable := List AuthorizationSyncJob

namespace JobTable

-- ============================================================================
-- The unique index
-- ============================================================================

/-- Another row than `id` is in flight with the key of `job`, which is in
    flight too. -/
def conflicts (jobs : JobTable) (id : JobId) (job : AuthorizationSyncJob) : Bool :=
  job.status.inFlight && jobs.zipIdx.any fun (other, i) =>
    i ≠ id && other.status.inFlight && other.key = job.key

/-- INSERT; `none` is a violation of the unique index. -/
def insert (jobs : JobTable) (job : AuthorizationSyncJob) : Option JobTable :=
  if conflicts jobs jobs.length job then none else some (jobs ++ [job])

/-- UPDATE by id, whatever the row holds; `none` is a violation of the unique
    index, and a missing row is no error. -/
def update (jobs : JobTable) (id : JobId) (f : AuthorizationSyncJob → AuthorizationSyncJob) :
    Option JobTable :=
  match jobs[id]? with
  | none => some jobs
  | some job => if conflicts jobs id (f job) then none else some (jobs.set id (f job))

/-- At most one job in flight for each tenant, source and version. -/
def InFlightUnique (jobs : JobTable) : Prop :=
  ∀ (i j : JobId) (a b : AuthorizationSyncJob), jobs[i]? = some a → jobs[j]? = some b →
    a.status.inFlight = true → b.status.inFlight = true → a.key = b.key → i = j

theorem conflicts_eq_false {jobs : JobTable} {id : JobId} {job : AuthorizationSyncJob} :
    conflicts jobs id job = false ↔
      (job.status.inFlight = true → ∀ i other, jobs[i]? = some other → i ≠ id →
        other.status.inFlight = true → other.key ≠ job.key) := by
  cases hjob : job.status.inFlight with
  | false => simp [conflicts, hjob]
  | true =>
    simp only [conflicts, hjob, Bool.true_and, List.any_eq_false, Bool.and_eq_true,
      decide_eq_true_eq, not_and, forall_const, Prod.forall, List.mem_zipIdx_iff_getElem?]
    constructor
    · exact fun h i other hi hne hfl => h other i hi ⟨hne, hfl⟩
    · exact fun h other i hi hand => h i other hi hand.1 hand.2

theorem insert_eq_some {jobs jobs' : JobTable} {job : AuthorizationSyncJob}
    (h : insert jobs job = some jobs') :
    jobs' = jobs ++ [job] ∧ conflicts jobs jobs.length job = false := by
  unfold insert at h
  split at h
  · cases h
  next hc => exact ⟨(Option.some.inj h).symm, eq_false_of_ne_true hc⟩

theorem update_eq_some {jobs jobs' : JobTable} {id : JobId}
    {f : AuthorizationSyncJob → AuthorizationSyncJob} {job : AuthorizationSyncJob}
    (hjob : jobs[id]? = some job) (h : update jobs id f = some jobs') :
    jobs' = jobs.set id (f job) ∧ conflicts jobs id (f job) = false := by
  simp only [update, hjob] at h
  split at h
  · cases h
  next hc => exact ⟨(Option.some.inj h).symm, eq_false_of_ne_true hc⟩

/-- The index is violated by a job in flight with the same key. -/
theorem winner_of_conflict {jobs : JobTable} {job : AuthorizationSyncJob}
    (h : insert jobs job = none) :
    ∃ (id : JobId) (winner : AuthorizationSyncJob), jobs[id]? = some winner ∧
      winner.status.inFlight = true ∧ winner.key = job.key := by
  by_contra hno
  have hfree : conflicts jobs jobs.length job = false := by
    refine conflicts_eq_false.mpr fun _ i other hi _ hflight hkey => ?_
    exact hno ⟨i, other, hi, hflight, hkey⟩
  rw [insert, hfree] at h
  cases h

/-- A new job does not collide with the jobs in flight. -/
theorem insert_unique {jobs jobs' : JobTable} {job : AuthorizationSyncJob}
    (h : insert jobs job = some jobs') (hu : InFlightUnique jobs) : InFlightUnique jobs' := by
  obtain ⟨rfl, hc⟩ := insert_eq_some h
  have hnone := conflicts_eq_false.mp hc
  intro i j a b hi hj ha hb hkey
  rcases getElem?_concat.mp hi with hi' | ⟨rfl, rfl⟩ <;>
    rcases getElem?_concat.mp hj with hj' | ⟨rfl, rfl⟩
  · exact hu i j a b hi' hj' ha hb hkey
  · exact absurd hkey (hnone hb i a hi' (List.getElem?_eq_some_iff.mp hi').1.ne ha)
  · exact absurd hkey.symm (hnone ha j b hj' (List.getElem?_eq_some_iff.mp hj').1.ne hb)
  · rfl

/-- An overwritten job does not collide with the other jobs in flight. -/
theorem update_unique {jobs jobs' : JobTable} {id : JobId}
    {f : AuthorizationSyncJob → AuthorizationSyncJob}
    (h : update jobs id f = some jobs') (hu : InFlightUnique jobs) : InFlightUnique jobs' := by
  cases hjob : jobs[id]? with
  | none =>
    simp only [update, hjob] at h
    exact Option.some.inj h ▸ hu
  | some job =>
    obtain ⟨rfl, hc⟩ := update_eq_some hjob h
    have hnone := conflicts_eq_false.mp hc
    intro i j a b hi hj ha hb hkey
    rcases (getElem?_set_row hjob).mp hi with ⟨rfl, rfl⟩ | ⟨hine, hi'⟩ <;>
      rcases (getElem?_set_row hjob).mp hj with ⟨rfl, rfl⟩ | ⟨hjne, hj'⟩
    · rfl
    · exact absurd hkey.symm (hnone ha j b hj' hjne hb)
    · exact absurd hkey (hnone hb i a hi' hine ha)
    · exact hu i j a b hi' hj' ha hb hkey

/-- What an update leaves of row `id`, when there is one. -/
theorem update_row {jobs jobs' : JobTable} {id : JobId}
    {f : AuthorizationSyncJob → AuthorizationSyncJob} {job : AuthorizationSyncJob}
    (hjob : jobs[id]? = some job) (h : update jobs id f = some jobs') :
    jobs'[id]? = some (f job) := by
  obtain ⟨rfl, -⟩ := update_eq_some hjob h
  exact getElem?_set_self hjob

/-- An update leaves the other rows alone. -/
theorem update_other {jobs jobs' : JobTable} {id i : JobId}
    {f : AuthorizationSyncJob → AuthorizationSyncJob} (h : update jobs id f = some jobs')
    (hne : i ≠ id) : jobs'[i]? = jobs[i]? := by
  cases hjob : jobs[id]? with
  | none =>
    simp only [update, hjob] at h
    rw [← Option.some.inj h]
  | some job =>
    obtain ⟨rfl, -⟩ := update_eq_some hjob h
    exact getElem?_set_ne hne

theorem update_length {jobs jobs' : JobTable} {id : JobId}
    {f : AuthorizationSyncJob → AuthorizationSyncJob} (h : update jobs id f = some jobs') :
    jobs'.length = jobs.length := by
  cases hjob : jobs[id]? with
  | none =>
    simp only [update, hjob] at h
    rw [← Option.some.inj h]
  | some job =>
    obtain ⟨rfl, -⟩ := update_eq_some hjob h
    exact List.length_set

-- ============================================================================
-- The queries and writes of the repository
-- ============================================================================

def findInFlightJob (jobs : JobTable) (tenantCode : String) (source : SourceRef)
    (sourceVersion : Nat) : Option JobId :=
  jobs.findIdx? fun job => job.status.inFlight && job.key = (tenantCode, source, sourceVersion)

/-- The select of `claimNextPendingJob` may return this row: it is PENDING and
    no PENDING job of the tenant comes before it. -/
def isNextPending (jobs : JobTable) (tenantCode : String) (id : JobId) : Bool :=
  match jobs[id]? with
  | none => false
  | some job =>
    job.pendingFor tenantCode &&
      jobs.all fun other => !(other.pendingFor tenantCode && other.before job)

theorem isNextPending_job {jobs : JobTable} {tenantCode : String} {id : JobId}
    (h : jobs.isNextPending tenantCode id = true) :
    ∃ job : AuthorizationSyncJob, jobs[id]? = some job ∧ job.pendingFor tenantCode = true ∧
      ∀ other ∈ jobs, other.pendingFor tenantCode = true → other.before job = false := by
  unfold isNextPending at h
  split at h
  · cases h
  next job hjob =>
    rw [Bool.and_eq_true, List.all_eq_true] at h
    refine ⟨job, hjob, h.1, fun other hother hpending => ?_⟩
    simpa [hpending] using h.2 other hother

def hasPending (jobs : JobTable) (tenantCode : String) : Bool :=
  jobs.any (AuthorizationSyncJob.pendingFor tenantCode)

/-- Of the PENDING jobs of a tenant one comes first. -/
theorem exists_nextPending {jobs : JobTable} {tenantCode : String}
    (h : jobs.hasPending tenantCode = true) : ∃ id, jobs.isNextPending tenantCode id = true := by
  have hbefore : ∀ a b : AuthorizationSyncJob, a.before b = true ↔
      toLex (a.rank, a.createdAt) < toLex (b.rank, b.createdAt) := by
    intro a b
    simp only [AuthorizationSyncJob.before, Prod.Lex.toLex_lt_toLex, Bool.or_eq_true,
      Bool.and_eq_true, decide_eq_true_eq]
  obtain ⟨job, hmem, hpending⟩ := List.any_eq_true.mp h
  rcases hfirst : (jobs.filter fun job => job.pendingFor tenantCode).argmin
    (fun job => toLex (job.rank, job.createdAt)) with _ | first
  · rw [List.argmin_eq_none] at hfirst
    exact absurd (hfirst ▸ List.mem_filter.mpr ⟨hmem, hpending⟩) List.not_mem_nil
  · obtain ⟨hfound, hmine⟩ := List.mem_filter.mp (List.argmin_mem hfirst)
    obtain ⟨id, hid⟩ := List.getElem?_of_mem hfound
    refine ⟨id, ?_⟩
    rw [isNextPending, hid]
    simp only [Bool.and_eq_true, List.all_eq_true, Bool.not_eq_true', Bool.and_eq_false_iff]
    refine ⟨hmine, fun other hother => ?_⟩
    cases hpending' : other.pendingFor tenantCode with
    | false => exact .inl rfl
    | true =>
      refine .inr (eq_false_of_ne_true fun hless => ?_)
      exact List.not_lt_of_mem_argmin (List.mem_filter.mpr ⟨hother, hpending'⟩) hfirst
        ((hbefore _ _).mp hless)

end JobTable

namespace AuthorizationSyncJob

/-- The update of `claimNextPendingJob`. -/
def claimed (now : Timestamp) (job : AuthorizationSyncJob) : AuthorizationSyncJob :=
  { job with status := .PROCESSING, startedAt := some now, updatedAt := now }

/-- `updateProgress`. -/
def progressed (now : Timestamp) (processedUsers : Nat) (totalUsers : Option Nat)
    (job : AuthorizationSyncJob) : AuthorizationSyncJob :=
  { job with
    processedUsers := processedUsers
    totalUsers := totalUsers.orElse fun _ => job.totalUsers
    updatedAt := now }

/-- `markCompleted`. -/
def completed (now : Timestamp) (processedUsers : Nat) (job : AuthorizationSyncJob) :
    AuthorizationSyncJob :=
  { job with status := .COMPLETED, processedUsers := processedUsers, updatedAt := now }

/-- `markFailed`. -/
def failed (now : Timestamp) (job : AuthorizationSyncJob) : AuthorizationSyncJob :=
  { job with status := .FAILED, updatedAt := now }

/-- `reclaimStuckJob`. -/
def reclaimed (now : Timestamp) (nextRetryCount : Nat) (job : AuthorizationSyncJob) :
    AuthorizationSyncJob :=
  { job with
    status := .PENDING, retryCount := nextRetryCount, startedAt := none, updatedAt := now }

section Writes

variable (now : Timestamp) (n : Nat) (total : Option Nat) (job : AuthorizationSyncJob)

@[simp] theorem claimed_key : (job.claimed now).key = job.key := rfl
@[simp] theorem claimed_status : (job.claimed now).status = .PROCESSING := rfl
@[simp] theorem progressed_key : (job.progressed now n total).key = job.key := rfl
@[simp] theorem progressed_status : (job.progressed now n total).status = job.status := rfl
@[simp] theorem completed_key : (job.completed now n).key = job.key := rfl
@[simp] theorem completed_status : (job.completed now n).status = .COMPLETED := rfl
@[simp] theorem failed_key : (job.failed now).key = job.key := rfl
@[simp] theorem failed_status : (job.failed now).status = .FAILED := rfl
@[simp] theorem reclaimed_key : (job.reclaimed now n).key = job.key := rfl
@[simp] theorem reclaimed_status : (job.reclaimed now n).status = .PENDING := rfl

end Writes

end AuthorizationSyncJob

namespace JobTable

def statusOf (jobs : JobTable) (id : JobId) : Option SyncJobStatus :=
  (jobs[id]?).map AuthorizationSyncJob.status

/-- Writing a status to row `id`. -/
theorem statusOf_update {jobs jobs' : JobTable} {id : JobId}
    {f : AuthorizationSyncJob → AuthorizationSyncJob} {job : AuthorizationSyncJob}
    (hjob : jobs[id]? = some job) (h : update jobs id f = some jobs') (i : JobId) :
    statusOf jobs' i = if i = id then some (f job).status else statusOf jobs i := by
  split
  next hi =>
    rw [hi, statusOf, update_row hjob h]
    rfl
  next hi => rw [statusOf, update_other h hi, statusOf]

/-- A write that keeps every status. -/
theorem statusOf_update_same {jobs jobs' : JobTable} {id : JobId}
    {f : AuthorizationSyncJob → AuthorizationSyncJob}
    (h : update jobs id f = some jobs')
    (hf : ∀ job : AuthorizationSyncJob, (f job).status = job.status) :
    statusOf jobs' = statusOf jobs := by
  funext i
  cases hjob : jobs[id]? with
  | none =>
    simp only [update, hjob] at h
    rw [← Option.some.inj h]
  | some job =>
    rw [statusOf_update hjob h, hf]
    split
    next hi => rw [hi, statusOf, hjob]; rfl
    · rfl

theorem statusOf_insert {jobs jobs' : JobTable} {job : AuthorizationSyncJob}
    (h : insert jobs job = some jobs') (i : JobId) :
    statusOf jobs' i = if i = jobs.length then some job.status else statusOf jobs i := by
  obtain ⟨rfl, -⟩ := insert_eq_some h
  split
  next hi => rw [hi, statusOf, List.getElem?_concat_length]; rfl
  next hi =>
    unfold statusOf
    rcases Nat.lt_or_ge i jobs.length with hlt | hge
    · rw [List.getElem?_append_left hlt]
    · have hgt : jobs.length < i := Nat.lt_of_le_of_ne hge fun heq => hi heq.symm
      rw [List.getElem?_eq_none hge, List.getElem?_eq_none]
      rw [List.length_append]
      exact hgt

theorem findInFlightJob_eq_some {jobs : JobTable} {tenantCode : String} {source : SourceRef}
    {sourceVersion : Nat} {id : JobId}
    (h : findInFlightJob jobs tenantCode source sourceVersion = some id) :
    ∃ job : AuthorizationSyncJob, jobs[id]? = some job ∧ job.status.inFlight = true ∧
      job.key = (tenantCode, source, sourceVersion) := by
  obtain ⟨hlt, hprop, -⟩ := List.findIdx?_eq_some_iff_getElem.mp h
  simp only [Bool.and_eq_true, decide_eq_true_eq] at hprop
  exact ⟨jobs[id], List.getElem?_eq_getElem hlt, hprop.1, hprop.2⟩

theorem findInFlightJob_eq_none {jobs : JobTable} {tenantCode : String} {source : SourceRef}
    {sourceVersion : Nat} (h : findInFlightJob jobs tenantCode source sourceVersion = none)
    {id : JobId} {job : AuthorizationSyncJob} (hjob : jobs[id]? = some job)
    (hkey : job.key = (tenantCode, source, sourceVersion)) : job.status.inFlight = false := by
  have hall := List.findIdx?_eq_none_iff.mp h job (mem_of_row hjob)
  simpa [hkey] using hall

end JobTable

-- ============================================================================
-- The events about jobs
-- ============================================================================

inductive SyncEventType where
  | AUTHORIZATION_SYNC_REQUESTED
  | AUTHORIZATION_SYNC_COMPLETED
  | AUTHORIZATION_SYNC_FAILED
  deriving DecidableEq

/-- An outbox row of the queue. -/
structure SyncEvent where
  type : SyncEventType
  jobId : JobId
  tenantCode : String
  source : SourceRef
  sourceVersion : Nat
  triggerType : SyncTriggerType
  initiatedBy : Option String
  deriving DecidableEq

abbrev EventId := Nat

/-- The event about a job. -/
def SyncEvent.ofJob (type : SyncEventType) (id : JobId) (job : AuthorizationSyncJob) : SyncEvent where
  type := type
  jobId := id
  tenantCode := job.tenantCode
  source := job.source
  sourceVersion := job.sourceVersion
  triggerType := job.triggerType
  initiatedBy := job.createdBy

end AccessService.Authorization
