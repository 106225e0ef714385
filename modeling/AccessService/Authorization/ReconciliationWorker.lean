/-
  AccessService.Authorization.ReconciliationWorker

  `authorization-reconciliation-worker.service.ts`: under the tenant's lock a worker claims
  the next PENDING job and runs it.  The memberships of a group with a rule are reconciled
  with the employees it matches, the roles of the ACTIVE users are recomputed batch by
  batch, and a last transaction advances the source's projection version.  A job that
  throws is marked FAILED.
-/

import AccessService.Authorization.EffectiveRoleProjection
import AccessService.Authorization.RecomputeSweep
import AccessService.UserGroups.EmployeeAttributePropagation

namespace AccessService.Persistence.Database

open AccessService.Pg

def role (db : Database) (tenantCode : String) (id : Uuid) : Option Role :=
  db.roles.rows.find? fun r => r.tenantCode = tenantCode && r.id = id

def activeUsers (db : Database) (tenantCode : String) : List User :=
  db.users.rows.filter fun u => u.tenantCode = tenantCode && u.status = .ACTIVE

end AccessService.Persistence.Database

namespace AccessService.Authorization

open AccessService.Lib AccessService.Pg AccessService.Persistence AccessService.UserGroups

/-- The context of a worker, with what its queries leave open: which job comes next among
    those of one rank and age, and the order in which the page query at an offset sees the
    users. -/
structure WorkerContext extends Context where
  nextPending : JobTable → String → Option JobId
  pageOrder : Nat → List User → List User
  nextPending_some : ∀ {jobs tenantCode id}, nextPending jobs tenantCode = some id →
    jobs.isNextPending tenantCode id = true
  nextPending_none : ∀ {jobs tenantCode}, nextPending jobs tenantCode = none →
    jobs.hasPending tenantCode = false
  pageOrder_perm : ∀ skip users, (pageOrder skip users).Perm users

-- ============================================================================
-- The repositories
-- ============================================================================

namespace AuthorizationSyncJobRepository

/-- UPDATE by id. -/
def update (id : JobId) (f : Timestamp → AuthorizationSyncJob → AuthorizationSyncJob) :
    Service Unit :=
  .call fun s =>
    match s.db.jobs.update id (f s.now) with
    | some jobs => .ok ((), { s with db := { s.db with jobs := jobs } })
    | none => .error uniqueViolation

def updateProgress (id : JobId) (processedUsers : Nat) (totalUsers : Option Nat) : Service Unit :=
  update id fun now => AuthorizationSyncJob.progressed now processedUsers totalUsers

def markCompleted (id : JobId) (processedUsers : Nat) : Service Unit :=
  update id fun now => AuthorizationSyncJob.completed now processedUsers

def markFailed (id : JobId) : Service Unit := update id AuthorizationSyncJob.failed

/-- The job as it is returned carries the status and the start that were written. -/
def claimNextPendingJob (ctx : WorkerContext) (tenantCode : String) :
    Service (Option (JobId × AuthorizationSyncJob)) := do
  let pendingJob ← .read fun s =>
    (ctx.nextPending s.db.jobs tenantCode).bind fun id => (s.db.jobs[id]?).map fun job => (id, job)
  match pendingJob with
  | none => pure none
  | some (id, job) => do
    update id AuthorizationSyncJob.claimed
    let now ← .modify fun s => (s.now, s)
    pure (some (id, { job with status := .PROCESSING, startedAt := some now }))

end AuthorizationSyncJobRepository

namespace RoleRepository

def findById (ctx : Context) (id : Uuid) : Service (Option Role) :=
  readDb fun db => db.role ctx.tenantCode id

def withProjectionVersion (tenantCode : String) (id : Uuid) (projectionVersion : Nat)
    (r : Role) : Role :=
  if r.tenantCode = tenantCode ∧ r.id = id then { r with projectionVersion := projectionVersion }
  else r

theorem withProjectionVersion_id (tenantCode : String) (id : Uuid) (version : Nat) (r : Role) :
    (withProjectionVersion tenantCode id version r).id = r.id := by
  unfold withProjectionVersion
  split <;> rfl

def updateProjectionVersion (tenantCode : String) (id : Uuid) (projectionVersion : Nat) :
    Service Unit :=
  writeDb fun db => { db with
    roles := db.roles.update (withProjectionVersion tenantCode id projectionVersion)
      (withProjectionVersion_id tenantCode id projectionVersion) }

end RoleRepository

namespace UserRepository

def countActive (ctx : Context) : Service Nat :=
  readDb fun db => (db.activeUsers ctx.tenantCode).length

def findBatchWithEmployee (ctx : WorkerContext) (skip take : Nat) : Service (List User) :=
  readDb fun db =>
    Authorization.findBatchWithEmployee (ctx.pageOrder skip (db.activeUsers ctx.tenantCode)) skip
      take

end UserRepository

-- ============================================================================
-- The worker
-- ============================================================================

namespace AuthorizationReconciliationWorker

open AuthorizationSyncJobRepository

def acquireLock (ctx : Context) (lockId : String) : Service Bool :=
  .modify fun s =>
    let (locks, acquired) := DistributedLockAdapter.acquireLock s.locks ctx.session lockId
    (acquired, { s with locks := locks })

def releaseLock (ctx : Context) (lockId : String) : Service Unit :=
  .modify fun s =>
    ((), { s with locks := (DistributedLockAdapter.releaseLock s.locks ctx.session lockId).1 })

/-- `executeJob`, part 2: the memberships of a group with a rule. -/
def reconcileMemberships (ctx : WorkerContext) (job : AuthorizationSyncJob) : Service Unit :=
  match job.source.sourceType with
  | .ROLE => pure ()
  | .USER_GROUP => do
    let group ← UserGroupRepository.findById ctx.toContext job.source.sourceId
    match group.bind UserGroup.matchingRule with
    | none => pure ()
    | some rule => do
      let matchedEmployeeIds ← EmployeeReferenceRepository.getMatchedEmployeeIds ctx.toContext
        (UserGroupMatchingEngine.buildMatchingQuery job.tenantCode rule)
      let _ ← MembershipReconciler.reconcileGroupPopulation ctx.toContext job.source.sourceId
        matchedEmployeeIds job.sourceVersion
      pure ()

/-- `executeJob` up to the batch loop; returns the number of ACTIVE users. -/
def prepareJob (ctx : WorkerContext) (id : JobId) (job : AuthorizationSyncJob) : Service Nat := do
  let totalUsers ← UserRepository.countActive ctx.toContext
  updateProgress id 0 (some totalUsers)
  reconcileMemberships ctx job
  pure totalUsers

def recomputeUser (ctx : WorkerContext) (job : AuthorizationSyncJob) (user : User) :
    Service Unit := do
  let _ ← EffectiveRoleProjectionService.recomputeUserEffectiveRoles ctx.toContext job.tenantCode
    user.id
  pure ()

/-- `executeJob`, part 3: the rounds of the batch loop, at most as many as the fuel;
    returns the number of processed users. -/
def processBatches (ctx : WorkerContext) (id : JobId) (job : AuthorizationSyncJob)
    (totalUsers : Nat) : Nat → Nat → Service Nat
  | 0, processed => pure processed
  | fuel + 1, processed =>
    if processed < totalUsers then do
      let users ← UserRepository.findBatchWithEmployee ctx processed batchSize
      if users.length = 0 then pure processed
      else do
        .forEach (recomputeUser ctx job) users
        updateProgress id (processed + users.length) (some totalUsers)
        processBatches ctx id job totalUsers fuel (processed + users.length)
    else pure processed

/-- The failure of a role's update is dropped. -/
def advanceProjection (ctx : WorkerContext) (job : AuthorizationSyncJob) : Service Unit :=
  match job.source.sourceType with
  | .USER_GROUP =>
    UserGroupRepository.updateProjectionVersion ctx.toContext job.source.sourceId job.sourceVersion
  | .ROLE =>
    .tryCatch (RoleRepository.updateProjectionVersion job.tenantCode job.source.sourceId
      job.sourceVersion) fun _ => pure ()

/-- `executeJob`, part 4. -/
def finalizeJob (ctx : WorkerContext) (id : JobId) (job : AuthorizationSyncJob)
    (processed : Nat) : Service Unit :=
  runInTransaction do
    advanceProjection ctx job
    markCompleted id processed
    OutboxEventRepository.create (.sync (.ofJob .AUTHORIZATION_SYNC_COMPLETED id job))

/-- Each round but the last processes a user, so the total is fuel enough. -/
def executeJob (ctx : WorkerContext) (id : JobId) (job : AuthorizationSyncJob) : Service Unit := do
  let totalUsers ← prepareJob ctx id job
  let processed ← processBatches ctx id job totalUsers totalUsers 0
  finalizeJob ctx id job processed

def handleJobFailure (id : JobId) (job : AuthorizationSyncJob) : Service Unit :=
  runInTransaction do
    markFailed id
    OutboxEventRepository.create (.sync (.ofJob .AUTHORIZATION_SYNC_FAILED id job))

/-- `processNextJob` under the lock. -/
def processClaimedJob (ctx : WorkerContext) (tenantCode : String) : Service Bool := do
  let claimed ← claimNextPendingJob ctx tenantCode
  match claimed with
  | none => pure false
  | some (id, job) => do
    .tryCatch (executeJob ctx id job) fun _ => handleJobFailure id job
    pure true

def processNextJob (ctx : WorkerContext) (tenantCode : String) : Service Bool := do
  let acquired ← acquireLock ctx.toContext (workerLockId tenantCode)
  if acquired then
    .tryFinally (processClaimedJob ctx tenantCode)
      (releaseLock ctx.toContext (workerLockId tenantCode))
  else pure false

-- ============================================================================
-- The membership reconciliation
-- ============================================================================

theorem update_leaves (id : JobId) (f : Timestamp → AuthorizationSyncJob → AuthorizationSyncJob) :
    Faulty.Leaves Store.basis (AuthorizationSyncJobRepository.update id f) := by
  refine Faulty.leaves_call fun s a s' hf => ?_
  split at hf
  · obtain ⟨-, rfl⟩ := Prod.mk.inj (Except.ok.inj hf)
    rfl
  · cases hf

theorem group_of_basis {s s' : Store} (h : s'.basis = s.basis) : s'.db.group = s.db.group := by
  have hgroups : s'.db.groups = s.db.groups := congrArg (fun basis => basis.2.2.1) h
  funext tenantCode id
  rw [Database.group, hgroups]
  rfl

/-- The job is about a group with a rule. -/
def ReconcilesGroup (db : Database) (tenantCode : String) (job : AuthorizationSyncJob) : Prop :=
  job.source.sourceType = .USER_GROUP ∧
    ∃ g rule, db.group tenantCode job.source.sourceId = some g ∧ g.matchingRule = some rule

/-- A group with a rule gets the employees its query selects, any other source nothing. -/
theorem reconcileMemberships_ok {ctx : WorkerContext} {job : AuthorizationSyncJob}
    {w w' : World Store Failure} {u : Unit} (h : reconcileMemberships ctx job w = (.ok u, w')) :
    (¬ReconcilesGroup w.state.db ctx.tenantCode job ∧ w'.state = w.state) ∨
    ∃ g rule w₁ result, job.source.sourceType = .USER_GROUP ∧
      w.state.db.group ctx.tenantCode job.source.sourceId = some g ∧ g.matchingRule = some rule ∧
      w₁.state = w.state ∧
      MembershipReconciler.reconcileGroupPopulation ctx.toContext job.source.sourceId
        (w.state.db.matchedEmployeeIds ctx.columns
          (UserGroupMatchingEngine.buildMatchingQuery job.tenantCode rule)) job.sourceVersion w₁ =
        (.ok result, w') := by
  cases htype : job.source.sourceType with
  | ROLE =>
    simp only [reconcileMemberships, htype] at h
    obtain ⟨-, rfl⟩ := Faulty.pure_ok.mp h
    refine .inl ⟨fun hreconciles => ?_, rfl⟩
    rw [hreconciles.1] at htype
    cases htype
  | USER_GROUP =>
    simp only [reconcileMemberships, htype] at h
    obtain ⟨group, w₁, hfind, hrest⟩ := Faulty.bind_ok.mp h
    obtain ⟨hgroup, hstate₁⟩ := (reads_readDb _).ok hfind
    rcases hbound : group.bind UserGroup.matchingRule with _ | rule
    · simp only [hbound] at hrest
      obtain ⟨-, rfl⟩ := Faulty.pure_ok.mp hrest
      refine .inl ⟨?_, hstate₁⟩
      rintro ⟨-, g, rule, hg, hrule⟩
      rw [hgroup, hg, Option.bind_some, hrule] at hbound
      cases hbound
    · simp only [hbound] at hrest
      obtain ⟨g, rfl, hrule⟩ := Option.bind_eq_some_iff.mp hbound
      simp only [Faulty.bind_ok, Faulty.pure_ok] at hrest
      obtain ⟨matched, w₂, hmatch, result, w₃, hreconcile, -, rfl⟩ := hrest
      obtain ⟨rfl, hstate₂⟩ :=
        (EmployeeReferenceRepository.reads_getMatchedEmployeeIds ctx.toContext _).ok hmatch
      rw [hstate₁] at hstate₂ hreconcile
      exact .inr ⟨g, rule, w₂, result, rfl, hgroup.symm, hrule, hstate₂, hreconcile⟩

/-- So does a job before its batch loop. -/
theorem prepareJob_cases {ctx : WorkerContext} {id : JobId} {job : AuthorizationSyncJob}
    {w w' : World Store Failure} {total : Nat} (h : prepareJob ctx id job w = (.ok total, w')) :
    (¬ReconcilesGroup w.state.db ctx.tenantCode job ∧ w'.state.basis = w.state.basis) ∨
    ∃ g rule w₁ result, job.source.sourceType = .USER_GROUP ∧
      w.state.db.group ctx.tenantCode job.source.sourceId = some g ∧ g.matchingRule = some rule ∧
      w₁.state.basis = w.state.basis ∧
      MembershipReconciler.reconcileGroupPopulation ctx.toContext job.source.sourceId
        (w.state.db.matchedEmployeeIds ctx.columns
          (UserGroupMatchingEngine.buildMatchingQuery job.tenantCode rule)) job.sourceVersion w₁ =
        (.ok result, w') := by
  simp only [prepareJob, Faulty.bind_ok, Faulty.pure_ok] at h
  obtain ⟨n, w₁, hcount, u, w₂, hprogress, v, w₃, hreconcile, -, rfl⟩ := h
  have hstate₁ := ((reads_readDb _).ok hcount).2
  have hbasis := (update_leaves id _).ok hprogress
  rw [hstate₁] at hbasis
  have hgroup : w₂.state.db.group = w.state.db.group := group_of_basis hbasis
  have hmatched : w₂.state.db.matchedEmployeeIds = w.state.db.matchedEmployeeIds := by
    have hemployees : w₂.state.db.employees = w.state.db.employees :=
      congrArg (fun basis => basis.2.1) hbasis
    funext types query
    rw [Database.matchedEmployeeIds, hemployees]
    rfl
  rcases reconcileMemberships_ok hreconcile with
    ⟨hnot, hstate⟩ | ⟨g, rule, w₄, result, htype, hg, hrule, hstate, hpopulation⟩
  · rw [ReconcilesGroup, hgroup] at hnot
    exact .inl ⟨hnot, hstate ▸ hbasis⟩
  · rw [hgroup] at hg
    rw [hmatched] at hpopulation
    exact .inr ⟨g, rule, w₄, result, htype, hg, hrule, hstate ▸ hbasis, hpopulation⟩

-- ============================================================================
-- The batch loop
-- ============================================================================

section Batches

variable {ctx : WorkerContext} {id : JobId} {job : AuthorizationSyncJob} {total : Nat}

/-- The loop ends before the fuel does: with more of it nothing else happens. -/
theorem processBatches_fuel {fuel processed : Nat} (more : Nat) (h : total ≤ processed + fuel) :
    processBatches ctx id job total (fuel + more) processed =
      processBatches ctx id job total fuel processed := by
  induction fuel generalizing processed with
  | zero =>
    cases more with
    | zero => rfl
    | succ more =>
      rw [Nat.zero_add, processBatches, processBatches, if_neg (show ¬processed < total by omega)]
  | succ fuel ih =>
    rw [Nat.succ_add, processBatches, processBatches]
    split
    · congr 1
      funext users
      split
      · rfl
      next hsome =>
        have hpos := Nat.pos_of_ne_zero hsome
        simp only [ih (show total ≤ processed + users.length + fuel by omega)]
    · rfl

/-- The loop leaves the tables it recomputes the roles from as they are. -/
theorem processBatches_leaves (ctx : WorkerContext) (id : JobId) (job : AuthorizationSyncJob)
    (total fuel processed : Nat) :
    Faulty.Leaves Store.basis (processBatches ctx id job total fuel processed) := by
  induction fuel generalizing processed with
  | zero => exact Faulty.leaves_pure _
  | succ fuel ih =>
    rw [processBatches]
    split
    · refine (leaves_readDb _).bind fun users => ?_
      split
      · exact Faulty.leaves_pure _
      · have hbody : ∀ user, Faulty.Leaves Store.basis (recomputeUser ctx job user) := fun user =>
          (EffectiveRoleProjectionService.recompute_leaves ctx.toContext job.tenantCode
            user.id).bind fun _ => Faulty.leaves_pure ()
        exact (Faulty.leaves_forEach hbody users).bind fun _ =>
          (update_leaves id _).bind fun _ => ih _
    · exact Faulty.leaves_pure _

end Batches

end AuthorizationReconciliationWorker

-- ============================================================================
-- A worker of the sample's tenant
-- ============================================================================

/-- The first row in the table's order. -/
def firstPending (jobs : JobTable) (tenantCode : String) : Option JobId :=
  (List.range jobs.length).find? fun id => jobs.isNextPending tenantCode id

theorem firstPending_none {jobs : JobTable} {tenantCode : String}
    (h : firstPending jobs tenantCode = none) : jobs.hasPending tenantCode = false := by
  refine eq_false_of_ne_true fun hpending => ?_
  obtain ⟨id, hnext⟩ := JobTable.exists_nextPending hpending
  obtain ⟨job, hjob, -⟩ := JobTable.isNextPending_job hnext
  have hid : id ∈ List.range jobs.length :=
    List.mem_range.mpr (List.getElem?_eq_some_iff.mp hjob).1
  exact List.find?_eq_none.mp h id hid hnext

def acmeWorker : WorkerContext where
  toContext := acme
  nextPending := firstPending
  pageOrder _ users := users
  nextPending_some h := List.find?_some h
  nextPending_none := firstPending_none
  pageOrder_perm _ _ := .refl _

end AccessService.Authorization
