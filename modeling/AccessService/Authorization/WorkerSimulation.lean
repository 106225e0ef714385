/-
  AccessService.Authorization.WorkerSimulation

  A run of `processNextJob`, whatever call of it fails, is a run of one worker of the
  synchronization queue: each query and transaction is followed by the worker's step for it,
  up to its return.  The one exception is a job of a role that completes although the update
  of the role's projection version has failed, which the worker does not notice.
-/

import AccessService.Authorization.QueueMirror

namespace AccessService.Authorization

open AccessService.Lib AccessService.Lib.Transition AccessService.Pg AccessService.Persistence
open AccessService.UserGroups
open SyncQueue (WorkerAction)

-- ============================================================================
-- Where the worker stands
-- ============================================================================

/-- The worker of the queue that follows a run, and what stays as it is meanwhile. -/
structure Handling where
  index : Nat
  event : EventId
  tenantCode : String
  session : Session
  inFlight : List EventId

def Handling.worker (h : Handling) (phase : WorkerPhase) : Worker where
  event := h.event
  tenantCode := h.tenantCode
  phase := phase

structure At (h : Handling) (phase : WorkerPhase) (s : Store) (queue : SyncQueue) : Prop where
  mirrors : Mirrors s queue
  inFlight : queue.inFlight = h.inFlight
  worker : queue.workers[h.index]? = some (h.worker phase)

/-- The worker has the job, whose row has been written by nobody else. -/
structure Busy (h : Handling) (phase : WorkerPhase) (id : JobId) (job : AuthorizationSyncJob)
    (s : Store) (queue : SyncQueue) : Prop extends At h phase s queue where
  row : ∃ row : AuthorizationSyncJob, s.db.jobs[id]? = some row ∧ row.request = job.request

section Steps

variable {h : Handling} {phase phase' : WorkerPhase} {s s' : Store} {queue queue' : SyncQueue}
  {id : JobId} {job : AuthorizationSyncJob}

theorem At.step (hat : At h phase s queue) (action : WorkerAction) :
    SyncQueue.system.step queue (.worker h.index action) =
      queue.workerStep h.index (h.worker phase) action phase := by
  show SyncQueue.step queue (.worker h.index action) = _
  simp only [SyncQueue.step, hat.worker]
  rfl

theorem At.setPhase (hat : At h phase s queue) (hmirrors : Mirrors s' queue')
    (hworkers : queue'.workers = queue.workers) (hinFlight : queue'.inFlight = queue.inFlight)
    (phase' : WorkerPhase) : At h phase' s' (queue'.setPhase h.index (h.worker phase) phase') where
  mirrors := hmirrors.setPhase
  inFlight := hinFlight.trans hat.inFlight
  worker := by
    show (queue'.workers.set h.index _)[h.index]? = _
    rw [hworkers]
    exact Rows.getElem?_set_self hat.worker

/-- The worker moves on, and nothing else. -/
theorem At.move (hat : At h phase s queue) (action : WorkerAction)
    (hstep : queue.workerStep h.index (h.worker phase) action phase =
      some (queue.setPhase h.index (h.worker phase) phase')) :
    ∃ i queue', SyncQueue.system.step queue i = some queue' ∧ At h phase' s queue' :=
  ⟨_, _, (hat.step action).trans hstep, hat.setPhase hat.mirrors rfl rfl phase'⟩

theorem Busy.move (hbusy : Busy h phase id job s queue) (action : WorkerAction)
    (hstep : queue.workerStep h.index (h.worker phase) action phase =
      some (queue.setPhase h.index (h.worker phase) phase')) :
    ∃ i queue', SyncQueue.system.step queue i = some queue' ∧ Busy h phase' id job s queue' := by
  obtain ⟨i, queue', hi, hat⟩ := hbusy.toAt.move action hstep
  exact ⟨i, queue', hi, hat, hbusy.row⟩

theorem At.congr (hat : At h phase s queue) (hsame : mirrored s' = mirrored s) :
    At h phase s' queue :=
  { hat with mirrors := hat.mirrors.congr hsame }

theorem Busy.congr (hbusy : Busy h phase id job s queue) (hsame : mirrored s' = mirrored s) :
    Busy h phase id job s' queue := by
  refine ⟨hbusy.toAt.congr hsame, ?_⟩
  have hjobs : s'.db.jobs = s.db.jobs := congrArg (fun all => all.1.1) hsame
  rw [hjobs]
  exact hbusy.row

end Steps

/-- The queue follows, and the worker is in the phase. -/
def Follows (queue : SyncQueue) (h : Handling) (phase : WorkerPhase) : Store → Prop :=
  SyncQueue.system.Tracks queue (At h phase)

def Works (queue : SyncQueue) (h : Handling) (phase : WorkerPhase) (id : JobId)
    (job : AuthorizationSyncJob) : Store → Prop :=
  SyncQueue.system.Tracks queue (Busy h phase id job)

namespace AuthorizationReconciliationWorker

open AuthorizationSyncJobRepository

variable {ctx : WorkerContext} {queue : SyncQueue} {h : Handling} {id : JobId}
  {job : AuthorizationSyncJob} {s : Store}

-- ============================================================================
-- Claiming
-- ============================================================================

/-- A worker without a job yet. -/
theorem claimError_follows {phase : WorkerPhase}
    (hphase : phase = .locked h.session ∨ ∃ id, phase = .selected h.session id)
    (hs : Follows queue h phase s) : Follows queue h (.releasing h.session true) s := by
  refine hs.step fun queue' hat => hat.move .claimError ?_
  rcases hphase with rfl | ⟨id, rfl⟩
  · rfl
  · rfl

theorem select_follows (hselect : ctx.nextPending s.db.jobs h.tenantCode = some id)
    (hs : Follows queue h (.locked h.session) s) :
    Follows queue h (.selected h.session id) s := by
  refine hs.step fun queue' hat => hat.move (.select (some id)) ?_
  show (if queue'.jobs.isNextPending h.tenantCode id then _ else none) = _
  rw [hat.mirrors.jobs]
  exact if_pos (ctx.nextPending_some hselect)

theorem nothing_follows (hnone : ctx.nextPending s.db.jobs h.tenantCode = none)
    (hs : Follows queue h (.locked h.session) s) :
    Follows queue h (.releasing h.session false) s := by
  refine hs.step fun queue' hat => hat.move (.select none) ?_
  show (if queue'.jobs.hasPending h.tenantCode then none else _) = _
  rw [hat.mirrors.jobs, ctx.nextPending_none hnone]
  rfl

theorem update_claimed_follows (hjob : s.db.jobs[id]? = some job) :
    Faulty.Triple
      (fun s' => s'.db.jobs = s.db.jobs ∧ Follows queue h (.selected h.session id) s')
      (AuthorizationSyncJobRepository.update id AuthorizationSyncJob.claimed)
      (fun _ => Works queue h (.matching h.session id) id job)
      (Follows queue h (.releasing h.session true)) := by
  refine Faulty.triple_call (fun s' hs' => claimError_follows (.inr ⟨id, rfl⟩) hs'.2) ?_
  rintro s' u s'' ⟨hsame, hs'⟩ hcall
  split at hcall
  next jobs hjobs =>
    obtain ⟨-, rfl⟩ := Prod.mk.inj (Except.ok.inj hcall)
    rw [← hsame] at hjob
    refine hs'.step fun queue' hat => ?_
    have hat' := hat.setPhase (hat.mirrors.update jobs) rfl rfl (.matching h.session id)
    refine ⟨_, _, (hat.step .claim).trans ?_, hat', _, JobTable.update_row hjob hjobs,
      AuthorizationSyncJob.claimed_request _ _⟩
    simp only [SyncQueue.workerStep, hat.mirrors.jobs, hat.mirrors.now, hjob, hjobs]
  · cases hcall

/-- What the select of `claimNextPendingJob` returns. -/
def pendingJob (ctx : WorkerContext) (tenantCode : String) (s : Store) :
    Option (JobId × AuthorizationSyncJob) :=
  (ctx.nextPending s.db.jobs tenantCode).bind fun id => (s.db.jobs[id]?).map fun job => (id, job)

theorem pendingJob_some (hfound : pendingJob ctx h.tenantCode s = some (id, job)) :
    ctx.nextPending s.db.jobs h.tenantCode = some id ∧ s.db.jobs[id]? = some job := by
  obtain ⟨next, hnext, hrow⟩ := Option.bind_eq_some_iff.mp hfound
  obtain ⟨row, hjob, hsame⟩ := Option.map_eq_some_iff.mp hrow
  obtain ⟨rfl, rfl⟩ := Prod.mk.inj hsame
  exact ⟨hnext, hjob⟩

theorem pendingJob_none (hfound : pendingJob ctx h.tenantCode s = none) :
    ctx.nextPending s.db.jobs h.tenantCode = none := by
  rcases hnext : ctx.nextPending s.db.jobs h.tenantCode with _ | next
  · rfl
  · obtain ⟨row, hrow, -⟩ := JobTable.isNextPending_job (ctx.nextPending_some hnext)
    rw [pendingJob, hnext, Option.bind_some, hrow] at hfound
    cases hfound

theorem claimNextPendingJob_follows (ctx : WorkerContext) :
    Faulty.Triple (Follows queue h (.locked h.session)) (claimNextPendingJob ctx h.tenantCode)
      (fun claimed s => match claimed with
        | none => Follows queue h (.releasing h.session false) s
        | some (id, job) => Works queue h (.matching h.session id) id job s)
      (Follows queue h (.releasing h.session true)) := by
  have hread : Faulty.Triple (Follows queue h (.locked h.session))
      (.read (pendingJob ctx h.tenantCode) : Service _)
      (fun found s => found = pendingJob ctx h.tenantCode s ∧
        Follows queue h (.locked h.session) s)
      (Follows queue h (.releasing h.session true)) :=
    Faulty.triple_read (fun s hs => claimError_follows (.inl rfl) hs) fun s hs => ⟨rfl, hs⟩
  refine hread.bind fun found => ?_
  rcases found with _ | ⟨id, job⟩
  · exact Faulty.triple_pure fun s hs => nothing_follows (pendingJob_none hs.1.symm) hs.2
  · rintro w ⟨hfound, hw⟩
    obtain ⟨hnext, hjob⟩ := pendingJob_some hfound.symm
    refine ((update_claimed_follows hjob).bind fun _ => ?_) w ⟨rfl, select_follows hnext hw⟩
    -- the job as it is returned asks for what its row does
    exact fun w₁ hw₁ => hw₁.mono fun queue' hbusy => ⟨hbusy.toAt, hbusy.row⟩

-- ============================================================================
-- The job, up to its last transaction
-- ============================================================================

/-- The worker is in `executeJob`. -/
def InJob (h : Handling) (id : JobId) (phase : WorkerPhase) : Prop :=
  phase = .matching h.session id ∨ phase = .batching h.session id

theorem throw_follows {phase : WorkerPhase} (hphase : InJob h id phase)
    (hs : Works queue h phase id job s) : Works queue h (.failing h.session id) id job s := by
  refine hs.step fun queue' hbusy => hbusy.move .throw ?_
  rcases hphase with rfl | rfl
  · rfl
  · rfl

/-- A program that leaves the queue alone leaves the worker where it is. -/
theorem works_of_leaves {α : Type} {x : Service α} (hleaves : Faulty.Leaves mirrored x)
    (phase : WorkerPhase) :
    Faulty.Triple (Works queue h phase id job) x (fun _ => Works queue h phase id job)
      (Works queue h phase id job) :=
  hleaves.tracked fun _ _ _ hsame hbusy => hbusy.congr hsame

theorem works_readDb {α : Type} (f : Database → α) (phase : WorkerPhase) :
    Faulty.Triple (Works queue h phase id job) (readDb f : Service α)
      (fun _ => Works queue h phase id job) (Works queue h phase id job) :=
  works_of_leaves (leaves_readDb f) phase

theorem updateProgress_follows {phase : WorkerPhase} (hphase : InJob h id phase)
    (processed : Nat) (total : Option Nat) :
    Faulty.Triple (Works queue h phase id job) (updateProgress id processed total)
      (fun _ => Works queue h phase id job) (Works queue h phase id job) := by
  unfold updateProgress AuthorizationSyncJobRepository.update
  refine Faulty.tracked_call fun s u s' queue' hbusy hcall => ?_
  obtain ⟨row, hrow, hrequest⟩ := hbusy.row
  split at hcall
  next jobs hjobs =>
    obtain ⟨-, rfl⟩ := Prod.mk.inj (Except.ok.inj hcall)
    refine ⟨_, { queue' with jobs := jobs }, (hbusy.step (.progress processed total)).trans ?_,
      ⟨hbusy.mirrors.update jobs, hbusy.inFlight, hbusy.worker⟩, _,
      JobTable.update_row hrow hjobs, (AuthorizationSyncJob.progressed_request ..).trans hrequest⟩
    rcases hphase with rfl | rfl
    · simp only [SyncQueue.workerStep, hbusy.mirrors.jobs, hbusy.mirrors.now, hjobs]
    · simp only [SyncQueue.workerStep, hbusy.mirrors.jobs, hbusy.mirrors.now, hjobs]
  · cases hcall

theorem processBatches_follows (ctx : WorkerContext) (total fuel processed : Nat) :
    Faulty.Triple (Works queue h (.batching h.session id) id job)
      (processBatches ctx id job total fuel processed)
      (fun _ => Works queue h (.batching h.session id) id job)
      (Works queue h (.batching h.session id) id job) := by
  induction fuel generalizing processed with
  | zero => exact Faulty.triple_pure fun _ hs => hs
  | succ fuel ih =>
    have hbody : ∀ user, Faulty.Leaves mirrored (recomputeUser ctx job user) := fun user =>
      (recompute_mirrored ctx.toContext job.tenantCode user.id).bind fun _ => Faulty.leaves_pure ()
    rw [processBatches]
    split
    · refine (works_readDb _ _).bind fun users => ?_
      split
      · exact Faulty.triple_pure fun _ hs => hs
      · exact (works_of_leaves (Faulty.leaves_forEach hbody users) _).bind fun _ =>
          (updateProgress_follows (.inr rfl) _ _).bind fun _ => ih _
    · exact Faulty.triple_pure fun _ hs => hs

-- ============================================================================
-- The memberships
-- ============================================================================

/-- The source of the job is a group of the tenant, with a rule. -/
structure Ruled (h : Handling) (id : JobId) (job : AuthorizationSyncJob) (groupId : Uuid)
    (s : Store) (queue : SyncQueue) : Prop extends Busy h (.matching h.session id) id job s queue where
  source : job.source = ⟨.USER_GROUP, groupId⟩
  group : ∃ g, s.db.group h.tenantCode groupId = some g ∧ g.matchingRule.isSome = true

/-- Where no group of the tenant is reconciled the sources stay as they are. -/
theorem unreconciled_follows
    (hother : job.source.sourceType = .USER_GROUP → ∀ row, sourceRow s.db job.source = some row →
      row.hasMatchingRule = true → row.tenantCode ≠ h.tenantCode)
    (hs : Works queue h (.matching h.session id) id job s) :
    Works queue h (.batching h.session id) id job s := by
  refine hs.step fun queue' hbusy => ?_
  obtain ⟨row, hrow, hrequest⟩ := hbusy.row
  have hsource : row.source = job.source := congrArg (·.source) hrequest
  rw [← hsource] at hother
  by_cases hreconciles : row.source.sourceType = .USER_GROUP ∧
      (queue'.sources row.source).any (·.hasMatchingRule)
  · have huntold : Mirrors s
        (queue'.updateProjectionVersion h.tenantCode row.source row.sourceVersion) := by
      refine hbusy.mirrors.untold fun found hfound => ?_
      rw [hbusy.mirrors.sources, hfound] at hreconciles
      exact SourceRow.told_other (hother hreconciles.1 found hfound hreconciles.2)
    refine ⟨_, _, (hbusy.step .reconcile).trans ?_,
      hbusy.setPhase huntold rfl rfl (.batching h.session id), hbusy.row⟩
    simp only [SyncQueue.workerStep, hbusy.mirrors.jobs, hrow, if_pos hreconciles]
    rfl
  · refine hbusy.move .reconcile ?_
    simp only [SyncQueue.workerStep, hbusy.mirrors.jobs, hrow, if_neg hreconciles]

/-- The last write of the reconciliation. -/
theorem updateProjectionVersion_follows {groupId : Uuid} (htenant : ctx.tenantCode = h.tenantCode) :
    Faulty.Triple (SyncQueue.system.Tracks queue (Ruled h id job groupId))
      (UserGroupRepository.updateProjectionVersion ctx.toContext groupId job.sourceVersion)
      (fun _ => Works queue h (.batching h.session id) id job)
      (Works queue h (.matching h.session id) id job) := by
  obtain ⟨index, event, tenantCode, session, inFlight⟩ := h
  obtain rfl : tenantCode = ctx.tenantCode := htenant.symm
  unfold UserGroupRepository.updateProjectionVersion writeDb
  refine Faulty.triple_write (fun s hs => hs.mono fun _ hruled => hruled.toBusy) fun s hs => ?_
  refine hs.step fun queue' hruled => ?_
  obtain ⟨row, hrow, hrequest⟩ := hruled.row
  obtain ⟨g, hg, hrule⟩ := hruled.group
  have hsource : row.source = ⟨.USER_GROUP, groupId⟩ :=
    (congrArg (·.source) hrequest).trans hruled.source
  have hversion : row.sourceVersion = job.sourceVersion := congrArg (·.sourceVersion) hrequest
  have hreconciles : row.source.sourceType = .USER_GROUP ∧
      (queue'.sources row.source).any (·.hasMatchingRule) := by
    obtain ⟨hmem, -, hid⟩ := Database.group_eq_some.mp hg
    have hfound : sourceRow s.db ⟨.USER_GROUP, groupId⟩ = some (groupRow g) :=
      congrArg (Option.map groupRow) (Keyed.rowAt_eq_some.mpr ⟨hmem, hid⟩)
    rw [hruled.mirrors.sources, hsource, hfound]
    exact ⟨rfl, hrule⟩
  have htold := hruled.mirrors.groupVersion ctx.tenantCode groupId job.sourceVersion
  refine ⟨_, _, (hruled.step .reconcile).trans ?_,
    hruled.setPhase htold rfl rfl (.batching session id), hruled.row⟩
  simp only [SyncQueue.workerStep, hruled.mirrors.jobs, hrow]
  rw [if_pos hreconciles, hsource, hversion]
  rfl

theorem Ruled.congr {groupId : Uuid} {s' : Store} {queue' : SyncQueue}
    (hruled : Ruled h id job groupId s queue') (hsame : mirrored s' = mirrored s) :
    Ruled h id job groupId s' queue' := by
  refine ⟨hruled.toBusy.congr hsame, hruled.source, ?_⟩
  have hgroups : s'.db.groups = s.db.groups := congrArg (fun all => all.2.2.1) hsame
  rw [Database.group, hgroups]
  exact hruled.group

/-- A group with a rule is being reconciled. -/
def Reconciles (queue : SyncQueue) (h : Handling) (id : JobId) (job : AuthorizationSyncJob)
    (groupId : Uuid) : Store → Prop :=
  SyncQueue.system.Tracks queue (Ruled h id job groupId)

theorem Reconciles.works {groupId : Uuid} (hs : Reconciles queue h id job groupId s) :
    Works queue h (.matching h.session id) id job s :=
  hs.mono fun _ hruled => hruled.toBusy

theorem reconciles_of_leaves {α : Type} {x : Service α} {groupId : Uuid}
    (hleaves : Faulty.Leaves mirrored x) :
    Faulty.Triple (Reconciles queue h id job groupId) x
      (fun _ => Reconciles queue h id job groupId)
      (Works queue h (.matching h.session id) id job) :=
  (hleaves.tracked fun _ _ _ hsame hruled => hruled.congr hsame).mono (fun _ hs => hs)
    (fun _ _ hs => hs) fun _ hs => Reconciles.works hs

theorem reconcileAffected_mirrored (ctx : Context) (userId : Uuid) :
    Faulty.Leaves mirrored (MembershipReconciler.reconcileAffected ctx userId) :=
  leaves_mirrored (reconcileAffected_steady ctx userId).leaves
    (MembershipReconciler.reconcileAffected_leavesTables ctx userId)

/-- The group that is reconciled is still there. -/
theorem findById_reconciles {groupId : Uuid} (htenant : ctx.tenantCode = h.tenantCode) :
    Faulty.Triple (Reconciles queue h id job groupId)
      (UserGroupRepository.findById ctx.toContext groupId)
      (fun group s => group.isSome = true ∧ Reconciles queue h id job groupId s)
      (Works queue h (.matching h.session id) id job) := by
  unfold UserGroupRepository.findById readDb
  refine Faulty.triple_read (fun s hs => hs.works) fun s hs => ?_
  obtain ⟨queue', hsteps, hruled⟩ := hs
  obtain ⟨g, hg, -⟩ := hruled.group
  rw [htenant]
  exact ⟨Option.isSome_iff_exists.mpr ⟨g, hg⟩, queue', hsteps, hruled⟩

theorem reconcileGroupPopulation_follows {groupId : Uuid} (htenant : ctx.tenantCode = h.tenantCode)
    (matched : List Uuid) :
    Faulty.Triple (Reconciles queue h id job groupId)
      (MembershipReconciler.reconcileGroupPopulation ctx.toContext groupId matched
        job.sourceVersion)
      (fun _ => Works queue h (.batching h.session id) id job)
      (Works queue h (.matching h.session id) id job) := by
  have hwrites : ∀ {group : Option UserGroup} (affected : List Uuid), Faulty.Triple
      (fun s => group.isSome = true ∧ Reconciles queue h id job groupId s)
      (.when (group.isSome = true) do
        .forEach (MembershipReconciler.reconcileAffected ctx.toContext) affected
        UserGroupRepository.updateProjectionVersion ctx.toContext groupId job.sourceVersion)
      (fun _ => Works queue h (.batching h.session id) id job)
      (Works queue h (.matching h.session id) id job) := by
    rintro group affected w ⟨hsome, hw⟩
    rw [Faulty.when, if_pos hsome]
    exact ((reconciles_of_leaves (Faulty.leaves_forEach
      (reconcileAffected_mirrored ctx.toContext) affected)).bind fun _ =>
        updateProjectionVersion_follows htenant) w hw
  refine (reconciles_of_leaves (leaves_readDb _)).bind fun members => ?_
  refine (reconciles_of_leaves (Faulty.leaves_when (UserGroupMembershipRepository.batchInsert_leaves
    (fun _ _ => rfl) ctx.toContext groupId _))).bind fun _ => ?_
  refine (reconciles_of_leaves (Faulty.leaves_when (UserGroupMembershipRepository.batchDelete_leaves
    (fun _ _ => rfl) ctx.toContext groupId _))).bind fun _ => ?_
  exact (findById_reconciles htenant).bind fun group =>
    (hwrites _).bind fun _ => Faulty.triple_pure fun _ hs => hs

/-- A row of the tenant that has a rule is a group's. -/
theorem group_of_ruledRow {source : SourceRef} {row : SourceRow} {tenantCode : String}
    (hgroup : source.sourceType = .USER_GROUP) (hrow : sourceRow s.db source = some row)
    (hrule : row.hasMatchingRule = true) (htenant : row.tenantCode = tenantCode) :
    (s.db.group tenantCode source.sourceId).bind UserGroup.matchingRule ≠ none := by
  simp only [sourceRow, hgroup] at hrow
  obtain ⟨g, hg, rfl⟩ := Option.map_eq_some_iff.mp hrow
  obtain ⟨hmem, hid⟩ := Keyed.rowAt_eq_some.mp hg
  rw [Database.group_eq_some.mpr ⟨hmem, htenant, hid⟩, Option.bind_some]
  exact Option.isSome_iff_ne_none.mp hrule

theorem reconcileMemberships_follows (htenant : ctx.tenantCode = h.tenantCode) :
    Faulty.Triple (Works queue h (.matching h.session id) id job) (reconcileMemberships ctx job)
      (fun _ => Works queue h (.batching h.session id) id job)
      (Works queue h (.matching h.session id) id job) := by
  unfold reconcileMemberships
  split
  next hrole =>
    refine Faulty.triple_pure fun s hs => unreconciled_follows (fun hgroup => ?_) hs
    rw [hrole] at hgroup
    cases hgroup
  next hgroup =>
    have hfind : Faulty.Triple (Works queue h (.matching h.session id) id job)
        (UserGroupRepository.findById ctx.toContext job.source.sourceId)
        (fun group s => group = s.db.group h.tenantCode job.source.sourceId ∧
          Works queue h (.matching h.session id) id job s)
        (Works queue h (.matching h.session id) id job) := by
      unfold UserGroupRepository.findById readDb
      rw [htenant]
      exact Faulty.triple_read (fun s hs => hs) fun s hs => ⟨rfl, hs⟩
    refine hfind.bind fun group => ?_
    split
    next hnone =>
      refine Faulty.triple_pure fun s hs =>
        unreconciled_follows (fun _ row hrow hrule htenant' => ?_) hs.2
      rw [hs.1] at hnone
      exact group_of_ruledRow hgroup hrow hrule htenant' hnone
    next rule hrule =>
      have hruled : ∀ s, group = s.db.group h.tenantCode job.source.sourceId ∧
          Works queue h (.matching h.session id) id job s →
          Reconciles queue h id job job.source.sourceId s := by
        rintro s ⟨rfl, hs⟩
        obtain ⟨g, hg, hgrule⟩ := Option.bind_eq_some_iff.mp hrule
        refine hs.mono fun queue' hbusy =>
          ⟨hbusy, ?_, g, hg, Option.isSome_iff_exists.mpr ⟨_, hgrule⟩⟩
        rw [← hgroup]
      have hmatch := (EmployeeReferenceRepository.reads_getMatchedEmployeeIds ctx.toContext
        (UserGroupMatchingEngine.buildMatchingQuery job.tenantCode rule)).leaves (g := mirrored)
      have hdone : Faulty.Triple (Works queue h (.batching h.session id) id job)
          (pure () : Service Unit) (fun _ => Works queue h (.batching h.session id) id job)
          (Works queue h (.matching h.session id) id job) := Faulty.triple_pure fun _ hs => hs
      exact ((reconciles_of_leaves hmatch).bind fun matched =>
        (reconcileGroupPopulation_follows htenant matched).bind fun _ => hdone).mono hruled
          (fun _ _ hs => hs) fun _ hs => hs

theorem prepareJob_follows (htenant : ctx.tenantCode = h.tenantCode) :
    Faulty.Triple (Works queue h (.matching h.session id) id job) (prepareJob ctx id job)
      (fun _ => Works queue h (.batching h.session id) id job)
      (Works queue h (.matching h.session id) id job) :=
  (works_readDb _ _).bind fun _ => (updateProgress_follows (.inl rfl) _ _).bind fun _ =>
    (reconcileMemberships_follows htenant).bind fun _ => Faulty.triple_pure fun _ hs => hs

-- ============================================================================
-- The end of the job
-- ============================================================================

section Transactions

variable {w w' : World Store Failure} {queue' : SyncQueue} {u : Unit}

/-- The two writes that both last transactions end with, in both. -/
theorem endJob_mirrors {f : Timestamp → AuthorizationSyncJob → AuthorizationSyncJob}
    {event : SyncEvent} (hmirrors : Mirrors w.state queue')
    (hrun : endJob id f (.sync event) w = (.ok u, w')) :
    (∃ jobs, w.state.db.jobs.update id (f w.state.now) = some jobs ∧
      Mirrors w'.state ({ queue' with jobs := jobs }.append event)) ∧
    w'.state.db.outbox = w.state.db.outbox ++ [.sync event] ∧
    w'.state.db.roles = w.state.db.roles := by
  obtain ⟨u₁, w₁, hupdate, hcreate⟩ := Faulty.bind_ok.mp hrun
  have hcall := Faulty.call_ok hupdate
  split at hcall
  next jobs hjobs =>
    have hstate := (Prod.mk.inj (Except.ok.inj hcall)).2
    rw [writeDb_ok hcreate, ← hstate]
    exact ⟨⟨jobs, hjobs, (hmirrors.update jobs).append⟩, rfl, rfl⟩
  · cases hcall

/-- The source is told, unless it is a role and the failure has been dropped. -/
theorem advanceProjection_mirrors (hmirrors : Mirrors w.state queue')
    (hrun : advanceProjection ctx job w = (.ok u, w')) :
    (w'.state.db.jobs = w.state.db.jobs ∧ w'.state.now = w.state.now ∧
      w'.state.db.outbox = w.state.db.outbox) ∧
    (Mirrors w'.state (queue'.updateProjectionVersion (sourceTenant ctx job) job.source
        job.sourceVersion) ∨
      job.source.sourceType = .ROLE ∧ w'.state = w.state) := by
  cases htype : job.source.sourceType with
  | USER_GROUP =>
    have hsource : SourceRef.mk .USER_GROUP job.source.sourceId = job.source := by rw [← htype]
    have htold := hmirrors.groupVersion ctx.tenantCode job.source.sourceId job.sourceVersion
    simp only [advanceProjection, htype] at hrun
    simp only [writeDb_ok hrun, sourceTenant, htype]
    rw [hsource] at htold
    exact ⟨⟨trivial, trivial, trivial⟩, .inl htold⟩
  | ROLE =>
    have hsource : SourceRef.mk .ROLE job.source.sourceId = job.source := by rw [← htype]
    have htold := hmirrors.roleVersion job.tenantCode job.source.sourceId job.sourceVersion
    simp only [advanceProjection, htype] at hrun
    rcases Faulty.tryCatch_pure_ok hrun with hupdate | ⟨e, hthrown, -⟩
    · simp only [writeDb_ok hupdate, sourceTenant, htype]
      rw [hsource] at htold
      exact ⟨⟨trivial, trivial, trivial⟩, .inl htold⟩
    · unfold RoleRepository.updateProjectionVersion writeDb at hthrown
      rw [Faulty.write_error hthrown]
      exact ⟨⟨rfl, rfl, rfl⟩, .inr ⟨rfl, rfl⟩⟩

end Transactions

/-- The last event tells that the job of a role is COMPLETED, but the role has not been told
    the version. -/
def Dropped (s : Store) : Prop :=
  ∃ event r, s.db.outbox.getLast? = some (.sync event) ∧
    event.type = .AUTHORIZATION_SYNC_COMPLETED ∧ event.source.sourceType = .ROLE ∧
    s.db.role event.tenantCode event.source.sourceId = some r ∧
    r.projectionVersion ≠ event.sourceVersion

theorem not_told_role {s s' : Store} {queue' : SyncQueue} (hmirrors : Mirrors s queue')
    (hrole : job.source.sourceType = .ROLE) (hroles : s'.db.roles = s.db.roles)
    (hevent : s'.db.outbox.getLast? = some (.sync (.ofJob .AUTHORIZATION_SYNC_COMPLETED id job))) :
    Dropped s' ∨ Mirrors s (queue'.updateProjectionVersion job.tenantCode job.source
      job.sourceVersion) := by
  by_cases hstale : ∃ r, s.db.role job.tenantCode job.source.sourceId = some r ∧
      r.projectionVersion ≠ job.sourceVersion
  · obtain ⟨r, hr, hne⟩ := hstale
    refine .inl ⟨_, r, hevent, rfl, hrole, ?_, hne⟩
    rw [Database.role, hroles]
    exact hr
  · refine .inr (hmirrors.untold fun row hrow => ?_)
    simp only [sourceRow, hrole] at hrow
    obtain ⟨r, hr, rfl⟩ := Option.map_eq_some_iff.mp hrow
    obtain ⟨hmem, hid⟩ := Keyed.rowAt_eq_some.mp hr
    by_cases htenant : r.tenantCode = job.tenantCode
    · have hversion : r.projectionVersion = job.sourceVersion := by
        by_contra hne
        exact hstale ⟨r, Database.role_eq_some.mpr ⟨hmem, htenant, hid⟩, hne⟩
      rw [SourceRow.told, if_pos (show (roleRow r).tenantCode = _ from htenant), ← hversion]
      rfl
    · exact SourceRow.told_other htenant

/-- An event tells what was asked for. -/
theorem ofJob_request {row : AuthorizationSyncJob} (type : SyncEventType) (id : JobId)
    (hrequest : row.request = job.request) :
    SyncEvent.ofJob type id row = .ofJob type id job := by
  have hevent := congrArg (SyncEvent.ofJob type id) hrequest
  exact hevent

/-- A transaction that throws has changed nothing that a queue mirrors. -/
theorem runInTransaction_follows {phase : WorkerPhase} {body : Service Unit}
    {Q : Unit → Store → Prop}
    (hleaves : Faulty.Leaves unrolled body)
    (hbody : ∀ w u w', Works queue h phase id job w.state → body w = (.ok u, w') → Q u w'.state) :
    Faulty.Triple (Works queue h phase id job) (runInTransaction body) Q
      (Works queue h phase id job) := by
  refine hleaves.transaction (Faulty.triple_of_ok hbody) fun s s' hs hsame => ?_
  exact hs.mono fun queue' hbusy => hbusy.congr (mirrored_rollback hsame)

theorem leaves_endJob (id : JobId)
    (f : Timestamp → AuthorizationSyncJob → AuthorizationSyncJob) (event : OutboxEvent) :
    Faulty.Leaves unrolled (endJob id f event) := by
  refine Faulty.Leaves.bind ?_ fun _ => leaves_createEvent event
  refine Faulty.leaves_call fun s u s' hcall => ?_
  split at hcall
  · obtain ⟨-, rfl⟩ := Prod.mk.inj (Except.ok.inj hcall)
    rfl
  · cases hcall

theorem handleJobFailure_follows :
    Faulty.Triple (Works queue h (.failing h.session id) id job) (handleJobFailure id job)
      (fun _ => Follows queue h (.releasing h.session false))
      (Follows queue h (.releasing h.session true)) := by
  have hrun : Faulty.Triple (Works queue h (.failing h.session id) id job)
      (handleJobFailure id job) (fun _ => Follows queue h (.releasing h.session false))
      (Works queue h (.failing h.session id) id job) := by
    refine runInTransaction_follows (leaves_endJob id _ _) fun w u w' hw hend => ?_
    refine hw.step fun queue' hbusy => ?_
    obtain ⟨row, hrow, hrequest⟩ := hbusy.row
    obtain ⟨⟨jobs, hjobs, hmirrors⟩, -⟩ := endJob_mirrors hbusy.mirrors hend
    refine ⟨_, _, (hbusy.toAt.step .fail).trans ?_,
      hbusy.toAt.setPhase hmirrors rfl rfl (.releasing h.session false)⟩
    have hevent : SyncEvent.ofJob .AUTHORIZATION_SYNC_FAILED id row =
        .ofJob .AUTHORIZATION_SYNC_FAILED id job := ofJob_request _ id hrequest
    simp only [SyncQueue.workerStep, hbusy.mirrors.jobs, hbusy.mirrors.now, hrow, hjobs, hevent]
  refine hrun.mono (fun _ hs => hs) (fun _ _ hs => hs) fun s hs => ?_
  exact hs.step fun queue' hbusy => hbusy.toAt.move .failError rfl

theorem leaves_advanceProjection (ctx : WorkerContext) (job : AuthorizationSyncJob) :
    Faulty.Leaves unrolled (advanceProjection ctx job) := by
  unfold advanceProjection UserGroupRepository.updateProjectionVersion
    RoleRepository.updateProjectionVersion writeDb
  split
  · exact Faulty.leaves_write fun _ => rfl
  · exact Faulty.leaves_tryCatch (Faulty.leaves_write fun _ => rfl) fun _ => Faulty.leaves_pure ()

/-- Before its last two writes a job has told its source, or this has been dropped. -/
theorem advanced {w w₁ w' : World Store Failure} {queue' : SyncQueue} {u u' : Unit} {f}
    (hmirrors : Mirrors w.state queue')
    (hadvance : advanceProjection ctx job w = (.ok u, w₁))
    (hend : endJob id f (.sync (.ofJob .AUTHORIZATION_SYNC_COMPLETED id job)) w₁ = (.ok u', w')) :
    Dropped w'.state ∨ Mirrors w₁.state
      (queue'.updateProjectionVersion (sourceTenant ctx job) job.source job.sourceVersion) := by
  rcases (advanceProjection_mirrors hmirrors hadvance).2 with htold | ⟨hrole, hsame⟩
  · exact .inr htold
  · rw [← hsame] at hmirrors
    obtain ⟨-, houtbox, hroles⟩ := endJob_mirrors hmirrors hend
    have hlast : w'.state.db.outbox.getLast? =
        some (.sync (.ofJob .AUTHORIZATION_SYNC_COMPLETED id job)) := by
      rw [houtbox, List.getLast?_concat]
    have hmine : sourceTenant ctx job = job.tenantCode := by rw [sourceTenant, hrole]
    rw [hmine]
    exact not_told_role hmirrors hrole hroles hlast

theorem finalizeJob_follows (htenant : ctx.tenantCode = h.tenantCode) (processed : Nat) :
    Faulty.Triple (Works queue h (.batching h.session id) id job) (finalizeJob ctx id job processed)
      (fun _ s => Dropped s ∨ Follows queue h (.releasing h.session false) s)
      (Works queue h (.batching h.session id) id job) := by
  refine runInTransaction_follows ((leaves_advanceProjection ctx job).bind fun _ =>
    leaves_endJob id (fun now => .completed now processed) _) fun w u w' hw hrun => ?_
  obtain ⟨u₁, w₁, hadvance, hend⟩ := Faulty.bind_ok.mp hrun
  obtain ⟨queue', hsteps, hbusy⟩ := hw
  obtain ⟨row, hrow, hrequest⟩ := hbusy.row
  obtain ⟨⟨hjobs₁, hnow₁, -⟩, -⟩ := advanceProjection_mirrors hbusy.mirrors hadvance
  rcases advanced hbusy.mirrors hadvance hend with hdropped | htold
  · exact .inl hdropped
  · obtain ⟨⟨jobs, hjobs, hmirrors⟩, -⟩ := endJob_mirrors htold hend
    rw [hjobs₁, hnow₁] at hjobs
    have hevent : SyncEvent.ofJob .AUTHORIZATION_SYNC_COMPLETED id row =
        .ofJob .AUTHORIZATION_SYNC_COMPLETED id job := ofJob_request _ id hrequest
    have hsource : row.source = job.source := congrArg (·.source) hrequest
    have hversion : row.sourceVersion = job.sourceVersion := congrArg (·.sourceVersion) hrequest
    have hmine : (if row.source.sourceType = .USER_GROUP then h.tenantCode else row.tenantCode) =
        sourceTenant ctx job := by
      have hrowTenant : row.tenantCode = job.tenantCode := congrArg (·.tenantCode) hrequest
      rw [hsource, hrowTenant, sourceTenant, ← htenant]
      cases job.source.sourceType <;> rfl
    have hat := hbusy.toAt.setPhase hmirrors rfl rfl (.releasing h.session false)
    refine .inr ⟨_, hsteps.tail ⟨_, trivial, (hbusy.toAt.step (.complete processed)).trans ?_⟩, hat⟩
    simp only [SyncQueue.workerStep, hbusy.mirrors.jobs, hbusy.mirrors.now, hrow, hjobs]
    rw [show (h.worker (.batching h.session id)).tenantCode = h.tenantCode from rfl, hmine, hsource,
      hversion, hevent]

theorem executeJob_follows (htenant : ctx.tenantCode = h.tenantCode) :
    Faulty.Triple (Works queue h (.matching h.session id) id job) (executeJob ctx id job)
      (fun _ s => Dropped s ∨ Follows queue h (.releasing h.session false) s)
      (Works queue h (.failing h.session id) id job) := by
  have hprepare : Faulty.Triple (Works queue h (.matching h.session id) id job)
      (prepareJob ctx id job) (fun _ => Works queue h (.batching h.session id) id job)
      (Works queue h (.failing h.session id) id job) :=
    (prepareJob_follows htenant).mono (fun _ hs => hs) (fun _ _ hs => hs)
      fun _ hs => throw_follows (.inl rfl) hs
  refine hprepare.bind fun total => ?_
  exact ((processBatches_follows ctx total total 0).bind fun processed =>
    finalizeJob_follows htenant processed).mono (fun _ hs => hs) (fun _ _ hs => hs)
      fun _ hs => throw_follows (.inr rfl) hs

theorem processClaimedJob_follows (htenant : ctx.tenantCode = h.tenantCode) :
    Faulty.Triple (Follows queue h (.locked h.session)) (processClaimedJob ctx h.tenantCode)
      (fun _ s => Dropped s ∨ Follows queue h (.releasing h.session false) s)
      (Follows queue h (.releasing h.session true)) := by
  refine (claimNextPendingJob_follows ctx).bind fun claimed => ?_
  rcases claimed with _ | ⟨id, job⟩
  · exact Faulty.triple_pure fun _ hs => .inr hs
  · have hjob : Faulty.Triple (Works queue h (.matching h.session id) id job)
        (.tryCatch (executeJob ctx id job) fun _ => handleJobFailure id job)
        (fun _ s => Dropped s ∨ Follows queue h (.releasing h.session false) s)
        (Follows queue h (.releasing h.session true)) :=
      (executeJob_follows htenant).tryCatch fun _ =>
        handleJobFailure_follows.mono (fun _ hs => hs) (fun _ _ hs => .inr hs) fun _ hs => hs
    exact hjob.bind fun _ => Faulty.triple_pure fun _ hs => hs

-- ============================================================================
-- Under the lock
-- ============================================================================

theorem acquireLock_follows {E : Store → Prop}
    (hsession : ∀ session, ctx.session = some session → session = h.session) :
    Faulty.Triple (Follows queue h .starting)
      (acquireLock ctx.toContext (workerLockId h.tenantCode))
      (fun acquired => if acquired = true then Follows queue h (.locked h.session)
        else Follows queue h (.returned false)) E := by
  intro w hw
  rcases hacquire : DistributedLockAdapter.acquireLock w.state.locks ctx.session
    (workerLockId h.tenantCode) with ⟨locks, acquired⟩
  have hrun : acquireLock ctx.toContext (workerLockId h.tenantCode) w =
      (.ok acquired, { w with state := { w.state with locks := locks } }) := by
    simp only [acquireLock, Faulty.modify, hacquire]
  rw [hrun]
  cases acquired with
  | false =>
    obtain rfl := DistributedLockAdapter.acquireLock_refused hacquire
    refine hw.step fun queue' hat => hat.move (.acquire ctx.session) ?_
    simp only [SyncQueue.workerStep, Handling.worker, hat.mirrors.locks, hacquire]
  | true =>
    obtain ⟨session, hmine⟩ : ∃ session, ctx.session = some session := by
      rcases hnone : ctx.session with _ | session
      · rw [hnone] at hacquire
        cases hacquire
      · exact ⟨session, rfl⟩
    obtain rfl := hsession session hmine
    refine hw.step fun queue' hat => ?_
    have hat' := hat.setPhase (hat.mirrors.withLocks locks) rfl rfl (.locked h.session)
    refine ⟨_, _, (hat.step (.acquire ctx.session)).trans ?_, hat'⟩
    rw [hmine] at hacquire ⊢
    simp only [SyncQueue.workerStep, Handling.worker, hat.mirrors.locks, hacquire]

/-- The end of `processNextJob`. -/
theorem releaseLock_follows (ctx : Context) (threw : Bool) {w : World Store Failure}
    (hw : Follows queue h (.releasing h.session threw) w.state) :
    Follows queue h (.returned threw)
      (releaseLock ctx (workerLockId h.tenantCode) w).2.state := by
  refine hw.step fun queue' hat => ?_
  have hat' := hat.setPhase (hat.mirrors.withLocks (DistributedLockAdapter.releaseLock
    w.state.locks ctx.session (workerLockId h.tenantCode)).1) rfl rfl (.returned threw)
  refine ⟨_, _, (hat.step (.release ctx.session)).trans ?_, hat'⟩
  simp only [SyncQueue.workerStep, Handling.worker, hat.mirrors.locks]

/-- A run of `processNextJob` is a run of the worker, unless it drops a failure. -/
theorem processNextJob_follows (htenant : ctx.tenantCode = h.tenantCode)
    (hsession : ∀ session, ctx.session = some session → session = h.session) :
    Faulty.Triple (Follows queue h .starting) (processNextJob ctx h.tenantCode)
      (fun _ s => Dropped s ∨ Follows queue h (.returned false) s)
      (Follows queue h (.returned true)) := by
  refine (acquireLock_follows hsession).bind fun acquired => ?_
  cases acquired with
  | false => exact Faulty.triple_pure fun _ hs => .inr hs
  | true =>
    rw [if_pos rfl, if_pos rfl]
    refine (processClaimedJob_follows htenant).tryFinally (fun _ => ?_) ?_
    · rintro w (hdropped | hw)
      · exact .inl hdropped
      · exact .inr (releaseLock_follows ctx.toContext false hw)
    · exact fun w hw => releaseLock_follows ctx.toContext true hw

end AuthorizationReconciliationWorker

end AccessService.Authorization
