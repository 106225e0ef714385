/-
  AccessService.Authorization.SweepConvergence

  One sweep of the scheduled scanner, then the messages it has caused: however the sources
  had come to differ from their projections, afterwards each of them is in step with its
  version, or a job for that very version has FAILED (`sweep_converges`).  No call runs into
  anything, nobody edits a source meanwhile, and the jobs that were in flight before wait
  for the current versions.
-/

import Mathlib.Data.List.Count
import AccessService.Authorization.QueueDraining
import AccessService.Authorization.ScheduledScanner

namespace AccessService.Authorization

open AccessService.Lib AccessService.Pg AccessService.Persistence AccessService.UserGroups
open AuthorizationSyncService
open SyncQueue (newJob)

-- ============================================================================
-- Requests
-- ============================================================================

/-- What requests have added between two states: PENDING jobs at the end of the table, each
    with an event that its message is made from. -/
structure Requested (s s' : Store) (news : List AuthorizationSyncJob) (events : List SyncEvent) :
    Prop where
  table : s'.db.jobs = s.db.jobs ++ news
  outbox : s'.db.outbox = s.db.outbox ++ events.map .sync
  pending : ∀ job ∈ news, job.status = .PENDING
  requested : ∀ event ∈ events, event.type = .AUTHORIZATION_SYNC_REQUESTED
  tenants : events.map SyncEvent.tenantCode = news.map AuthorizationSyncJob.tenantCode
  sources : s'.sources = s.sources
  locks : s'.locks = s.locks

namespace Requested

variable {s s₁ s' : Store} {news news' : List AuthorizationSyncJob}
  {events events' : List SyncEvent}

theorem nothing (hdb : s'.db = s.db) (hlocks : s'.locks = s.locks) : Requested s s' [] [] where
  table := by rw [hdb, List.append_nil]
  outbox := by rw [hdb, List.map_nil, List.append_nil]
  pending _ hmem := absurd hmem List.not_mem_nil
  requested _ hmem := absurd hmem List.not_mem_nil
  tenants := rfl
  sources := by rw [Store.sources, Store.sources, hdb]
  locks := hlocks

theorem trans (h : Requested s s₁ news events) (h' : Requested s₁ s' news' events') :
    Requested s s' (news ++ news') (events ++ events') where
  table := by rw [h'.table, h.table, List.append_assoc]
  outbox := by rw [h'.outbox, h.outbox, List.map_append, List.append_assoc]
  pending job hmem := (List.mem_append.mp hmem).elim (h.pending job) (h'.pending job)
  requested event hmem := (List.mem_append.mp hmem).elim (h.requested event) (h'.requested event)
  tenants := by rw [List.map_append, List.map_append, h.tenants, h'.tenants]
  sources := h'.sources.trans h.sources
  locks := h'.locks.trans h.locks

/-- As many jobs wait more as there are events. -/
theorem pendingCount_eq (h : Requested s s' news events) (tenantCode : String) :
    pendingCount s'.db.jobs tenantCode = pendingCount s.db.jobs tenantCode +
      (events.map SyncEvent.tenantCode).count tenantCode := by
  have hnew : news.countP (AuthorizationSyncJob.pendingFor tenantCode) =
      (news.map AuthorizationSyncJob.tenantCode).count tenantCode := by
    rw [List.count, List.countP_map]
    refine List.countP_congr fun job hmem => ?_
    rw [AuthorizationSyncJob.pendingFor, h.pending job hmem]
    simp only [decide_true, Bool.and_true, Function.comp_apply, decide_eq_true_eq, beq_iff_eq]
  rw [pendingCount, h.table, List.countP_append, hnew, h.tenants]
  rfl

end Requested

/-- A job in flight has the key. -/
def InFlightFor (jobs : JobTable) (key : String × SourceRef × Nat) : Prop :=
  ∃ job ∈ jobs, job.status.inFlight = true ∧ job.key = key

/-- The jobs in flight wait, each for the version its source has. -/
def Current (s : Store) : Prop :=
  ∀ job ∈ s.db.jobs, job.status.inFlight = true → job.status = .PENDING ∧
    ∃ versions, versionsOf s.db job.tenantCode job.source = some versions ∧
      versions.sourceVersion = job.sourceVersion

/-- A source is of one tenant. -/
theorem versionsOf_tenant {db : Database} {tenantCode tenantCode' : String} {source : SourceRef}
    {versions versions' : SourceVersions}
    (h : versionsOf db tenantCode source = some versions)
    (h' : versionsOf db tenantCode' source = some versions') : tenantCode = tenantCode' := by
  obtain ⟨type, id⟩ := source
  cases type with
  | USER_GROUP =>
    obtain ⟨g, hg, -⟩ := Option.map_eq_some_iff.mp h
    obtain ⟨g', hg', -⟩ := Option.map_eq_some_iff.mp h'
    obtain ⟨hrow, rfl, hid⟩ := Database.group_eq_some.mp hg
    obtain ⟨hrow', rfl, hid'⟩ := Database.group_eq_some.mp hg'
    rw [db.groups.row_unique hrow hrow' (hid.trans hid'.symm)]
  | ROLE =>
    obtain ⟨r, hr, -⟩ := Option.map_eq_some_iff.mp h
    obtain ⟨r', hr', -⟩ := Option.map_eq_some_iff.mp h'
    obtain ⟨hrow, rfl, hid⟩ := Database.role_eq_some.mp hr
    obtain ⟨hrow', rfl, hid'⟩ := Database.role_eq_some.mp hr'
    rw [db.roles.row_unique hrow hrow' (hid.trans hid'.symm)]

section Enqueue

variable {ctx : Context} {params : EnqueueParams} {version : Nat} {w : World Store Failure}

theorem createSyncJobTransactional_keepsQuiet (params : EnqueueParams) (version : Nat) :
    Faulty.KeepsQuiet (createSyncJobTransactional params version) :=
  Faulty.keepsQuiet_transaction <| (Faulty.keepsQuiet_call _).bind fun _ =>
    Faulty.KeepsQuiet.bind (Faulty.keepsQuiet_call _) fun _ => Faulty.keepsQuiet_pure _

theorem enqueueAt_keepsQuiet (ctx : Context) (params : EnqueueParams) (version : Nat) :
    Faulty.KeepsQuiet (enqueueAt ctx params version) := by
  refine (keepsQuiet_readDb _).bind fun found => ?_
  split
  · exact Faulty.keepsQuiet_pure _
  · refine Faulty.keepsQuiet_tryCatch (createSyncJobTransactional_keepsQuiet params version)
      fun error => ?_
    unfold handleInFlightConflict
    split
    · refine (keepsQuiet_readDb _).bind fun found => ?_
      split
      · exact Faulty.keepsQuiet_pure _
      · exact Faulty.keepsQuiet_throw _
    · exact Faulty.keepsQuiet_throw _

/-- Undisturbed, the insert adds the job and its event, or the index refuses it. -/
theorem createSyncJobTransactional_cases (params : EnqueueParams) (version : Nat)
    (hquiet : Faulty.Quiet w) :
    (∃ answer w', createSyncJobTransactional params version w = (.ok answer, w') ∧
        w.state.db.jobs.insert (newJob params version w.state.now) = some w'.state.db.jobs ∧
        Requested w.state w'.state [newJob params version w.state.now]
          [.ofJob .AUTHORIZATION_SYNC_REQUESTED w.state.db.jobs.length
            (newJob params version w.state.now)]) ∨
      (w.state.db.jobs.insert (newJob params version w.state.now) = none ∧
        ∃ w', createSyncJobTransactional params version w = (.error uniqueViolation, w') ∧
          w'.state = w.state) := by
  rcases hinsert : w.state.db.jobs.insert (newJob params version w.state.now) with _ | jobs
  · have hcreate : createJob params version w =
        (.error uniqueViolation, ⟨w.state, w.faults.tail⟩) := by
      simp only [createJob, Faulty.call_quiet hquiet, hinsert]
    refine .inr ⟨rfl, ⟨w.state, w.faults.tail⟩, ?_, rfl⟩
    rw [createSyncJobTransactional, runInTransaction, Faulty.transaction,
      Faulty.bind_throws hcreate]
  · obtain ⟨hcreate, hquiet₁⟩ : createJob params version w =
        (.ok (w.state.db.jobs.length, newJob params version w.state.now),
          Faulty.afterCall w { w.state with db := { w.state.db with jobs := jobs } }) ∧ _ :=
      hquiet.call_runs (by simp only [hinsert])
    obtain ⟨w', hevent, hstate⟩ : ∃ w', OutboxEventRepository.create
        (.sync (.ofJob .AUTHORIZATION_SYNC_REQUESTED w.state.db.jobs.length
          (newJob params version w.state.now)))
        (Faulty.afterCall w { w.state with db := { w.state.db with jobs := jobs } }) =
          (.ok (), w') ∧ w'.state = { w.state with db := { w.state.db with
            jobs := jobs
            outbox := w.state.db.outbox ++ [.sync (.ofJob .AUTHORIZATION_SYNC_REQUESTED
              w.state.db.jobs.length (newJob params version w.state.now))] } } :=
      ⟨_, writeDb_runs _ hquiet₁, rfl⟩
    have hrun : createSyncJobTransactional params version w = (.ok (.fromEntity
        w.state.db.jobs.length (newJob params version w.state.now) false queuedSuccessfully),
          w') := by
      rw [createSyncJobTransactional, runInTransaction, Faulty.transaction_ok,
        Faulty.bind_runs hcreate]
      exact Faulty.bind_runs hevent
    refine .inl ⟨_, w', hrun, by rw [hstate], ?_⟩
    rw [hstate]
    refine ⟨(JobTable.insert_eq_some hinsert).1, rfl, ?_, ?_, rfl, rfl, rfl⟩
    · intro job hmem
      rw [List.mem_singleton.mp hmem]
      rfl
    · intro event hmem
      rw [List.mem_singleton.mp hmem]
      rfl

theorem Current.requested {s s' : Store} {news : List AuthorizationSyncJob}
    {events : List SyncEvent} (hcurrent : Current s) (h : Requested s s' news events)
    (hnews : ∀ job ∈ news, ∃ versions, versionsOf s.db job.tenantCode job.source = some versions ∧
      versions.sourceVersion = job.sourceVersion) : Current s' := by
  intro job hjob hflight
  rw [AuthorizationReconciliationWorker.versionsOf_sources h.sources]
  rw [h.table] at hjob
  rcases List.mem_append.mp hjob with hold | hnew
  · exact hcurrent job hold hflight
  · exact ⟨h.pending job hnew, hnews job hnew⟩

/-- What is left after an undisturbed request for the version a source has: a job in flight
    for it, and nothing else than a new job and its event. -/
structure Enqueued (params : EnqueueParams) (version : Nat) (s s' : Store)
    (news : List AuthorizationSyncJob) (events : List SyncEvent) : Prop where
  requested : Requested s s' news events
  unique : s'.db.jobs.InFlightUnique
  current : Current s'
  inFlight : InFlightFor s'.db.jobs (params.tenantCode, params.source, version)

theorem enqueueAt_enqueued (ctx : Context) (hquiet : Faulty.Quiet w)
    (hunique : w.state.db.jobs.InFlightUnique) (hcurrent : Current w.state)
    {versions : SourceVersions}
    (hsource : versionsOf w.state.db params.tenantCode params.source = some versions)
    (hversion : versions.sourceVersion = version) :
    ∃ news events, Enqueued params version w.state (enqueueAt ctx params version w).2.state
      news events := by
  have hfind := readDb_runs
    (fun db => inFlightJob db.jobs ctx.tenantCode params.source version) hquiet
  have hquiet₁ := hquiet.afterCall w.state
  rw [enqueueAt, findInFlightJob, Faulty.bind_runs hfind]
  rcases hfound : inFlightJob w.state.db.jobs ctx.tenantCode params.source version with
    _ | ⟨id, job⟩
  · rcases createSyncJobTransactional_cases params version hquiet₁ with
      ⟨answer, w', hcreate, hinsert, hrequested⟩ | ⟨hconflict, w', hcreate, hstate⟩
    · simp only [Faulty.tryCatch, hcreate]
      refine ⟨_, _, hrequested, JobTable.insert_unique hinsert hunique,
        hcurrent.requested hrequested fun job hnew => ?_, newJob params version w.state.now, ?_,
        rfl, rfl⟩
      · rw [List.mem_singleton.mp hnew]
        exact ⟨versions, hsource, hversion⟩
      · rw [hrequested.table]
        exact List.mem_append_right _ (List.mem_singleton_self _)
    · obtain ⟨id, winner, hrow, hflight, hkey⟩ := JobTable.winner_of_conflict hconflict
      have hquiet₂ : Faulty.Quiet w' := by
        have hkept := createSyncJobTransactional_keepsQuiet params version _ hquiet₁
        rwa [hcreate] at hkept
      have hagain := readDb_runs
        (fun db => inFlightJob db.jobs ctx.tenantCode params.source version) hquiet₂
      have hnone : inFlightJob w'.state.db.jobs ctx.tenantCode params.source version = none := by
        rw [hstate]
        exact hfound
      rw [hnone] at hagain
      have hrefused : handleInFlightConflict ctx params version uniqueViolation w' =
          (.error uniqueViolation, Faulty.afterCall w' w'.state) := by
        rw [handleInFlightConflict, if_pos rfl, findInFlightJob, Faulty.bind_runs hagain]
        rfl
      simp only [Faulty.tryCatch, hcreate, hrefused]
      rw [show (Faulty.afterCall w' w'.state).state = w.state from hstate]
      exact ⟨[], [], .nothing rfl rfl, hunique, hcurrent, winner, Lib.Rows.mem_of_row hrow, hflight,
        hkey⟩
  · obtain ⟨hrow, hflight, hkey⟩ := inFlightJob_some hfound
    refine ⟨[], [], .nothing rfl rfl, hunique, hcurrent, job, Lib.Rows.mem_of_row hrow, hflight, ?_⟩
    obtain ⟨-, versions', hversions', -⟩ := hcurrent job (Lib.Rows.mem_of_row hrow) hflight
    obtain ⟨htenant, hsame, hnumber⟩ : job.tenantCode = ctx.tenantCode ∧
        job.source = params.source ∧ job.sourceVersion = version := by
      simpa [AuthorizationSyncJob.key] using hkey
    rw [hsame] at hversions'
    rw [AuthorizationSyncJob.key, hsame, hnumber, versionsOf_tenant hversions' hsource]

/-- The requests of a sweep, one after another. -/
theorem requests_enqueued (ctx : Context) (requests : List EnqueueParams) (w : World Store Failure)
    (hquiet : Faulty.Quiet w) (hunique : w.state.db.jobs.InFlightUnique)
    (hcurrent : Current w.state)
    (hrequests : ∀ params ∈ requests, params.ignoreValidateSource = true ∧ ∃ versions,
      versionsOf w.state.db params.tenantCode params.source = some versions ∧
        params.sourceVersion = some versions.sourceVersion) :
    ∃ news events w',
      requests.foldl (fun w params => (enqueueSyncJob ctx params w).2) w = w' ∧ Faulty.Quiet w' ∧
      Requested w.state w'.state news events ∧ w'.state.db.jobs.InFlightUnique ∧
      Current w'.state ∧ ∀ params ∈ requests, InFlightFor w'.state.db.jobs
        (params.tenantCode, params.source, params.sourceVersion.getD 1) := by
  induction requests generalizing w with
  | nil =>
    exact ⟨[], [], w, rfl, hquiet, .nothing rfl rfl, hunique, hcurrent,
      fun _ hmem => absurd hmem List.not_mem_nil⟩
  | cons params requests ih =>
    obtain ⟨hignores, versions, hversions, hasked⟩ := hrequests params List.mem_cons_self
    have hrun : enqueueSyncJob ctx params w =
        enqueueAt ctx params (params.sourceVersion.getD 1) w := by
      rw [enqueueSyncJob, if_pos hignores]
    obtain ⟨news, events, henqueued⟩ := enqueueAt_enqueued ctx hquiet hunique hcurrent hversions
      (show versions.sourceVersion = params.sourceVersion.getD 1 by rw [hasked, Option.getD_some])
    have hquiet₁ := enqueueAt_keepsQuiet ctx params (params.sourceVersion.getD 1) w hquiet
    rw [← hrun] at henqueued hquiet₁
    obtain ⟨news', events', w', hfold, hquiet', hrequested, hunique', hcurrent', hflight⟩ :=
      ih (enqueueSyncJob ctx params w).2 hquiet₁ henqueued.unique henqueued.current fun p hp => by
        rw [AuthorizationReconciliationWorker.versionsOf_sources henqueued.requested.sources]
        exact hrequests p (List.mem_cons_of_mem _ hp)
    refine ⟨news ++ news', events ++ events', w', hfold, hquiet',
      henqueued.requested.trans hrequested, hunique', hcurrent', fun p hp => ?_⟩
    rcases List.mem_cons.mp hp with rfl | hp
    · obtain ⟨job, hjob, hkey⟩ := henqueued.inFlight
      refine ⟨job, ?_, hkey⟩
      rw [hrequested.table]
      exact List.mem_append_left _ hjob
    · exact hflight p hp

end Enqueue

-- ============================================================================
-- The sweep
-- ============================================================================

namespace ScheduledReconciliationScanner

section Serves

variable {σ ε : Type} (enqueueSyncJob : EnqueueParams → σ → Except ε SyncJobResponseDto × σ)

/-- The service has served the requests, one after another. -/
def Serves (requests : List EnqueueParams) (progress progress' : Nat × SweepState σ ε) : Prop :=
  progress'.2.service =
    requests.foldl (fun service params => (enqueueSyncJob params service).2) progress.2.service

variable {enqueueSyncJob}

theorem Serves.trans {requests requests' : List EnqueueParams}
    {progress progress' progress'' : Nat × SweepState σ ε}
    (h : Serves enqueueSyncJob requests progress progress')
    (h' : Serves enqueueSyncJob requests' progress' progress'') :
    Serves enqueueSyncJob (requests ++ requests') progress progress'' := by
  rw [Serves, List.foldl_append, ← h]
  exact h'

variable (enqueueSyncJob)

theorem serves_foldl {α : Type} {body : Nat × SweepState σ ε → α → Nat × SweepState σ ε}
    {requests : α → List EnqueueParams}
    (h : ∀ progress a, Serves enqueueSyncJob (requests a) progress (body progress a))
    (list : List α) (progress : Nat × SweepState σ ε) :
    Serves enqueueSyncJob (list.flatMap requests) progress (list.foldl body progress) := by
  induction list generalizing progress with
  | nil => exact Eq.refl progress.2.service
  | cons a list ih =>
    rw [List.flatMap_cons, List.foldl_cons]
    exact (h progress a).trans (ih _)

theorem serves_tryEnqueue (params : EnqueueParams) (progress : Nat × SweepState σ ε) :
    Serves enqueueSyncJob [params] progress (tryEnqueue enqueueSyncJob params progress) := by
  obtain ⟨jobsEnqueued, state⟩ := progress
  rcases hcall : enqueueSyncJob params state.service with ⟨error | response, service⟩
  · simp only [Serves, tryEnqueue, hcall, List.foldl_cons, List.foldl_nil]
  · simp only [Serves, tryEnqueue, hcall, List.foldl_cons, List.foldl_nil]

theorem serves_enqueueAll (tenantCode : String) (sourceType : SyncSourceType)
    (entities : List DirtyEntity) (progress : Nat × SweepState σ ε) :
    Serves enqueueSyncJob (entities.map (scheduledParams tenantCode sourceType)) progress
      (enqueueAll enqueueSyncJob tenantCode sourceType entities progress) := by
  rw [List.map_eq_flatMap]
  exact serves_foldl enqueueSyncJob
    (fun progress entity => serves_tryEnqueue enqueueSyncJob _ progress) entities progress

theorem serves_sweepTenant (dirtyGroups dirtyRoles : List DirtyEntity)
    (progress : Nat × SweepState σ ε) (tenantCode : String) :
    Serves enqueueSyncJob
      ((dirtyGroups.filter fun g => g.tenantCode = tenantCode).map
          (scheduledParams tenantCode .USER_GROUP) ++
        (dirtyRoles.filter fun r => r.tenantCode = tenantCode).map
          (scheduledParams tenantCode .ROLE))
      progress (sweepTenant enqueueSyncJob dirtyGroups dirtyRoles progress tenantCode) := by
  obtain ⟨jobsEnqueued, state⟩ := progress
  exact (serves_enqueueAll enqueueSyncJob tenantCode .USER_GROUP _ (0, state)).trans
    (serves_enqueueAll enqueueSyncJob tenantCode .ROLE _ _)

/-- The sweep has the service serve one request for each dirty entity, in some order. -/
theorem handleCron_serves (dirtyGroups dirtyRoles : List DirtyEntity) (service : σ) :
    ∃ (summary : SweepSummary) (state : SweepState σ ε) (requests : List EnqueueParams),
      handleCron enqueueSyncJob (.ok dirtyGroups) (.ok dirtyRoles) ⟨service, []⟩ =
        (.ok summary, state) ∧
      (∀ params, params ∈ requests ↔ params ∈ ownRequests dirtyGroups dirtyRoles) ∧
      state.service =
        requests.foldl (fun service params => (enqueueSyncJob params service).2) service := by
  have hloop := serves_foldl enqueueSyncJob
    (serves_sweepTenant enqueueSyncJob dirtyGroups dirtyRoles) (tenantSet dirtyGroups dirtyRoles)
    (0, ⟨service, []⟩)
  refine ⟨_, _, _, rfl, fun params => ?_, hloop⟩
  rw [← (perm_of_tenants dirtyGroups dirtyRoles).mem_iff]
  simp only [List.mem_flatMap, List.mem_append, List.mem_map, List.mem_filter, decide_eq_true_eq]
  refine exists_congr fun tenantCode => and_congr_right fun _ => or_congr ?_ ?_
  all_goals
    refine exists_congr fun entity => and_congr_right fun hentity => ?_
    rw [ownParams, hentity.2]

end Serves

end ScheduledReconciliationScanner

-- ============================================================================
-- The messages
-- ============================================================================

/-- A job for the version has FAILED. -/
def GivenUp (ended : List SyncEvent) (tenantCode : String) (source : SourceRef)
    (version : Nat) : Prop :=
  ∃ event ∈ ended, event.type = .AUTHORIZATION_SYNC_FAILED ∧ event.tenantCode = tenantCode ∧
    event.source = source ∧ event.sourceVersion = version

/-- Every source is in step with its version, or a job for it waits or has FAILED. -/
structure Settling (s : Store) (ended : List SyncEvent) : Prop where
  current : Current s
  covered : ∀ tenantCode source versions, versionsOf s.db tenantCode source = some versions →
    versions.projectionVersion = versions.sourceVersion ∨
      (∃ job ∈ s.db.jobs, job.status = .PENDING ∧
        job.key = (tenantCode, source, versions.sourceVersion)) ∨
      GivenUp ended tenantCode source versions.sourceVersion

/-- The versions of all sources, but for what the projections have. -/
def configured (db : Database) (tenantCode : String) (source : SourceRef) : Option Nat :=
  (versionsOf db tenantCode source).map SourceVersions.sourceVersion

section Settle

variable {uuid : UuidInput} {columns : UserGroupMatchingEngine.ColumnTypes} {s s' : Store}
  {event : SyncEvent} {ended : List SyncEvent}

theorem Told.configured_eq (h : Told uuid columns s s' event) :
    configured s'.db = configured s.db := by
  funext tenantCode source
  rw [configured, configured]
  rcases h.atMost tenantCode source with hkept | ⟨-, -, htold⟩
  · rw [hkept]
  · rw [htold, Option.map_map]
    rfl

/-- What waits for the current version still does. -/
theorem Drained.current (hone : Drained s s' [event]) (htold : Told uuid columns s s' event)
    (hcurrent : Current s) : Current s' := by
  intro job hjob hflight
  obtain ⟨i, hi⟩ := List.getElem?_of_mem hjob
  have hne : i ≠ event.jobId := by
    rintro rfl
    obtain ⟨-, job', -, -, hjob', -, -, hfinal⟩ := hone.job event (List.mem_singleton_self event)
    obtain rfl := Option.some.inj (hi.symm.trans hjob')
    cases hstatus : job.status with
    | PENDING | PROCESSING =>
      rw [hstatus] at hfinal
      cases hfinal
    | COMPLETED | FAILED =>
      rw [hstatus] at hflight
      cases hflight
  rw [hone.others i (by rwa [List.map_singleton, List.mem_singleton])] at hi
  obtain ⟨hpending, versions, hversions, hsame⟩ := hcurrent job (Lib.Rows.mem_of_row hi) hflight
  refine ⟨hpending, ?_⟩
  have hkept : configured s'.db job.tenantCode job.source = some job.sourceVersion := by
    rw [htold.configured_eq, configured, hversions, Option.map_some, hsame]
  exact Option.map_eq_some_iff.mp hkept

/-- The end of a job leaves its source in step, or FAILED. -/
theorem Settling.ends (h : Settling s ended) (hone : Drained s s' [event])
    (htold : Told uuid columns s s' event) : Settling s' (ended ++ [event]) := by
  refine ⟨hone.current htold h.current, fun tenantCode source versions hversions => ?_⟩
  obtain ⟨job, job', hjob, hpending, hjob', -, hevent, hfinal⟩ :=
    hone.job event (List.mem_singleton_self event)
  have hmine : job.tenantCode = event.tenantCode ∧ job.source = event.source ∧
      job.sourceVersion = event.sourceVersion := by
    rw [hevent]
    exact ⟨rfl, rfl, rfl⟩
  rcases htold.atMost tenantCode source with hkept | ⟨rfl, rfl, hchanged⟩
  · rw [hkept] at hversions
    rcases h.covered tenantCode source versions hversions with hclean | ⟨row, hrow, hwaits, hkey⟩ |
        ⟨failed, hfailed, hrest⟩
    · exact .inl hclean
    · obtain ⟨i, hi⟩ := List.getElem?_of_mem hrow
      by_cases hid : i = event.jobId
      · -- the job that has ended is the one that the source waited for
        obtain rfl := Option.some.inj (hjob.symm.trans (hid ▸ hi))
        obtain ⟨htenant, hsource, hnumber⟩ : job.tenantCode = tenantCode ∧ job.source = source ∧
            job.sourceVersion = versions.sourceVersion := by
          simpa [AuthorizationSyncJob.key] using hkey
        rw [hmine.1] at htenant
        rw [hmine.2.1] at hsource
        rw [hmine.2.2] at hnumber
        cases hstatus : job'.status with
        | PENDING | PROCESSING =>
          rw [hstatus] at hfinal
          cases hfinal
        | COMPLETED =>
          rw [hstatus] at hfinal
          have hprojected := htold.completed (Option.some.inj hfinal).symm versions
          rw [htenant, hsource, hkept] at hprojected
          exact .inl ((hprojected hversions).trans hnumber)
        | FAILED =>
          rw [hstatus] at hfinal
          exact .inr (.inr ⟨event, List.mem_append_right _ (List.mem_singleton_self _),
            (Option.some.inj hfinal).symm, htenant, hsource, hnumber⟩)
      · rw [← hone.others i (by rwa [List.map_singleton, List.mem_singleton])] at hi
        exact .inr (.inl ⟨row, Lib.Rows.mem_of_row hi, hwaits, hkey⟩)
    · exact .inr (.inr ⟨failed, List.mem_append_left _ hfailed, hrest⟩)
  · -- the source has been told the version it has
    rw [hchanged] at hversions
    obtain ⟨was, hwas, rfl⟩ := Option.map_eq_some_iff.mp hversions
    have hflight : job.status.inFlight = true := by rw [hpending]; rfl
    obtain ⟨-, now, hnow, hsame⟩ := h.current job (Lib.Rows.mem_of_row hjob) hflight
    rw [hmine.1, hmine.2.1, hwas] at hnow
    obtain rfl := Option.some.inj hnow
    exact .inl (hmine.2.2.symm.trans hsame.symm)

theorem Drains.settling {before : List SyncEvent} (h : Drains uuid columns s s' ended)
    (hsettling : Settling s before) :
    Settling s' (before ++ ended) ∧ configured s'.db = configured s.db := by
  induction h generalizing before with
  | idle hdb =>
    rw [List.append_nil]
    refine ⟨⟨?_, ?_⟩, by rw [hdb]⟩
    · have hcurrent := hsettling.current
      rwa [Current, ← hdb] at hcurrent
    · rw [hdb]
      exact hsettling.covered
  | ends tenantCode hfirst hone htold hrest ih =>
    obtain ⟨hrest', hsame⟩ := ih (hsettling.ends hone htold)
    rw [List.append_assoc] at hrest'
    exact ⟨hrest', hsame.trans htold.configured_eq⟩

end Settle

-- ============================================================================
-- A sweep and its messages
-- ============================================================================

namespace ScheduledReconciliationScanner

open AuthorizationHandler

/-- The sweep asks for the version that each dirty source has. -/
theorem ownRequests_current {db : Database} {params : EnqueueParams}
    (h : params ∈ ownRequests (findDirtyUserGroups db) (findDirtyRoles db)) :
    params.ignoreValidateSource = true ∧ ∃ versions,
      versionsOf db params.tenantCode params.source = some versions ∧
        params.sourceVersion = some versions.sourceVersion := by
  simp only [ownRequests, findDirtyUserGroups, findDirtyRoles, List.mem_append, List.mem_map,
    List.mem_filter] at h
  rcases h with ⟨_, ⟨g, ⟨hg, -⟩, rfl⟩, rfl⟩ | ⟨_, ⟨r, ⟨hr, -⟩, rfl⟩, rfl⟩
  · refine ⟨rfl, ⟨g.version, g.projectionVersion⟩, ?_, rfl⟩
    exact Option.map_eq_some_iff.mpr ⟨g, Database.group_eq_some.mpr ⟨hg, rfl, rfl⟩, rfl⟩
  · refine ⟨rfl, ⟨r.version, r.projectionVersion⟩, ?_, rfl⟩
    exact Option.map_eq_some_iff.mpr ⟨r, Database.role_eq_some.mpr ⟨hr, rfl, rfl⟩, rfl⟩

/-- And for every dirty source. -/
theorem mem_ownRequests {db : Database} {tenantCode : String} {source : SourceRef}
    {versions : SourceVersions} (h : versionsOf db tenantCode source = some versions)
    (hdirty : versions.projectionVersion ≠ versions.sourceVersion) :
    ∃ params ∈ ownRequests (findDirtyUserGroups db) (findDirtyRoles db),
      (params.tenantCode, params.source, params.sourceVersion.getD 1) =
        (tenantCode, source, versions.sourceVersion) := by
  obtain ⟨type, id⟩ := source
  simp only [ownRequests, findDirtyUserGroups, findDirtyRoles, List.mem_append, List.mem_map,
    List.mem_filter, decide_eq_true_eq]
  cases type with
  | USER_GROUP =>
    obtain ⟨g, hg, rfl⟩ := Option.map_eq_some_iff.mp h
    obtain ⟨hrow, rfl, rfl⟩ := Database.group_eq_some.mp hg
    exact ⟨_, .inl ⟨_, ⟨g, ⟨hrow, hdirty.symm⟩, rfl⟩, rfl⟩, rfl⟩
  | ROLE =>
    obtain ⟨r, hr, rfl⟩ := Option.map_eq_some_iff.mp h
    obtain ⟨hrow, rfl, rfl⟩ := Database.role_eq_some.mp hr
    exact ⟨_, .inr ⟨_, ⟨r, ⟨hrow, hdirty.symm⟩, rfl⟩, rfl⟩, rfl⟩

/-- After the sweep a job waits for each dirty source. -/
theorem handleCron_settling (ctx : Context) (w : World Store Failure) (hquiet : Faulty.Quiet w)
    (hunique : w.state.db.jobs.InFlightUnique) (hcurrent : Current w.state) :
    ∃ summary state news events,
      handleCron (enqueueSyncJob ctx) (.ok (findDirtyUserGroups w.state.db))
          (.ok (findDirtyRoles w.state.db)) ⟨w, []⟩ = (.ok summary, state) ∧
      Faulty.Quiet state.service ∧ state.service.state.db.jobs.InFlightUnique ∧
      Requested w.state state.service.state news events ∧ Settling state.service.state [] := by
  obtain ⟨summary, state, requests, hrun, hmem, hserves⟩ := handleCron_serves
    (enqueueSyncJob ctx) (findDirtyUserGroups w.state.db) (findDirtyRoles w.state.db) w
  obtain ⟨news, events, w', hfold, hquiet', hrequested, hunique', hcurrent', hflight⟩ :=
    requests_enqueued ctx requests w hquiet hunique hcurrent
      fun params hparams => ownRequests_current ((hmem params).mp hparams)
  obtain rfl := hserves.trans hfold
  refine ⟨summary, state, news, events, hrun, hquiet', hunique', hrequested, hcurrent', ?_⟩
  intro tenantCode source versions hversions
  by_cases hclean : versions.projectionVersion = versions.sourceVersion
  · exact .inl hclean
  · rw [AuthorizationReconciliationWorker.versionsOf_sources hrequested.sources] at hversions
    obtain ⟨params, hparams, hkey⟩ := mem_ownRequests hversions hclean
    obtain ⟨job, hjob, hinFlight, hmine⟩ := hflight params ((hmem params).mpr hparams)
    exact .inr (.inl ⟨job, hjob, (hcurrent' job hjob hinFlight).1, hmine.trans hkey⟩)

/-- Messages enough leave nothing waiting: each source of a tenant is in step, or given up. -/
theorem messages_settle (ctx : WorkerContext) {session : Session}
    (hsession : ctx.session = some session) {w : World Store Failure} (hquiet : Faulty.Quiet w)
    (hunique : w.state.db.jobs.InFlightUnique)
    (hfree : ∀ tenantCode, w.state.locks (workerLockId tenantCode) = none)
    (hsettling : Settling w.state []) (messages : List (Option AuthorizationSyncRequestedPayload))
    (hmessages : ∀ tenantCode ≠ "", pendingCount w.state.db.jobs tenantCode ≤
      (messages.map tenantAsked).count (some tenantCode)) :
    ∃ ended w', Faulty.forEach (handleAuthorizationSyncRequested ctx) messages w = (.ok (), w') ∧
      Drains ctx.uuid ctx.columns w.state w'.state ended ∧
      configured w'.state.db = configured w.state.db ∧
      (∀ tenantCode ≠ "", pendingCount w'.state.db.jobs tenantCode = 0) ∧
      ∀ tenantCode ≠ "", ∀ source versions,
        versionsOf w'.state.db tenantCode source = some versions →
          versions.projectionVersion = versions.sourceVersion ∨
            GivenUp ended tenantCode source versions.sourceVersion := by
  obtain ⟨ended, w', hruns, hdrains, -, hcount⟩ :=
    messages_run ctx hsession messages w hquiet hunique hfree
  obtain ⟨hsettled, hconfigured⟩ := hdrains.settling hsettling
  have hnone : ∀ tenantCode ≠ "", pendingCount w'.state.db.jobs tenantCode = 0 :=
    fun tenantCode hne =>
      (hcount tenantCode).trans (Nat.sub_eq_zero_of_le (hmessages tenantCode hne))
  refine ⟨ended, w', hruns, hdrains, hconfigured, hnone, ?_⟩
  intro tenantCode hne source versions hversions
  rcases hsettled.covered tenantCode source versions hversions with
    hclean | ⟨job, hjob, hwaits, hkey⟩ | hfailed
  · exact .inl hclean
  · -- nothing of the tenant waits any more
    have hidle := pendingCount_eq_zero.mp (hnone tenantCode hne)
    rw [JobTable.hasPending, List.any_eq_false] at hidle
    refine absurd ?_ (hidle job hjob)
    rw [AuthorizationSyncJob.pendingFor, hwaits]
    simp only [decide_true, Bool.and_true, decide_eq_true_eq]
    exact congrArg Prod.fst hkey
  · exact .inr hfailed

/-- What a sweep and the messages come to: each source of a tenant is in step, or given up. -/
theorem sweep_settles (ctx : WorkerContext) {session : Session}
    (hsession : ctx.session = some session) (w : World Store Failure) (hquiet : Faulty.Quiet w)
    (hunique : w.state.db.jobs.InFlightUnique) (hcurrent : Current w.state)
    (hfree : ∀ tenantCode, w.state.locks (workerLockId tenantCode) = none) :
    ∃ summary state news, ∃ events : List SyncEvent,
      handleCron (enqueueSyncJob ctx.toContext) (.ok (findDirtyUserGroups w.state.db))
          (.ok (findDirtyRoles w.state.db)) ⟨w, []⟩ = (.ok summary, state) ∧
      Requested w.state state.service.state news events ∧
      ∀ messages : List (Option AuthorizationSyncRequestedPayload),
        (∀ tenantCode ≠ "", pendingCount state.service.state.db.jobs tenantCode ≤
          (messages.map tenantAsked).count (some tenantCode)) →
        ∃ ended w', Faulty.forEach (handleAuthorizationSyncRequested ctx) messages state.service =
            (.ok (), w') ∧
          Drains ctx.uuid ctx.columns state.service.state w'.state ended ∧
          configured w'.state.db = configured w.state.db ∧
          ∀ tenantCode ≠ "", ∀ source versions,
            versionsOf w'.state.db tenantCode source = some versions →
              versions.projectionVersion = versions.sourceVersion ∨
                GivenUp ended tenantCode source versions.sourceVersion := by
  obtain ⟨summary, state, news, events, hrun, hquiet', hunique', hrequested, hsettling⟩ :=
    handleCron_settling ctx.toContext w hquiet hunique hcurrent
  refine ⟨summary, state, news, events, hrun, hrequested, fun messages hmessages => ?_⟩
  rw [← hrequested.locks] at hfree
  obtain ⟨ended, w', hruns, hdrains, hconfigured, -, hcovered⟩ :=
    messages_settle ctx hsession hquiet' hunique' hfree hsettling messages hmessages
  have hsame : configured state.service.state.db = configured w.state.db := by
    funext tenantCode source
    rw [configured, configured,
      AuthorizationReconciliationWorker.versionsOf_sources hrequested.sources]
  exact ⟨ended, w', hruns, hdrains, hconfigured.trans hsame, hcovered⟩

/-- One sweep, then at least as many messages of each tenant as it has jobs that wait, in any
    order: every source of a tenant is in step with its version, which nobody has changed,
    or a job for that version has FAILED, with its event in the outbox. -/
theorem sweep_converges (ctx : WorkerContext) {session : Session}
    (hsession : ctx.session = some session) (w : World Store Failure) (hquiet : Faulty.Quiet w)
    (hunique : w.state.db.jobs.InFlightUnique) (hcurrent : Current w.state)
    (hfree : ∀ tenantCode, w.state.locks (workerLockId tenantCode) = none) :
    ∃ summary state, ∃ events : List SyncEvent,
      handleCron (enqueueSyncJob ctx.toContext) (.ok (findDirtyUserGroups w.state.db))
          (.ok (findDirtyRoles w.state.db)) ⟨w, []⟩ = (.ok summary, state) ∧
      state.service.state.db.outbox = w.state.db.outbox ++ events.map .sync ∧
      (∀ event ∈ events, event.type = .AUTHORIZATION_SYNC_REQUESTED) ∧
      (∀ tenantCode, pendingCount state.service.state.db.jobs tenantCode =
        pendingCount w.state.db.jobs tenantCode +
          (events.map SyncEvent.tenantCode).count tenantCode) ∧
      ∀ messages : List (Option AuthorizationSyncRequestedPayload),
        (∀ tenantCode ≠ "", pendingCount state.service.state.db.jobs tenantCode ≤
          (messages.map tenantAsked).count (some tenantCode)) →
        ∃ ended w', Faulty.forEach (handleAuthorizationSyncRequested ctx) messages state.service =
            (.ok (), w') ∧
          w'.state.db.outbox = state.service.state.db.outbox ++ ended.map .sync ∧
          configured w'.state.db = configured w.state.db ∧
          ∀ tenantCode ≠ "", ∀ source versions,
            versionsOf w'.state.db tenantCode source = some versions →
              versions.projectionVersion = versions.sourceVersion ∨
                GivenUp ended tenantCode source versions.sourceVersion := by
  obtain ⟨summary, state, news, events, hrun, hrequested, hafter⟩ :=
    sweep_settles ctx hsession w hquiet hunique hcurrent hfree
  refine ⟨summary, state, events, hrun, hrequested.outbox, hrequested.requested,
    hrequested.pendingCount_eq, fun messages hmessages => ?_⟩
  obtain ⟨ended, w', hruns, hdrains, hconfigured, hcovered⟩ := hafter messages hmessages
  exact ⟨ended, w', hruns, hdrains.drained.outbox, hconfigured, hcovered⟩

/-- Neither the group nor the role has been projected. -/
def unprojected : World Store Failure := .calm { db := sampleDatabase true .empty }

theorem unprojected_quiet : Faulty.Quiet unprojected := fun _ hmem => absurd hmem List.not_mem_nil

theorem unprojected_current : Current unprojected.state :=
  fun _ hmem => absurd hmem List.not_mem_nil

theorem unprojected_unique : unprojected.state.db.jobs.InFlightUnique := by
  intro i j a b hi
  cases hi

/-- The service after the sweep over them. -/
def swept : World Store Failure :=
  (handleCron (enqueueSyncJob acme) (.ok (findDirtyUserGroups unprojected.state.db))
    (.ok (findDirtyRoles unprojected.state.db)) ⟨unprojected, []⟩).2.service

/-- A message for each of them. -/
theorem swept_pending (tenantCode : String) : pendingCount swept.state.db.jobs tenantCode ≤
    ([some ⟨some "acme"⟩, some ⟨some "acme"⟩].map tenantAsked).count (some tenantCode) := by
  have hjobs : swept.state.db.jobs.map AuthorizationSyncJob.tenantCode = ["acme", "acme"] := by
    decide +kernel
  have hmine := pendingCount_le swept.state.db.jobs tenantCode
  rw [hjobs] at hmine
  refine hmine.trans (Nat.le_of_eq ?_)
  exact (List.count_map_of_injective ["acme", "acme"] some (Option.some_injective _) _).symm

theorem sweep_converges_unprojected :
    ∃ ended w', Faulty.forEach (handleAuthorizationSyncRequested acmeWorker)
        [some ⟨some "acme"⟩, some ⟨some "acme"⟩] swept = (.ok (), w') ∧
      ∀ tenantCode ≠ "", ∀ source versions,
        versionsOf w'.state.db tenantCode source = some versions →
          versions.projectionVersion = versions.sourceVersion ∨
            GivenUp ended tenantCode source versions.sourceVersion := by
  obtain ⟨summary, state, events, hrun, -, -, -, hafter⟩ := sweep_converges acmeWorker rfl
    unprojected unprojected_quiet unprojected_unique unprojected_current fun _ => rfl
  obtain rfl : state = _ := (congrArg Prod.snd hrun).symm
  obtain ⟨ended, w', hruns, -, -, hcovered⟩ := hafter _ fun tenantCode _ => swept_pending tenantCode
  exact ⟨ended, w', hruns, hcovered⟩

end ScheduledReconciliationScanner

end AccessService.Authorization
